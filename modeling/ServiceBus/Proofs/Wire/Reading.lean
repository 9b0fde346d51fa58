import ServiceBus.Proofs.Wire.Closure
import ServiceBus.Wire.Vals

/-!
Reading of bytes that nobody vouches for. A reader fails only for a reason that lies in the message,
moves forward only, and does the same in a longer message unless it had run out of data.
-/
namespace ServiceBus.Wire

inductive Malformed : StatusCode → Prop
  | badValue : Malformed .badValue
  | badIndex : Malformed .badIndex
  | notEnoughData : Malformed .notEnoughData

def Cursor.extend (c : Cursor) (more : List UInt8) : Cursor := ⟨c.offset, c.rest ++ more⟩

def Cursor.advance (c : Cursor) (n : Nat) : Cursor := ⟨c.offset + n, c.rest.drop n⟩

theorem Cursor.advance_zero (c : Cursor) : c.advance 0 = c := rfl

theorem Cursor.advance_advance (c : Cursor) (n k : Nat) :
    (c.advance n).advance k = c.advance (n + k) := by
  simp [advance, Nat.add_assoc]

namespace Reader

variable {α β : Type}

/-- What every reader keeps to, whatever the bytes are. -/
structure Steady (r : Reader α) : Prop where
  fails : ∀ {objects c e d}, r.run objects c = (.error e, d) → Malformed e
  forward : ∀ objects c, ∃ n ≤ c.rest.length, (r.run objects c).2 = c.advance n
  longer : ∀ objects c more, (r.run objects c).1 = .error .notEnoughData ∨
    r.run objects (c.extend more) = ((r.run objects c).1, (r.run objects c).2.extend more)

theorem steady_pure (a : α) : (pure a : Reader α).Steady where
  fails := nofun
  forward _ c := ⟨0, Nat.zero_le _, c.advance_zero.symm⟩
  longer _ _ _ := .inr rfl

theorem steady_fail {e : StatusCode} (h : Malformed e) : (fail e : Reader α).Steady where
  fails := by
    rintro objects c _ d ⟨⟩
    exact h
  forward _ c := ⟨0, Nat.zero_le _, c.advance_zero.symm⟩
  longer _ _ _ := .inr rfl

theorem Steady.bind {r : Reader α} {f : α → Reader β} (h : r.Steady) (k : ∀ a, (f a).Steady) :
    (r >>= f).Steady where
  fails := by
    intro objects c e d hr
    rw [run_bind] at hr
    rcases hs : r.run objects c with ⟨e' | a, c'⟩
    · rw [hs] at hr
      cases hr
      exact h.fails hs
    · rw [hs] at hr
      exact (k a).fails hr
  forward := by
    intro objects c
    obtain ⟨n, hn, hd⟩ := h.forward objects c
    rw [run_bind]
    rcases hs : r.run objects c with ⟨e | a, c'⟩
    all_goals
      rw [hs] at hd
      subst hd
    · exact ⟨n, hn, rfl⟩
    · obtain ⟨m, hm, hd'⟩ := (k a).forward objects (c.advance n)
      refine ⟨n + m, ?_, hd'.trans (c.advance_advance n m)⟩
      rw [Cursor.advance, List.length_drop] at hm
      omega
  longer := by
    intro objects c more
    have hl := h.longer objects c more
    simp only [run_bind]
    rcases hs : r.run objects c with ⟨e | a, c'⟩
    all_goals rw [hs] at hl
    · rcases hl with he | he
      · cases he
        exact .inl rfl
      · rw [he]
        exact .inr rfl
    · rcases hl with he | he
      · cases he
      · rw [he]
        exact (k a).longer objects c' more

theorem steady_take (n : Nat) : (take n).Steady where
  fails := by
    intro objects c e d h
    rw [run_take] at h
    split at h
    · cases h
    · cases h
      exact .notEnoughData
  forward := by
    intro objects c
    rw [run_take]
    split
    · next h => exact ⟨n, h, rfl⟩
    · exact ⟨0, Nat.zero_le _, c.advance_zero.symm⟩
  longer := by
    intro objects c more
    rw [run_take, run_take]
    by_cases h : n ≤ c.rest.length
    · have hm : n ≤ (c.rest ++ more).length := by
        rw [List.length_append]
        omega
      rw [if_pos h]
      refine .inr ?_
      simp only [Cursor.extend, if_pos hm, List.take_append_of_le_length h,
        List.drop_append_of_le_length h]
    · rw [if_neg h]
      exact .inl rfl

theorem steady_skipPadding : skipPadding.Steady where
  fails h := ((steady_take _).bind fun _ => steady_pure ()).fails h
  forward objects c := ((steady_take _).bind fun _ => steady_pure ()).forward objects c
  longer objects c more := ((steady_take _).bind fun _ => steady_pure ()).longer objects c more

theorem steady_byte : byte.Steady := (steady_take 1).bind fun _ => steady_pure _

theorem steady_word32 : word32.Steady := (steady_take 4).bind fun _ => steady_pure _

theorem steady_word64 : word64.Steady := (steady_take 8).bind fun _ => steady_pure _

/-- A length that is refused for want of data is all that more data can change. -/
theorem steady_length : length.Steady := by
  refine steady_word32.bind fun w => ?_
  dsimp only
  split
  · exact steady_fail .badValue
  · constructor
    · intro objects c e d h
      simp only [run_bind, run_has] at h
      split at h
      · cases h
      · cases h
        exact .notEnoughData
    · intro objects c
      refine ⟨0, Nat.zero_le _, ?_⟩
      simp only [run_bind, run_has]
      split <;> rfl
    · intro objects c more
      simp only [run_bind, run_has]
      by_cases hc : w.toNat ≤ c.rest.length
      · have hm : w.toNat ≤ (c.extend more).rest.length := by
          simp only [Cursor.extend, List.length_append]
          omega
        rw [(c.has_iff _).2 hc, ((c.extend more).has_iff _).2 hm]
        exact .inr rfl
      · rw [Bool.eq_false_iff.2 (mt (c.has_iff _).1 hc)]
        exact .inl rfl

theorem steady_object : object.Steady := by
  refine steady_word32.bind fun w => ?_
  dsimp only
  split
  · exact steady_fail .badValue
  · constructor
    · intro objects c e d h
      dsimp only at h
      split at h
      · cases h
      · cases h
        exact .badIndex
    · intro objects c
      refine ⟨0, Nat.zero_le _, ?_⟩
      dsimp only
      split <;> rfl
    · intro objects c more
      dsimp only
      split <;> exact .inr rfl

theorem Steady.times {r : Reader α} (h : r.Steady) (n : Nat) : (r.times n).Steady := by
  induction n with
  | zero => exact steady_pure []
  | succ n ih => exact h.bind fun a => ih.bind fun as => steady_pure (a :: as)

end Reader

namespace Codec

variable {α β : Type} {c : Codec α} {d : Codec β}

/-- A codec that reads whatever bytes it is given. -/
def Steady (c : Codec α) : Prop := c.read.Steady

theorem Steady.refine (h : c.Steady) {toWire : β → α} {ofWire : α → Except StatusCode β}
    (k : ∀ a e, ofWire a = .error e → Malformed e) : (c.refine toWire ofWire).Steady := by
  refine Reader.Steady.bind h fun a => ?_
  cases hw : ofWire a with
  | ok b => exact Reader.steady_pure b
  | error e => exact Reader.steady_fail (k a e hw)

theorem Steady.pair (h : c.Steady) (k : d.Steady) : (c.pair d).Steady :=
  Reader.Steady.bind h fun a => Reader.Steady.bind k fun b => Reader.steady_pure (a, b)

theorem steady_unit : unit.Steady := Reader.steady_pure ()

theorem steady_text : text.Steady := by
  refine Reader.steady_length.bind fun n => (Reader.steady_take n).bind fun bs =>
    Reader.steady_skipPadding.bind fun _ => ?_
  split
  · exact Reader.steady_pure _
  · exact Reader.steady_fail .badValue

theorem Steady.list (h : c.Steady) : c.list.Steady :=
  Reader.steady_length.bind fun n => (Reader.Steady.times h n).bind fun l =>
    Reader.steady_skipPadding.bind fun _ => Reader.steady_pure l

theorem Steady.option (h : c.Steady) : c.option.Steady := by
  refine Reader.steady_word32.bind fun w => ?_
  split
  · exact Reader.steady_pure none
  · exact Reader.Steady.bind h fun a => Reader.steady_pure (some a)
  · exact Reader.steady_fail .badValue

theorem Steady.map {cmp : α → α → Ordering} [Std.TransCmp cmp] (h : c.Steady) (k : d.Steady) :
    (c.map d : Codec (Std.ExtTreeMap α β cmp)).Steady :=
  Reader.steady_length.bind fun n => (Reader.Steady.times (h.pair k) n).bind fun _ =>
    Reader.steady_pure _

theorem Steady.status (h : int32.Steady) (k : message.Steady) : status.Steady := by
  refine Reader.Steady.bind h fun n => ?_
  cases ExceptionCode.ofRaw? n with
  | none => exact Reader.steady_fail .badValue
  | some x =>
    cases x with
    | none => exact Reader.steady_pure Status.ok
    | raised e => exact Reader.Steady.bind k fun _ => Reader.steady_pure _
    | serviceSpecific =>
      exact Reader.Steady.bind k fun _ => Reader.Steady.bind h fun _ => Reader.steady_pure _
    | transactionFailed =>
      exact Reader.Steady.bind k fun _ => Reader.Steady.bind h fun _ => Reader.steady_pure _

theorem closed_steady : Closed Steady where
  unit := steady_unit
  byte := Reader.steady_byte
  word32 := Reader.steady_word32
  word64 := Reader.steady_word64
  object := Reader.steady_object
  text := steady_text
  status := Steady.status
  refine h _ refuses := h.refine fun a e refused => refuses a e refused ▸ .badValue
  pair := Steady.pair
  list := Steady.list
  option := Steady.option
  map := Steady.map

end ServiceBus.Wire.Codec

namespace ServiceBus

open Wire Wire.Codec

theorem WireType.steady {o : Bool} (t : WireType o) : t.codec.Steady := t.of_closed closed_steady

theorem Vals.steady (ts : List (WireType false)) : (Vals.codec ts).Steady := by
  induction ts with
  | nil => exact steady_unit
  | cons t ts ih => exact t.steady.pair ih

end ServiceBus
