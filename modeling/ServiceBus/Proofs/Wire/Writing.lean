import ServiceBus.Wire.Type

/-!
What a writer that succeeds has added. For every way in which writers are put together there is one
equivalence, so that a later proof takes a written value apart without running the writer.
-/
namespace ServiceBus.Wire

/-- A place in a parcel: how many bytes and how many binders stand before it. -/
structure Mark where
  size : Nat
  count : Nat

namespace Mark

def past (m : Mark) (p : Payload) : Mark := ⟨m.size + p.bytes.length, m.count + p.objects.length⟩

def skip (m : Mark) (n : Nat) : Mark := ⟨m.size + n, m.count⟩

def after (m : Mark) (w : Writer) : Mark := m.past (w.run m.size m.count).2

@[simp] theorem past_size (m : Mark) (p : Payload) :
    (m.past p).size = m.size + p.bytes.length := rfl
@[simp] theorem past_count (m : Mark) (p : Payload) :
    (m.past p).count = m.count + p.objects.length := rfl
@[simp] theorem skip_size (m : Mark) (n : Nat) : (m.skip n).size = m.size + n := rfl

theorem past_bytes (m : Mark) (bs : List UInt8) : m.past ⟨bs, []⟩ = m.skip bs.length := rfl

theorem past_append (m : Mark) (p q : Payload) : m.past (p ++ q) = (m.past p).past q := by
  simp [past, Nat.add_assoc]

end Mark

theorem toNat_ofNat_of_le_maxLength {n : Nat} (h : n ≤ maxLength) : (UInt32.ofNat n).toNat = n := by
  rw [UInt32.toNat_ofNat', Nat.mod_eq_of_lt]
  unfold maxLength at h
  omega

namespace Writer

/-- The writer succeeds at a place, and this is what it adds there. -/
def Adds (w : Writer) (m : Mark) (p : Payload) : Prop := w.run m.size m.count = (.ok (), p)

variable {m : Mark} {p : Payload}

theorem Adds.after {w : Writer} (h : w.Adds m p) : m.after w = m.past p := by
  rw [Mark.after, h]

theorem adds_done : done.Adds m p ↔ p = .empty := by
  simp [Adds, eq_comm]

theorem not_adds_fail (e : StatusCode) : ¬ (fail e).Adds m p := by
  simp [Adds]

theorem adds_bytes (bs : List UInt8) : (bytes bs).Adds m p ↔ p = ⟨bs, []⟩ := by
  simp [Adds, eq_comm]

theorem adds_pad : pad.Adds m p ↔ p = ⟨List.replicate (padding m.size) 0, []⟩ := by
  simp [Adds, eq_comm]

theorem adds_word32 (n : UInt32) : (word32 n).Adds m p ↔ p = ⟨littleEndian 4 n.toNat, []⟩ :=
  adds_bytes _

theorem adds_word64 (n : UInt64) : (word64 n).Adds m p ↔ p = ⟨littleEndian 8 n.toNat, []⟩ :=
  adds_bytes _

theorem adds_append {w v : Writer} :
    (w ++ v).Adds m p ↔ ∃ q r, w.Adds m q ∧ v.Adds (m.past q) r ∧ p = q ++ r := by
  simp only [Adds, run_append, Mark.past_size, Mark.past_count]
  rcases w.run m.size m.count with ⟨_ | _, q⟩
  · simp
  · rcases hv : v.run (m.size + q.bytes.length) (m.count + q.objects.length) with ⟨a, r⟩
    simp only [hv, Prod.mk.injEq]
    constructor
    · rintro ⟨ha, rfl⟩
      exact ⟨q, r, ⟨trivial, rfl⟩, by rw [hv, ha], rfl⟩
    · rintro ⟨q', r', ⟨_, rfl⟩, hr, rfl⟩
      rw [hv] at hr
      cases hr
      exact ⟨rfl, rfl⟩

theorem adds_length (n : Nat) :
    (length n).Adds m p ↔ n ≤ maxLength ∧ p = ⟨littleEndian 4 n, []⟩ := by
  unfold length
  by_cases h : n ≤ maxLength
  · rw [if_pos h, adds_word32, toNat_ofNat_of_le_maxLength h]
    simp [h]
  · simp [h, not_adds_fail]

theorem adds_object (b : Binder) :
    (object b).Adds m p ↔ m.count ≤ maxLength ∧ p = ⟨littleEndian 4 m.count, [b]⟩ := by
  constructor
  · intro h
    simp only [Adds, object, Prod.mk.injEq] at h
    have hl : (length m.count).Adds m ((length m.count).run m.size m.count).2 := Prod.ext h.1 rfl
    obtain ⟨hc, hp⟩ := (adds_length _).1 hl
    rw [hp] at h
    exact ⟨hc, h.2.symm⟩
  · rintro ⟨hc, rfl⟩
    have hl : (length m.count).Adds m ⟨littleEndian 4 m.count, []⟩ := (adds_length _).2 ⟨hc, rfl⟩
    simp only [Adds] at hl
    simp only [Adds, object, hl]

end Writer

end ServiceBus.Wire
