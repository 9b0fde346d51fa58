import ServiceBus.Proofs.Parcel.Reading
import ServiceBus.Proofs.Wire.Refusal

/-!
Parcels are safe, whatever they hold and whatever has been done to them. Reading looks at bytes that
are there and moves forward over them; writing adds at the end; and both fail for few reasons only.
Nothing is assumed of the bytes, and an operation that fails half-way is no exception.
-/
namespace ServiceBus.Parcel

open Wire

variable {α β : Type}

/-- What a read does to a parcel, by the reasons for which it may fail. -/
structure Reads (p : Parcel) (reason : StatusCode → Prop) (r : Except StatusCode α × Parcel) :
    Prop where
  data : r.2.data = p.data
  objects : r.2.objects = p.objects
  forward : ∃ n ≤ p.available, r.2.position = p.position + n
  fails : ∀ e, r.1 = .error e → reason e

structure Writes (p : Parcel) (r : Except StatusCode Unit × Parcel) : Prop where
  data : p.data <+: r.2.data
  objects : p.objects <+: r.2.objects
  position : r.2.position = p.position
  fails : ∀ e, r.1 = .error e → e = .badValue

theorem position_add_available (p : Parcel) : p.position + p.available = p.size :=
  Nat.add_sub_cancel' p.position_le

theorem length_rest (p : Parcel) : p.cursor.rest.length = p.available := by
  rw [cursor, List.length_drop]
  rfl

theorem reads_of_steady {r : Reader α} (h : r.Steady) (p : Parcel) :
    p.Reads Malformed (p.consume r) where
  data := rfl
  objects := rfl
  forward := by
    obtain ⟨n, hn, stopped⟩ := h.forward p.objects p.cursor
    rw [length_rest] at hn
    refine ⟨n, hn, ?_⟩
    have whole := p.position_add_available
    have left : ((r.run p.objects p.cursor).2).rest.length = p.available - n := by
      rw [stopped, Cursor.advance, List.length_drop, length_rest]
    have moved : (p.consume r).2.position = p.size - (p.available - n) := by
      rw [← left]
      rfl
    omega
  fails e he := malformed_of_consume h (q := (p.consume r).2) (Prod.ext he rfl)

theorem consume_take (p : Parcel) (n : Nat) :
    (n ≤ p.available → (p.consume (.take n)).1 = .ok ((p.data.drop p.position).take n) ∧
      (p.consume (.take n)).2.position = p.position + n) ∧
    (p.available < n → p.consume (.take n) = (.error .notEnoughData, p)) := by
  have rest := p.length_rest
  constructor
  · intro enough
    have whole := p.position_add_available
    have taken : (Reader.take n).run p.objects p.cursor =
        (.ok ((p.data.drop p.position).take n), p.cursor.advance n) := by
      rw [Reader.run_take, if_pos (rest ▸ enough)]
      rfl
    rw [consume_of_run taken]
    refine ⟨rfl, ?_⟩
    have left : (p.cursor.advance n).rest.length = p.available - n := by
      rw [Cursor.advance, List.length_drop, rest]
    show p.size - (p.cursor.advance n).rest.length = p.position + n
    omega
  · intro short
    have refused : (Reader.take n).run p.objects p.cursor = (.error .notEnoughData, p.cursor) := by
      rw [Reader.run_take, if_neg (Nat.not_le.2 (rest ▸ short))]
    exact consume_of_stays refused

theorem enforce_eq (p : Parcel) (descriptor : String) :
    p.enforce descriptor =
      match p.read .text with
      | (.error e, q) => (.error e, q)
      | (.ok token, q) => (if token = descriptor then .ok () else .error .badType, q) := by
  have h := consume_bind Codec.steady_text
    (fun token => if token = descriptor then pure () else .fail .badType) p
  have token : p.read .text = p.consume Codec.text.read := rfl
  refine h.trans ?_
  rw [token]
  rcases p.consume Codec.text.read with ⟨e | token, q⟩
  · rfl
  · dsimp only
    split
    · exact q.consume_pure ()
    · exact q.consume_fail .badType

theorem reads_enforce (p : Parcel) (descriptor : String) :
    p.Reads (fun e => Malformed e ∨ e = .badType) (p.enforce descriptor) := by
  have start : p.Reads Malformed (p.read .text) := p.reads_of_steady Codec.steady_text
  rw [enforce_eq]
  rcases hr : p.read .text with ⟨e | token, q⟩
  all_goals rw [hr] at start
  · refine ⟨start.data, start.objects, start.forward, fun e' he => .inl ?_⟩
    cases he
    exact start.fails e rfl
  · refine ⟨start.data, start.objects, start.forward, fun e he => .inr ?_⟩
    dsimp only at he
    split at he
    · cases he
    · exact (Except.error.inj he).symm

theorem writes_of_checked {w : Writer} (h : w.Checked) (p : Parcel) : p.Writes (p.append w) where
  data := List.prefix_append p.data _
  objects := List.prefix_append p.objects _
  position := rfl
  fails e he := h p.size p.objects.length e he

theorem setPosition_spec (p : Parcel) (n : Nat) :
    (n ≤ p.size → ∃ q, p.setPosition n = (.ok (), q) ∧ q.data = p.data ∧ q.objects = p.objects ∧
      q.position = n) ∧
    (p.size < n → p.setPosition n = (.error .badValue, p)) := by
  constructor
  · intro inside
    exact ⟨{ p with position := n, position_le := inside }, dif_pos inside, rfl, rfl, rfl⟩
  · intro outside
    exact dif_neg (Nat.not_le.2 outside)

inductive Use
  | write (t : WireType false) (v : t.Val)
  | writeResult (t : WireType false) (r : Except Status t.Val)
  | writeToken (descriptor : String)
  | read (t : WireType false)
  | enforce (descriptor : String)
  | setPosition (n : Nat)

/-- The parcel after an operation, whether it went well or not. -/
def use (p : Parcel) : Use → Parcel
  | .write t v => (p.write t v).2
  | .writeResult t r => (p.writeResult t r).2
  | .writeToken descriptor => (p.writeToken descriptor).2
  | .read t => (p.read t).2
  | .enforce descriptor => (p.enforce descriptor).2
  | .setPosition n => (p.setPosition n).2

def run (p : Parcel) (uses : List Use) : Parcel := uses.foldl use p

theorem reads_read (p : Parcel) (t : WireType false) : p.Reads Malformed (p.read t) :=
  p.reads_of_steady t.steady

theorem writes_write (p : Parcel) (t : WireType false) (v : t.Val) : p.Writes (p.write t v) :=
  p.writes_of_checked (t.checked v)

theorem writes_writeResult (p : Parcel) (t : WireType false) (r : Except Status t.Val) :
    p.Writes (p.writeResult t r) := p.writes_of_checked (checked_result t r)

theorem writes_writeToken (p : Parcel) (descriptor : String) :
    p.Writes (p.writeToken descriptor) :=
  p.writes_of_checked (Codec.accepts_text descriptor).checked

theorem prefix_use (p : Parcel) (u : Use) :
    p.data <+: (p.use u).data ∧ p.objects <+: (p.use u).objects := by
  cases u with
  | write t v => exact ⟨(p.writes_write t v).data, (p.writes_write t v).objects⟩
  | writeResult t r => exact ⟨(p.writes_writeResult t r).data, (p.writes_writeResult t r).objects⟩
  | writeToken d => exact ⟨(p.writes_writeToken d).data, (p.writes_writeToken d).objects⟩
  | read t => exact ⟨List.prefix_refl _, List.prefix_refl _⟩
  | enforce d => exact ⟨List.prefix_refl _, List.prefix_refl _⟩
  | setPosition n =>
    obtain ⟨inside, outside⟩ := p.setPosition_spec n
    rw [use]
    rcases Nat.lt_or_ge p.size n with h | h
    · rw [outside h]
      exact ⟨List.prefix_refl _, List.prefix_refl _⟩
    · obtain ⟨q, hq, data, objects, -⟩ := inside h
      rw [hq, data, objects]
      exact ⟨List.prefix_refl _, List.prefix_refl _⟩

theorem prefix_run (p : Parcel) (uses : List Use) :
    p.data <+: (p.run uses).data ∧ p.objects <+: (p.run uses).objects := by
  induction uses generalizing p with
  | nil => exact ⟨List.prefix_refl _, List.prefix_refl _⟩
  | cons u uses ih =>
    obtain ⟨data, objects⟩ := p.prefix_use u
    obtain ⟨data', objects'⟩ := ih (p.use u)
    exact ⟨data.trans data', objects.trans objects'⟩

/-- A parcel with any bytes and any binders, after any operations. The position is within the data,
and the bytes and binders are still there. From then on bytes are taken only where there are any; a
read changes nothing but the position, which goes forward over what is there; a write changes nothing
that is there; the position can be set to any place within the data; and each has its own few
reasons to fail. -/
theorem safe_run (message : Payload) (uses : List Use) :
    let p := (ofPayload message).run uses
    p.position + p.available = p.size ∧ message.bytes <+: p.data ∧ message.objects <+: p.objects ∧
      (∀ n, (n ≤ p.available → (p.consume (.take n)).1 = .ok ((p.data.drop p.position).take n) ∧
          (p.consume (.take n)).2.position = p.position + n) ∧
        (p.available < n → p.consume (.take n) = (.error .notEnoughData, p))) ∧
      (∀ t, p.Reads Malformed (p.read t)) ∧
      (∀ descriptor, p.Reads (fun e => Malformed e ∨ e = .badType) (p.enforce descriptor)) ∧
      (∀ t v, p.Writes (p.write t v)) ∧ (∀ t r, p.Writes (p.writeResult t r)) ∧
      (∀ descriptor, p.Writes (p.writeToken descriptor)) ∧
      ∀ n, (n ≤ p.size → ∃ q, p.setPosition n = (.ok (), q) ∧ q.data = p.data ∧
          q.objects = p.objects ∧ q.position = n) ∧
        (p.size < n → p.setPosition n = (.error .badValue, p)) := by
  intro p
  obtain ⟨data, objects⟩ := (ofPayload message).prefix_run uses
  exact ⟨p.position_add_available, data, objects, p.consume_take, p.reads_read, p.reads_enforce,
    p.writes_write, p.writes_writeResult, p.writes_writeToken, p.setPosition_spec⟩

/-- A text that announces more bytes than there are, a binder that is not in the table, and a position
behind the end. -/
theorem safe_run_malformed :
    let message : Payload := ⟨[9, 0, 0, 0, 65, 66], []⟩
    let p := (ofPayload message).run
      [.read .text, .write .bool true, .setPosition 4, .read .binder, .setPosition 11]
    p.position = 8 ∧ p.position + p.available = p.size ∧ message.bytes <+: p.data ∧
      p.consume (.take 3) = (.error .notEnoughData, p) ∧
      p.setPosition 11 = (.error .badValue, p) := by
  intro message p
  obtain ⟨whole, data, -, takes, -, -, -, -, -, sets⟩ := safe_run message
    [.read .text, .write .bool true, .setPosition 4, .read .binder, .setPosition 11]
  have short : p.available < 3 := by decide +kernel
  have outside : p.size < 11 := by decide +kernel
  exact ⟨by decide +kernel, whole, data, (takes 3).2 short, (sets 11).2 outside⟩

end ServiceBus.Parcel
