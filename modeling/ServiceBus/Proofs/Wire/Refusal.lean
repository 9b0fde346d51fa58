import ServiceBus.Parcel
import ServiceBus.Proofs.Wire.Closure
import ServiceBus.Proofs.Wire.Short

/-!
What a refusal to write can be. Every length that is written is checked, that of a table of binders
as well, and nothing else is; so there is one failure only, at whatever depth it occurs.
-/
namespace ServiceBus

namespace Wire.Writer

variable {w v : Writer}

/-- A writer that refuses for one reason only. -/
def Checked (w : Writer) : Prop :=
  ∀ size count e, (w.run size count).1 = .error e → e = .badValue

theorem Accepts.checked {fits : Prop} (h : w.Accepts fits) : w.Checked := by
  intro size count e he
  by_cases hf : fits
  · obtain ⟨p, hp⟩ := h.adds hf ⟨size, count⟩
    rw [Writer.Adds] at hp
    rw [hp] at he
    cases he
  · rw [h.refuses hf ⟨size, count⟩] at he
    cases he
    rfl

theorem Checked.append (h : w.Checked) (k : v.Checked) : (w ++ v).Checked := by
  intro size count e he
  rw [run_append] at he
  rcases hw : w.run size count with ⟨e' | u, p⟩
  · rw [hw] at he
    cases he
    exact h size count _ (congrArg Prod.fst hw)
  · rw [hw] at he
    exact k _ _ e he

theorem checked_object (b : Binder) : (object b).Checked := fun size count e he =>
  (accepts_length count).checked size count e he

theorem composes_checked : Composes Checked where
  done := accepts_done.checked
  word32 _ := (accepts_bytes _).checked
  word64 _ := (accepts_bytes _).checked
  length n := (accepts_length n).checked
  object := checked_object
  append := Checked.append

end Wire.Writer

open Wire Wire.Writer

theorem WireType.checked {o : Bool} (t : WireType o) (x : t.Val) : (t.codec.write x).Checked :=
  t.of_closed (composes_checked.closed (fun _ => (accepts_bytes _).checked) accepts_pad.checked) x

theorem checked_result (t : WireType false) (r : Except Status t.Val) :
    (Writer.result t.codec r).Checked := by
  have header (status : Status) : (Codec.status.write status).Checked :=
    (Codec.accepts_status status).checked
  cases r with
  | ok x => exact (header .ok).append (t.checked x)
  | error status => exact header status

end ServiceBus
