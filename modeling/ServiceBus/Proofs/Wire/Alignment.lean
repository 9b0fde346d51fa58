import ServiceBus.Proofs.Wire.Closure
import ServiceBus.Proofs.Wire.Writing

/-!
Where a value is written. Padding is all that depends on the place, and it goes by the size modulo
four; so a value is written in the same way at two places that agree on that, if there are as many
binders before both. Texts and lists end at a multiple of four, wherever they start. All else is
words, but for single bytes: as long as these stand in lists, no value shifts what follows it.
-/
namespace ServiceBus

namespace Wire

variable {α : Type}

/-- A writer that does the same at two places if their sizes leave the same remainder. -/
def Writer.Periodic (w : Writer) : Prop :=
  ∀ ⦃size size' : Nat⦄, size % 4 = size' % 4 → ∀ count, w.run size count = w.run size' count

namespace Writer

variable {w v : Writer}

theorem periodic_done : done.Periodic := fun _ _ _ _ => rfl

theorem periodic_fail (e : StatusCode) : (fail e).Periodic := fun _ _ _ _ => rfl

theorem periodic_bytes (bs : List UInt8) : (bytes bs).Periodic := fun _ _ _ _ => rfl

theorem periodic_pad : pad.Periodic := by
  intro size size' same count
  rw [run_pad, run_pad, ← padding_mod size, same, padding_mod]

theorem periodic_length (n : Nat) : (length n).Periodic := by
  unfold length
  split
  · exact periodic_bytes _
  · exact periodic_fail _

theorem periodic_object (b : Binder) : (object b).Periodic := by
  intro size size' same count
  simp only [object, periodic_length count same count]

theorem Periodic.append (h : w.Periodic) (k : v.Periodic) : (w ++ v).Periodic := by
  intro size size' same count
  rw [run_append, run_append, h same count]
  rcases w.run size' count with ⟨_ | _, p⟩
  · rfl
  · have moved : (size + p.bytes.length) % 4 = (size' + p.bytes.length) % 4 := by omega
    simp only [k moved]

theorem composes_periodic : Composes Periodic where
  done := periodic_done
  word32 _ := periodic_bytes _
  word64 _ := periodic_bytes _
  length := periodic_length
  object := periodic_object
  append := Periodic.append

end Writer

def Codec.Periodic (c : Codec α) : Prop := ∀ a, (c.write a).Periodic

theorem Codec.closed_periodic : Codec.Closed Codec.Periodic :=
  Writer.composes_periodic.closed Writer.periodic_bytes Writer.periodic_pad

/-- A writer that ends at a multiple of four, wherever it starts. -/
def Writer.Padded (w : Writer) : Prop :=
  ∀ ⦃m : Mark⦄ ⦃p : Payload⦄, w.Adds m p → (m.past p).size % 4 = 0

/-- A writer that leaves the size modulo four as it is, or ends at a multiple of four. -/
def Writer.Aligning (w : Writer) : Prop :=
  ∀ ⦃m : Mark⦄ ⦃p : Payload⦄, w.Adds m p →
    (m.past p).size % 4 = m.size % 4 ∨ (m.past p).size % 4 = 0

namespace Writer

variable {w v : Writer}

theorem padded_pad : pad.Padded := by
  intro m p added
  rw [adds_pad.1 added, Mark.past_size, List.length_replicate]
  exact add_padding_mod m.size

theorem Padded.after (h : v.Padded) (w : Writer) : (w ++ v).Padded := by
  intro m p added
  obtain ⟨q, r, -, last, rfl⟩ := adds_append.1 added
  rw [Mark.past_append]
  exact h last

theorem Padded.aligning (h : w.Padded) : w.Aligning := fun _ _ added => .inr (h added)

theorem aligning_done : done.Aligning := by
  intro m p added
  rw [adds_done.1 added]
  exact .inl rfl

theorem aligning_bytes {bs : List UInt8} (words : 4 ∣ bs.length) : (bytes bs).Aligning := by
  intro m p added
  rw [(adds_bytes bs).1 added, Mark.past_bytes, Mark.skip_size]
  exact .inl (by omega)

theorem aligning_word32 (n : UInt32) : (word32 n).Aligning :=
  aligning_bytes ⟨1, length_littleEndian 4 _⟩

theorem aligning_word64 (n : UInt64) : (word64 n).Aligning :=
  aligning_bytes ⟨2, length_littleEndian 8 _⟩

theorem aligning_length (n : Nat) : (length n).Aligning := by
  unfold length
  split
  · exact aligning_word32 _
  · exact fun _ _ added => absurd added (not_adds_fail _)

theorem aligning_object (b : Binder) : (object b).Aligning := by
  intro m p added
  obtain ⟨-, rfl⟩ := (adds_object b).1 added
  rw [Mark.past_size, length_littleEndian]
  exact .inl (by omega)

theorem Aligning.append (h : w.Aligning) (k : v.Aligning) : (w ++ v).Aligning := by
  intro m p added
  obtain ⟨q, r, first, second, rfl⟩ := adds_append.1 added
  rw [Mark.past_append]
  rcases k second with kept | zero
  · rw [kept]
    exact h first
  · exact .inr zero

theorem composes_aligning : Composes Aligning where
  done := aligning_done
  word32 := aligning_word32
  word64 := aligning_word64
  length := aligning_length
  object := aligning_object
  append := Aligning.append

end Writer

namespace Codec

theorem padded_text (s : String) : (text.write s).Padded := Writer.padded_pad.after _

theorem padded_list (c : Codec α) (l : List α) : (c.list.write l).Padded :=
  Writer.padded_pad.after _

def Aligning (c : Codec α) : Prop := ∀ a, (c.write a).Aligning

theorem aligning_list (c : Codec α) : c.list.Aligning := fun l => (padded_list c l).aligning

theorem kept_aligning : Kept Aligning :=
  Writer.composes_aligning.kept (fun s => (padded_text s).aligning) fun c _ => aligning_list c

end Codec

end Wire

open Wire

namespace WireType

theorem periodic {o : Bool} (t : WireType o) : t.codec.Periodic :=
  t.of_closed Codec.closed_periodic

/-- Whether single bytes stand only in lists, which are padded as a whole. -/
def packed : {o : Bool} → WireType o → Bool
  | _, byte => false
  | _, option t => t.packed
  | _, map k v => k.packed && v.packed
  | _, _ => true

theorem aligning {o : Bool} (t : WireType o) (packed : t.packed = true) : t.codec.Aligning := by
  induction t with
  | byte => cases packed
  | list t => exact Codec.aligning_list _
  | option t ih => exact Codec.kept_aligning.option (ih packed)
  | map k v ihk ihv =>
    simp only [WireType.packed, Bool.and_eq_true] at packed
    exact Codec.kept_aligning.map (ihk packed.1) (ihv packed.2)
  | _ => exact of_kept Codec.kept_aligning _ rfl

end WireType

end ServiceBus
