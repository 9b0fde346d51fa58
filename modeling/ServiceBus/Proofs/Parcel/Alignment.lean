import ServiceBus.Proofs.Parcel.RoundTrip
import ServiceBus.Proofs.Wire.Alignment

/-!
Alignment in parcels. Of all that a parcel holds, a write depends on two numbers only: the size
modulo four, and how many binders there are. Words stay at multiples of four for as long as single
bytes are written in lists; and a text or a list brings the parcel back to such a place from any.
-/
namespace ServiceBus.Parcel

open Wire

/-- Writing a value gives the same result, and appends the same bytes and binders, to two parcels
whose sizes agree modulo four and that have as many binders. -/
theorem write_periodic (t : WireType false) (v : t.Val) {p p' : Parcel}
    (size : p.size % 4 = p'.size % 4) (count : p.objects.length = p'.objects.length) :
    (p.write t v).1 = (p'.write t v).1 ∧
      ∃ x : Payload, (p.write t v).2.payload = p.payload ++ x ∧
        (p'.write t v).2.payload = p'.payload ++ x := by
  have same : (t.codec.write v).run p.size p.objects.length =
      (t.codec.write v).run p'.size p'.objects.length := by
    rw [count]
    exact t.periodic v size _
  refine ⟨?_, ((t.codec.write v).run p.size p.objects.length).2, rfl, ?_⟩
  · rw [write, write, append_fst, append_fst, same]
  · rw [same]
    rfl

variable {p q : Parcel} {w : Writer}

theorem size_of_append (written : p.append w = (.ok (), q)) :
    ∃ x, w.Adds p.mark x ∧ q.size = (p.mark.past x).size := by
  obtain ⟨x, added, grown, -⟩ := adds_of_append written
  refine ⟨x, added, ?_⟩
  rw [size, grown, List.length_append]
  rfl

theorem size_of_padded (h : w.Padded) (written : p.append w = (.ok (), q)) : q.size % 4 = 0 := by
  obtain ⟨x, added, stop⟩ := size_of_append written
  rw [stop]
  exact h added

theorem size_of_aligning (h : w.Aligning) (start : p.size % 4 = 0)
    (written : p.append w = (.ok (), q)) : q.size % 4 = 0 := by
  obtain ⟨x, added, stop⟩ := size_of_append written
  rw [stop]
  exact (h added).elim (fun kept => kept.trans start) id

/-- Values are aligned by where they stand and not by what stands before them. A value is written in
the same way, or refused for the same reason, wherever the sizes agree modulo four and there are as
many binders. If its single bytes all are in lists, it ends at a multiple of four when it starts at
one; and a text or a list, of whatever elements, does so wherever it starts. -/
theorem write_aligned :
    (∀ (t : WireType false) (v : t.Val) (p p' : Parcel), p.size % 4 = p'.size % 4 →
      p.objects.length = p'.objects.length → (p.write t v).1 = (p'.write t v).1 ∧
        ∃ x : Payload, (p.write t v).2.payload = p.payload ++ x ∧
          (p'.write t v).2.payload = p'.payload ++ x) ∧
    (∀ (t : WireType false) (v : t.Val) (p q : Parcel), t.packed = true → p.size % 4 = 0 →
      p.write t v = (.ok (), q) → q.size % 4 = 0) ∧
    (∀ (s : String) (p q : Parcel), p.write .text s = (.ok (), q) → q.size % 4 = 0) ∧
    ∀ (t : WireType false) (l : List t.Val) (p q : Parcel), p.write (.list t) l = (.ok (), q) →
      q.size % 4 = 0 := by
  refine ⟨fun t v p p' => write_periodic t v, fun t v p q packed start written => ?_,
    fun s p q written => ?_, fun t l p q written => ?_⟩
  · exact size_of_aligning (t.aligning packed v) start written
  · exact size_of_padded (Codec.padded_text s) written
  · exact size_of_padded (Codec.padded_list t.codec l) written

/-- Entries of a byte and a text are written alike behind one byte and behind five. Three bytes in
an option end at a multiple of four, since they are in a list; and so do a text behind five bytes,
and a list of a byte and a binder behind one. -/
theorem write_aligned_shifted :
    let t : WireType false := .map .byte .text
    let v : t.Val := Std.ExtTreeMap.ofList [((7 : UInt8), "hi"), (8, "")] _
    let u : WireType false := .map .byte (.option .binder)
    let l : List u.Val := [Std.ExtTreeMap.ofList [((7 : UInt8), some (.custom 5 "z" 0))] _]
    let one : Parcel := ⟨[1], [.custom 3 "y" 0], 0, Nat.zero_le _⟩
    let five : Parcel := ⟨[1, 2, 3, 4, 5], [.custom 4 "x" 0], 0, Nat.zero_le _⟩
    let bytes : Parcel := (empty.write (.option (.list .byte)) (some [7, 8, 9])).2
    let text : Parcel := (five.write .text "hi").2
    let binders : Parcel := (one.write (.list u) l).2
    ((one.write t v).1 = .ok () ∧ (five.write t v).1 = .ok () ∧ ∃ x : Payload,
      (one.write t v).2.payload = one.payload ++ x ∧
        (five.write t v).2.payload = five.payload ++ x) ∧
    (bytes.size = 12 ∧ bytes.size % 4 = 0) ∧ (text.size = 12 ∧ text.size % 4 = 0) ∧
      binders.size = 20 ∧ binders.size % 4 = 0 := by
  intro t v u l one five bytes text binders
  obtain ⟨alike, packed, texts, lists⟩ := write_aligned
  have near : one.size % 4 = five.size % 4 := by decide
  obtain ⟨same, added⟩ := alike t v one five near rfl
  have first : (one.write t v).1 = .ok () := by rfl
  have written : empty.write (.option (.list .byte)) (some [7, 8, 9]) = (.ok (), bytes) :=
    Prod.ext (by rfl) rfl
  have spelled : five.write .text "hi" = (.ok (), text) := Prod.ext (by rfl) rfl
  have listed : one.write (.list u) l = (.ok (), binders) := Prod.ext (by rfl) rfl
  exact ⟨⟨first, same ▸ first, added⟩,
    ⟨by decide +kernel, packed _ _ _ _ rfl rfl written⟩,
    ⟨by decide +kernel, texts _ _ _ spelled⟩, by decide +kernel, lists _ _ _ _ listed⟩

end ServiceBus.Parcel
