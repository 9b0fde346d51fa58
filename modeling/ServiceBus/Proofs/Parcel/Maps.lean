import ServiceBus.Proofs.Parcel.Alignment
import ServiceBus.Proofs.Parcel.Reading
import ServiceBus.Proofs.Wire.Entries

/-!
Maps in parcels. Entries are read as a map in whatever order they stand, and however often a key
occurs; but a map is written in one way only, entry after entry in the strict order of the keys.
-/
namespace ServiceBus

open Wire

namespace WireType

variable {K : WireType true} {V : WireType false}

abbrev mapOf (K : WireType true) (V : WireType false) (l : List (K.Val × V.Val)) : (map K V).Val :=
  Std.ExtTreeMap.ofList l (K.domain.order rfl).cmp

theorem recovers_entries (dense : (map K V).dense = true) {l : List (K.Val × V.Val)} {m : Mark}
    {x : Payload} (added : (Codec.entries K.codec V.codec l).Adds m x) {objects : List Binder}
    (table : x.objects <+: objects.drop m.count) (tail : List UInt8) :
    (map K V).codec.read.Recovers objects m.size x.bytes tail (mapOf K V l) True := by
  simp only [WireType.dense, Bool.and_eq_true, Bool.not_eq_true', Bool.and_eq_false_iff] at dense
  obtain ⟨⟨units, key⟩, value⟩ := dense
  have solid : (K.codec.pair V.codec).Solid := by
    apply solid_pair
    rintro ⟨uk, uv⟩
    simp [uk, uv] at units
  have long := solid.entries_le added
  have read :=
    Codec.Recovers.entries (K.domain.order rfl).cmp K.recovers V.recovers added table tail
  refine read.congr (iff_true_intro ⟨by omega, ?_⟩)
  apply Along.of_forall
  exact fun e _ m => ⟨K.room_of_dense _ key e.1 m, V.room_of_dense _ value e.2 _⟩

theorem write_map (m : (map K V).Val) :
    ∃ l, (map K V).codec.write m = Codec.entries K.codec V.codec l ∧
      ∀ l', l' = l ↔ Increasing (K.domain.order rfl).cmp l' ∧ ∀ k v, (k, v) ∈ l' ↔ m[k]? = some v :=
  ⟨m.toList, rfl, fun _ => eq_toList_iff⟩

end WireType

namespace Parcel

variable {α : Type}

theorem consume_of_recovers {s : Parcel} {r : Reader α} {a : α} {bytes tail : List UInt8}
    (h : r.Recovers s.objects s.position bytes tail a True)
    (rest : s.data.drop s.position = bytes ++ tail) :
    ∃ e, s.consume r = (.ok a, e) ∧ e.position = s.position + bytes.length := by
  have stopped := h.whole trivial
  rw [← rest] at stopped
  refine ⟨_, consume_of_run stopped, ?_⟩
  have whole : s.data.length - s.position = bytes.length + tail.length := by
    rw [← List.length_drop, rest, List.length_append]
  have inside := s.position_le
  show s.data.length - tail.length = s.position + bytes.length
  omega

variable {K : WireType true} {V : WireType false}

theorem read_of_entries (dense : (WireType.map K V).dense = true) {p q r : Parcel}
    {l : List (K.Val × V.Val)} (written : p.append (Codec.entries K.codec V.codec l) = (.ok (), q))
    (data : q.data <+: r.data) (objects : q.objects <+: r.objects) :
    ∃ s e, r.setPosition p.size = (.ok (), s) ∧
      s.read (.map K V) = (.ok (WireType.mapOf K V l), e) ∧ e.position = q.size := by
  obtain ⟨x, added, grown, table⟩ := adds_of_append written
  obtain ⟨after, whole⟩ := data
  have placed : r.data = p.data ++ (x.bytes ++ after) := by
    rw [← whole, grown, List.append_assoc]
  have inside : p.size ≤ r.size := by
    rw [size, size, placed, List.length_append]
    exact Nat.le_add_right _ _
  have found : x.objects <+: r.objects.drop p.mark.count := objects_isPrefix_drop table objects
  let s : Parcel := { r with position := p.size, position_le := inside }
  have rest : s.data.drop s.position = x.bytes ++ after := by
    show r.data.drop p.data.length = x.bytes ++ after
    rw [placed, List.drop_left]
  have read := WireType.recovers_entries dense added found after
  obtain ⟨e, consumed, stopped⟩ := consume_of_recovers (s := s) read rest
  refine ⟨s, e, dif_pos inside, consumed, ?_⟩
  rw [stopped, size, grown, List.length_append]
  rfl

/-- Maps are read from any entries and written as one list of entries. Of entries in any order and
with any repetitions, written behind anything and with anything behind them, a read makes the map
that has their keys, each with the value of its last entry, and stops at their end. A map is written
as the one list of its entries in the strict order of the keys; and two maps that were built in any
ways and look the same are written in the same way wherever the sizes agree modulo four and there
are as many binders. -/
theorem maps_canonical (dense : (WireType.map K V).dense = true) :
    (∀ (p q r : Parcel) (l : List (K.Val × V.Val)),
      p.append (Codec.entries K.codec V.codec l) = (.ok (), q) → q.data <+: r.data →
      q.objects <+: r.objects →
      ∃ s e m, r.setPosition p.size = (.ok (), s) ∧ s.read (.map K V) = (.ok m, e) ∧
        e.position = q.size ∧ (∀ k, k ∈ m ↔ ∃ v, (k, v) ∈ l) ∧
        ∀ k v, m[k]? = some v ↔ Last l k v) ∧
    (∀ m : (WireType.map K V).Val, ∃ l,
      (WireType.map K V).codec.write m = Codec.entries K.codec V.codec l ∧
        ∀ l', l' = l ↔
          Increasing (K.domain.order rfl).cmp l' ∧ ∀ k v, (k, v) ∈ l' ↔ m[k]? = some v) ∧
    ∀ (l l' : List (K.Val × V.Val)),
      (∀ k : K.Val, (WireType.mapOf K V l)[k]? = (WireType.mapOf K V l')[k]?) →
      ∀ p p' : Parcel, p.size % 4 = p'.size % 4 → p.objects.length = p'.objects.length →
        (p.write (.map K V) (WireType.mapOf K V l)).1 =
            (p'.write (.map K V) (WireType.mapOf K V l')).1 ∧
          ∃ x : Payload,
            (p.write (.map K V) (WireType.mapOf K V l)).2.payload = p.payload ++ x ∧
            (p'.write (.map K V) (WireType.mapOf K V l')).2.payload = p'.payload ++ x := by
  refine ⟨?_, WireType.write_map, ?_⟩
  · intro p q r l written data objects
    obtain ⟨s, e, set, read, stopped⟩ := read_of_entries dense written data objects
    exact ⟨s, e, _, set, read, stopped, fun k => mem_ofList_iff, fun k v => getElem?_ofList_iff⟩
  · intro l l' same p p' size count
    have equal : WireType.mapOf K V l = WireType.mapOf K V l' := Std.ExtTreeMap.ext_getElem? same
    rw [equal]
    exact write_periodic (.map K V) _ size count

/-- Behind a single byte, three entries of which two have one key and none is in its place. -/
theorem maps_canonical_repeated :
    let t : WireType false := .map (.list .byte) (.option .text)
    let l : List (List UInt8 × Option String) := [([2], some "a"), ([1, 3], none), ([2], some "b")]
    let p : Parcel := ⟨[7], [], 0, Nat.zero_le _⟩
    let q := (p.append (Codec.entries (Codec.list .byte) (Codec.option .text) l)).2
    t.dense = true ∧ ∃ s e m, q.setPosition 1 = (.ok (), s) ∧ s.read t = (.ok m, e) ∧
      e.position = q.size ∧ m[([2] : List UInt8)]? = some (some "b") ∧
      m[([1, 3] : List UInt8)]? = some none ∧ ([3] : List UInt8) ∉ m := by
  intro t l p q
  have dense : t.dense = true := rfl
  have written : p.append (Codec.entries (Codec.list .byte) (Codec.option .text) l) = (.ok (), q) :=
    Prod.ext (by rfl) rfl
  obtain ⟨s, e, m, set, read, stopped, keys, values⟩ :=
    (maps_canonical dense).1 p q q l written (List.prefix_refl _) (List.prefix_refl _)
  have repeated : Last l [2] (some "b") :=
    ⟨[([2], some "a"), ([1, 3], none)], [], rfl, by simp⟩
  have single : Last l [1, 3] none := ⟨[([2], some "a")], [([2], some "b")], rfl, by simp⟩
  refine ⟨dense, s, e, m, set, read, stopped, (values _ _).2 repeated, (values _ _).2 single, ?_⟩
  rw [keys]
  simp [l]

end Parcel

end ServiceBus
