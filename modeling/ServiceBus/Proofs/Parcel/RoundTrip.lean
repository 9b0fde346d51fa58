import ServiceBus.Parcel
import ServiceBus.Proofs.Wire.Room

/-!
The round trip of a parcel. Whatever a parcel holds before a row of values and after it, reading
their types from where the row starts gives the row and stops where it ends.
-/
namespace ServiceBus.Parcel

open Wire

abbrev Item := (t : WireType false) × t.Val

def writeAll (p : Parcel) : List Item → Except StatusCode Unit × Parcel
  | [] => (.ok (), p)
  | i :: is =>
    match p.write i.1 i.2 with
    | (.ok _, q) => q.writeAll is
    | (.error e, q) => (.error e, q)

def readAll (p : Parcel) : List (WireType false) → Except StatusCode (List Item) × Parcel
  | [] => (.ok [], p)
  | t :: ts =>
    match p.read t with
    | (.error e, q) => (.error e, q)
    | (.ok v, q) =>
      match q.readAll ts with
      | (.ok is, q) => (.ok (⟨t, v⟩ :: is), q)
      | (.error e, q) => (.error e, q)

/-- The place where the next value is written. -/
def mark (p : Parcel) : Mark := ⟨p.size, p.objects.length⟩

@[simp] theorem mark_size (p : Parcel) : p.mark.size = p.size := rfl
@[simp] theorem mark_count (p : Parcel) : p.mark.count = p.objects.length := rfl

/-- Values that are written in a row from a place on leave room, each at its own place. -/
def RoomForAll (total : Nat) : List Item → Mark → Prop :=
  Along (fun i => i.1.codec.write i.2) fun i => i.1.Room total i.2

theorem roomForAll_of_dense (total : Nat) {items : List Item} (h : ∀ i ∈ items, i.1.dense = true)
    (m : Mark) : RoomForAll total items m :=
  Along.of_forall items m fun i hi => i.1.room_of_dense total (h i hi) i.2

theorem adds_of_append {p q : Parcel} {w : Writer} (h : p.append w = (.ok (), q)) :
    ∃ x, w.Adds p.mark x ∧ q.data = p.data ++ x.bytes ∧ q.objects = p.objects ++ x.objects := by
  refine ⟨(w.run p.size p.objects.length).2, ?_, ?_, ?_⟩
  · exact Prod.ext (by simpa using congrArg Prod.fst h) rfl
  · simpa using (congrArg (fun x => x.2.data) h).symm
  · simpa using (congrArg (fun x => x.2.objects) h).symm

theorem adds_of_write {p q : Parcel} {t : WireType false} {v : t.Val}
    (h : p.write t v = (.ok (), q)) :
    ∃ x, (t.codec.write v).Adds p.mark x ∧ q.data = p.data ++ x.bytes ∧
      q.objects = p.objects ++ x.objects := adds_of_append h

theorem objects_isPrefix_drop {p q r : Parcel} {x : Payload}
    (table : q.objects = p.objects ++ x.objects) (objects : q.objects <+: r.objects) :
    x.objects <+: r.objects.drop p.mark.count := by
  obtain ⟨others, all⟩ := objects
  refine ⟨others, ?_⟩
  rw [← all, table, List.append_assoc, mark_count, List.drop_left]

theorem isPrefix_of_writeAll {p q : Parcel} {items : List Item}
    (h : p.writeAll items = (.ok (), q)) : p.data <+: q.data ∧ p.objects <+: q.objects := by
  induction items generalizing p with
  | nil =>
    cases h
    exact ⟨List.prefix_refl _, List.prefix_refl _⟩
  | cons i is ih =>
    rcases hw : p.write i.1 i.2 with ⟨_ | _, p₁⟩
    · simp [writeAll, hw] at h
    · simp only [writeAll, hw] at h
      obtain ⟨x, _, hd, ho⟩ := adds_of_write hw
      obtain ⟨hd₁, ho₁⟩ := ih h
      exact ⟨(hd ▸ List.prefix_append _ _).trans hd₁, (ho ▸ List.prefix_append _ _).trans ho₁⟩

/-- Reading at a place where a value was written, in a parcel that has grown since. -/
theorem read_of_adds {s : Parcel} {t : WireType false} {v : t.Val} {m : Mark} {x : Payload}
    {before after : List UInt8} (h : (t.codec.write v).Adds m x)
    (hd : s.data = before ++ (x.bytes ++ after)) (hp : s.position = m.size)
    (hb : before.length = m.size) (ho : x.objects <+: s.objects.drop m.count) :
    (t.Room s.size v m → ∃ s', s.read t = (.ok v, s') ∧ s'.data = s.data ∧ s'.objects = s.objects ∧
      s'.position = m.size + x.bytes.length) ∧
    (¬ t.Room s.size v m → (s.read t).1 = .error .notEnoughData) := by
  have hs : m.size + x.bytes.length + after.length = s.size := by
    rw [size, hd]
    simp [hb, Nat.add_assoc]
  have hc : s.cursor = ⟨m.size, x.bytes ++ after⟩ := by
    rw [cursor, hp, hd, ← hb, List.drop_left]
  have hr := t.recovers h ho after
  rw [hs] at hr
  constructor
  · intro room
    have hw := hr.whole room
    rw [← hc] at hw
    simp only [read, consume, hw]
    refine ⟨_, rfl, rfl, rfl, ?_⟩
    show s.size - after.length = m.size + x.bytes.length
    omega
  · intro room
    have hw := hr.short room
    rw [← hc] at hw
    exact hw

theorem readAll_error_of_read {p : Parcel} {t : WireType false} {e : StatusCode}
    (h : (p.read t).1 = .error e) (ts : List (WireType false)) :
    (p.readAll (t :: ts)).1 = .error e := by
  rcases hr : p.read t with ⟨_ | _, q⟩
  · rw [hr] at h
    cases h
    simp only [readAll, hr]
  · rw [hr] at h
    cases h

theorem readAll_error_of_readAll {p q : Parcel} {t : WireType false} {v : t.Val} {e : StatusCode}
    {ts : List (WireType false)} (hr : p.read t = (.ok v, q)) (h : (q.readAll ts).1 = .error e) :
    (p.readAll (t :: ts)).1 = .error e := by
  rcases hs : q.readAll ts with ⟨_ | _, r⟩
  · rw [hs] at h
    cases h
    simp only [readAll, hr, hs]
  · rw [hs] at h
    cases h

/-- The values of a row are read one by one. Each read leaves the parcel at the place of the next
value, and there are as many bytes in the end for every one of them. -/
theorem readAll_of_writeAll {p q s : Parcel} {items : List Item}
    (h : p.writeAll items = (.ok (), q)) (hd : q.data <+: s.data) (ho : q.objects <+: s.objects)
    (hp : s.position = p.size) :
    (RoomForAll s.size items p.mark →
      ∃ e, s.readAll (items.map Sigma.fst) = (.ok items, e) ∧ e.position = q.size) ∧
    (¬ RoomForAll s.size items p.mark →
      (s.readAll (items.map Sigma.fst)).1 = .error .notEnoughData) := by
  induction items generalizing p s with
  | nil =>
    cases h
    exact ⟨fun _ => ⟨s, rfl, hp⟩, fun n => absurd trivial n⟩
  | cons i is ih =>
    rcases hw : p.write i.1 i.2 with ⟨_ | _, p₁⟩
    · simp [writeAll, hw] at h
    simp only [writeAll, hw] at h
    obtain ⟨x, ha, hd₁, ho₁⟩ := adds_of_write hw
    obtain ⟨hqd, hqo⟩ := isPrefix_of_writeAll h
    obtain ⟨after, hafter⟩ := hqd.trans hd
    have hsd : s.data = p.data ++ (x.bytes ++ after) := by
      rw [← hafter, hd₁, List.append_assoc]
    have hso : x.objects <+: s.objects.drop p.mark.count := objects_isPrefix_drop ho₁ (hqo.trans ho)
    have hm : p.mark.after (i.1.codec.write i.2) = p₁.mark := by
      rw [ha.after]
      simp [Mark.past, mark, size, hd₁, ho₁]
    have hr := read_of_adds ha hsd hp rfl hso
    -- What is left to do after a value that came back is the same for both halves.
    have hnext : i.1.Room s.size i.2 p.mark → ∃ s', s.read i.1 = (.ok i.2, s') ∧
        s'.size = s.size ∧ q.data <+: s'.data ∧ q.objects <+: s'.objects ∧
        s'.position = p₁.size := by
      intro room
      obtain ⟨s', hs', hd', ho', hp'⟩ := hr.1 room
      refine ⟨s', hs', congrArg List.length hd', hd' ▸ hd, ho' ▸ ho, ?_⟩
      rw [hp', size, hd₁, List.length_append]
      rfl
    simp only [RoomForAll, Along, hm]
    constructor
    · rintro ⟨room, rest⟩
      obtain ⟨s', hs', hz, hd', ho', hp'⟩ := hnext room
      obtain ⟨e, he, hpos⟩ := (ih h hd' ho' hp').1 (hz ▸ rest)
      refine ⟨e, ?_, hpos⟩
      simp only [List.map_cons, readAll, hs', he]
    · intro n
      by_cases room : i.1.Room s.size i.2 p.mark
      · obtain ⟨s', hs', hz, hd', ho', hp'⟩ := hnext room
        exact readAll_error_of_readAll hs' ((ih h hd' ho' hp').2 fun rest => n ⟨room, hz ▸ rest⟩)
      · exact readAll_error_of_read (hr.2 room) _

/-- Round trip. After a row of values was written and whatever else behind it, the row is read back
from where it starts, exactly if it leaves room; a row leaves room if none of its types has a list
or a map of units. -/
theorem readAll_writeAll {p q r : Parcel} {items : List Item}
    (written : p.writeAll items = (.ok (), q)) (data : q.data <+: r.data)
    (objects : q.objects <+: r.objects) :
    ∃ s, r.setPosition p.size = (.ok (), s) ∧
      (RoomForAll r.size items p.mark →
        ∃ e, s.readAll (items.map Sigma.fst) = (.ok items, e) ∧ e.position = q.size) ∧
      (¬ RoomForAll r.size items p.mark →
        (s.readAll (items.map Sigma.fst)).1 = .error .notEnoughData) ∧
      ((∀ i ∈ items, i.1.dense = true) → RoomForAll r.size items p.mark) := by
  have hle : p.size ≤ r.size := ((isPrefix_of_writeAll written).1.trans data).length_le
  let s : Parcel := { r with position := p.size, position_le := hle }
  have hs : r.setPosition p.size = (.ok (), s) := by
    rw [setPosition, dif_pos hle]
  have hr := readAll_of_writeAll (s := s) written data objects rfl
  exact ⟨s, hs, hr.1, hr.2, fun h => roomForAll_of_dense _ h _⟩

/-- A byte and a binder stand before the row, so that nothing in it is aligned, and a byte behind
it. -/
theorem readAll_writeAll_unaligned :
    let b : Binder := .custom 4 "x" 0
    let p : Parcel := ⟨[7], [.custom 3 "y" 0], 0, Nat.zero_le _⟩
    let items : List Item :=
      [⟨.text, "hi"⟩, ⟨.list .unit, [(), ()]⟩, ⟨.option (.list .byte), some [1, 2, 3]⟩,
       ⟨.binder, b⟩]
    let q := (p.writeAll items).2
    let r := (q.append (.bytes [9])).2
    ∃ s e, r.setPosition 1 = (.ok (), s) ∧
      s.readAll [.text, .list .unit, .option (.list .byte), .binder] = (.ok items, e) ∧
      e.position = q.size := by
  intro b p items q r
  have hw : p.writeAll items = (.ok (), q) := Prod.ext (by rfl) rfl
  obtain ⟨s, hs, hr, -, -⟩ := readAll_writeAll (r := r) hw (List.prefix_append _ _)
    (List.prefix_append _ _)
  have room : RoomForAll r.size items p.mark := by
    refine ⟨trivial, ⟨fun _ => ?_, trivial, trivial, trivial⟩, ?_, trivial, trivial⟩
    · decide
    · exact WireType.room_of_dense _ (.option (.list .byte)) rfl _ _
  obtain ⟨e, he, hpos⟩ := hr room
  exact ⟨s, e, hs, he, hpos⟩

end ServiceBus.Parcel
