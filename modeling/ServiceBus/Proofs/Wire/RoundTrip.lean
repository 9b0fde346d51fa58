import ServiceBus.Proofs.Wire.Recovery

/-!
The round trip of each codec combinator. What a codec writes anywhere in a parcel it also reads
back from there, whatever was written before and after it: the bytes are found at their offset, the
binders in the table of the whole parcel.
-/
namespace ServiceBus.Wire

variable {α β : Type}

/-- Values that are written one after the other have each a property at their own place. -/
def Along (write : α → Writer) (P : α → Mark → Prop) : List α → Mark → Prop
  | [], _ => True
  | a :: as, m => P a m ∧ Along write P as (m.after (write a))

theorem Along.of_forall {write : α → Writer} {P : α → Mark → Prop} (l : List α) (m : Mark)
    (h : ∀ a ∈ l, ∀ m, P a m) : Along write P l m := by
  induction l generalizing m with
  | nil => trivial
  | cons a as ih => exact ⟨h a (by simp) m, ih _ fun b hb => h b (by simp [hb])⟩

theorem append_isPrefix_drop {l r objects : List Binder} {n : Nat} (h : l ++ r <+: objects.drop n) :
    l <+: objects.drop n ∧ r <+: objects.drop (n + l.length) := by
  obtain ⟨t, ht⟩ := h
  refine ⟨⟨r ++ t, by rw [← ht, List.append_assoc]⟩, ⟨t, ?_⟩⟩
  rw [← List.drop_drop, ← ht, List.append_assoc, List.drop_left]

theorem ofList_toList {cmp : α → α → Ordering} [Std.TransCmp cmp] [Std.LawfulEqCmp cmp]
    (m : Std.ExtTreeMap α β cmp) : Std.ExtTreeMap.ofList m.toList cmp = m := by
  classical
  ext k v
  cases hk : m[k]? with
  | some w =>
    have hm := Std.ExtTreeMap.mem_toList_iff_getElem?_eq_some.2 hk
    rw [Std.ExtTreeMap.getElem?_ofList_of_mem Std.ReflCmp.compare_self m.distinct_keys_toList hm]
  | none =>
    rw [Std.ExtTreeMap.getElem?_ofList_of_contains_eq_false]
    rw [← Bool.not_eq_true, List.contains_iff_mem, List.mem_map]
    rintro ⟨e, he, rfl⟩
    rw [Std.ExtTreeMap.mem_toList_iff_getElem?_eq_some, hk] at he
    cases he

namespace Codec

/-- What is written is read back, in a parcel that ends up with so many bytes, if there is room. -/
def Recovers (c : Codec α) (room : Nat → α → Mark → Prop) : Prop :=
  ∀ ⦃a : α⦄ ⦃m : Mark⦄ ⦃p : Payload⦄, (c.write a).Adds m p →
    ∀ ⦃objects : List Binder⦄, p.objects <+: objects.drop m.count → ∀ tail : List UInt8,
      c.read.Recovers objects m.size p.bytes tail a
        (room (m.size + p.bytes.length + tail.length) a m)

def Faithful (c : Codec α) : Prop := c.Recovers fun _ _ _ => True

variable {c : Codec α} {d : Codec β} {room : Nat → α → Mark → Prop} {space : Nat → β → Mark → Prop}

theorem Recovers.congr {room' : Nat → α → Mark → Prop} (h : c.Recovers room)
    (e : ∀ ⦃a m p total⦄, (c.write a).Adds m p → m.size + p.bytes.length ≤ total →
      (room total a m ↔ room' total a m)) :
    c.Recovers room' :=
  fun _ _ _ ha _ ho tail => (h ha ho tail).congr (e ha (Nat.le_add_right ..))

theorem faithful_unit : unit.Faithful := by
  intro a m p ha objects _ tail
  rw [Writer.adds_done.1 ha]
  exact Reader.recovers_pure ()

theorem faithful_byte : byte.Faithful := by
  intro b m p ha objects _ tail
  rw [(Writer.adds_bytes _).1 ha]
  exact Reader.recovers_byte b

theorem faithful_word32 : word32.Faithful := by
  intro n m p ha objects _ tail
  rw [(Writer.adds_word32 _).1 ha]
  exact Reader.recovers_word32 n

theorem faithful_word64 : word64.Faithful := by
  intro n m p ha objects _ tail
  rw [(Writer.adds_word64 _).1 ha]
  exact Reader.recovers_word64 n

/-- A binder comes back as the same object: its index is where the table holds it. -/
theorem faithful_object : object.Faithful := by
  intro b m p ha objects ho tail
  obtain ⟨hc, rfl⟩ := (Writer.adds_object b).1 ha
  obtain ⟨t, ht⟩ := ho
  apply Reader.recovers_object hc
  have h : (objects.drop m.count)[0]? = some b := by
    rw [← ht]
    rfl
  simpa using h

theorem Recovers.refine (h : c.Recovers room) {toWire : β → α} {ofWire : α → Except StatusCode β}
    (inv : ∀ b, ofWire (toWire b) = .ok b) :
    (c.refine toWire ofWire).Recovers fun total b m => room total (toWire b) m := by
  intro b m p ha objects ho tail
  refine (h ha ho tail).bind_pure ?_
  simp only [inv]

theorem Recovers.iso (h : c.Recovers room) {toWire : β → α} {ofWire : α → β}
    (inv : ∀ b, ofWire (toWire b) = b) :
    (c.iso toWire ofWire).Recovers fun total b m => room total (toWire b) m :=
  h.refine fun b => congrArg Except.ok (inv b)

theorem faithful_int32 : int32.Faithful := faithful_word32.iso fun _ => rfl

theorem faithful_int64 : int64.Faithful := faithful_word64.iso fun _ => rfl

theorem faithful_bool : bool.Faithful := faithful_word32.iso fun b => by cases b <;> rfl

theorem Recovers.pair (h : c.Recovers room) (k : d.Recovers space) :
    (c.pair d).Recovers fun total x m =>
      room total x.1 m ∧ space total x.2 (m.after (c.write x.1)) := by
  rintro ⟨a, b⟩ m p ha objects ho tail
  obtain ⟨q, r, hq, hr, rfl⟩ := Writer.adds_append.1 ha
  obtain ⟨hoq, hor⟩ := append_isPrefix_drop ho
  have hb := (k hr hor tail).bind_pure (f := fun b => pure (a, b)) rfl
  refine ((h hq hoq (r.bytes ++ tail)).bind
    (f := fun a => d.read >>= fun b => pure (a, b)) hb).congr ?_
  simp only [hq.after, Mark.past_size, Payload.bytes_append, List.length_append, Nat.add_assoc]

theorem Faithful.pair (h : c.Faithful) (k : d.Faithful) : (c.pair d).Faithful :=
  (Recovers.pair h k).congr fun _ _ _ _ _ _ => and_iff_left trivial

theorem fromUTF8?_bytes (s : String) :
    String.fromUTF8? ⟨s.toUTF8.data.toList.toArray⟩ = some s := by
  have h : (⟨s.toUTF8.data.toList.toArray⟩ : ByteArray) = s.toByteArray := by
    rw [Array.toArray_toList]
    rfl
  rw [h, String.fromUTF8?, dif_pos s.isValidUTF8]
  rfl

/-- The length of a text asks for no room, since the bytes themselves follow. -/
theorem faithful_text : text.Faithful := by
  intro s m p ha objects _ tail
  obtain ⟨q, r, hq, hr, rfl⟩ := Writer.adds_append.1 ha
  obtain ⟨q₁, q₂, h₁, h₂, rfl⟩ := Writer.adds_append.1 hq
  obtain ⟨hn, rfl⟩ := (Writer.adds_length _).1 h₁
  obtain rfl := (Writer.adds_bytes _).1 h₂
  obtain rfl := Writer.adds_pad.1 hr
  rw [Mark.past_append]
  simp only [Payload.bytes_append, List.append_assoc, Mark.past_size]
  refine ((Reader.recovers_length hn).bind ((Reader.recovers_take _).bind
    (Reader.recovers_skipPadding.bind_pure ?_))).congr ?_
  · simp only [fromUTF8?_bytes]
  · simp

theorem Recovers.times (h : c.Recovers room) {l : List α} {m : Mark} {p : Payload}
    (ha : (Writer.all (l.map c.write)).Adds m p) {objects : List Binder}
    (ho : p.objects <+: objects.drop m.count) (tail : List UInt8) :
    (c.read.times l.length).Recovers objects m.size p.bytes tail l
      (Along c.write (room (m.size + p.bytes.length + tail.length)) l m) := by
  induction l generalizing m p with
  | nil =>
    rw [Writer.adds_done.1 ha]
    exact Reader.recovers_pure []
  | cons a as ih =>
    obtain ⟨q, r, hq, hr, rfl⟩ := Writer.adds_append.1 ha
    obtain ⟨hoq, hor⟩ := append_isPrefix_drop ho
    have hb := (ih hr hor).bind_pure (f := fun as => pure (a :: as)) rfl
    refine ((h hq hoq (r.bytes ++ tail)).bind
      (f := fun a => c.read.times as.length >>= fun as => pure (a :: as)) hb).congr ?_
    simp only [Along, hq.after, Mark.past_size, Payload.bytes_append, List.length_append,
      Nat.add_assoc]

theorem Recovers.list (h : c.Recovers room) :
    c.list.Recovers fun total l m =>
      m.size + 4 + l.length ≤ total ∧ Along c.write (room total) l (m.skip 4) := by
  intro l m p ha objects ho tail
  obtain ⟨q, r, hq, hr, rfl⟩ := Writer.adds_append.1 ha
  obtain ⟨q₁, q₂, h₁, h₂, rfl⟩ := Writer.adds_append.1 hq
  obtain ⟨hn, rfl⟩ := (Writer.adds_length _).1 h₁
  obtain rfl := Writer.adds_pad.1 hr
  have hs := (h.times h₂ (append_isPrefix_drop (append_isPrefix_drop ho).1).2)
  rw [Mark.past_append]
  simp only [Payload.bytes_append, List.append_assoc, Mark.past_size]
  refine ((Reader.recovers_length hn).bind ((hs _).bind
    (Reader.recovers_skipPadding.bind_pure ?_))).congr ?_
  · rfl
  · simp only [Mark.past_bytes, length_littleEndian, List.length_append, List.length_replicate,
      Mark.skip_size, and_true, Nat.add_assoc]
    refine and_congr_left fun _ => ?_
    omega

theorem Recovers.option (h : c.Recovers room) :
    c.option.Recovers fun total x m => ∀ a ∈ x, room total a (m.skip 4) := by
  intro x m p ha objects ho tail
  cases x with
  | none =>
    rw [(Writer.adds_word32 0).1 ha]
    refine ((Reader.recovers_word32 0).bind_pure ?_).congr ?_
    · rfl
    · simp
  | some a =>
    obtain ⟨q, r, hq, hr, rfl⟩ := Writer.adds_append.1 ha
    obtain ⟨hoq, hor⟩ := append_isPrefix_drop ho
    obtain rfl := (Writer.adds_word32 1).1 hq
    refine ((Reader.recovers_word32 1).bind
      ((h hr hor tail).bind_pure (f := fun a => pure (some a)) rfl)).congr ?_
    simp only [Mark.past_bytes, length_littleEndian, Payload.bytes_append, List.length_append,
      Mark.skip_size, true_and, Nat.add_assoc, Option.mem_some_iff, forall_eq']

/-- The entries of a map as they are written, in any order and with any repetitions. -/
def entries (c : Codec α) (d : Codec β) (l : List (α × β)) : Writer :=
  .length l.length ++ .all (l.map (c.pair d).write)

theorem Recovers.entries (cmp : α → α → Ordering) [Std.TransCmp cmp] (h : c.Recovers room)
    (k : d.Recovers space) {l : List (α × β)} {m : Mark} {p : Payload}
    (ha : (entries c d l).Adds m p) {objects : List Binder}
    (ho : p.objects <+: objects.drop m.count) (tail : List UInt8) :
    (c.map d : Codec (Std.ExtTreeMap α β cmp)).read.Recovers objects m.size p.bytes tail
      (Std.ExtTreeMap.ofList l cmp)
      (m.size + 4 + l.length ≤ m.size + p.bytes.length + tail.length ∧
        Along (c.pair d).write
          (fun e m' => room (m.size + p.bytes.length + tail.length) e.1 m' ∧
            space (m.size + p.bytes.length + tail.length) e.2 (m'.after (c.write e.1))) l
          (m.skip 4)) := by
  obtain ⟨q, r, hq, hr, rfl⟩ := Writer.adds_append.1 ha
  obtain ⟨hn, rfl⟩ := (Writer.adds_length _).1 hq
  have hs := (h.pair k).times hr (append_isPrefix_drop ho).2
  simp only [Payload.bytes_append]
  have hl := (hs tail).bind_pure (f := fun l => pure (Std.ExtTreeMap.ofList l cmp)) rfl
  refine ((Reader.recovers_length hn).bind hl).congr ?_
  simp only [Mark.past_bytes, length_littleEndian, List.length_append, Mark.skip_size,
    Nat.add_assoc]
  refine and_congr_left fun _ => ?_
  omega

/-- A map comes back as an equal map: its entries are written in order, each key once. -/
theorem Recovers.map {cmp : α → α → Ordering} [Std.TransCmp cmp] [Std.LawfulEqCmp cmp]
    (h : c.Recovers room) (k : d.Recovers space) :
    (c.map d : Codec (Std.ExtTreeMap α β cmp)).Recovers fun total x m =>
      m.size + 4 + x.size ≤ total ∧
        Along (c.pair d).write
          (fun e m => room total e.1 m ∧ space total e.2 (m.after (c.write e.1))) x.toList
          (m.skip 4) := by
  intro x m p ha objects ho tail
  have hx := Recovers.entries cmp h k (l := x.toList) ha ho tail
  rwa [ofList_toList, Std.ExtTreeMap.length_toList] at hx

/-- Every value takes space, so that a message cannot promise more of them than it has bytes. -/
def Solid (c : Codec α) : Prop :=
  ∀ ⦃a : α⦄ ⦃m : Mark⦄ ⦃p : Payload⦄, (c.write a).Adds m p → 0 < p.bytes.length

theorem solid_byte : byte.Solid := by
  intro b m p ha
  rw [(Writer.adds_bytes _).1 ha]
  exact Nat.zero_lt_one

theorem solid_word32 : word32.Solid := by
  intro n m p ha
  rw [(Writer.adds_word32 _).1 ha]
  simp

theorem solid_word64 : word64.Solid := by
  intro n m p ha
  rw [(Writer.adds_word64 _).1 ha]
  simp

theorem solid_object : object.Solid := by
  intro b m p ha
  obtain ⟨_, rfl⟩ := (Writer.adds_object b).1 ha
  simp

theorem Solid.refine (h : c.Solid) (toWire : β → α) (ofWire : α → Except StatusCode β) :
    (c.refine toWire ofWire).Solid :=
  fun _ _ _ ha => h ha

theorem Solid.iso (h : c.Solid) (toWire : β → α) (ofWire : α → β) : (c.iso toWire ofWire).Solid :=
  h.refine toWire _

theorem Solid.pair_left (h : c.Solid) (d : Codec β) : (c.pair d).Solid := by
  intro x m p ha
  obtain ⟨q, r, hq, _, rfl⟩ := Writer.adds_append.1 ha
  have := h hq
  simp only [Payload.bytes_append, List.length_append]
  omega

theorem Solid.pair_right (h : d.Solid) (c : Codec α) : (c.pair d).Solid := by
  intro x m p ha
  obtain ⟨q, r, _, hr, rfl⟩ := Writer.adds_append.1 ha
  have := h hr
  simp only [Payload.bytes_append, List.length_append]
  omega

theorem length_pos_of_adds_length {n : Nat} {w : Writer} {m : Mark} {p : Payload}
    (h : (Writer.length n ++ w).Adds m p) : 0 < p.bytes.length := by
  obtain ⟨q, r, hq, _, rfl⟩ := Writer.adds_append.1 h
  obtain ⟨_, rfl⟩ := (Writer.adds_length _).1 hq
  simp only [Payload.bytes_append, List.length_append, length_littleEndian]
  omega

theorem solid_text : text.Solid := by
  intro s m p ha
  obtain ⟨q, r, hq, _, rfl⟩ := Writer.adds_append.1 ha
  have := length_pos_of_adds_length hq
  simp only [Payload.bytes_append, List.length_append]
  omega

theorem solid_list (c : Codec α) : c.list.Solid := by
  intro l m p ha
  obtain ⟨q, r, hq, _, rfl⟩ := Writer.adds_append.1 ha
  have := length_pos_of_adds_length hq
  simp only [Payload.bytes_append, List.length_append]
  omega

theorem solid_option (c : Codec α) : c.option.Solid := by
  intro x m p ha
  cases x with
  | none =>
    rw [(Writer.adds_word32 0).1 ha]
    simp
  | some a =>
    obtain ⟨q, r, hq, _, rfl⟩ := Writer.adds_append.1 ha
    rw [(Writer.adds_word32 1).1 hq]
    simp only [Payload.bytes_append, List.length_append, length_littleEndian]
    omega

theorem solid_map {cmp : α → α → Ordering} [Std.TransCmp cmp] (c : Codec α) (d : Codec β) :
    (c.map d : Codec (Std.ExtTreeMap α β cmp)).Solid :=
  fun _ _ _ ha => length_pos_of_adds_length ha

theorem Solid.length_le (h : c.Solid) {l : List α} {m : Mark} {p : Payload}
    (ha : (Writer.all (l.map c.write)).Adds m p) : l.length ≤ p.bytes.length := by
  induction l generalizing m p with
  | nil => exact Nat.zero_le _
  | cons a as ih =>
    obtain ⟨q, r, hq, hr, rfl⟩ := Writer.adds_append.1 ha
    have h₁ := h hq
    have h₂ := ih hr
    simp only [Payload.bytes_append, List.length_append, List.length_cons]
    omega

theorem Recovers.list_of_solid (h : c.Recovers room) (k : c.Solid) :
    c.list.Recovers fun total l m => Along c.write (room total) l (m.skip 4) := by
  refine h.list.congr fun l m p total ha ht => and_iff_right ?_
  obtain ⟨q, r, hq, _, rfl⟩ := Writer.adds_append.1 ha
  obtain ⟨q₁, q₂, h₁, h₂, rfl⟩ := Writer.adds_append.1 hq
  obtain ⟨_, rfl⟩ := (Writer.adds_length _).1 h₁
  have := k.length_le h₂
  simp only [Payload.bytes_append, List.length_append, length_littleEndian] at ht
  omega

theorem Solid.entries_le (h : (c.pair d).Solid) {l : List (α × β)} {m : Mark} {p : Payload}
    (ha : (entries c d l).Adds m p) : 4 + l.length ≤ p.bytes.length := by
  obtain ⟨q, r, hq, hr, rfl⟩ := Writer.adds_append.1 ha
  obtain ⟨_, rfl⟩ := (Writer.adds_length _).1 hq
  have := h.length_le hr
  simp only [Payload.bytes_append, List.length_append, length_littleEndian]
  omega

theorem Recovers.map_of_solid {cmp : α → α → Ordering} [Std.TransCmp cmp] [Std.LawfulEqCmp cmp]
    (h : c.Recovers room) (k : d.Recovers space) (e : (c.pair d).Solid) :
    (c.map d : Codec (Std.ExtTreeMap α β cmp)).Recovers fun total x m =>
      Along (c.pair d).write
        (fun e m => room total e.1 m ∧ space total e.2 (m.after (c.write e.1))) x.toList
        (m.skip 4) := by
  refine (h.map k).congr fun x m p total ha ht => and_iff_right ?_
  have := e.entries_le (l := x.toList) ha
  rw [Std.ExtTreeMap.length_toList] at this
  omega

theorem Faithful.list (h : c.Faithful) (k : c.Solid) : c.list.Faithful :=
  (Recovers.list_of_solid h k).congr fun l _ _ _ _ _ =>
    iff_true_intro (Along.of_forall l _ fun _ _ _ => trivial)

theorem Faithful.option (h : c.Faithful) : c.option.Faithful :=
  (Recovers.option h).congr fun _ _ _ _ _ _ => iff_true_intro fun _ _ => trivial

theorem Faithful.map {cmp : α → α → Ordering} [Std.TransCmp cmp] [Std.LawfulEqCmp cmp]
    (h : c.Faithful) (k : d.Faithful) (e : (c.pair d).Solid) :
    (c.map d : Codec (Std.ExtTreeMap α β cmp)).Faithful :=
  (Recovers.map_of_solid h k e).congr fun x _ _ _ _ _ =>
    iff_true_intro (Along.of_forall x.toList _ fun _ _ _ => ⟨trivial, trivial⟩)

end Codec

end ServiceBus.Wire
