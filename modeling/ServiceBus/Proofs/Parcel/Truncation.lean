import ServiceBus.Proofs.Parcel.RoundTrip
import ServiceBus.Proofs.Wire.Reading

/-!
Messages that end too early. A value that is cut off anywhere is reported as missing data, and never
read as something else. This follows from two laws: a value comes back if enough bytes follow it, and
a reader that did not run out of data does the same in a longer message.
-/
namespace ServiceBus

open Wire

namespace Wire

variable {α : Type}

/-- A reader that uses up some bytes runs out of data if only the first few of them are there. -/
theorem Reader.Steady.run_take {r : Reader α} (h : r.Steady) {objects : List Binder} {offset : Nat}
    {bytes tail : List UInt8} {a : α}
    (whole : r.run objects ⟨offset, bytes ++ tail⟩ = (.ok a, ⟨offset + bytes.length, tail⟩)) {n : Nat}
    (cut : n < bytes.length) :
    (r.run objects ⟨offset, bytes.take n⟩).1 = .error .notEnoughData := by
  let start : Cursor := ⟨offset, bytes.take n⟩
  have extended : start.extend (bytes.drop n ++ tail) = ⟨offset, bytes ++ tail⟩ := by
    rw [Cursor.extend, ← List.append_assoc, List.take_append_drop]
  rcases h.longer objects start (bytes.drop n ++ tail) with short | same
  · exact short
  · -- Otherwise it stops at the same place in both messages, behind bytes that one of them lacks.
    obtain ⟨k, le, stopped⟩ := h.forward objects start
    rw [extended, whole, stopped] at same
    have place : offset + bytes.length = offset + k := congrArg (fun x => x.2.offset) same
    have there : k ≤ (bytes.take n).length := le
    rw [List.length_take] at there
    omega

/-- What each of some values has in every message that is long enough, all of them have in every
message that is. -/
theorem Along.of_eventually (write : α → Writer) {P : Nat → α → Mark → Prop} (l : List α)
    (h : ∀ a ∈ l, ∀ m, ∃ n, ∀ total, n ≤ total → P total a m) (m : Mark) :
    ∃ n, ∀ total, n ≤ total → Along write (P total) l m := by
  induction l generalizing m with
  | nil => exact ⟨0, fun _ _ => trivial⟩
  | cons a as ih =>
    obtain ⟨n, first⟩ := h a List.mem_cons_self m
    obtain ⟨k, rest⟩ := ih (fun b hb => h b (List.mem_cons_of_mem a hb)) (m.after (write a))
    refine ⟨max n k, fun total le => ⟨first total ?_, rest total ?_⟩⟩
    · exact Nat.le_trans (Nat.le_max_left n k) le
    · exact Nat.le_trans (Nat.le_max_right n k) le

end Wire

/-- Every value leaves room if the message goes on for long enough. -/
theorem WireType.exists_room {o : Bool} (t : WireType o) (a : t.Val) (m : Mark) :
    ∃ n, ∀ total, n ≤ total → t.Room total a m := by
  induction t generalizing m with
  | list t ih =>
    obtain ⟨n, elements⟩ := Along.of_eventually t.codec.write a (fun b _ m => ih b m) (m.skip 4)
    refine ⟨max (m.size + 4 + a.length) n, fun total le => ⟨fun _ => ?_, elements total ?_⟩⟩
    · exact Nat.le_trans (Nat.le_max_left _ n) le
    · exact Nat.le_trans (Nat.le_max_right _ n) le
  | option t ih =>
    cases a with
    | none => exact ⟨0, fun _ _ => nofun⟩
    | some b =>
      obtain ⟨n, value⟩ := ih b (m.skip 4)
      refine ⟨n, fun total le c hc => ?_⟩
      cases hc
      exact value total le
  | map k v ihk ihv =>
    have entry : ∀ e ∈ a.toList, ∀ m, ∃ n, ∀ total, n ≤ total →
        Room total k e.1 m ∧ Room total v e.2 (m.after (k.codec.write e.1)) := by
      intro e _ m
      obtain ⟨n, key⟩ := ihk e.1 m
      obtain ⟨n', value⟩ := ihv e.2 (m.after (k.codec.write e.1))
      refine ⟨max n n', fun total le => ⟨key total ?_, value total ?_⟩⟩
      · exact Nat.le_trans (Nat.le_max_left n n') le
      · exact Nat.le_trans (Nat.le_max_right n n') le
    obtain ⟨n, entries⟩ :=
      Along.of_eventually (k.codec.pair v.codec).write a.toList entry (m.skip 4)
    refine ⟨max (m.size + 4 + a.size) n, fun total le => ⟨fun _ => ?_, entries total ?_⟩⟩
    · exact Nat.le_trans (Nat.le_max_left _ n) le
    · exact Nat.le_trans (Nat.le_max_right _ n) le
  | _ => exact ⟨0, fun _ _ => trivial⟩

theorem WireType.exists_run_of_adds {t : WireType false} {v : t.Val} {m : Mark} {x : Payload}
    (added : (t.codec.write v).Adds m x) {objects : List Binder}
    (table : x.objects <+: objects.drop m.count) :
    ∃ tail, t.codec.read.run objects ⟨m.size, x.bytes ++ tail⟩ =
      (.ok v, ⟨m.size + x.bytes.length, tail⟩) := by
  obtain ⟨n, enough⟩ := t.exists_room v m
  let tail : List UInt8 := List.replicate n 0
  have long : n ≤ m.size + x.bytes.length + tail.length := by
    rw [List.length_replicate]
    exact Nat.le_add_left n _
  exact ⟨tail, (t.recovers added table tail).whole (enough _ long)⟩

namespace Parcel

/-- A value is written, wherever that may be, and the data is cut off somewhere within it. Then
reading the value misses data. -/
theorem read_truncated {p q r : Parcel} {t : WireType false} {v : t.Val}
    (written : p.write t v = (.ok (), q)) {n : Nat} (start : p.size ≤ n) (cut : n < q.size)
    (data : r.data = q.data.take n) (objects : q.objects <+: r.objects) :
    ∃ s, r.setPosition p.size = (.ok (), s) ∧ (s.read t).1 = .error .notEnoughData := by
  obtain ⟨x, added, grown, table⟩ := adds_of_write written
  have before : p.data.length = p.size := rfl
  have whole : q.size = p.size + x.bytes.length := by
    rw [size, grown, List.length_append, before]
  have part : r.data = p.data ++ x.bytes.take (n - p.size) := by
    rw [data, grown, List.take_append, before, List.take_of_length_le (before ▸ start)]
  have inside : p.size ≤ r.size := by
    change p.data.length ≤ r.data.length
    rw [part, List.length_append]
    exact Nat.le_add_right _ _
  have found : x.objects <+: r.objects.drop p.mark.count := by
    obtain ⟨others, all⟩ := objects
    refine ⟨others, ?_⟩
    rw [← all, table, List.append_assoc, mark_count, List.drop_left]
  obtain ⟨tail, used⟩ := WireType.exists_run_of_adds added found
  have short : n - p.size < x.bytes.length := by omega
  let s : Parcel := { r with position := p.size, position_le := inside }
  have place : s.cursor = ⟨p.size, x.bytes.take (n - p.size)⟩ := by
    change (⟨p.size, r.data.drop p.size⟩ : Cursor) = _
    rw [part, ← before, List.drop_left]
  refine ⟨s, dif_pos inside, ?_⟩
  rw [read, consume_fst, place]
  exact t.steady.run_take used short

/-- A text in a list, behind a single byte, of which all is there but the padding. -/
theorem read_truncated_padding :
    let p : Parcel := ⟨[7], [], 0, Nat.zero_le _⟩
    let t : WireType false := .list (.option .text)
    let q := (p.write t [some "hi"]).2
    let r : Parcel := ⟨q.data.take 15, q.objects, 0, Nat.zero_le _⟩
    q.size = 16 ∧ ∃ s, r.setPosition 1 = (.ok (), s) ∧ (s.read t).1 = .error .notEnoughData := by
  intro p t q r
  have written : p.write t [some "hi"] = (.ok (), q) := Prod.ext (by rfl) rfl
  have size : q.size = 16 := by decide +kernel
  have cut : 15 < q.size := size ▸ Nat.lt_succ_self 15
  exact ⟨size, read_truncated written (n := 15) (by decide) cut rfl (List.prefix_refl _)⟩

end Parcel

end ServiceBus
