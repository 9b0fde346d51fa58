import ServiceBus.Parcel
import ServiceBus.Proofs.Wire.Reading

/-!
Reading from a parcel that may hold anything. Each read starts where the one before stopped, so that
reading several values is one reader after the other.
-/
namespace ServiceBus.Parcel

open Wire

variable {α β : Type}

theorem cursor_consume {r : Reader α} (h : r.Steady) (p : Parcel) :
    (p.consume r).2.cursor = (r.run p.objects p.cursor).2 := by
  obtain ⟨n, hn, hc⟩ := h.forward p.objects p.cursor
  have hp := p.position_le
  have hr : (p.data.drop p.position).length = p.data.length - p.position := List.length_drop
  simp only [cursor, hr] at hn
  have hpos : p.size - (p.cursor.advance n).rest.length = p.position + n := by
    simp only [cursor, Cursor.advance, List.length_drop, size]
    omega
  rw [hc]
  simp only [consume, hc]
  simp only [cursor] at hpos ⊢
  rw [hpos, Cursor.advance, List.drop_drop]

theorem malformed_of_consume {r : Reader α} (h : r.Steady) {p q : Parcel} {e : StatusCode}
    (hr : p.consume r = (.error e, q)) : Malformed e := by
  have hx : (r.run p.objects p.cursor).1 = .error e := congrArg Prod.fst hr
  exact h.fails (Prod.ext hx rfl)

theorem consume_of_run {r : Reader α} {p : Parcel} {x : Except StatusCode α} {c : Cursor}
    (h : r.run p.objects p.cursor = (x, c)) :
    p.consume r =
      (x, { p with position := p.size - c.rest.length, position_le := Nat.sub_le _ _ }) := by
  simp only [consume, h]

theorem consume_of_stays {r : Reader α} {p : Parcel} {x : Except StatusCode α}
    (h : r.run p.objects p.cursor = (x, p.cursor)) : p.consume r = (x, p) := by
  have hp := p.position_le
  have hpos : p.size - p.cursor.rest.length = p.position := by
    rw [cursor, List.length_drop, size]
    omega
  rw [consume_of_run h]
  simp only [hpos]

theorem consume_pure (a : α) (p : Parcel) : p.consume (pure a) = (.ok a, p) := consume_of_stays rfl

theorem consume_fail (e : StatusCode) (p : Parcel) :
    p.consume (.fail e : Reader α) = (.error e, p) := consume_of_stays rfl

theorem consume_bind {r : Reader α} (h : r.Steady) (f : α → Reader β) (p : Parcel) :
    p.consume (r >>= f) =
      match p.consume r with
      | (.ok a, q) => q.consume (f a)
      | (.error e, q) => (.error e, q) := by
  have hc := p.cursor_consume h
  rcases hr : r.run p.objects p.cursor with ⟨e | a, c⟩
  all_goals
    rw [hr] at hc
    have hp := consume_of_run hr
    rcases hq : p.consume r with ⟨x, q⟩
    rw [hq] at hc hp
    cases hp
    dsimp only at hc ⊢
  · exact consume_of_run (by rw [Reader.run_bind, hr])
  · rcases hf : (f a).run p.objects c with ⟨x, d⟩
    have hb : (r >>= f).run p.objects p.cursor = (x, d) := by
      rw [Reader.run_bind, hr]
      exact hf
    rw [consume_of_run hb, consume_of_run (x := x) (c := d) (by rw [hc, hf])]
    rfl

theorem consume_bind_eq_ok {p q : Parcel} {r : Reader α} (h : r.Steady) {f : α → Reader β} {b : β} :
    p.consume (r >>= f) = (.ok b, q) ↔
      ∃ a p', p.consume r = (.ok a, p') ∧ p'.consume (f a) = (.ok b, q) := by
  rw [consume_bind h]
  rcases p.consume r with ⟨e | a, p'⟩
  · simp
  · constructor
    · exact fun hb => ⟨a, p', rfl, hb⟩
    · rintro ⟨_, _, ⟨⟩, hb⟩
      exact hb

theorem consume_map_eq_ok {p q : Parcel} {r : Reader α} (h : r.Steady) {f : α → β} {b : β} :
    p.consume (r >>= fun a => pure (f a)) = (.ok b, q) ↔
      ∃ a, p.consume r = (.ok a, q) ∧ f a = b := by
  simp only [consume_bind_eq_ok h, consume_pure, Prod.mk.injEq, Except.ok.injEq]
  constructor
  · rintro ⟨a, _, read, made, rfl⟩
    exact ⟨a, read, made⟩
  · rintro ⟨a, read, made⟩
    exact ⟨a, q, read, made, rfl⟩

def readVals (p : Parcel) : (ts : List (WireType false)) → Except StatusCode (Vals ts) × Parcel
  | [] => (.ok (), p)
  | t :: ts =>
    match p.read t with
    | (.error e, p) => (.error e, p)
    | (.ok v, p) =>
      match p.readVals ts with
      | (.error e, p) => (.error e, p)
      | (.ok vs, p) => (.ok (v, vs), p)

theorem consume_vals (p : Parcel) (ts : List (WireType false)) :
    p.consume (Vals.codec ts).read = p.readVals ts := by
  induction ts generalizing p with
  | nil => exact p.consume_pure ()
  | cons t ts ih =>
    refine (consume_bind t.steady
      (fun v => (Vals.codec ts).read >>= fun vs => pure (v, vs)) p).trans ?_
    rw [readVals, read]
    rcases p.consume t.codec.read with ⟨e | v, q⟩
    · rfl
    · refine (consume_bind (Vals.steady ts) (fun vs => pure (v, vs)) q).trans ?_
      rw [ih]
      dsimp only
      rcases q.readVals ts with ⟨e | vs, q'⟩
      · rfl
      · exact q'.consume_pure (v, vs)

end ServiceBus.Parcel
