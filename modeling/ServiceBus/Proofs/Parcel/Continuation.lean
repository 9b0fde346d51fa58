import ServiceBus.Proofs.Parcel.Reading

/-!
Messages that go on. A length is checked against all the bytes that are left, so that what stands
behind a value is looked at in reading it; but more of it changes nothing. A read that came to an
end, or failed for another reason than missing data, does just the same in a longer message.
-/
namespace ServiceBus.Parcel

open Wire

attribute [ext] Parcel

variable {α : Type}

def extend (p : Parcel) (more : List UInt8) : Parcel := (p.append (.bytes more)).2

@[simp] theorem extend_data (p : Parcel) (more : List UInt8) :
    (p.extend more).data = p.data ++ more := rfl
@[simp] theorem extend_position (p : Parcel) (more : List UInt8) :
    (p.extend more).position = p.position := rfl
@[simp] theorem extend_objects (p : Parcel) (more : List UInt8) :
    (p.extend more).objects = p.objects := List.append_nil _
@[simp] theorem extend_size (p : Parcel) (more : List UInt8) :
    (p.extend more).size = p.size + more.length := List.length_append

@[simp] theorem cursor_extend (p : Parcel) (more : List UInt8) :
    (p.extend more).cursor = p.cursor.extend more := by
  rw [cursor, extend_data, extend_position, List.drop_append_of_le_length p.position_le]
  rfl

/-- Unless it misses data, a reader can be run before more bytes are added or after. -/
theorem consume_extend {r : Reader α} (h : r.Steady) {p q : Parcel} {x : Except StatusCode α}
    (read : p.consume r = (x, q)) (enough : x ≠ .error .notEnoughData) (more : List UInt8) :
    (p.extend more).consume r = (x, q.extend more) := by
  rcases ran : r.run p.objects p.cursor with ⟨y, stop⟩
  rw [consume_of_run ran] at read
  cases read
  have longer : r.run (p.extend more).objects (p.extend more).cursor = (x, stop.extend more) := by
    have either := h.longer p.objects p.cursor more
    rw [ran] at either
    rw [extend_objects, cursor_extend]
    exact either.resolve_left enough
  rw [consume_of_run longer]
  -- As many bytes are left behind the added ones as before them, so that the position is the same.
  refine congrArg (Prod.mk x) (Parcel.ext rfl ?_ ?_)
  · rw [extend_objects, extend_objects]
  · show (p.extend more).size - (stop.rest ++ more).length = p.size - stop.rest.length
    rw [extend_size, List.length_append]
    omega

/-- What stands behind a value does not change how it is read. Whatever a parcel holds, and wherever
reading starts in it: a read that gives a value gives the same value in the parcel with more bytes
at its end, and stops at the same place; and one that fails, but not for missing data, fails there
for the same reason and at the same place. -/
theorem read_extend (t : WireType false) (p q : Parcel) (more : List UInt8) :
    (∀ v, p.read t = (.ok v, q) → (p.extend more).read t = (.ok v, q.extend more)) ∧
      ∀ e, p.read t = (.error e, q) → e ≠ .notEnoughData →
        (p.extend more).read t = (.error e, q.extend more) := by
  refine ⟨fun v read => ?_, fun e read other => ?_⟩
  · exact consume_extend t.steady read nofun more
  · exact consume_extend t.steady read (fun missing => other (Except.error.inj missing)) more

/-- Three units, which are read only because three bytes stand behind their number, though none of
them is used; and a number that stands for no band. -/
theorem read_extend_units :
    let p : Parcel := ⟨[7, 7, 7, 7, 3, 0, 0, 0, 8, 8, 8], [], 4, by decide⟩
    let p' : Parcel := ⟨[1, 0, 0, 0, 99, 0, 0, 0], [], 0, by decide⟩
    ∃ q q', p.read (.list .unit) = (.ok [(), (), ()], q) ∧ q.position = 8 ∧
      (p.extend [9]).read (.list .unit) = (.ok [(), (), ()], q.extend [9]) ∧
      p'.read (.list .band) = (.error .badValue, q') ∧ q'.position = 8 ∧
      (p'.extend [1, 0]).read (.list .band) = (.error .badValue, q'.extend [1, 0]) := by
  intro p p'
  have value : (p.read (.list .unit)).1 = .ok [(), (), ()] := by
    unfold p
    rfl
  have failure : (p'.read (.list .band)).1 = .error .badValue := rfl
  have read : p.read (.list .unit) = (.ok [(), (), ()], (p.read (.list .unit)).2) :=
    Prod.ext value rfl
  have failed : p'.read (.list .band) = (.error .badValue, (p'.read (.list .band)).2) :=
    Prod.ext failure rfl
  exact ⟨_, _, read, by decide +kernel, (read_extend _ _ _ [9]).1 _ read, failed, by decide +kernel,
    (read_extend _ _ _ [1, 0]).2 _ failed nofun⟩

end ServiceBus.Parcel
