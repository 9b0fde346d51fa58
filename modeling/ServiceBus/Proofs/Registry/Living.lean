import ServiceBus.World

/-!
The living part of a table of services. It is all that a look-up can see, and it is what remains the
same when a dead entry is removed.
-/
namespace ServiceBus

/-- The entries of a table of which the binder is alive. -/
def living (services : TextMap Binder) (alive : Binder → Bool) : TextMap Binder :=
  services.filter fun _ b => alive b

/-- Every binder of a table has come into being. -/
def Known (services : TextMap Binder) (s : Bus) : Prop :=
  ∀ (name : String) (b : Binder), services[name]? = some b → b.id < s.live.length

section

variable {services : TextMap Binder} {alive alive' : Binder → Bool} {name : String} {b : Binder}

theorem getElem?_living (services : TextMap Binder) (alive : Binder → Bool) (name : String) :
    (living services alive)[name]? = services[name]?.filter alive :=
  Std.ExtTreeMap.getElem?_filter'

@[simp] theorem living_empty (alive : Binder → Bool) : living ∅ alive = ∅ := by
  ext name : 1
  simp [getElem?_living]

theorem living_erase (found : services[name]? = some b) (dead : alive b = false) :
    living (services.erase name) alive = living services alive := by
  ext other : 1
  rw [getElem?_living, getElem?_living, Std.ExtTreeMap.getElem?_erase]
  split
  · next same =>
    cases Std.LawfulEqCmp.eq_of_compare same
    rw [found, Option.filter_some, dead]
    rfl
  · rfl

theorem living_insert (living_b : alive b = true) :
    living (services.insert name b) alive = (living services alive).insert name b := by
  ext other : 1
  rw [getElem?_living, Std.ExtTreeMap.getElem?_insert, Std.ExtTreeMap.getElem?_insert,
    getElem?_living]
  split
  · rw [Option.filter_some, living_b]
    rfl
  · rfl

theorem living_congr
    (h : ∀ (name : String) (b : Binder), services[name]? = some b → alive' b = alive b) :
    living services alive' = living services alive := by
  ext name : 1
  rw [getElem?_living, getElem?_living]
  cases found : services[name]? with
  | none => rfl
  | some b => rw [Option.filter_some, Option.filter_some, h name b found]

/-- What is still living of a table when some of the binders have died. -/
theorem living_and (services : TextMap Binder) (alive rest : Binder → Bool) :
    living services (fun b => alive b && rest b) = living (living services alive) rest := by
  ext name : 1
  rw [getElem?_living, getElem?_living, getElem?_living, Option.filter_filter]

end

variable {services services' : TextMap Binder} {s : Bus}

theorem Known.erase (h : Known services s) (name : String) : Known (services.erase name) s := by
  intro other b found
  rw [Std.ExtTreeMap.getElem?_erase] at found
  split at found
  · cases found
  · exact h other b found

theorem Bus.lt_length_of_isAlive {b : Binder} (alive : s.isAlive b = true) :
    b.id < s.live.length := by
  refine Nat.lt_of_not_le fun outside => ?_
  rw [Bus.isAlive, List.getD_eq_getElem?_getD, List.getElem?_eq_none outside] at alive
  cases alive

theorem Known.insert (h : Known services s) {b : Binder} (alive : s.isAlive b = true)
    (name : String) : Known (services.insert name b) s := by
  intro other d found
  rw [Std.ExtTreeMap.getElem?_insert] at found
  split at found
  · cases found
    exact Bus.lt_length_of_isAlive alive
  · exact h other d found

theorem known_empty (s : Bus) : Known ∅ s := by
  intro name b found
  simp at found

theorem Known.mono (h : Known services s) {s' : Bus} (more : s.live.length ≤ s'.live.length) :
    Known services s' := fun name b found => Nat.lt_of_lt_of_le (h name b found) more

theorem living_kill (b : Binder)
    (same : living services s.isAlive = living services' s.isAlive) :
    living services (s.kill b).isAlive = living services' (s.kill b).isAlive := by
  have split : (s.kill b).isAlive = fun d => s.isAlive d && b.id != d.id :=
    funext fun d => s.isAlive_kill b d
  rw [split, living_and, living_and, same]

theorem living_spawn (known : Known services s) :
    living services s.spawn.2.isAlive = living services s.isAlive := by
  have live : s.spawn.2.live = s.live ++ [true] := rfl
  refine living_congr fun name b found => ?_
  have inside : b.id < s.live.length := known name b found
  rw [Bus.isAlive, Bus.isAlive, live, List.getD_eq_getElem?_getD, List.getD_eq_getElem?_getD,
    List.getElem?_append_left inside]

end ServiceBus
