import ServiceBus.Bus

/-!
Services by name. A name that is registered again stands for the new binder. Dead binders are
never handed out: a look-up that meets one removes it, which no later look-up can tell.
-/
namespace ServiceBus

structure Registry where
  services : TextMap Binder

namespace Registry

def empty : Registry := ⟨∅⟩

/-- The live binder that is registered under a name. -/
def find? (r : Registry) (s : Bus) (name : String) : Option Binder :=
  r.services[name]?.filter s.isAlive

/-- A service needs a name and has to be alive. -/
def add (r : Registry) (name : String) (b : Binder) (s : Bus) :
    Except StatusCode Unit × Registry × Bus :=
  if name.isEmpty || !s.isAlive b then (.error .badValue, r, s)
  else
    (.ok (), ⟨r.services.insert name b⟩,
      if r.services.contains name then
        s.say .info ("Replacing registration for service '" ++ name ++ "'")
      else s)

/-- Looks a name up, and removes what is found dead. -/
def check (r : Registry) (name : String) (s : Bus) : Option Binder × Registry × Bus :=
  match r.services[name]? with
  | none => (none, r, s)
  | some b =>
    if s.isAlive b then (some b, r, s)
    else
      (none, ⟨r.services.erase name⟩,
        s.say .debug ("Dropping dead registration for service '" ++ name ++ "'"))

/-- What a look-up answers does not depend on what it removes. -/
theorem check_fst (r : Registry) (name : String) (s : Bus) :
    (r.check name s).1 = r.find? s name := by
  unfold check find?
  cases r.services[name]? with
  | none => rfl
  | some b => by_cases h : s.isAlive b <;> simp [h, Option.filter]

theorem check_live (r : Registry) (name : String) (s : Bus) :
    (r.check name s).2.2.live = s.live := by
  unfold check
  split
  · rfl
  · split <;> rfl

theorem check_events (r : Registry) (name : String) (s : Bus) :
    (r.check name s).2.2.events = s.events := by
  unfold check
  split
  · rfl
  · split <;> rfl

theorem add_events (r : Registry) (name : String) (b : Binder) (s : Bus) :
    (r.add name b s).2.2.events = s.events := by
  unfold add
  split
  · rfl
  · dsimp only
    split <;> rfl

/-- Looks a name up once the time to wait for it is over. -/
def wait (r : Registry) (name : String) (s : Bus) : Option Binder := r.find? s name

def names (r : Registry) (s : Bus) : List String :=
  (r.services.toList.filter fun e => s.isAlive e.2).map Prod.fst

def isDeclared (r : Registry) (name : String) (s : Bus) : Bool × Registry × Bus :=
  match r.check name s with
  | (b, r, s) => (b.isSome, r, s)

def getInterface (r : Registry) (i : Interface) (name : String) (s : Bus) :
    Except StatusCode (Connection i) × Registry × Bus :=
  match r.check name s with
  | (none, r, s) => (.error .nameNotFound, r, s)
  | (some b, r, s) =>
    match s.connect i b with
    | (c, s) => (c, r, s)

end Registry

end ServiceBus
