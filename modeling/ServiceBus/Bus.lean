import ServiceBus.Method

/-!
The state of the bus: which binders are alive, and what has happened. Binders and connections are
numbered as they come into being. What happened is kept in two lists that only grow: the events,
which tell who was called with what, and the log, which is text.
-/
namespace ServiceBus

open Wire

inductive Level
  | error
  | warn
  | info
  | debug
  | trace
deriving DecidableEq

def Level.name : Level → String
  | error => "ERROR"
  | warn => "WARN"
  | info => "INFO"
  | debug => "DEBUG"
  | trace => "TRACE"

structure LogRecord where
  level : Level
  text : String
deriving DecidableEq

/-- Where services are looked up by name. -/
inductive Directory
  | registry (id : Nat)
  | custom (id : Nat)
deriving DecidableEq

inductive Event
  /-- The request of a transaction was filled in. -/
  | filled (target : Binder) (code : UInt32)
  /-- The handler of a binder was given a request. -/
  | handled (target : Binder) (code : UInt32) (request : Payload)
  /-- A method of a local implementation was called. -/
  | invoked (servant : ServantId) {i : Interface} (method : Method i) (args : method.Args)
  /-- A service was looked up. -/
  | lookedUp (directory : Directory) (name : String) (found : Option Binder)

structure Bus where
  live : List Bool
  connections : Nat
  events : List Event
  log : List LogRecord

namespace Bus

def empty : Bus := ⟨[], 0, [], []⟩

def isAlive (s : Bus) (b : Binder) : Bool := s.live.getD b.id false

def record (s : Bus) (e : Event) : Bus := { s with events := s.events ++ [e] }

def say (s : Bus) (level : Level) (text : String) : Bus :=
  { s with log := s.log ++ [⟨level, text⟩] }

/-- The number of a new binder, which is alive. -/
def spawn (s : Bus) : BinderId × Bus := (s.live.length, { s with live := s.live ++ [true] })

/-- The death of a binder cannot be undone. -/
def kill (s : Bus) (b : Binder) : Bus :=
  let s := s.say .debug ("Binder for " ++ b.descriptor ++ " killed")
  { s with live := s.live.set b.id false }

/-- A new connection to a binder, which has to answer to the interface. -/
def connect (s : Bus) (i : Interface) (b : Binder) : Except StatusCode (Connection i) × Bus :=
  if b.descriptor = i.descriptor then
    (.ok ⟨s.connections, b⟩, { s with connections := s.connections + 1 })
  else
    (.error .badType, s)

@[simp] theorem record_live (s : Bus) (e : Event) : (s.record e).live = s.live := rfl
@[simp] theorem record_connections (s : Bus) (e : Event) :
    (s.record e).connections = s.connections := rfl
@[simp] theorem record_events (s : Bus) (e : Event) : (s.record e).events = s.events ++ [e] := rfl
@[simp] theorem say_live (s : Bus) (l : Level) (t : String) : (s.say l t).live = s.live := rfl
@[simp] theorem say_connections (s : Bus) (l : Level) (t : String) :
    (s.say l t).connections = s.connections := rfl
@[simp] theorem say_events (s : Bus) (l : Level) (t : String) : (s.say l t).events = s.events := rfl
@[simp] theorem kill_events (s : Bus) (b : Binder) : (s.kill b).events = s.events := rfl
@[simp] theorem kill_connections (s : Bus) (b : Binder) :
    (s.kill b).connections = s.connections := rfl
@[simp] theorem kill_live (s : Bus) (b : Binder) : (s.kill b).live = s.live.set b.id false := rfl

@[simp] theorem isAlive_record (s : Bus) (e : Event) (b : Binder) :
    (s.record e).isAlive b = s.isAlive b := rfl
@[simp] theorem isAlive_say (s : Bus) (l : Level) (t : String) (b : Binder) :
    (s.say l t).isAlive b = s.isAlive b := rfl

theorem isAlive_congr {s s' : Bus} (h : s'.live = s.live) (b : Binder) :
    s'.isAlive b = s.isAlive b := by
  rw [isAlive, isAlive, h]

theorem isAlive_kill (s : Bus) (a b : Binder) :
    (s.kill a).isAlive b = (s.isAlive b && a.id != b.id) := by
  simp only [isAlive, kill_live, List.getD_eq_getElem?_getD, List.getElem?_set]
  by_cases h : a.id = b.id
  · by_cases hl : b.id < s.live.length <;> simp [h, hl]
  · simp [h]

end Bus

end ServiceBus
