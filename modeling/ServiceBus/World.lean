import ServiceBus.Host
import ServiceBus.Registry

/-!
The bus together with what its clients share: the registries, and the handles through which
services are reached. A handle belongs to one interface and keeps the connection it last made.
-/
namespace ServiceBus

structure Handle (i : Interface) where
  name : String
  directory : Directory
  cached : Option (Connection i)

structure HandleRef (i : Interface) where
  index : Nat
deriving DecidableEq

structure Handles where
  tuner : List (Handle .tuner)
  radio : List (Handle .radio)
  stats : List (Handle .stats)

namespace Handles

def empty : Handles := ⟨[], [], []⟩

def of (h : Handles) : (i : Interface) → List (Handle i)
  | .tuner => h.tuner
  | .radio => h.radio
  | .stats => h.stats

def put (h : Handles) : (i : Interface) → List (Handle i) → Handles
  | .tuner, l => { h with tuner := l }
  | .radio, l => { h with radio := l }
  | .stats, l => { h with stats := l }

@[simp] theorem of_put (h : Handles) (i : Interface) (l : List (Handle i)) :
    (h.put i l).of i = l := by
  cases i <;> rfl

theorem of_put_of_ne (h : Handles) {i j : Interface} (l : List (Handle i)) (ne : j ≠ i) :
    (h.put i l).of j = h.of j := by
  cases i <;> cases j <;> first | rfl | exact absurd rfl ne

end Handles

structure World where
  bus : Bus
  registries : List Registry
  handles : Handles

namespace World

variable {α : Type} {i : Interface}

/-- The registry that serves everyone who does not name another. -/
def sharedRegistry : Nat := 0

def empty : World := ⟨.empty, [.empty], .empty⟩

def addRegistry (w : World) : Nat × World :=
  (w.registries.length, { w with registries := w.registries ++ [.empty] })

def registry (w : World) (id : Nat) : Registry := w.registries.getD id .empty

def onRegistry (w : World) (id : Nat) (f : Registry → Bus → α × Registry × Bus) : α × World :=
  match f (w.registry id) w.bus with
  | (a, r, s) => (a, { w with bus := s, registries := w.registries.set id r })

def onBus (w : World) (f : Bus → α × Bus) : α × World :=
  match f w.bus with
  | (a, s) => (a, { w with bus := s })

def say (w : World) (level : Level) (text : String) : World :=
  { w with bus := w.bus.say level text }

def addHandle (w : World) (i : Interface) (name : String) (directory : Directory) :
    HandleRef i × World :=
  let l := w.handles.of i
  (⟨l.length⟩, { w with handles := w.handles.put i (l ++ [⟨name, directory, none⟩]) })

def handle? (w : World) (r : HandleRef i) : Option (Handle i) := (w.handles.of i)[r.index]?

def setHandle (w : World) (r : HandleRef i) (h : Handle i) : World :=
  { w with handles := w.handles.put i ((w.handles.of i).set r.index h) }

/-- The connection that a handle has at hand. -/
def cached? (w : World) (r : HandleRef i) : Option (Connection i) :=
  (w.handle? r).bind Handle.cached

@[simp] theorem say_handles (w : World) (l : Level) (t : String) :
    (w.say l t).handles = w.handles := rfl
@[simp] theorem handle?_say (w : World) (r : HandleRef i) (l : Level) (t : String) :
    (w.say l t).handle? r = w.handle? r := rfl
@[simp] theorem onBus_handles (w : World) (f : Bus → α × Bus) :
    (w.onBus f).2.handles = w.handles := rfl
@[simp] theorem onRegistry_handles (w : World) (id : Nat)
    (f : Registry → Bus → α × Registry × Bus) : (w.onRegistry id f).2.handles = w.handles := rfl

def lookup (host : Host) (w : World) (directory : Directory) (name : String) :
    Option Binder × World :=
  match directory with
  | .registry id =>
    match w.onRegistry id fun r s => r.check name s with
    | (b, w) => (b, { w with bus := w.bus.record (.lookedUp directory name b) })
  | .custom id =>
    let b := host.lookup id name w.bus
    (b, { w with bus := w.bus.record (.lookedUp directory name b) })

/-- A look-up in the shared registry that complains about a name it does not find. -/
def getService (w : World) (name : String) : Option Binder × World :=
  match w.onRegistry sharedRegistry fun r s => r.check name s with
  | (none, w) => (none, w.say .warn ("Service '" ++ name ++ "' is not registered"))
  | (some b, w) => (some b, w)

end World

end ServiceBus
