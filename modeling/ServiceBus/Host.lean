import ServiceBus.Bus

/-!
What stands behind the binders. A host says how local implementations, handlers and lookups
behave: each answer is a function of the call and of all that happened on the bus before, and may
have killed binders or made new ones.
-/
namespace ServiceBus

open Wire

structure Answer (α : Type) where
  result : α
  /-- How many binders came into being meanwhile. -/
  spawned : Nat
  killed : List Binder

/-- What a handler leaves behind: how it ended, and what it wrote to the reply. -/
structure Reaction where
  result : Except StatusCode Unit
  reply : Payload

structure Host where
  invoke : ServantId → {i : Interface} → (m : Method i) → m.Args → Bus →
    Answer (Except Status m.Outcome)
  handle : ServantId → UInt32 → Payload → Bus → Answer Reaction
  lookup : Nat → String → Bus → Option Binder

namespace Bus

def absorb {α : Type} (s : Bus) (a : Answer α) : Bus :=
  a.killed.foldl kill { s with live := s.live ++ List.replicate a.spawned true }

end Bus

namespace Host

def run (host : Host) (servant : ServantId) {i : Interface} (m : Method i) (args : m.Args)
    (s : Bus) : Except Status m.Outcome × Bus :=
  let s := s.record (.invoked servant m args)
  let a := host.invoke servant m args s
  (a.result, s.absorb a)

end Host

end ServiceBus
