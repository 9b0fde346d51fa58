import ServiceBus.Binder

/-!
How a client holds an interface. A connection to a binder has an identity of its own, so that a
client can tell the connection it used from one that was made later, even to the same binder.
-/
namespace ServiceBus

/-- The way to one binder under one interface. Two connections to the same binder are told apart
by their serial numbers. -/
structure Connection (i : Interface) where
  serial : Nat
  remote : Binder
deriving DecidableEq

/-- An interface as a client holds it: a local implementation, or a connection to a binder. -/
inductive Peer (i : Interface)
  | hosted (servant : ServantId)
  | remote (connection : Connection i)
deriving DecidableEq

/-- The binder behind an interface. A local implementation has none of its own. -/
def Peer.binder? {i : Interface} : Peer i → Option Binder
  | hosted _ => none
  | remote c => some c.remote

end ServiceBus
