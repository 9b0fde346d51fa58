import ServiceBus.Interface

/-!
Binder objects. A binder stands in front of a handler of its own, of a local implementation of an
interface, or of another binder that it passes calls on to. Binders are values: whether one is
alive is a fact about the bus, kept under the binder's number.
-/
namespace ServiceBus

abbrev BinderId := Nat

/-- The number of a local implementation or of a handler. -/
abbrev ServantId := Nat

inductive Binder
  /-- A remote with a handler that sees every request as it was written. -/
  | custom (id : BinderId) (descriptor : String) (handler : ServantId)
  /-- A local implementation of an interface. -/
  | native (id : BinderId) (interface : Interface) (servant : ServantId)
  /-- A binder of an interface whose implementation is a client of another binder. -/
  | relay (id : BinderId) (interface : Interface) (remote : Binder)
deriving DecidableEq

namespace Binder

def id : Binder → BinderId
  | custom id _ _ => id
  | native id _ _ => id
  | relay id _ _ => id

def descriptor : Binder → String
  | custom _ d _ => d
  | native _ i _ => i.descriptor
  | relay _ i _ => i.descriptor

def same (a b : Binder) : Bool := a.id == b.id

end Binder

end ServiceBus
