import ServiceBus.Call
import ServiceBus.World

/-!
Handles. The first use of a handle looks its service up and keeps the connection; from then on the
connection is used, whether or not it still works, until it is dropped. A client that was told
that a connection is dead drops that one only, and keeps a newer one.
-/
namespace ServiceBus.World

variable {i : Interface}

def setCached (w : World) (r : HandleRef i) (c : Option (Connection i)) : World :=
  match w.handle? r with
  | none => w
  | some h => w.setHandle r { h with cached := c }

@[simp] theorem cached?_say (w : World) (r : HandleRef i) (l : Level) (t : String) :
    (w.say l t).cached? r = w.cached? r := rfl

theorem cached?_setCached_self (w : World) (r : HandleRef i) (c : Option (Connection i)) :
    (w.setCached r c).cached? r = (w.handle? r).bind fun _ => c := by
  unfold setCached
  cases h : w.handle? r with
  | none => simp [cached?, h]
  | some x =>
    have : r.index < (w.handles.of i).length := (List.getElem?_eq_some_iff.1 h).1
    simp [cached?, handle?, setHandle, this]

/-- The connection of a handle, made first if there is none. Nothing is kept of an attempt that
fails. -/
def resolve (host : Host) (w : World) (r : HandleRef i) : Option (Connection i) × World :=
  match w.handle? r with
  | none => (none, w)
  | some h =>
    match h.cached with
    | some c => (some c, w)
    | none =>
      match w.lookup host h.directory h.name with
      | (none, w) => (none, w.say .warn ("Service '" ++ h.name ++ "' not found"))
      | (some b, w) =>
        match w.onBus fun s => s.connect i b with
        | (.ok c, w) =>
          (some c, (w.say .debug ("Resolved service '" ++ h.name ++ "'")).setCached r (some c))
        | (.error e, w) =>
          (none, w.say .warn
            ("Service '" ++ h.name ++ "' has an unexpected interface: " ++ e.message))

def invalidate (w : World) (r : HandleRef i) : World :=
  match w.handle? r with
  | none => w
  | some h =>
    if h.cached.isSome then
      (w.setCached r none).say .debug ("Invalidated cached service '" ++ h.name ++ "'")
    else w

@[simp] theorem cached?_invalidate (w : World) (r : HandleRef i) :
    (w.invalidate r).cached? r = none := by
  unfold invalidate
  cases h : w.handle? r with
  | none => simp [cached?, h]
  | some x =>
    cases hc : x.cached with
    | none => simp [cached?, h, hc]
    | some c => simp [cached?_setCached_self, h, hc]

/-- Drops the connection of a handle if it is still the given one. -/
def invalidateIf (w : World) (r : HandleRef i) (stale : Peer i) : World :=
  match w.handle? r with
  | none => w
  | some h =>
    if h.cached.map Peer.remote = some stale then w.invalidate r
    else w.say .trace ("Cached service '" ++ h.name ++ "' was already replaced")

def isResolved (w : World) (r : HandleRef i) : Bool := (w.cached? r).isSome

end ServiceBus.World

namespace ServiceBus

def Handle.inspect {i : Interface} (h : Handle i) : String :=
  Text.labelled "ServiceHandle"
    [("name", Text.quote h.name), ("resolved", Text.ofBool h.cached.isSome)]

end ServiceBus
