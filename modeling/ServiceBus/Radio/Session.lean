import ServiceBus.Handle
import ServiceBus.Radio.Operation

/-!
An open tuner. Once it is closed it never asks the tuner again; until then every operation asks it
at most once. A tuner that cannot be reached also costs the connection through which it was
opened, unless the handle has a newer one by then.
-/
namespace ServiceBus

structure Session where
  tuner : Peer .tuner
  closed : Bool
  /-- The band of the last configuration that the tuner accepted. -/
  band : Option Band
  /-- The handle and the connection that the tuner was opened through. -/
  openedThrough : Option (HandleRef .radio × Connection .radio)

namespace Session

/-- A session that belongs to no handle. -/
def ofTuner (tuner : Peer .tuner) (band : Option Band) : Session := ⟨tuner, false, band, none⟩

def invalidateService (x : Session) (w : World) : World :=
  match x.openedThrough with
  | some (r, c) => w.invalidateIf r (.remote c)
  | none => w

def report (w : World) : Option String → World
  | some text => w.say .error text
  | none => w

variable {s : Surface} {t : WireType false}

def fail (x : Session) (op : Operation s t) (status : Status) (w : World) :
    Except s.Failure t.Val × World :=
  let kind := status.failureKind.getD .other
  let w := report w (op.complaint? kind status)
  if kind = .unreachable then
    let w := x.invalidateService w
    match op.withoutTuner? with
    | some v => (.ok v, w)
    | none => (.error (op.failure kind status), w)
  else (.error (op.failure kind status), w)

def perform (host : Host) (x : Session) (op : Operation s t) (w : World) :
    Except s.Failure t.Val × Session × World :=
  if x.closed then
    match op.withoutTuner? with
    | some v => (.ok v, x, w)
    | none =>
      (.error s.closed, x,
        if op.reportsClosed then w.say .debug ("Can't " ++ op.label ++ ": tuner is closed")
        else w)
  else
    match op.request x.band with
    | .error refusal => (.error refusal.failure, x, report w refusal.complaint)
    | .ok request =>
      match w.onBus (x.tuner.call host request.method request.args) with
      | (.ok a, w) => (.ok (request.result a), { x with band := op.bandAfter x.band }, w)
      | (.error status, w) =>
        match x.fail op status w with
        | (r, w) => (r, x, w)

/-- Releases the tuner. The tuner is told once, whatever becomes of that. -/
def close (host : Host) (x : Session) (w : World) : Session × World :=
  if x.closed then (x, w.say .trace "Tuner is already closed")
  else
    ({ x with closed := true },
      match w.onBus (x.tuner.call host .close ()) with
      | (.ok _, w) => w
      | (.error status, w) =>
        let w := w.say .error ("Exception trying to close tuner: " ++ status.render)
        if status.isUnreachable then x.invalidateService w else w)

@[simp] theorem close_fst_closed (host : Host) (x : Session) (w : World) :
    (x.close host w).1.closed = true := by
  unfold close
  by_cases h : x.closed <;> simp [h]

theorem close_of_closed (host : Host) (x : Session) (w : World) (h : x.closed = true) :
    x.close host w = (x, w.say .trace "Tuner is already closed") := by
  simp [close, h]

end Session

end ServiceBus
