import ServiceBus.Protocol
import ServiceBus.Transaction

/-!
Calls of methods. `requestVia` is the side that calls and `serve` the side that answers, each by a
table of its own. A binder that passes calls on to another is the one in front of the other.
-/
namespace ServiceBus

open Wire

namespace Bus

def publishHandler (s : Bus) (descriptor : String) (h : ServantId) : Binder × Bus :=
  match s.spawn with
  | (id, s) => (.custom id descriptor h, s)

def publish (s : Bus) {i : Interface} (p : Peer i) : Binder × Bus :=
  match s.spawn, p with
  | (id, s), .hosted servant => (.native id i servant, s)
  | (id, s), .remote c => (.relay id i c.remote, s)

end Bus

namespace Reply

/-- How an outcome is sent: a session that has no binder of its own is given a new one. -/
def present : (r : Reply) → r.Outcome → Bus → r.wire.Val × Bus
  | value _, v, s => (v, s)
  | session, .remote c, s => (c.remote, s)
  | session, .hosted servant, s =>
    s.publish (.hosted servant : Peer .tuner)

/-- How an outcome is received: the binder of a session has to be one of a tuner. -/
def accept : (r : Reply) → r.wire.Val → Bus → Except StatusCode r.Outcome × Bus
  | value _, v, s => (.ok v, s)
  | session, b, s =>
    match s.connect .tuner b with
    | (.ok c, s) => (.ok (.remote c), s)
    | (.error e, s) => (.error e, s)

end Reply

def Interface.flags (i : Interface) : UInt32 := if i.isOneWay then Transaction.oneWay else 0

def requestVia (b : Binder) (handle : Handler) {i : Interface} (m : Method i) (args : m.Args)
    (s : Bus) : Except Status m.Outcome × Bus :=
  match callVia b handle i.descriptor m.code i.flags (m.write args) s with
  | (.error status, s) => (.error status, s)
  | (.ok reply, s) =>
    match (reply.read m.reply.wire).1 with
    | .error e => (.error (.ofCode e), s)
    | .ok v =>
      match m.reply.accept v s with
      | (.error e, s) => (.error (.ofCode e), s)
      | (.ok a, s) => (.ok a, s)

/-- What the answering side writes for the outcome of a method. Nobody reads the reply of a
one-way call, so its failures go to the log. -/
def answer {i : Interface} (code : UInt32) (m : Method i) (r : Except Status m.Outcome) (s : Bus) :
    Reaction × Bus :=
  if i.isOneWay then
    match r with
    | .ok _ => (.ok .empty, s)
    | .error status =>
      (.ok .empty, s.say .debug
        ("statsd transaction " ++ toString code ++ " failed: " ++ status.render))
  else
    match r with
    | .ok a =>
      match m.reply.present a s with
      | (v, s) => (.ofWriter (.result m.reply.wire.codec (.ok v)), s)
    | .error status => (.ofWriter (.result m.reply.wire.codec (.error status)), s)

def decodeRequest (i : Interface) (code : UInt32) (request : Payload) :
    Except StatusCode ((m : Method i) × m.Args) :=
  match (Reader.enforce i.descriptor).run request.objects ⟨0, request.bytes⟩ with
  | (.error e, _) => .error e
  | (.ok _, c) =>
    match i.skeleton? code with
    | none => .error .unknownTransaction
    | some k =>
      match (Vals.codec k.types).read.run request.objects c with
      | (.error e, _) => .error e
      | (.ok args, _) => .ok ⟨k.method, k.args args⟩

/-- The answering side of an interface. The implementation is called only for a request that is
meant for it and that decodes as a whole. -/
def serve (i : Interface)
    (invoke : (m : Method i) → m.Args → Bus → Except Status m.Outcome × Bus) : Handler :=
  fun code request s =>
    match decodeRequest i code request with
    | .error e => (.fail e, s)
    | .ok ⟨m, args⟩ =>
      match invoke m args s with
      | (r, s) => answer code m r s

namespace Binder

def handler (host : Host) : Binder → Handler
  | custom _ _ h => fun code request s =>
    let a := host.handle h code request s
    (a.result, s.absorb a)
  | native _ i servant => serve i (host.run servant)
  | relay _ i remote => serve i (requestVia remote (handler host remote))

def transact (host : Host) (b : Binder) (code flags : UInt32) (fill : Writer) (s : Bus) :
    Except StatusCode Parcel × Bus :=
  transactVia b (b.handler host) code flags fill s

def call (host : Host) (b : Binder) (descriptor : String) (code flags : UInt32) (args : Writer)
    (s : Bus) : Except Status Parcel × Bus :=
  callVia b (b.handler host) descriptor code flags args s

/-- Whether the binder answers at all. -/
def ping (host : Host) (b : Binder) (s : Bus) : Except StatusCode Unit × Bus :=
  match b.transact host Transaction.ping 0 .done s with
  | (r, s) => (r.map fun _ => (), s)

def queryDescriptor (host : Host) (b : Binder) (s : Bus) : Except StatusCode String × Bus :=
  match b.transact host Transaction.describe 0 .done s with
  | (.error e, s) => (.error e, s)
  | (.ok reply, s) => ((reply.read .text).1, s)

def checkInterface (b : Binder) (descriptor : String) : Except StatusCode Unit :=
  if b.descriptor = descriptor then .ok () else .error .badType

def inspect (s : Bus) (b : Binder) : String :=
  Text.labelled "SpIBinder"
    [("descriptor", Text.quote b.descriptor), ("alive", Text.ofBool (s.isAlive b))]

end Binder

def Connection.call (host : Host) {i : Interface} (c : Connection i) (m : Method i)
    (args : m.Args) (s : Bus) : Except Status m.Outcome × Bus :=
  requestVia c.remote (c.remote.handler host) m args s

def Peer.call (host : Host) {i : Interface} (p : Peer i) (m : Method i) (args : m.Args)
    (s : Bus) : Except Status m.Outcome × Bus :=
  match p with
  | hosted servant => host.run servant m args s
  | remote c => c.call host m args s

end ServiceBus
