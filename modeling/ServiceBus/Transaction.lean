import ServiceBus.Host
import ServiceBus.Parcel

/-!
Transactions. A binder that is alive is given a request and answers with a reply; a caller of a
one-way transaction is told nothing of how it went. What the binder does with the request is its
handler, of which nothing is assumed here.
-/
namespace ServiceBus

open Wire

namespace Transaction

def packed (a b c d : Char) : UInt32 :=
  a.val <<< 24 ||| b.val <<< 16 ||| c.val <<< 8 ||| d.val

def firstCall : UInt32 := 1
def lastCall : UInt32 := 0x00ffffff

/-- Asks whether the binder is there. -/
def ping : UInt32 := packed '_' 'P' 'N' 'G'

/-- Asks for the binder's descriptor. -/
def describe : UInt32 := packed '_' 'N' 'T' 'F'

/-- The bit of the flags that says that the caller does not wait. -/
def oneWay : UInt32 := 1

def isOneWay (flags : UInt32) : Bool := flags &&& oneWay != 0

end Transaction

abbrev Handler := UInt32 → Payload → Bus → Reaction × Bus

namespace Reaction

def ok (reply : Payload) : Reaction := ⟨.ok (), reply⟩

/-- Fails before anything is written. -/
def fail (e : StatusCode) : Reaction := ⟨.error e, .empty⟩

def ofWriter (w : Writer) : Reaction :=
  match w.run 0 0 with
  | (r, p) => ⟨r, p⟩

end Reaction

/-- The two codes that every binder answers by itself, and its handler for all others. -/
def dispatch (b : Binder) (handle : Handler) : Handler := fun code request s =>
  if code = Transaction.ping then (.ok .empty, s)
  else if code = Transaction.describe then (.ofWriter (Codec.text.write b.descriptor), s)
  else handle code request (s.record (.handled b code request))

/-- One transaction. The request is filled in only if the binder is alive, and handed over only if
filling it in went well. -/
def transactVia (b : Binder) (handle : Handler) (code flags : UInt32) (fill : Writer) (s : Bus) :
    Except StatusCode Parcel × Bus :=
  if !s.isAlive b then (.error .deadObject, s)
  else
    let s := s.record (.filled b code)
    match fill.run 0 0 with
    | (.error e, _) => (.error e, s)
    | (.ok _, request) =>
      match dispatch b handle code request s with
      | (reaction, s) =>
        if Transaction.isOneWay flags then
          match reaction.result with
          | .ok _ => (.ok .empty, s)
          | .error e =>
            (.ok .empty, s.say .debug ("oneway transaction " ++ toString code ++ " on " ++
              b.descriptor ++ " failed: " ++ e.message))
        else
          match reaction.result with
          | .error e => (.error e, s)
          | .ok _ =>
            if s.isAlive b then (.ok (.ofPayload reaction.reply), s)
            else (.error .deadObject, s)

/-- A transaction of an interface: the request starts with the interface's descriptor, and the
reply to a caller that waits with a status. -/
def callVia (b : Binder) (handle : Handler) (descriptor : String) (code flags : UInt32)
    (args : Writer) (s : Bus) : Except Status Parcel × Bus :=
  match transactVia b handle code flags (.token descriptor ++ args) s with
  | (.error e, s) => (.error (.ofCode e), s)
  | (.ok reply, s) =>
    if Transaction.isOneWay flags then (.ok reply, s)
    else
      match reply.read .status with
      | (.error e, _) => (.error (.ofCode e), s)
      | (.ok status, reply) => if status.isOk then (.ok reply, s) else (.error status, s)

end ServiceBus
