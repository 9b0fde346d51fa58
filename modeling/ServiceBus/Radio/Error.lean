import ServiceBus.Status.Basic

/-!
Failures of the radio operations. Older operations fail with a `RadioStatus`, newer ones with a
`TunerError`, which keeps the status of the call it came from as its cause.
-/
namespace ServiceBus

inductive RadioStatus
  | error
  | permissionDenied
  | noInit
  | badValue
  | deadObject
  | invalidOperation
  | timedOut
deriving DecidableEq

namespace RadioStatus

def raw : RadioStatus → Int32
  | error => -2147483648
  | permissionDenied => -1
  | noInit => -19
  | badValue => -22
  | deadObject => -32
  | invalidOperation => -38
  | timedOut => -110

def okRaw : Int32 := 0

/-- A raw number as the outcome of an operation; one that names nothing is an `error`. -/
def resultOfRaw (n : Int32) : Except RadioStatus Unit :=
  if n = okRaw then .ok ()
  else .error <|
    ([permissionDenied, noInit, badValue, deadObject, invalidOperation, timedOut].find?
      fun s => s.raw == n).getD error

def rawOfResult {α : Type} : Except RadioStatus α → Int32
  | .ok _ => okRaw
  | .error s => s.raw

@[simp] theorem resultOfRaw_raw (s : RadioStatus) : resultOfRaw s.raw = .error s := by
  cases s <;> rfl

def name : RadioStatus → String
  | error => "Error"
  | permissionDenied => "PermissionDenied"
  | noInit => "NoInit"
  | badValue => "BadValue"
  | deadObject => "DeadObject"
  | invalidOperation => "InvalidOperation"
  | timedOut => "TimedOut"

def message : RadioStatus → String
  | error => "error"
  | permissionDenied => "permission denied"
  | noInit => "not initialized"
  | badValue => "bad value"
  | deadObject => "dead object"
  | invalidOperation => "invalid operation"
  | timedOut => "timed out"

end RadioStatus

inductive TunerError
  | invalidArgument (reason : String)
  | illegalState (reason : String)
  | closed
  | serviceDied (cause : Status)
  | remote (cause : Status)
deriving DecidableEq

namespace TunerError

def name : TunerError → String
  | invalidArgument _ => "InvalidArgument"
  | illegalState _ => "IllegalState"
  | closed => "Closed"
  | serviceDied _ => "ServiceDied"
  | remote _ => "Remote"

def message : TunerError → String
  | invalidArgument reason => "invalid argument: " ++ reason
  | illegalState reason => "illegal state: " ++ reason
  | closed => "tuner is closed"
  | serviceDied _ => "service died"
  | remote _ => "remote failure"

def cause : TunerError → Option Status
  | serviceDied s => some s
  | remote s => some s
  | _ => none

end TunerError

end ServiceBus
