/-!
Exception codes head the reply to a call. Besides the exceptions a service can raise there are
three codes with a meaning of their own: none, an error particular to the service, and a
transaction that did not complete.
-/
namespace ServiceBus

/-- What a service may raise that carries nothing but a message. -/
inductive Exception
  | security
  | badParcelable
  | illegalArgument
  | nullPointer
  | illegalState
  | networkMainThread
  | unsupportedOperation
  | parcelable
deriving DecidableEq

inductive ExceptionCode
  | none
  | raised (exception : Exception)
  | serviceSpecific
  | transactionFailed
deriving DecidableEq

namespace ExceptionCode

def all : List ExceptionCode :=
  [none, raised .security, raised .badParcelable, raised .illegalArgument, raised .nullPointer,
   raised .illegalState, raised .networkMainThread, raised .unsupportedOperation,
   serviceSpecific, raised .parcelable, transactionFailed]

def raw : ExceptionCode → Int32
  | none => 0
  | raised .security => -1
  | raised .badParcelable => -2
  | raised .illegalArgument => -3
  | raised .nullPointer => -4
  | raised .illegalState => -5
  | raised .networkMainThread => -6
  | raised .unsupportedOperation => -7
  | serviceSpecific => -8
  | raised .parcelable => -9
  | transactionFailed => -129

def ofRaw? (n : Int32) : Option ExceptionCode :=
  all.find? fun e => e.raw == n

@[simp] theorem ofRaw?_raw (e : ExceptionCode) : ofRaw? e.raw = some e := by
  cases e with
  | raised x => cases x <;> decide
  | _ => decide

theorem raw_of_ofRaw? {n : Int32} {e : ExceptionCode} (h : ofRaw? n = some e) : e.raw = n := by
  simpa using List.find?_some h

def name : ExceptionCode → String
  | none => "NONE"
  | raised .security => "SECURITY"
  | raised .badParcelable => "BAD_PARCELABLE"
  | raised .illegalArgument => "ILLEGAL_ARGUMENT"
  | raised .nullPointer => "NULL_POINTER"
  | raised .illegalState => "ILLEGAL_STATE"
  | raised .networkMainThread => "NETWORK_MAIN_THREAD"
  | raised .unsupportedOperation => "UNSUPPORTED_OPERATION"
  | serviceSpecific => "SERVICE_SPECIFIC"
  | raised .parcelable => "PARCELABLE"
  | transactionFailed => "TRANSACTION_FAILED"

end ExceptionCode

end ServiceBus
