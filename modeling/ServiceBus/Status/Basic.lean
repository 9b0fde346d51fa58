import ServiceBus.Status.Code
import ServiceBus.Status.Exception
import ServiceBus.Text.Quoted

/-!
The outcome of a call. A status is fine, an exception of the service, an error particular to the
service, or a failed transaction with the transport code that says why. How a client should treat
a failure is decided here once, by `Status.failureKind`.
-/
namespace ServiceBus

/-- The exception decides which of the other fields may say something. Whoever makes a status
shows that the others are silent. -/
@[ext]
structure Status where
  exception : ExceptionCode
  transactionError : StatusCode
  serviceSpecificError : Int32
  message : Option String
  message_of_none : exception = .none → message = none
  transactionError_of_ne : exception ≠ .transactionFailed → transactionError = .ok
  serviceSpecificError_of_ne : exception ≠ .serviceSpecific → serviceSpecificError = 0
deriving DecidableEq

inductive FailureKind
  | argumentRejected
  | stateRejected
  | unreachable
  | other
deriving DecidableEq

def FailureKind.name : FailureKind → String
  | argumentRejected => "ArgumentRejected"
  | stateRejected => "StateRejected"
  | unreachable => "Unreachable"
  | other => "Other"

namespace Status

def ok : Status where
  exception := .none
  transactionError := .ok
  serviceSpecificError := 0
  message := none
  message_of_none _ := rfl
  transactionError_of_ne _ := rfl
  serviceSpecificError_of_ne _ := rfl

def raised (exception : Exception) (message : Option String) : Status where
  exception := .raised exception
  transactionError := .ok
  serviceSpecificError := 0
  message := message
  message_of_none := nofun
  transactionError_of_ne _ := rfl
  serviceSpecificError_of_ne _ := rfl

def serviceSpecific (code : Int32) (message : Option String) : Status where
  exception := .serviceSpecific
  transactionError := .ok
  serviceSpecificError := code
  message := message
  message_of_none := nofun
  transactionError_of_ne _ := rfl
  serviceSpecificError_of_ne other := absurd rfl other

def transactionFailed (code : StatusCode) (message : Option String) : Status where
  exception := .transactionFailed
  transactionError := code
  serviceSpecificError := 0
  message := message
  message_of_none := nofun
  transactionError_of_ne other := absurd rfl other
  serviceSpecificError_of_ne _ := rfl

@[simp] theorem exception_ok : ok.exception = .none := rfl
@[simp] theorem transactionError_ok : ok.transactionError = .ok := rfl
@[simp] theorem serviceSpecificError_ok : ok.serviceSpecificError = 0 := rfl
@[simp] theorem message_ok : ok.message = none := rfl

section

variable (e : Exception) (n : Int32) (c : StatusCode) (m : Option String)

@[simp] theorem exception_raised : (raised e m).exception = .raised e := rfl
@[simp] theorem transactionError_raised : (raised e m).transactionError = .ok := rfl
@[simp] theorem serviceSpecificError_raised : (raised e m).serviceSpecificError = 0 := rfl
@[simp] theorem message_raised : (raised e m).message = m := rfl
@[simp] theorem exception_serviceSpecific :
    (serviceSpecific n m).exception = .serviceSpecific := rfl
@[simp] theorem transactionError_serviceSpecific :
    (serviceSpecific n m).transactionError = .ok := rfl
@[simp] theorem serviceSpecificError_serviceSpecific :
    (serviceSpecific n m).serviceSpecificError = n := rfl
@[simp] theorem message_serviceSpecific : (serviceSpecific n m).message = m := rfl
@[simp] theorem exception_transactionFailed :
    (transactionFailed c m).exception = .transactionFailed := rfl
@[simp] theorem transactionError_transactionFailed :
    (transactionFailed c m).transactionError = c := rfl
@[simp] theorem serviceSpecificError_transactionFailed :
    (transactionFailed c m).serviceSpecificError = 0 := rfl
@[simp] theorem message_transactionFailed : (transactionFailed c m).message = m := rfl

end

/-- A code on its own says neither which error of the service nor which transport failure: the
former is then zero and the latter unknown. -/
def ofException (code : ExceptionCode) (message : Option String) : Status :=
  match code with
  | .none => ok
  | .raised e => raised e message
  | .serviceSpecific => serviceSpecific 0 message
  | .transactionFailed => transactionFailed .unknownError message

def ofCode (code : StatusCode) : Status :=
  match code with
  | .ok => ok
  | c => transactionFailed c none

/-- Every status is made in one of four ways. -/
@[elab_as_elim, cases_eliminator]
theorem cases {motive : Status → Prop} (ok : motive ok)
    (raised : ∀ exception message, motive (raised exception message))
    (serviceSpecific : ∀ code message, motive (serviceSpecific code message))
    (transactionFailed : ∀ code message, motive (transactionFailed code message))
    (s : Status) : motive s := by
  obtain ⟨x, t, n, m, silent, reason, number⟩ := s
  cases x with
  | none =>
    obtain rfl := silent rfl
    obtain rfl := reason nofun
    obtain rfl := number nofun
    exact ok
  | raised e =>
    obtain rfl := reason nofun
    obtain rfl := number nofun
    exact raised e m
  | serviceSpecific =>
    obtain rfl := reason nofun
    exact serviceSpecific n m
  | transactionFailed =>
    obtain rfl := number nofun
    exact transactionFailed t m

def isOk (s : Status) : Bool := s.exception = .none

@[simp] theorem isOk_ok : ok.isOk = true := rfl

@[simp] theorem isOk_iff (s : Status) : s.isOk = true ↔ s = ok := by
  cases s <;> simp [isOk, Status.ext_iff]

/-- How a client should treat the failure. A failed transaction means the remote is gone only for
two codes; the other codes come from marshalling, and the remote is still there. -/
def failureKind (s : Status) : Option FailureKind :=
  match s.exception with
  | .none => none
  | .raised .illegalArgument | .raised .nullPointer => some .argumentRejected
  | .raised .illegalState | .raised .unsupportedOperation => some .stateRejected
  | .transactionFailed =>
    match s.transactionError with
    | .deadObject | .failedTransaction => some .unreachable
    | _ => some .other
  | _ => some .other

@[simp] theorem failureKind_eq_none_iff (s : Status) : s.failureKind = none ↔ s = ok := by
  rw [← isOk_iff, isOk, decide_eq_true_iff]
  cases s with
  | ok => exact iff_of_true rfl rfl
  | raised e m => cases e <;> exact iff_of_false nofun nofun
  | serviceSpecific n m => exact iff_of_false nofun nofun
  | transactionFailed c m => cases c <;> exact iff_of_false nofun nofun

def isUnreachable (s : Status) : Bool :=
  s.failureKind == some .unreachable

def toExcept (s : Status) : Except Status Unit :=
  if s.isOk then .ok () else .error s

@[simp] theorem toExcept_eq_ok_iff (s : Status) : s.toExcept = .ok () ↔ s = ok := by
  rw [← isOk_iff, toExcept]
  split <;> simp_all

def render (s : Status) : String :=
  "Status(" ++ toString s.exception.raw ++ ", " ++ s.exception.name ++ "): " ++
    (match s.exception with
      | .transactionFailed => s.transactionError.message
      | .serviceSpecific => toString s.serviceSpecificError
      | _ => "") ++
    " '" ++ s.message.getD "" ++ "'"

def inspect (s : Status) : String :=
  Text.labelled "Status" <|
    [("exception", s.exception.name)] ++
    (match s.exception with
      | .transactionFailed => [("transaction_error", s.transactionError.name)]
      | .serviceSpecific => [("service_specific_error", toString s.serviceSpecificError)]
      | _ => []) ++
    [("message", Text.optional (s.message.map Text.quote))]

end Status

end ServiceBus
