/-!
Transport codes: why a transaction, a read or a registration did not go through. On the wire a
code is its raw number, and a number that names no code reads as `unknownError`.
-/
namespace ServiceBus

inductive StatusCode
  | ok
  | unknownError
  | noMemory
  | invalidOperation
  | badValue
  | badType
  | nameNotFound
  | permissionDenied
  | noInit
  | alreadyExists
  | deadObject
  | failedTransaction
  | badIndex
  | notEnoughData
  | wouldBlock
  | timedOut
  | unknownTransaction
  | fdsNotAllowed
  | unexpectedNull
deriving DecidableEq

namespace StatusCode

def all : List StatusCode :=
  [ok, unknownError, noMemory, invalidOperation, badValue, badType, nameNotFound,
   permissionDenied, noInit, alreadyExists, deadObject, failedTransaction, badIndex,
   notEnoughData, wouldBlock, timedOut, unknownTransaction, fdsNotAllowed, unexpectedNull]

def raw : StatusCode → Int32
  | ok => 0
  | unknownError => -2147483648
  | noMemory => -12
  | invalidOperation => -38
  | badValue => -22
  | badType => -2147483647
  | nameNotFound => -2
  | permissionDenied => -1
  | noInit => -19
  | alreadyExists => -17
  | deadObject => -32
  | failedTransaction => -2147483646
  | badIndex => -75
  | notEnoughData => -61
  | wouldBlock => -11
  | timedOut => -110
  | unknownTransaction => -74
  | fdsNotAllowed => -2147483641
  | unexpectedNull => -2147483640

def ofRaw (n : Int32) : StatusCode :=
  (all.find? fun c => c.raw == n).getD unknownError

@[simp] theorem ofRaw_raw (c : StatusCode) : ofRaw c.raw = c := by
  cases c <;> decide

def name : StatusCode → String
  | ok => "OK"
  | unknownError => "UNKNOWN_ERROR"
  | noMemory => "NO_MEMORY"
  | invalidOperation => "INVALID_OPERATION"
  | badValue => "BAD_VALUE"
  | badType => "BAD_TYPE"
  | nameNotFound => "NAME_NOT_FOUND"
  | permissionDenied => "PERMISSION_DENIED"
  | noInit => "NO_INIT"
  | alreadyExists => "ALREADY_EXISTS"
  | deadObject => "DEAD_OBJECT"
  | failedTransaction => "FAILED_TRANSACTION"
  | badIndex => "BAD_INDEX"
  | notEnoughData => "NOT_ENOUGH_DATA"
  | wouldBlock => "WOULD_BLOCK"
  | timedOut => "TIMED_OUT"
  | unknownTransaction => "UNKNOWN_TRANSACTION"
  | fdsNotAllowed => "FDS_NOT_ALLOWED"
  | unexpectedNull => "UNEXPECTED_NULL"

def message : StatusCode → String
  | ok => "ok"
  | unknownError => "unknown error"
  | noMemory => "no memory"
  | invalidOperation => "invalid operation"
  | badValue => "bad value"
  | badType => "bad type"
  | nameNotFound => "name not found"
  | permissionDenied => "permission denied"
  | noInit => "no init"
  | alreadyExists => "already exists"
  | deadObject => "dead object"
  | failedTransaction => "failed transaction"
  | badIndex => "bad index"
  | notEnoughData => "not enough data"
  | wouldBlock => "would block"
  | timedOut => "timed out"
  | unknownTransaction => "unknown transaction"
  | fdsNotAllowed => "fds not allowed"
  | unexpectedNull => "unexpected null"

def resultOfRaw (n : Int32) : Except StatusCode Unit :=
  match ofRaw n with
  | ok => .ok ()
  | c => .error c

end StatusCode

end ServiceBus
