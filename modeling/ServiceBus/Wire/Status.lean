import ServiceBus.Status.Basic
import ServiceBus.Wire.Codec

/-!
How a status is written: the exception code, then nothing more if all went well, else the message,
and after it the number that the error of a service or a failed transaction carries.
-/
namespace ServiceBus.Wire.Codec

def message : Codec (Option String) := text.option

def status : Codec Status where
  write s :=
    int32.write s.exception.raw ++
      match s.exception with
      | .none => .done
      | .raised _ => message.write s.message
      | .serviceSpecific => message.write s.message ++ int32.write s.serviceSpecificError
      | .transactionFailed => message.write s.message ++ int32.write s.transactionError.raw
  read := do
    match ExceptionCode.ofRaw? (← int32.read) with
    | none => .fail .badValue
    | some .none => return .ok
    | some (.raised e) => return .raised e (← message.read)
    | some .serviceSpecific =>
      let m ← message.read
      return .serviceSpecific (← int32.read) m
    | some .transactionFailed =>
      let m ← message.read
      return .transactionFailed (.ofRaw (← int32.read)) m

end ServiceBus.Wire.Codec
