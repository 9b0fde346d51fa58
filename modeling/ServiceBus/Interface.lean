/-!
The service interfaces. A binder answers to the descriptor of one interface, and every request
starts with the descriptor of the interface that the caller means.
-/
namespace ServiceBus

inductive Interface
  | tuner
  | radio
  | stats
deriving DecidableEq

namespace Interface

def descriptor : Interface → String
  | tuner => "android.hardware.radio.ITuner"
  | radio => "android.hardware.radio.IRadioService"
  | stats => "android.os.IStatsd"

theorem descriptor_injective {i j : Interface} (h : i.descriptor = j.descriptor) : i = j := by
  revert h
  cases i <;> cases j <;> decide

/-- Whether callers do not wait for an answer. -/
def isOneWay : Interface → Bool
  | stats => true
  | _ => false

end Interface

end ServiceBus
