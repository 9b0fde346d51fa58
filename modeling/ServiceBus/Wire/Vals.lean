import ServiceBus.Wire.Type

/-! Several values in a row, such as the arguments of a call: each is written after the one before,
with nothing in between. -/
namespace ServiceBus

open Wire

@[reducible] def Vals : List (WireType false) → Type
  | [] => Unit
  | t :: ts => t.Val × Vals ts

namespace Vals

def codec : (ts : List (WireType false)) → Codec (Vals ts)
  | [] => .unit
  | t :: ts => t.codec.pair (codec ts)

end Vals

end ServiceBus
