import ServiceBus.Wire.Domain
import ServiceBus.Wire.Radio
import ServiceBus.Wire.Status

/-!
The types of what travels in a parcel. Basic types and the records of the radio data are nested by
lists, options and maps to any depth. The index tells whether the values of a type are ordered:
only such a type can be the type of a map's keys, and a list, an option or a map is ordered when
its parts are.
-/
namespace ServiceBus

inductive WireType : (ordered : Bool) → Type
  | unit {o} : WireType o
  | bool {o} : WireType o
  | byte {o} : WireType o
  | int32 {o} : WireType o
  | uint32 {o} : WireType o
  | int64 {o} : WireType o
  | text {o} : WireType o
  | binder : WireType false
  | status : WireType false
  | band : WireType false
  | bandConfig : WireType false
  | identifier : WireType false
  | selector : WireType false
  | metadata : WireType false
  | programInfo : WireType false
  | moduleProperties : WireType false
  | list {o} (element : WireType o) : WireType o
  | option {o} (value : WireType o) : WireType o
  | map {o} (key : WireType true) (value : WireType o) : WireType o

/-- The values of a type, with their order if the type is one for keys. -/
structure Wire.Domain (ordered : Bool) where
  Carrier : Type
  order : ordered = true → Wire.Comparison Carrier

namespace WireType

open Wire

@[reducible] def domain : {o : Bool} → WireType o → Domain o
  | _, unit => ⟨Unit, fun _ => .unit⟩
  | _, bool => ⟨Bool, fun _ => .ofOrd Bool⟩
  | _, byte => ⟨UInt8, fun _ => .ofOrd UInt8⟩
  | _, int32 => ⟨Int32, fun _ => .ofOrd Int32⟩
  | _, uint32 => ⟨UInt32, fun _ => .ofOrd UInt32⟩
  | _, int64 => ⟨Int64, fun _ => .ofOrd Int64⟩
  | _, text => ⟨String, fun _ => .ofOrd String⟩
  | _, binder => ⟨Binder, nofun⟩
  | _, status => ⟨Status, nofun⟩
  | _, band => ⟨Band, nofun⟩
  | _, bandConfig => ⟨BandConfig, nofun⟩
  | _, identifier => ⟨Identifier, nofun⟩
  | _, selector => ⟨ProgramSelector, nofun⟩
  | _, metadata => ⟨Metadata, nofun⟩
  | _, programInfo => ⟨ProgramInfo, nofun⟩
  | _, moduleProperties => ⟨ModuleProperties, nofun⟩
  | _, list t => ⟨List t.domain.Carrier, fun h => (t.domain.order h).list⟩
  | _, option t => ⟨Option t.domain.Carrier, fun h => (t.domain.order h).option⟩
  | _, map k v =>
    ⟨Std.ExtTreeMap k.domain.Carrier v.domain.Carrier (k.domain.order rfl).cmp,
      fun h => (k.domain.order rfl).map (v.domain.order h)⟩

abbrev Val {o : Bool} (t : WireType o) : Type := t.domain.Carrier

def codec : {o : Bool} → (t : WireType o) → Codec t.Val
  | _, unit => .unit
  | _, bool => .bool
  | _, byte => .byte
  | _, int32 => .int32
  | _, uint32 => .word32
  | _, int64 => .int64
  | _, text => .text
  | _, binder => .object
  | _, status => .status
  | _, band => .band
  | _, bandConfig => .bandConfig
  | _, identifier => .identifier
  | _, selector => .selector
  | _, metadata => .metadata
  | _, programInfo => .programInfo
  | _, moduleProperties => .moduleProperties
  | _, list t => t.codec.list
  | _, option t => t.codec.option
  | _, map k v => k.codec.map v.codec

end WireType

end ServiceBus
