import ServiceBus.Radio.Module
import ServiceBus.Radio.ProgramInfo
import ServiceBus.Wire.Codec

/-! How the data of the radio interfaces is written: field after field, in a fixed order. -/
namespace ServiceBus.Wire.Codec

def band : Codec Band :=
  int32.refine Band.raw fun n =>
    match Band.ofRaw? n with
    | some b => .ok b
    | none => .error .badValue

def bandConfig : Codec BandConfig :=
  (int32.pair <| band.pair <| int32.pair <| int32.pair <| int32.pair <|
    bool.pair <| bool.pair <| bool.pair <| bool.pair bool).iso
      BandConfig.toFields BandConfig.ofFields

def identifier : Codec Identifier :=
  (int32.pair int64).iso Identifier.toFields Identifier.ofFields

def selector : Codec ProgramSelector :=
  (int32.pair <| identifier.pair <| identifier.list.pair int64.list).iso
    ProgramSelector.toFields ProgramSelector.ofFields

def textMap {α : Type} (c : Codec α) : Codec (TextMap α) := text.map c

def metadata : Codec Metadata :=
  (int32.textMap.pair text.textMap).iso Metadata.toFields Metadata.ofFields

def programInfo : Codec ProgramInfo :=
  (selector.pair <| identifier.option.pair <| identifier.option.pair <| identifier.list.pair <|
    int32.pair <| int32.pair <| metadata.option.pair text.textMap).iso
      ProgramInfo.toFields ProgramInfo.ofFields

def moduleProperties : Codec ModuleProperties :=
  (int32.pair <| text.pair <| text.pair <| text.pair <| text.pair <| text.pair <|
    int32.pair <| int32.pair <| bool.pair <| bool.pair bandConfig.list).iso
      ModuleProperties.toFields ModuleProperties.ofFields

end ServiceBus.Wire.Codec
