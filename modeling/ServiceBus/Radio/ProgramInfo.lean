import ServiceBus.Radio.Program
import ServiceBus.Radio.Metadata

/-! What a tuner plays or could play, with its state as single bits of one word. -/
namespace ServiceBus

inductive InfoFlag
  | live
  | muted
  | trafficProgram
  | trafficAnnouncement
  | tuned
  | stereo
deriving DecidableEq

namespace InfoFlag

def all : List InfoFlag := [live, muted, trafficProgram, trafficAnnouncement, tuned, stereo]

def raw : InfoFlag → Int32
  | live => 1
  | muted => 2
  | trafficProgram => 4
  | trafficAnnouncement => 8
  | tuned => 16
  | stereo => 32

end InfoFlag

structure ProgramInfo where
  selector : ProgramSelector
  logicallyTunedTo : Option Identifier
  physicallyTunedTo : Option Identifier
  related : List Identifier
  flags : Int32
  signalQuality : Int32
  metadata : Option Metadata
  vendorInfo : TextMap String
deriving DecidableEq

namespace ProgramInfo

abbrev Fields :=
  ProgramSelector × Option Identifier × Option Identifier × List Identifier × Int32 × Int32 ×
    Option Metadata × TextMap String

def toFields (p : ProgramInfo) : Fields :=
  (p.selector, p.logicallyTunedTo, p.physicallyTunedTo, p.related, p.flags, p.signalQuality,
    p.metadata, p.vendorInfo)

def ofFields : Fields → ProgramInfo
  | (selector, logical, physical, related, flags, quality, metadata, vendor) =>
    ⟨selector, logical, physical, related, flags, quality, metadata, vendor⟩

@[simp] theorem ofFields_toFields (p : ProgramInfo) : ofFields p.toFields = p := rfl
@[simp] theorem toFields_ofFields (x : Fields) : (ofFields x).toFields = x := rfl

/-- Nothing is tuned and nothing is known. -/
def blank : ProgramInfo :=
  { selector := default, logicallyTunedTo := none, physicallyTunedTo := none, related := [],
    flags := 0, signalQuality := 0, metadata := none, vendorInfo := ∅ }

/-- Tuned to what the selector names first. -/
def ofSelector (s : ProgramSelector) : ProgramInfo :=
  { blank with
    selector := s, logicallyTunedTo := some s.primary, physicallyTunedTo := some s.primary }

def has (p : ProgramInfo) (f : InfoFlag) : Bool := p.flags &&& f.raw != 0

end ProgramInfo

end ServiceBus
