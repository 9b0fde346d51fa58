import ServiceBus.Radio.Band

/-!
Program identification. A selector names a program by a primary identifier and narrows it down by
secondary ones. `ProgramSelector.amFm` builds the selector of an AM or FM station: it succeeds on
exactly the stations that the band can carry.
-/
namespace ServiceBus

inductive ProgramType
  | invalid
  | am
  | fm
  | amHd
  | fmHd
  | dab
  | drmo
  | sxm
deriving DecidableEq

namespace ProgramType

def all : List ProgramType := [invalid, am, fm, amHd, fmHd, dab, drmo, sxm]

def raw : ProgramType → Int32
  | invalid => 0
  | am => 1
  | fm => 2
  | amHd => 3
  | fmHd => 4
  | dab => 5
  | drmo => 6
  | sxm => 7

end ProgramType

inductive IdentifierType
  | invalid
  | amFmFrequency
  | rdsPi
  | hdStationIdExt
  | hdSubChannel
  | dabSidEcc
  | dabEnsemble
  | dabScid
  | dabFrequency
  | drmoServiceId
  | drmoFrequency
  | drmoModulation
  | sxmServiceId
  | sxmChannel
deriving DecidableEq

namespace IdentifierType

def all : List IdentifierType :=
  [invalid, amFmFrequency, rdsPi, hdStationIdExt, hdSubChannel, dabSidEcc, dabEnsemble, dabScid,
   dabFrequency, drmoServiceId, drmoFrequency, drmoModulation, sxmServiceId, sxmChannel]

def raw : IdentifierType → Int32
  | invalid => 0
  | amFmFrequency => 1
  | rdsPi => 2
  | hdStationIdExt => 3
  | hdSubChannel => 4
  | dabSidEcc => 5
  | dabEnsemble => 6
  | dabScid => 7
  | dabFrequency => 8
  | drmoServiceId => 9
  | drmoFrequency => 10
  | drmoModulation => 11
  | sxmServiceId => 12
  | sxmChannel => 13

end IdentifierType

/-- A typed identifier, such as a frequency in kHz. Types that are not known are kept. -/
structure Identifier where
  type : Int32
  value : Int64
deriving DecidableEq, Inhabited

namespace Identifier

abbrev Fields := Int32 × Int64

def toFields (i : Identifier) : Fields := (i.type, i.value)

def ofFields : Fields → Identifier
  | (type, value) => ⟨type, value⟩

@[simp] theorem ofFields_toFields (i : Identifier) : ofFields i.toFields = i := rfl
@[simp] theorem toFields_ofFields (x : Fields) : (ofFields x).toFields = x := rfl

end Identifier

structure ProgramSelector where
  programType : Int32
  primary : Identifier
  secondary : List Identifier
  vendor : List Int64
deriving DecidableEq, Inhabited

inductive SelectorError
  | subChannelOutOfRange (subChannel : Int32)
  | subChannelWithoutHd (band : Band)
  | frequencyOutOfRange (band : Band) (frequency : Int32)
deriving DecidableEq

namespace SelectorError

def name : SelectorError → String
  | subChannelOutOfRange _ => "SubChannelOutOfRange"
  | subChannelWithoutHd _ => "SubChannelWithoutHd"
  | frequencyOutOfRange _ _ => "FrequencyOutOfRange"

def message : SelectorError → String
  | subChannelOutOfRange s => "sub-channel " ++ toString s ++ " is out of range"
  | subChannelWithoutHd b => "sub-channels are not supported on " ++ b.name
  | frequencyOutOfRange b f =>
    toString f ++ " kHz is not a valid " ++ b.name ++ " frequency"

end SelectorError

namespace ProgramSelector

abbrev Fields := Int32 × Identifier × List Identifier × List Int64

def toFields (s : ProgramSelector) : Fields := (s.programType, s.primary, s.secondary, s.vendor)

def ofFields : Fields → ProgramSelector
  | (type, primary, secondary, vendor) => ⟨type, primary, secondary, vendor⟩

@[simp] theorem ofFields_toFields (s : ProgramSelector) : ofFields s.toFields = s := rfl
@[simp] theorem toFields_ofFields (x : Fields) : (ofFields x).toFields = x := rfl

def ofPrimary (programType : Int32) (primary : Identifier) : ProgramSelector :=
  { programType, primary, secondary := [], vendor := [] }

/-- A selector without a primary identifier selects nothing. -/
def isValid (s : ProgramSelector) : Bool :=
  s.primary.type != IdentifierType.invalid.raw

def secondary? (s : ProgramSelector) (type : Int32) : Option Identifier :=
  s.secondary.find? fun i => i.type == type

end ProgramSelector

namespace Band

/-- The band of a station that was asked for without one. -/
def infer (frequency subChannel : Int32) : Band :=
  if frequency < 50000 then
    if 0 < subChannel then amHd else am
  else
    if 0 < subChannel then fmHd else fm

/-- Whether stations of the band broadcast on the frequency. -/
def covers (b : Band) (frequency : Int32) : Bool :=
  if b.isAm then 150 < frequency && frequency ≤ 30000
  else 60000 < frequency && frequency < 110000

def programType (b : Band) : ProgramType :=
  if b.isAm then .am else .fm

end Band

/-- A station has at most eight sub-channels, counted from one. -/
def maxSubChannel : Int32 := 8

namespace ProgramSelector

/-- The selector of an AM or FM station. Sub-channel zero is the station itself; the identifier of
a sub-channel counts from zero. -/
def amFm (band : Option Band) (frequency subChannel : Int32) :
    Except SelectorError ProgramSelector :=
  let band := band.getD (Band.infer frequency subChannel)
  if subChannel < 0 || maxSubChannel < subChannel then
    .error (.subChannelOutOfRange subChannel)
  else if 0 < subChannel && !band.isHd then
    .error (.subChannelWithoutHd band)
  else if !band.covers frequency then
    .error (.frequencyOutOfRange band frequency)
  else
    .ok { programType := band.programType.raw
          primary := ⟨IdentifierType.amFmFrequency.raw, frequency.toInt64⟩
          secondary :=
            if 0 < subChannel then
              [⟨IdentifierType.hdSubChannel.raw, (subChannel - 1).toInt64⟩]
            else []
          vendor := [] }

end ProgramSelector

end ServiceBus
