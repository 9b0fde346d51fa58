import ServiceBus.Text.Quoted

/-!
Broadcast bands and their configuration. A configuration gives the limits and the spacing of a
band in kHz; `BandConfig.isValid` compares without leaving the range of the word type, because the
limits are known to be positive and in order by the time they are subtracted.
-/
namespace ServiceBus

inductive Band
  | am
  | fm
  | fmHd
  | amHd
deriving DecidableEq

namespace Band

def raw : Band → Int32
  | am => 0
  | fm => 1
  | fmHd => 2
  | amHd => 3

def ofRaw? (n : Int32) : Option Band :=
  [am, fm, fmHd, amHd].find? fun b => b.raw == n

@[simp] theorem ofRaw?_raw (b : Band) : ofRaw? b.raw = some b := by
  cases b <;> decide

theorem raw_of_ofRaw? {n : Int32} {b : Band} (h : ofRaw? n = some b) : b.raw = n := by
  simpa using List.find?_some h

def name : Band → String
  | am => "Am"
  | fm => "Fm"
  | fmHd => "FmHd"
  | amHd => "AmHd"

def isAm : Band → Bool
  | am | amHd => true
  | _ => false

def isHd : Band → Bool
  | fmHd | amHd => true
  | _ => false

/-- The number that stands for the absence of a band. -/
def invalid : Int32 := -1

theorem ofRaw?_invalid : ofRaw? invalid = none := by decide

end Band

inductive Direction
  | up
  | down
deriving DecidableEq

namespace Direction

def raw : Direction → Int32
  | up => 0
  | down => 1

def isDown : Direction → Bool
  | up => false
  | down => true

end Direction

inductive ConfigFlag
  | forceMono
  | forceAnalog
  | forceDigital
  | rdsAf
  | rdsReg
  | dabDabLinking
  | dabFmLinking
  | dabDabSoftLinking
  | dabFmSoftLinking
deriving DecidableEq

namespace ConfigFlag

def all : List ConfigFlag :=
  [forceMono, forceAnalog, forceDigital, rdsAf, rdsReg, dabDabLinking, dabFmLinking,
   dabDabSoftLinking, dabFmSoftLinking]

def raw : ConfigFlag → Int32
  | forceMono => 1
  | forceAnalog => 2
  | forceDigital => 3
  | rdsAf => 4
  | rdsReg => 5
  | dabDabLinking => 6
  | dabFmLinking => 7
  | dabDabSoftLinking => 8
  | dabFmSoftLinking => 9

end ConfigFlag

/-- Limits and spacing in kHz, and feature switches. The last four mean something on FM only. -/
structure BandConfig where
  region : Int32
  band : Band
  lowerLimit : Int32
  upperLimit : Int32
  spacing : Int32
  stereo : Bool
  rds : Bool
  trafficAnnouncement : Bool
  alternateFrequency : Bool
  emergencyAnnouncement : Bool
deriving DecidableEq

namespace BandConfig

abbrev Fields :=
  Int32 × Band × Int32 × Int32 × Int32 × Bool × Bool × Bool × Bool × Bool

def toFields (c : BandConfig) : Fields :=
  (c.region, c.band, c.lowerLimit, c.upperLimit, c.spacing, c.stereo, c.rds,
    c.trafficAnnouncement, c.alternateFrequency, c.emergencyAnnouncement)

def ofFields : Fields → BandConfig
  | (region, band, lower, upper, spacing, stereo, rds, ta, af, ea) =>
    ⟨region, band, lower, upper, spacing, stereo, rds, ta, af, ea⟩

@[simp] theorem ofFields_toFields (c : BandConfig) : ofFields c.toFields = c := rfl
@[simp] theorem toFields_ofFields (x : Fields) : (ofFields x).toFields = x := rfl

/-- A stereo configuration with every other feature off. -/
def plain (band : Band) (lowerLimit upperLimit spacing : Int32) : BandConfig :=
  { region := 0, band, lowerLimit, upperLimit, spacing, stereo := true, rds := false,
    trafficAnnouncement := false, alternateFrequency := false, emergencyAnnouncement := false }

/-- A configuration that is not valid is never sent. -/
def isValid (c : BandConfig) : Bool :=
  0 < c.lowerLimit && c.lowerLimit < c.upperLimit && 0 < c.spacing &&
    c.spacing ≤ c.upperLimit - c.lowerLimit

theorem filter_not_isValid_eq_none_iff {config : Option BandConfig} :
    (config.filter fun c => !c.isValid) = none ↔ ∀ c ∈ config, c.isValid = true := by
  simp [Option.filter_eq_none_iff]

def inspect (c : BandConfig) : String :=
  Text.labelled "BandConfig"
    [("region", toString c.region), ("band", c.band.name),
     ("lower_limit", toString c.lowerLimit), ("upper_limit", toString c.upperLimit),
     ("spacing", toString c.spacing), ("stereo", Text.ofBool c.stereo),
     ("rds", Text.ofBool c.rds), ("ta", Text.ofBool c.trafficAnnouncement),
     ("af", Text.ofBool c.alternateFrequency), ("ea", Text.ofBool c.emergencyAnnouncement)]

end BandConfig

end ServiceBus
