import ServiceBus.Method
import ServiceBus.Radio.Error

/-!
The operations of an open tuner. Each fails in one of two ways: older operations with a
`RadioStatus`, newer ones with a `TunerError`. The tables here say for every operation what it
asks of the tuner, what it checks beforehand, and what it answers when no tuner can be asked. How
a failure of the tuner is told depends on the way in which the operation fails, and on little else.
-/
namespace ServiceBus

inductive Surface
  | status
  | value
deriving DecidableEq

namespace Surface

@[reducible] def Failure : Surface → Type
  | status => RadioStatus
  | value => TunerError

def closed : (s : Surface) → s.Failure
  | status => .invalidOperation
  | value => .closed

end Surface

/-- Operations by the way they fail and by what they give. -/
inductive Operation : Surface → WireType false → Type
  | setConfiguration (config : BandConfig) : Operation .status .unit
  | getConfiguration : Operation .status .bandConfig
  | setMute (mute : Bool) : Operation .status .unit
  | getMute : Operation .value .bool
  | step (direction : Direction) (skipSubChannel : Bool) : Operation .status .unit
  | scan (direction : Direction) (skipSubChannel : Bool) : Operation .status .unit
  | tune (channel subChannel : Int32) : Operation .status .unit
  | cancel : Operation .status .unit
  | getProgramInformation : Operation .status .programInfo
  | tuneSelector (selector : ProgramSelector) : Operation .value .unit
  | cancelAnnouncement : Operation .value .unit
  | getMetadataImage (id : Int32) : Operation .value (.option (.list .byte))
  | startBackgroundScan : Operation .value .bool
  | getProgramList (filter : Option (TextMap String)) : Operation .value (.list .programInfo)
  | isAnalogForced : Operation .value .bool
  | setAnalogForced (forced : Bool) : Operation .value .unit
  | isConfigFlagSupported (flag : Int32) : Operation .value .bool
  | isConfigFlagSet (flag : Int32) : Operation .value .bool
  | setConfigFlag (flag : Int32) (value : Bool) : Operation .value .unit
  | setParameters (parameters : TextMap String) : Operation .value (.map .text .text)
  | getParameters (keys : List String) : Operation .value (.map .text .text)
  | isAntennaConnected : Operation .value .bool
  | hasControl : Operation .value .bool

/-- What an operation asks of the tuner, and what it makes of the answer. -/
structure TunerRequest (t : WireType false) where
  method : Method .tuner
  args : method.Args
  result : method.Outcome → t.Val

/-- An operation that does not reach the tuner, because of its arguments. -/
structure Refusal (s : Surface) where
  failure : s.Failure
  complaint : Option String

namespace Operation

variable {s : Surface} {t : WireType false}

def label : {s : Surface} → {t : WireType false} → Operation s t → String
  | _, _, setConfiguration _ => "set configuration"
  | _, _, getConfiguration => "get configuration"
  | _, _, setMute _ => "set muted"
  | _, _, getMute => "get mute"
  | _, _, step _ _ => "step"
  | _, _, scan _ _ => "scan"
  | _, _, tune _ _ => "tune"
  | _, _, cancel => "cancel"
  | _, _, getProgramInformation => "get program information"
  | _, _, tuneSelector _ => "tune"
  | _, _, cancelAnnouncement => "cancel announcement"
  | _, _, getMetadataImage _ => "get metadata image"
  | _, _, startBackgroundScan => "start background scan"
  | _, _, getProgramList _ => "get program list"
  | _, _, isAnalogForced => "get config flag"
  | _, _, setAnalogForced _ => "set config flag"
  | _, _, isConfigFlagSupported _ => "check config flag support"
  | _, _, isConfigFlagSet _ => "get config flag"
  | _, _, setConfigFlag _ _ => "set config flag"
  | _, _, setParameters _ => "set parameters"
  | _, _, getParameters _ => "get parameters"
  | _, _, isAntennaConnected => "check antenna"
  | _, _, hasControl => "check control"

/-- The request to the tuner, if the arguments are sound. A channel is tuned on the band that the
tuner is known to be on. -/
def request (band : Option Band) : {s : Surface} → {t : WireType false} → Operation s t →
    Except (Refusal s) (TunerRequest t)
  | _, _, setConfiguration c =>
    if c.isValid then .ok ⟨.setConfiguration, (c, ()), id⟩
    else .error ⟨.badValue, some ("Can't set configuration: invalid band config " ++ c.inspect)⟩
  | _, _, getConfiguration => .ok ⟨.getConfiguration, (), id⟩
  | _, _, setMute mute => .ok ⟨.setMuted, (mute, ()), id⟩
  | _, _, getMute => .ok ⟨.isMuted, (), id⟩
  | _, _, step direction skip => .ok ⟨.step, (direction.isDown, skip, ()), id⟩
  | _, _, scan direction skip => .ok ⟨.scan, (direction.isDown, skip, ()), id⟩
  | _, _, tune channel subChannel =>
    match ProgramSelector.amFm band channel subChannel with
    | .ok selector => .ok ⟨.tune, (selector, ()), id⟩
    | .error e => .error ⟨.badValue, some ("Can't tune: " ++ e.message)⟩
  | _, _, cancel => .ok ⟨.cancel, (), id⟩
  | _, _, getProgramInformation => .ok ⟨.getProgramInformation, (), id⟩
  | _, _, tuneSelector selector =>
    if selector.isValid then .ok ⟨.tune, (selector, ()), id⟩
    else .error ⟨.invalidArgument "selector has no primary id", none⟩
  | _, _, cancelAnnouncement => .ok ⟨.cancelAnnouncement, (), id⟩
  | _, _, getMetadataImage n => .ok ⟨.getImage, (n, ()), id⟩
  | _, _, startBackgroundScan => .ok ⟨.startBackgroundScan, (), id⟩
  | _, _, getProgramList filter => .ok ⟨.getProgramList, (filter, ()), id⟩
  | _, _, isAnalogForced => .ok ⟨.isConfigFlagSet, (ConfigFlag.forceAnalog.raw, ()), id⟩
  | _, _, setAnalogForced forced =>
    .ok ⟨.setConfigFlag, (ConfigFlag.forceAnalog.raw, forced, ()), id⟩
  | _, _, isConfigFlagSupported flag => .ok ⟨.isConfigFlagSupported, (flag, ()), id⟩
  | _, _, isConfigFlagSet flag => .ok ⟨.isConfigFlagSet, (flag, ()), id⟩
  | _, _, setConfigFlag flag value => .ok ⟨.setConfigFlag, (flag, value, ()), id⟩
  | _, _, setParameters parameters => .ok ⟨.setParameters, (parameters, ()), id⟩
  | _, _, getParameters keys => .ok ⟨.getParameters, (keys, ()), id⟩
  | _, _, isAntennaConnected => .ok ⟨.isAntennaConnected, (), id⟩
  | _, _, hasControl => .ok ⟨.isClosed, (), not⟩

/-- What is answered when the tuner is closed or out of reach, for the two operations that do not
fail then: nothing is heard from such a tuner, and it is not under control. -/
def withoutTuner? : {s : Surface} → {t : WireType false} → Operation s t → Option t.Val
  | _, _, getMute => some true
  | _, _, hasControl => some false
  | _, _, _ => none

/-- Whether a closed tuner is worth a line in the log. -/
def reportsClosed : {s : Surface} → {t : WireType false} → Operation s t → Bool
  | .status, _, setConfiguration _ => false
  | .status, _, tune _ _ => false
  | .status, _, _ => true
  | .value, _, _ => false

def bandAfter (band : Option Band) : {s : Surface} → {t : WireType false} → Operation s t →
    Option Band
  | _, _, setConfiguration c => some c.band
  | _, _, _ => band

def stateRejected : {t : WireType false} → Operation .status t → RadioStatus
  | _, setMute _ => .error
  | _, _ => .invalidOperation

def failure : {s : Surface} → {t : WireType false} → Operation s t → FailureKind → Status →
    s.Failure
  | .status, _, _, .argumentRejected, _ => .badValue
  | .status, _, op, .stateRejected, _ => op.stateRejected
  | .status, _, _, .unreachable, _ => .deadObject
  | .status, _, _, .other, _ => .error
  | .value, _, op, .argumentRejected, status => .invalidArgument (status.message.getD op.label)
  | .value, _, op, .stateRejected, status => .illegalState (status.message.getD op.label)
  | .value, _, _, .unreachable, status => .serviceDied status
  | .value, _, _, .other, status => .remote status

def complaint? : {s : Surface} → {t : WireType false} → Operation s t → FailureKind → Status →
    Option String
  | .status, _, op, .argumentRejected, status
  | .status, _, op, .stateRejected, status =>
    some ("Can't " ++ op.label ++ ": " ++ status.render)
  | .value, _, _, .argumentRejected, _ => none
  | .value, _, _, .stateRejected, _ => none
  | _, _, op, .unreachable, status =>
    some ("service died during " ++ op.label ++ ": " ++ status.render)
  | _, _, op, .other, status => some ("Failed to " ++ op.label ++ ": " ++ status.render)

end Operation

end ServiceBus
