import ServiceBus.Connection
import ServiceBus.Wire.Vals

/-!
The methods of the interfaces: for every method the types of its parameters and what it replies
with, as callers and implementations see them.
-/
namespace ServiceBus

open Wire

/-- A method replies with a value, or opens a session that travels as a binder. -/
inductive Reply
  | value (type : WireType false)
  | session

namespace Reply

@[reducible] def wire : Reply → WireType false
  | value t => t
  | session => .binder

/-- What the caller gets and the implementation gives. -/
@[reducible] def Outcome : Reply → Type
  | value t => t.Val
  | session => Peer .tuner

end Reply

inductive Method : Interface → Type
  | close : Method .tuner
  | isClosed : Method .tuner
  | setConfiguration : Method .tuner
  | getConfiguration : Method .tuner
  | setMuted : Method .tuner
  | isMuted : Method .tuner
  | step : Method .tuner
  | scan : Method .tuner
  | tune : Method .tuner
  | cancel : Method .tuner
  | cancelAnnouncement : Method .tuner
  | getProgramInformation : Method .tuner
  | getImage : Method .tuner
  | startBackgroundScan : Method .tuner
  | getProgramList : Method .tuner
  | isConfigFlagSupported : Method .tuner
  | isConfigFlagSet : Method .tuner
  | setConfigFlag : Method .tuner
  | setParameters : Method .tuner
  | getParameters : Method .tuner
  | isAntennaConnected : Method .tuner
  | listModules : Method .radio
  | openTuner : Method .radio
  | sendBreadcrumb : Method .stats
  | sendBinaryPush : Method .stats
deriving DecidableEq

namespace Method

variable {i : Interface}

def all : (i : Interface) → List (Method i)
  | .tuner =>
    [close, isClosed, setConfiguration, getConfiguration, setMuted, isMuted, step, scan, tune,
     cancel, cancelAnnouncement, getProgramInformation, getImage, startBackgroundScan,
     getProgramList, isConfigFlagSupported, isConfigFlagSet, setConfigFlag, setParameters,
     getParameters, isAntennaConnected]
  | .radio => [listModules, openTuner]
  | .stats => [sendBreadcrumb, sendBinaryPush]

def name : {i : Interface} → Method i → String
  | _, close => "close"
  | _, isClosed => "is_closed"
  | _, setConfiguration => "set_configuration"
  | _, getConfiguration => "get_configuration"
  | _, setMuted => "set_muted"
  | _, isMuted => "is_muted"
  | _, step => "step"
  | _, scan => "scan"
  | _, tune => "tune"
  | _, cancel => "cancel"
  | _, cancelAnnouncement => "cancel_announcement"
  | _, getProgramInformation => "get_program_information"
  | _, getImage => "get_image"
  | _, startBackgroundScan => "start_background_scan"
  | _, getProgramList => "get_program_list"
  | _, isConfigFlagSupported => "is_config_flag_supported"
  | _, isConfigFlagSet => "is_config_flag_set"
  | _, setConfigFlag => "set_config_flag"
  | _, setParameters => "set_parameters"
  | _, getParameters => "get_parameters"
  | _, isAntennaConnected => "is_antenna_connected"
  | _, listModules => "list_modules"
  | _, openTuner => "open_tuner"
  | _, sendBreadcrumb => "breadcrumb"
  | _, sendBinaryPush => "binary_push"

@[reducible] def params : {i : Interface} → Method i → List (WireType false)
  | _, close => []
  | _, isClosed => []
  | _, setConfiguration => [.bandConfig]
  | _, getConfiguration => []
  | _, setMuted => [.bool]
  | _, isMuted => []
  | _, step => [.bool, .bool]
  | _, scan => [.bool, .bool]
  | _, tune => [.selector]
  | _, cancel => []
  | _, cancelAnnouncement => []
  | _, getProgramInformation => []
  | _, getImage => [.int32]
  | _, startBackgroundScan => []
  | _, getProgramList => [.option (.map .text .text)]
  | _, isConfigFlagSupported => [.int32]
  | _, isConfigFlagSet => [.int32]
  | _, setConfigFlag => [.int32, .bool]
  | _, setParameters => [.map .text .text]
  | _, getParameters => [.list .text]
  | _, isAntennaConnected => []
  | _, listModules => []
  | _, openTuner => [.int32, .option .bandConfig, .bool]
  | _, sendBreadcrumb => [.int32, .int32]
  | _, sendBinaryPush => [.text, .int64, .int32, .int32, .list .int64]

@[reducible] def reply : {i : Interface} → Method i → Reply
  | _, close => .value .unit
  | _, isClosed => .value .bool
  | _, setConfiguration => .value .unit
  | _, getConfiguration => .value .bandConfig
  | _, setMuted => .value .unit
  | _, isMuted => .value .bool
  | _, step => .value .unit
  | _, scan => .value .unit
  | _, tune => .value .unit
  | _, cancel => .value .unit
  | _, cancelAnnouncement => .value .unit
  | _, getProgramInformation => .value .programInfo
  | _, getImage => .value (.option (.list .byte))
  | _, startBackgroundScan => .value .bool
  | _, getProgramList => .value (.list .programInfo)
  | _, isConfigFlagSupported => .value .bool
  | _, isConfigFlagSet => .value .bool
  | _, setConfigFlag => .value .unit
  | _, setParameters => .value (.map .text .text)
  | _, getParameters => .value (.map .text .text)
  | _, isAntennaConnected => .value .bool
  | _, listModules => .value (.list .moduleProperties)
  | _, openTuner => .session
  | _, sendBreadcrumb => .value .unit
  | _, sendBinaryPush => .value .unit

abbrev Args (m : Method i) : Type := Vals m.params

abbrev Outcome (m : Method i) : Type := m.reply.Outcome

end Method

end ServiceBus
