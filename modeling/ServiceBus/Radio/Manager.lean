import ServiceBus.Radio.Session

/-!
The entry to the radio: lists modules and opens tuners on them, through a handle that may be
shared. A call that finds the service out of reach drops the connection; the next call looks the
service up again.
-/
namespace ServiceBus

structure RadioManager where
  handle : HandleRef .radio

namespace RadioManager

def serviceName : String := "broadcastradio"

def ofDirectory (w : World) (directory : Directory) : RadioManager × World :=
  match w.addHandle .radio serviceName directory with
  | (r, w) => (⟨r⟩, w)

def listModules (host : Host) (m : RadioManager) (w : World) :
    Except RadioStatus (List ModuleProperties) × World :=
  match w.resolve host m.handle with
  | (none, w) => (.error .noInit, w)
  | (some c, w) =>
    match w.onBus (c.call host .listModules ()) with
    | (.ok modules, w) => (.ok modules, w)
    | (.error status, w) =>
      let w := w.say .error ("Failed to list modules: " ++ status.render)
      if status.isUnreachable then (.error .deadObject, w.invalidate m.handle)
      else (.error .error, w)

/-- Opens a tuner, configured if a configuration is given. The log tells why it could not. -/
def openTuner (host : Host) (m : RadioManager) (module : Int32) (config : Option BandConfig)
    (withAudio : Bool) (w : World) : Option Session × World :=
  match config.filter fun c => !c.isValid with
  | some c => (none, w.say .error ("Can't open tuner: invalid band config " ++ c.inspect))
  | none =>
    match w.resolve host m.handle with
    | (none, w) => (none, w)
    | (some c, w) =>
      match w.onBus (c.call host .openTuner (module, config, withAudio, ())) with
      | (.ok tuner, w) =>
        (some ⟨tuner, false, config.map BandConfig.band, some (m.handle, c)⟩, w)
      | (.error status, w) =>
        let w := w.say .error
          ("Failed to open tuner on module " ++ toString module ++ ": " ++ status.render)
        (none, if status.isUnreachable then w.invalidate m.handle else w)

end RadioManager

end ServiceBus
