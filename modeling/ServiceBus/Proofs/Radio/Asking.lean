import ServiceBus.Radio.Operation

/-!
What the operations of an open tuner ask of it. Every operation with sound arguments has one method
to ask for and hands it its arguments. A value is passed on as it is, with one exception. Only a
configuration changes the band.
-/
namespace ServiceBus

namespace Operation

/-- The arguments of the operation can be sent to a tuner that is on the given band. -/
def Sound (band : Option Band) : {s : Surface} → {t : WireType false} → Operation s t → Prop
  | _, _, setConfiguration c => c.isValid = true
  | _, _, tune channel subChannel => ∃ x, ProgramSelector.amFm band channel subChannel = .ok x
  | _, _, tuneSelector x => x.isValid = true
  | _, _, _ => True

/-- What an operation asks of a tuner that is on the given band. -/
inductive Asks (band : Option Band) : {s : Surface} → {t : WireType false} → Operation s t →
    (m : Method .tuner) → m.Args → Prop
  | setConfiguration {c : BandConfig} (valid : c.isValid = true) :
      Asks band (setConfiguration c) .setConfiguration (c, ())
  | getConfiguration : Asks band getConfiguration .getConfiguration ()
  | setMute (mute : Bool) : Asks band (setMute mute) .setMuted (mute, ())
  | getMute : Asks band getMute .isMuted ()
  | stepUp (skip : Bool) : Asks band (step .up skip) .step (false, skip, ())
  | stepDown (skip : Bool) : Asks band (step .down skip) .step (true, skip, ())
  | scanUp (skip : Bool) : Asks band (scan .up skip) .scan (false, skip, ())
  | scanDown (skip : Bool) : Asks band (scan .down skip) .scan (true, skip, ())
  | tune {channel subChannel : Int32} {selector : ProgramSelector}
      (made : ProgramSelector.amFm band channel subChannel = .ok selector) :
      Asks band (tune channel subChannel) .tune (selector, ())
  | cancel : Asks band cancel .cancel ()
  | getProgramInformation : Asks band getProgramInformation .getProgramInformation ()
  | tuneSelector {selector : ProgramSelector} (valid : selector.isValid = true) :
      Asks band (tuneSelector selector) .tune (selector, ())
  | cancelAnnouncement : Asks band cancelAnnouncement .cancelAnnouncement ()
  | getMetadataImage (id : Int32) : Asks band (getMetadataImage id) .getImage (id, ())
  | startBackgroundScan : Asks band startBackgroundScan .startBackgroundScan ()
  | getProgramList (filter : Option (TextMap String)) :
      Asks band (getProgramList filter) .getProgramList (filter, ())
  | isAnalogForced :
      Asks band isAnalogForced .isConfigFlagSet (ConfigFlag.forceAnalog.raw, ())
  | setAnalogForced (forced : Bool) :
      Asks band (setAnalogForced forced) .setConfigFlag (ConfigFlag.forceAnalog.raw, forced, ())
  | isConfigFlagSupported (flag : Int32) :
      Asks band (isConfigFlagSupported flag) .isConfigFlagSupported (flag, ())
  | isConfigFlagSet (flag : Int32) : Asks band (isConfigFlagSet flag) .isConfigFlagSet (flag, ())
  | setConfigFlag (flag : Int32) (value : Bool) :
      Asks band (setConfigFlag flag value) .setConfigFlag (flag, value, ())
  | setParameters (parameters : TextMap String) :
      Asks band (setParameters parameters) .setParameters (parameters, ())
  | getParameters (keys : List String) : Asks band (getParameters keys) .getParameters (keys, ())
  | isAntennaConnected : Asks band isAntennaConnected .isAntennaConnected ()
  | hasControl : Asks band hasControl .isClosed ()

def sets? : {s : Surface} → {t : WireType false} → Operation s t → Option Band
  | _, _, setConfiguration c => some c.band
  | _, _, _ => none

/-- What the caller is given for what the tuner answers: the same, only that a tuner that is not
closed is one under control. -/
def Passes : {s : Surface} → {t : WireType false} → Operation s t → t.Val → {α : Type} → α → Prop
  | _, _, hasControl, v, _, a => HEq (!v) a
  | _, _, _, v, _, a => HEq v a

variable {s : Surface} {t : WireType false}

theorem asks_request {op : Operation s t} {band : Option Band} {request : TunerRequest t}
    (h : op.request band = .ok request) :
    op.Asks band request.method request.args ∧ ∀ a, op.Passes (request.result a) a := by
  cases op with
  | setConfiguration c =>
    simp only [Operation.request] at h
    split at h
    · next valid =>
      cases h
      exact ⟨.setConfiguration valid, fun _ => HEq.rfl⟩
    · cases h
  | tune channel subChannel =>
    simp only [Operation.request] at h
    split at h
    · next made =>
      cases h
      exact ⟨.tune made, fun _ => HEq.rfl⟩
    · cases h
  | tuneSelector selector =>
    simp only [Operation.request] at h
    split at h
    · next valid =>
      cases h
      exact ⟨.tuneSelector valid, fun _ => HEq.rfl⟩
    · cases h
  | step direction skip =>
    cases h
    cases direction with
    | up => exact ⟨.stepUp skip, fun _ => HEq.rfl⟩
    | down => exact ⟨.stepDown skip, fun _ => HEq.rfl⟩
  | scan direction skip =>
    cases h
    cases direction with
    | up => exact ⟨.scanUp skip, fun _ => HEq.rfl⟩
    | down => exact ⟨.scanDown skip, fun _ => HEq.rfl⟩
  | hasControl =>
    cases h
    exact ⟨.hasControl, fun a => heq_of_eq (Bool.not_not a)⟩
  | _ =>
    cases h
    exact ⟨by constructor, fun _ => HEq.rfl⟩

theorem exists_request_iff (op : Operation s t) (band : Option Band) :
    (∃ request, op.request band = .ok request) ↔ op.Sound band := by
  cases op with
  | setConfiguration c => by_cases h : c.isValid = true <;> simp [request, Sound, h]
  | tune channel subChannel =>
    simp only [request, Sound]
    cases ProgramSelector.amFm band channel subChannel <;> simp
  | tuneSelector x => by_cases h : x.isValid = true <;> simp [request, Sound, h]
  | _ => exact ⟨fun _ => trivial, fun _ => ⟨_, rfl⟩⟩

theorem Asks.ne_close {op : Operation s t} {band : Option Band} {m : Method .tuner} {args : m.Args}
    (h : op.Asks band m args) : m ≠ .close := by
  cases h <;> exact nofun

theorem bandAfter_eq (op : Operation s t) (band : Option Band) :
    op.bandAfter band = op.sets?.or band := by
  cases op <;> rfl

end Operation

end ServiceBus
