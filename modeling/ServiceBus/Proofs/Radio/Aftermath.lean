import ServiceBus.Proofs.Handle.Generations
import ServiceBus.Proofs.Radio.Death

/-!
What the radio manager leaves behind. Whatever it is asked, it looks the service up once if its
handle is empty and not at all otherwise, and makes one call if there is a service to call. Its
answer tells what the handle has at hand afterwards: the connection that the call was made on,
unless the call could not reach the service.
-/
namespace ServiceBus

open World

variable {i : Interface} {host : Host} {w w' : World}

theorem World.events_resolve (host : Host) {r : HandleRef i} {x : Handle i}
    (handle : w.handle? r = some x) :
    (w.resolve host r).2.bus.events = w.bus.events ++
      if x.cached = none then
        [.lookedUp x.directory x.name (w.lookup host x.directory x.name).1]
      else [] := by
  cases cached : x.cached with
  | none => exact (resolve_spec handle cached).1
  | some c =>
    rw [resolve_of_cached host ((cached?_of_handle? handle).trans cached)]
    exact (List.append_nil _).symm

/-- A service is asked once through a handle. It is looked up just if nothing is at hand. If there
is none then, nobody is called; otherwise the method is called once, on the connection that was
found, and its binder is given one request if it is alive. -/
structure Consults (host : Host) (r : HandleRef i) (x : Handle i) (m : Method i) (args : m.Args)
    (w w' : World) : Prop where
  lookups : w'.bus.lookups = w.bus.lookups ++
    if x.cached = none then
      [(x.directory, x.name, (w.lookup host x.directory x.name).1)]
    else []
  missed : (w.resolve host r).1 = none → (w.resolve host r).2.Quiet w' ∧
    ∀ b, w'.bus.requestsTo b = w.bus.requestsTo b
  found : ∀ c, (w.resolve host r).1 = some c →
    let w₁ := (w.resolve host r).2
    Quiet { w₁ with bus := (c.call host m args w₁.bus).2 } w' ∧
      w'.bus.requestsTo c.remote = w.bus.requestsTo c.remote ++
        if w₁.bus.isAlive c.remote then [(m.code, m.request args)] else []

namespace Errand

theorem consults (host : Host) (e : Errand i) (short : e.Short) {r : HandleRef i} {x : Handle i}
    (handle : w.handle? r = some x) :
    Consults host r x e.call.1 e.call.2 w (e.run host r w).2 := by
  have events := events_resolve host handle
  -- A look-up is no request.
  have looked : (w.resolve host r).2.bus.lookups = w.bus.lookups ++
      if x.cached = none then
        [(x.directory, x.name, (w.lookup host x.directory x.name).1)]
      else [] := by
    rw [Bus.lookups, Bus.lookups, events, List.filterMap_append]
    split <;> rfl
  have unasked : ∀ b, (w.resolve host r).2.bus.requestsTo b = w.bus.requestsTo b := by
    intro b
    rw [Bus.requestsTo, Bus.requestsTo, events, List.filterMap_append]
    split <;> exact List.append_nil _
  rcases resolved : w.resolve host r with ⟨_ | c, w₁⟩
  all_goals rw [resolved] at looked unasked
  · have quiet := quiet_run_of_none (e := e) resolved
    refine ⟨(Bus.lookups_congr quiet.events).trans looked, fun _ => ?_, ?_⟩
    · rw [resolved]
      exact ⟨quiet, fun b => (Bus.requestsTo_congr quiet.events b).trans (unasked b)⟩
    · rw [resolved]
      rintro _ ⟨⟩
  · have quiet := quiet_run (e := e) resolved
    obtain ⟨lookups, requests⟩ := call_requests (s := w₁.bus) host c short.call
    refine ⟨(Bus.lookups_congr quiet.events).trans (lookups.trans looked), ?_, ?_⟩
    · rw [resolved]
      rintro ⟨⟩
    · rw [resolved]
      rintro _ ⟨⟩
      refine ⟨quiet, (Bus.requestsTo_congr quiet.events _).trans ?_⟩
      rw [requests, unasked]

end Errand

/-- How the manager answers, by how its call went: no service was found, the service was out of
reach, it failed in another way, or it gave a value. -/
structure Telling (α β : Type) where
  missed : β
  lost : β
  failed : β
  value : Connection .radio → α → β

/-- What the manager answers and what its handle has at hand then, by what the handle was resolved
to and what the call gave. -/
inductive Settles {α β : Type} (found : Option (Connection .radio))
    (given : Connection .radio → Except Status α) (tell : Telling α β) :
    β → Option (Connection .radio) → Prop
  | missed (missed : found = none) : Settles found given tell tell.missed none
  | lost {c : Connection .radio} (resolved : found = some c) (lost : OutOfReach (given c)) :
      Settles found given tell tell.lost none
  | failed {c : Connection .radio} {e : Status} (resolved : found = some c)
      (answered : given c = .error e) (reached : ¬ OutOfReach (given c)) :
      Settles found given tell tell.failed (some c)
  | value {c : Connection .radio} {a : α} (resolved : found = some c) (answered : given c = .ok a) :
      Settles found given tell (tell.value c a) (some c)

namespace RadioManager

def tellModules : Telling (List ModuleProperties) (Except RadioStatus (List ModuleProperties)) where
  missed := .error .noInit
  lost := .error .deadObject
  failed := .error .error
  value _ modules := .ok modules

/-- A session that is opened remembers the connection that its tuner was got on. -/
def tellSession (r : HandleRef .radio) (config : Option BandConfig) :
    Telling (Peer .tuner) (Option Session) where
  missed := none
  lost := none
  failed := none
  value c tuner :=
    some
      { tuner
        closed := false
        band := config.map BandConfig.band
        openedThrough := some (r, c) }

end RadioManager

namespace Errand

variable {r : HandleRef .radio}

def telling (r : HandleRef .radio) : (e : Errand .radio) → Telling e.call.1.Outcome e.Answer
  | listModules => RadioManager.tellModules
  | openTuner _ config _ _ => RadioManager.tellSession r config

theorem run_of_none (e : Errand .radio) {w₁ : World} (missed : w.resolve host r = (none, w₁)) :
    e.run host r w = ((e.telling r).missed, w₁) := by
  cases e with
  | listModules => simp [run, RadioManager.listModules, missed, telling, RadioManager.tellModules]
  | openTuner module config withAudio valid =>
    have accepted := BandConfig.filter_not_isValid_eq_none_iff.2 valid
    simp [run, RadioManager.openTuner, accepted, missed, telling, RadioManager.tellSession]

theorem answer_of_some (e : Errand .radio) {c : Connection .radio} {w₁ : World}
    (resolved : w.resolve host r = (some c, w₁)) :
    (e.run host r w).1 =
      match (c.call host e.call.1 e.call.2 w₁.bus).1 with
      | .ok a => (e.telling r).value c a
      | .error s => if s.isUnreachable then (e.telling r).lost else (e.telling r).failed := by
  cases e with
  | listModules =>
    simp only [run, call, RadioManager.listModules, resolved, onBus]
    rcases c.call host .listModules () w₁.bus with ⟨s | modules, s'⟩
    · dsimp only
      split <;> rfl
    · rfl
  | openTuner module config withAudio valid =>
    have accepted := BandConfig.filter_not_isValid_eq_none_iff.2 valid
    simp only [run, call, RadioManager.openTuner, accepted, resolved, onBus]
    rcases c.call host .openTuner (module, config, withAudio, ()) w₁.bus with ⟨s | tuner, s'⟩
    · dsimp only
      split <;> rfl
    · rfl

theorem settles (host : Host) (e : Errand .radio) (r : HandleRef .radio) (w : World) :
    let found := w.resolve host r
    let after := e.run host r w
    Settles found.1 (fun c => (c.call host e.call.1 e.call.2 found.2.bus).1) (e.telling r) after.1
      (after.2.cached? r) := by
  rcases resolved : w.resolve host r with ⟨_ | c, w₁⟩
  · have empty := cached?_resolve host w r
    rw [resolved] at empty
    rw [e.run_of_none resolved]
    dsimp only at empty ⊢
    rw [empty]
    exact .missed rfl
  · have hand := e.lostIf_of_resolved resolved
    have answer := e.answer_of_some resolved
    rcases answered : (c.call host e.call.1 e.call.2 w₁.bus).1 with s | a
    all_goals rw [answered] at hand answer
    · by_cases gone : s.isUnreachable = true
      · have lost : OutOfReach (c.call host e.call.1 e.call.2 w₁.bus).1 :=
          ⟨s, answered, s.isUnreachable_iff.1 gone⟩
        dsimp only at answer ⊢
        rw [answer, if_pos gone, hand.gone (answered ▸ lost)]
        exact .lost rfl lost
      · have reached : ¬ OutOfReach (c.call host e.call.1 e.call.2 w₁.bus).1 := by
          rw [answered, outOfReach_error]
          exact mt s.isUnreachable_iff.2 gone
        dsimp only at answer ⊢
        rw [answer, if_neg gone, hand.kept (answered ▸ reached)]
        exact .failed rfl answered reached
    · dsimp only at answer ⊢
      rw [answer, hand.kept (not_outOfReach_ok a)]
      exact .value rfl answered

end Errand

namespace RadioManager

theorem openTuner_of_invalid (host : Host) (m : RadioManager) (module : Int32) {c : BandConfig}
    (invalid : c.isValid = false) (withAudio : Bool) (w : World) :
    openTuner host m module (some c) withAudio w =
      (none, w.say .error ("Can't open tuner: invalid band config " ++ c.inspect)) := by
  have refused : (some c).filter (fun c => !c.isValid) = some c := by
    simp [Option.filter_some, invalid]
  simp only [openTuner, refused]

/-- The list of modules and the plain error come with a connection, the other failures without. -/
theorem hand_of_tellModules {found hand : Option (Connection .radio)}
    {given : Connection .radio → Except Status (List ModuleProperties)}
    {told : Except RadioStatus (List ModuleProperties)}
    (h : Settles found given tellModules told hand) :
    (hand.isSome = true ↔ (∃ modules, told = .ok modules) ∨ told = .error .error) ∧
      (hand.isSome = false ↔ told = .error .noInit ∨ told = .error .deadObject) := by
  cases h <;> simp [tellModules]

variable {r : HandleRef .radio} {config : Option BandConfig}
  {found hand : Option (Connection .radio)}
  {given : Connection .radio → Except Status (Peer .tuner)}

theorem hand_of_session {y : Session}
    (h : Settles found given (tellSession r config) (some y) hand) :
    ∃ c, y.openedThrough = some (r, c) ∧ hand = some c ∧ y.closed = false ∧
      y.band = config.map BandConfig.band := by
  generalize hb : some y = told at h
  cases h with
  | @value c tuner resolved answered =>
    cases hb
    exact ⟨c, rfl, rfl, rfl, rfl⟩
  | missed | lost | failed => cases hb

theorem hand_of_no_session (h : Settles found given (tellSession r config) none hand) :
    hand.isSome = true ↔ ∃ c, found = some c ∧ ¬ OutOfReach (given c) := by
  generalize hb : none = told at h
  cases h with
  | missed missed => simp [missed]
  | lost resolved lost => simp [resolved, lost]
  | failed resolved answered reached => simp [resolved, reached]
  | value => cases hb

/-- The manager and its handle, in any state. Each call consults the service once. After modules
were to be listed the handle has a connection at hand just if they were, or if the service failed
while within reach. A tuner is not opened with a configuration that is not valid, and nothing else
happens then. A session that is opened is open, on the band of its configuration, and remembers the
very connection that is at hand; and where none is opened, a connection is at hand just if the
service was found and could be reached. -/
theorem consults_once (host : Host) (r : HandleRef .radio) (w : World) (x : Handle .radio)
    (handle : w.handle? r = some x) :
    let found := w.resolve host r
    let listed := listModules host ⟨r⟩ w
    (Consults host r x .listModules () w listed.2 ∧
      Settles found.1 (fun c => (c.call host .listModules () found.2.bus).1) tellModules listed.1
        (listed.2.cached? r) ∧
      (listed.2.isResolved r = true ↔
        (∃ modules, listed.1 = .ok modules) ∨ listed.1 = .error .error) ∧
      (listed.2.isResolved r = false ↔
        listed.1 = .error .noInit ∨ listed.1 = .error .deadObject)) ∧
    ∀ (module : Int32) (config : Option BandConfig) (withAudio : Bool),
      let args : Method.openTuner.Args := (module, config, withAudio, ())
      let given := fun c : Connection .radio => (c.call host .openTuner args found.2.bus).1
      let opened := openTuner host ⟨r⟩ module config withAudio w
      (∀ c, config = some c → c.isValid = false →
        opened.1 = none ∧ w.Quiet opened.2 ∧ opened.2.handles = w.handles) ∧
      ((∀ c, config = some c → c.isValid = true) →
        Consults host r x .openTuner args w opened.2 ∧
        Settles found.1 given (tellSession r config) opened.1 (opened.2.cached? r) ∧
        (∀ y, opened.1 = some y → ∃ c, y.openedThrough = some (r, c) ∧
          opened.2.cached? r = some c ∧ y.closed = false ∧ y.band = config.map BandConfig.band) ∧
        (opened.1 = none → (opened.2.isResolved r = true ↔
          ∃ c, found.1 = some c ∧ ¬ OutOfReach (given c)))) := by
  intro found listed
  constructor
  · have settled := Errand.listModules.settles host r w
    obtain ⟨has, has_not⟩ := hand_of_tellModules settled
    exact ⟨Errand.listModules.consults host trivial handle, settled, has, has_not⟩
  · intro module config withAudio args given opened
    constructor
    · rintro c rfl invalid
      have refused := openTuner_of_invalid host ⟨r⟩ module invalid withAudio w
      simp only [opened, refused]
      exact ⟨trivial, quiet_say w _ _, rfl⟩
    · intro valid
      let e := Errand.openTuner module config withAudio valid
      have settled : Settles found.1 given (tellSession r config) opened.1 (opened.2.cached? r) :=
        e.settles host r w
      refine ⟨e.consults host trivial handle, settled, fun y hy => ?_, fun none => ?_⟩
      · rw [hy] at settled
        exact hand_of_session settled
      · rw [none] at settled
        exact hand_of_no_session settled

/-- A service that has no such module: the tuner is not opened, and the connection that was made for
it is used again. -/
theorem consults_once_refused :
    let noModule : Status := .raised .illegalArgument (some "no such module")
    let host : Host :=
      ⟨fun _ _ _ _ _ => ⟨.error noModule, 0, []⟩, fun _ _ _ _ => ⟨.ok .empty, 0, []⟩,
        fun _ _ _ => none⟩
    let b := Binder.native 0 .radio 5
    let services : TextMap Binder := (∅ : TextMap Binder).insert "broadcastradio" b
    let x : Handle .radio := ⟨"broadcastradio", .registry 0, none⟩
    let w : World := ⟨⟨[true], 0, [], []⟩, [⟨services⟩], ⟨[], [x], []⟩⟩
    let r : HandleRef .radio := ⟨0⟩
    let fm := BandConfig.plain .fm 87500 108000 100
    let args : Method.openTuner.Args := (3, some fm, true, ())
    let opened := openTuner host ⟨r⟩ 3 (some fm) true w
    opened.1.isNone = true ∧ opened.2.isResolved r = true ∧
      opened.2.bus.lookups = [(.registry 0, "broadcastradio", some b)] ∧
      opened.2.bus.requestsTo b = [(2, Method.openTuner.request args)] ∧
      ∃ c, (w.resolve host r).1 = some c ∧
        ¬ OutOfReach (c.call host .openTuner args (w.resolve host r).2.bus).1 := by
  intro noModule host b services x w r fm args opened
  have valid : ∀ c, some fm = some c → c.isValid = true := by
    rintro _ ⟨⟩
    decide
  obtain ⟨consulted, settled, -, kept⟩ :=
    ((consults_once host r w x rfl).2 3 (some fm) true).2 valid
  have refused : opened.1.isNone = true := by decide +kernel
  have resolved : opened.2.isResolved r = true := by decide +kernel
  obtain ⟨c, found, reached⟩ := (kept (Option.isNone_iff_eq_none.1 refused)).1 resolved
  have remote : (w.resolve host r).1.map Connection.remote = some b := by decide +kernel
  have alive : (w.resolve host r).2.bus.isAlive b = true := by decide +kernel
  rw [found, Option.map_some, Option.some.injEq] at remote
  have asked := (consulted.found c found).2
  rw [remote, if_pos alive] at asked
  refine ⟨refused, resolved, ?_, ?_, c, found, reached⟩
  · rw [consulted.lookups]
    decide +kernel
  · rw [asked]
    rfl

end RadioManager

end ServiceBus
