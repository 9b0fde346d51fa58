import ServiceBus.Radio.Manager
import ServiceBus.Proofs.Call.Footprint
import ServiceBus.Proofs.Stats.Telemetry

/-!
Recovery costs one failed call. A client whose service has died is told so by the next call, which
reaches nobody and drops the connection; the call after that looks the service up again and goes to
the binder that is found.
-/
namespace ServiceBus

open World

/-- What a client asks of a service through a handle. The radio is given a valid configuration or
none. -/
inductive Errand : Interface → Type
  | listModules : Errand .radio
  | openTuner (module : Int32) (config : Option BandConfig) (withAudio : Bool)
      (valid : ∀ c ∈ config, c.isValid = true) : Errand .radio
  | log (a : Atom) : Errand .stats

namespace Errand

@[reducible] def Answer : {i : Interface} → Errand i → Type
  | _, listModules => Except RadioStatus (List ModuleProperties)
  | _, openTuner _ _ _ _ => Option Session
  | _, log _ => Bool

def run (host : Host) : {i : Interface} → (e : Errand i) → HandleRef i → World → e.Answer × World
  | _, listModules, r, w => RadioManager.listModules host ⟨r⟩ w
  | _, openTuner module config withAudio _, r, w =>
    RadioManager.openTuner host ⟨r⟩ module config withAudio w
  | _, log a, r, w => a.log host ⟨r⟩ w

def call : {i : Interface} → Errand i → (m : Method i) × m.Args
  | _, listModules => ⟨.listModules, ()⟩
  | _, openTuner module config withAudio _ => ⟨.openTuner, (module, config, withAudio, ())⟩
  | _, log a => a.call

/-- The answer when the service is gone. -/
def lost : {i : Interface} → (e : Errand i) → e.Answer
  | _, listModules => .error .deadObject
  | _, openTuner _ _ _ _ => none
  | _, log _ => false

/-- What is logged can be written; the radio is asked nothing that cannot. -/
def Short : {i : Interface} → Errand i → Prop
  | _, log a => Vals.Short a.call.1.params a.call.2
  | _, _ => True

variable {i : Interface} {e : Errand i}

theorem Short.call (h : e.Short) : Vals.Short e.call.1.params e.call.2 := by
  cases e with
  | listModules => trivial
  | openTuner module config withAudio valid => exact ⟨trivial, fun _ _ => trivial, trivial, trivial⟩
  | log a => exact h

variable {host : Host} {r : HandleRef i} {w w₁ : World} {c : Connection i} {s' : Bus}

/-- A client that is told that the service is gone drops its connection, and that is all. -/
theorem run_of_unreachable (resolved : w.resolve host r = (some c, w₁)) {status : Status}
    (answered : c.call host e.call.1 e.call.2 w₁.bus = (.error status, s'))
    (gone : status.isUnreachable = true) :
    ∃ w', e.run host r w = (e.lost, w') ∧ World.Quiet { w₁ with bus := s' } w' ∧
      w'.handles = (w₁.setCached r none).handles := by
  have cached : w₁.cached? r = some c := cached?_of_resolve host resolved
  -- The log says why the connection is dropped, before or after.
  have drops (w₂ : World) (quiet : World.Quiet { w₁ with bus := s' } w₂)
      (handles : w₂.handles = w₁.handles) :
      World.Quiet { w₁ with bus := s' } (w₂.invalidate r) ∧
        (w₂.invalidate r).handles = (w₁.setCached r none).handles := by
    have cached₂ : w₂.cached? r = some c := (cached?_congr handles r).trans cached
    exact ⟨quiet.trans (quiet_invalidate w₂ r),
      (invalidate_handles cached₂).trans (setCached_handles_congr handles r none)⟩
  cases e with
  | listModules =>
    have answered' : c.call host .listModules () w₁.bus = (.error status, s') := answered
    simp only [run, RadioManager.listModules, resolved, onBus, answered', gone, if_true]
    exact ⟨_, rfl, drops _ (quiet_say _ _ _) rfl⟩
  | openTuner module config withAudio valid =>
    have answered' : c.call host .openTuner (module, config, withAudio, ()) w₁.bus =
      (.error status, s') := answered
    have accepted := BandConfig.filter_not_isValid_eq_none_iff.2 valid
    simp only [run, RadioManager.openTuner, accepted, resolved, onBus, answered', gone, if_true]
    exact ⟨_, rfl, drops _ (quiet_say _ _ _) rfl⟩
  | log a =>
    obtain ⟨label, sent⟩ := a.exists_log_eq_send
    have answered' : c.call host a.call.1 a.call.2 w₁.bus = (.error status, s') := answered
    simp only [run, sent, StatsLog.send, resolved, onBus, answered']
    obtain ⟨quiet, handles⟩ := drops { w₁ with bus := s' } (Quiet.refl _) rfl
    exact ⟨_, rfl, quiet.trans (quiet_say _ _ _), handles⟩

theorem quiet_run (resolved : w.resolve host r = (some c, w₁)) :
    World.Quiet { w₁ with bus := (c.call host e.call.1 e.call.2 w₁.bus).2 } (e.run host r w).2 := by
  cases e with
  | listModules =>
    simp only [run, call, RadioManager.listModules, resolved, onBus]
    rcases c.call host .listModules () w₁.bus with ⟨status | modules, s'⟩
    · dsimp only
      split
      · exact (quiet_say _ _ _).trans (quiet_invalidate _ r)
      · exact quiet_say _ _ _
    · exact Quiet.refl _
  | openTuner module config withAudio valid =>
    have accepted := BandConfig.filter_not_isValid_eq_none_iff.2 valid
    simp only [run, call, RadioManager.openTuner, accepted, resolved, onBus]
    rcases c.call host .openTuner (module, config, withAudio, ()) w₁.bus with ⟨status | tuner, s'⟩
    · dsimp only
      split
      · exact (quiet_say _ _ _).trans (quiet_invalidate _ r)
      · exact quiet_say _ _ _
    · exact Quiet.refl _
  | log a =>
    obtain ⟨label, sent⟩ := a.exists_log_eq_send
    simp only [run, call, sent, StatsLog.send, resolved, onBus]
    rcases c.call host a.call.1 a.call.2 w₁.bus with ⟨status | u, s'⟩
    · exact (quiet_invalidate { w₁ with bus := s' } r).trans (quiet_say _ _ _)
    · exact Quiet.refl _

theorem events_run (resolved : w.resolve host r = (some c, w₁)) :
    (e.run host r w).2.bus.events = (c.call host e.call.1 e.call.2 w₁.bus).2.events :=
  (quiet_run resolved).events

theorem quiet_run_of_none (missed : w.resolve host r = (none, w₁)) :
    w₁.Quiet (e.run host r w).2 := by
  cases e with
  | listModules =>
    simp only [run, RadioManager.listModules, missed]
    exact Quiet.refl w₁
  | openTuner module config withAudio valid =>
    have accepted := BandConfig.filter_not_isValid_eq_none_iff.2 valid
    simp only [run, RadioManager.openTuner, accepted, missed]
    exact Quiet.refl w₁
  | log a =>
    obtain ⟨label, sent⟩ := a.exists_log_eq_send
    simp only [run, sent, StatsLog.send, missed]
    exact quiet_say w₁ _ _

end Errand

namespace World

variable {i : Interface} {host : Host} {w w' : World} {directory : Directory} {name : String}
  {b : Binder}

/-- A look-up of the name would find a binder that is alive and answers to the interface. -/
structure Offers (host : Host) (w : World) (i : Interface) (directory : Directory) (name : String)
    (b : Binder) : Prop where
  found : (w.lookup host directory name).1 = some b
  alive : w.bus.isAlive b = true
  answers : b.descriptor = i.descriptor

theorem lookup_live (host : Host) (w : World) (directory : Directory) (name : String) :
    (w.lookup host directory name).2.bus.live = w.bus.live := by
  cases directory with
  | registry id => exact (w.registry id).check_live name w.bus
  | custom id => rfl

theorem lookup_events (host : Host) (w : World) (directory : Directory) (name : String) :
    (w.lookup host directory name).2.bus.events =
      w.bus.events ++ [.lookedUp directory name (w.lookup host directory name).1] := by
  cases directory with
  | registry id =>
    exact congrArg (· ++ _) ((w.registry id).check_events name w.bus)
  | custom id => rfl

theorem Offers.of_quiet {id : Nat} (h : w.Offers host i (.registry id) name b) (quiet : w.Quiet w') :
    w'.Offers host i (.registry id) name b where
  found := by
    have found := h.found
    have same : w'.registry id = w.registry id := by
      rw [registry, registry, quiet.registries]
    have alive : w'.bus.isAlive = w.bus.isAlive := funext (Bus.isAlive_congr quiet.live)
    have looked (w : World) :
        (w.lookup host (.registry id) name).1 = (w.registry id).find? w.bus name :=
      (w.registry id).check_fst name w.bus
    rw [looked, Registry.find?] at found ⊢
    rwa [same, alive]
  alive := (Bus.isAlive_congr quiet.live b).trans h.alive
  answers := h.answers

theorem Offers.resolve {r : HandleRef i} {x : Handle i} (hx : w.handle? r = some x)
    (empty : x.cached = none) (h : w.Offers host i x.directory x.name b) :
    ∃ c w₁, w.resolve host r = (some c, w₁) ∧ c.remote = b ∧ w₁.bus.isAlive b = true ∧
      w₁.bus.events = w.bus.events ++ [.lookedUp x.directory x.name (some b)] := by
  have live := w.lookup_live host x.directory x.name
  have events := w.lookup_events host x.directory x.name
  rcases looked : w.lookup host x.directory x.name with ⟨found, w₁⟩
  have same := h.found
  rw [looked] at live events same
  cases same
  simp only [World.resolve, hx, empty, looked, onBus, Bus.connect, if_pos h.answers]
  refine ⟨_, _, rfl, rfl, ?_, ?_⟩
  · have quiet := quiet_setCached
      (World.say { w₁ with bus := { w₁.bus with connections := w₁.bus.connections + 1 } } .debug
        ("Resolved service '" ++ x.name ++ "'")) r (some ⟨w₁.bus.connections, b⟩)
    exact (Bus.isAlive_congr (quiet.live.trans live) b).trans h.alive
  · exact (quiet_setCached _ r _).events.trans events

end World

/-- A handle keeps a connection to a binder that has died. The next call through it fails, calls
nobody, looks nothing up and drops the connection; what a registry offered before it still offers.
The call after that, if a binder is offered by then, resolves the handle to it by one look-up and
gives it one request. -/
theorem recovers_run (host : Host) {i : Interface} (r : HandleRef i) (w : World) (x : Handle i)
    (c : Connection i) (handle : w.handle? r = some x) (cached : x.cached = some c)
    (dead : w.bus.isAlive c.remote = false) (e : Errand i) :
    let after := e.run host r w
    after.1 = e.lost ∧ after.2.bus.events = w.bus.events ∧
      after.2.handle? r = some { x with cached := none } ∧
      (∀ id b, x.directory = .registry id → w.Offers host i x.directory x.name b →
        after.2.Offers host i x.directory x.name b) ∧
      ∀ (next : Errand i) (w₂ : World) (b : Binder), next.Short →
        w₂.handle? r = after.2.handle? r → w₂.Offers host i x.directory x.name b →
        let later := next.run host r w₂
        (∃ d, (w₂.resolve host r).1 = some d ∧ d.remote = b) ∧
          later.2.bus.lookups = w₂.bus.lookups ++ [(x.directory, x.name, some b)] ∧
          later.2.bus.requestsTo b =
            w₂.bus.requestsTo b ++ [(next.call.1.code, next.call.1.request next.call.2)] := by
  have resolved := resolve_of_cached host ((cached?_of_handle? handle).trans cached)
  obtain ⟨w', lost, quiet, handles⟩ :=
    Errand.run_of_unreachable (e := e) resolved (requestVia_of_dead dead) rfl
  have emptied : w'.handle? r = some { x with cached := none } := by
    have h := w.handle?_setCached_self r none
    rw [handle, Option.map_some] at h
    rw [← h, handle?, handle?, handles]
  dsimp only
  rw [lost]
  refine ⟨rfl, quiet.events, emptied, fun id b registry offers => ?_, ?_⟩
  · rw [registry] at offers ⊢
    exact offers.of_quiet quiet
  · intro next w₂ b short same offers
    let x' : Handle i := { x with cached := none }
    have handle₂ : w₂.handle? r = some x' := same.trans emptied
    obtain ⟨d, w₃, resolved₂, remote, alive, looked⟩ := Offers.resolve (x := x') handle₂ rfl offers
    subst remote
    have events := Errand.events_run (e := next) resolved₂
    obtain ⟨lookups, requests⟩ := call_footprint host d short.call alive
    have looked₂ : w₃.bus.lookups = w₂.bus.lookups ++ [(x.directory, x.name, some d.remote)] := by
      rw [Bus.lookups, Bus.lookups, looked, List.filterMap_append]
      rfl
    have requested : w₃.bus.requestsTo d.remote = w₂.bus.requestsTo d.remote := by
      rw [Bus.requestsTo, Bus.requestsTo, looked, List.filterMap_append]
      exact List.append_nil _
    refine ⟨⟨d, congrArg Prod.fst resolved₂, rfl⟩, ?_, ?_⟩
    · exact (Bus.lookups_congr events).trans (lookups.trans looked₂)
    · rw [Bus.requestsTo_congr events, requests, requested]

/-- The radio service has died and another one has been registered in its place. -/
theorem recovers_run_replaced :
    let host : Host :=
      ⟨fun _ _ _ _ _ => ⟨.error .ok, 0, []⟩, fun _ _ _ _ => ⟨.ok .empty, 0, []⟩, fun _ _ _ => none⟩
    let b := Binder.native 1 .radio 6
    let x : Handle .radio := ⟨"broadcastradio", .registry 0, some ⟨0, .native 0 .radio 5⟩⟩
    let services : TextMap Binder := (∅ : TextMap Binder).insert "broadcastradio" b
    let w : World := ⟨⟨[false, true], 1, [], []⟩, [⟨services⟩], ⟨[], [x], []⟩⟩
    let m : RadioManager := ⟨⟨0⟩⟩
    let failed := m.listModules host w
    let again := m.openTuner host 3 none true failed.2
    failed.1 = .error .deadObject ∧ failed.2.bus.events = [] ∧
      again.2.bus.lookups = [(.registry 0, "broadcastradio", some b)] ∧
      again.2.bus.requestsTo b = [(2, Method.openTuner.request (3, none, true, ()))] := by
  intro host b x services w m failed again
  have h := recovers_run host ⟨0⟩ w x ⟨0, .native 0 .radio 5⟩ rfl rfl rfl .listModules
  obtain ⟨lost, events, -, offers, next⟩ := h
  have offered : w.Offers host .radio x.directory x.name b := ⟨by decide +kernel, rfl, rfl⟩
  have offered' := offers 0 b rfl offered
  obtain ⟨-, lookups, requests⟩ := next (.openTuner 3 none true nofun) failed.2 b trivial rfl offered'
  have none : failed.2.bus.events = [] := events
  have unasked : failed.2.bus.lookups = [] := Bus.lookups_congr (s := .empty) none
  have uncalled : failed.2.bus.requestsTo b = [] := Bus.requestsTo_congr (s := .empty) none b
  refine ⟨lost, none, lookups.trans ?_, requests.trans ?_⟩
  · rw [unasked]
    rfl
  · rw [uncalled]
    rfl

end ServiceBus
