import ServiceBus.Proofs.Call.Passage
import ServiceBus.Proofs.Radio.Aftermath
import ServiceBus.Proofs.Radio.Lifecycle

/-!
The limits of a band. A configuration whose limits and spacing are not in order is refused where it
is given, so no tuner and no radio service is ever given one, not even behind binders that pass
calls on.
-/
namespace ServiceBus

open Wire World

namespace BandConfig

/-- The limits are in order and the spacing fits between them, as integers. -/
structure InOrder (c : BandConfig) : Prop where
  lower : 0 < c.lowerLimit.toInt
  upper : c.lowerLimit.toInt < c.upperLimit.toInt
  spacing : 1 ≤ c.spacing.toInt
  fits : c.spacing.toInt ≤ c.upperLimit.toInt - c.lowerLimit.toInt

def difference? (a b : Int32) : Option Int32 :=
  if Int32.minValue.toInt ≤ a.toInt - b.toInt ∧ a.toInt - b.toInt ≤ Int32.maxValue.toInt then
    some (a - b)
  else none

/-- The check, as it is evaluated: what stands behind a part that fails is not. There is no result
if the subtraction leaves the range of the word type. -/
def check? (c : BandConfig) : Option Bool :=
  if 0 < c.lowerLimit then
    if c.lowerLimit < c.upperLimit then
      if 0 < c.spacing then
        (difference? c.upperLimit c.lowerLimit).map fun width => c.spacing ≤ width
      else some false
    else some false
  else some false

/-- The limits can be subtracted once they are known to be positive and in order. -/
theorem difference?_of_lt {a b : Int32} (positive : 0 < b) (less : b < a) :
    difference? a b = some (a - b) := by
  have positive := Int32.lt_iff_toInt_lt.1 positive
  have less := Int32.lt_iff_toInt_lt.1 less
  have bound := a.toInt_lt
  rw [Int32.toInt_zero] at positive
  rw [difference?, Int32.toInt_minValue, Int32.toInt_maxValue, if_pos]
  omega

theorem check?_eq (c : BandConfig) : c.check? = some c.isValid := by
  unfold check? isValid
  split
  · next lower =>
    split
    · next upper =>
      split
      · next spacing =>
        rw [difference?_of_lt lower upper]
        simp [lower, upper, spacing]
      · next spacing => simp [spacing]
    · next upper => simp [upper]
  · next lower => simp [lower]

theorem isValid_iff (c : BandConfig) : c.isValid = true ↔ c.InOrder := by
  simp only [isValid, Bool.and_eq_true, decide_eq_true_eq]
  constructor
  · rintro ⟨⟨⟨lower, upper⟩, spacing⟩, fits⟩
    have width := Int32.toInt_sub_of_le _ _ (Int32.le_of_lt lower) (Int32.le_of_lt upper)
    rw [Int32.le_iff_toInt_le, width] at fits
    rw [Int32.lt_iff_toInt_lt] at lower upper spacing
    exact ⟨lower, upper, spacing, fits⟩
  · rintro ⟨lower, upper, spacing, fits⟩
    have lower : 0 < c.lowerLimit := Int32.lt_iff_toInt_lt.2 lower
    have upper : c.lowerLimit < c.upperLimit := Int32.lt_iff_toInt_lt.2 upper
    have width := Int32.toInt_sub_of_le _ _ (Int32.le_of_lt lower) (Int32.le_of_lt upper)
    rw [← width, ← Int32.le_iff_toInt_le] at fits
    exact ⟨⟨⟨lower, upper⟩, Int32.lt_iff_toInt_lt.2 spacing⟩, fits⟩

end BandConfig

def Method.configs : {i : Interface} → (m : Method i) → m.Args → List BandConfig
  | _, .setConfiguration => fun (c, ()) => [c]
  | _, .openTuner => fun (_, config, _, ()) => config.toList
  | _, _ => fun _ => []

namespace Event

/-- Somebody is given a configuration: a local implementation with a call, or a binder with a
request, under whichever interface it is read. -/
inductive Gives (c : BandConfig) : Event → Prop
  | invoked {servant : ServantId} {i : Interface} {m : Method i} {args : m.Args}
      (given : c ∈ m.configs args) : Gives c (.invoked servant m args)
  | handled {b : Binder} {code : UInt32} {request : Payload} {i : Interface} {m : Method i}
      {args : m.Args} (reads : decodeRequest i code request = .ok ⟨m, args⟩)
      (given : c ∈ m.configs args) : Gives c (.handled b code request)

def Sound (e : Event) : Prop := ∀ c, e.Gives c → c.InOrder

theorem Carries.sound {i : Interface} {m : Method i} {args : m.Args} {e : Event}
    (h : e.Carries m args) (ordered : ∀ c ∈ m.configs args, c.InOrder) : e.Sound := by
  intro c gives
  cases h with
  | filled b => cases gives
  | invoked servant =>
    cases gives with
    | invoked given => exact ordered c given
  | handled b short =>
    cases gives with
    | handled reads given =>
      obtain ⟨rfl, ⟨⟩, ⟨⟩⟩ := eq_of_decodeRequest_request short reads
      exact ordered c given

end Event

theorem Operation.Asks.configs_inOrder {s : Surface} {t : WireType false} {op : Operation s t}
    {band : Option Band} {method : Method .tuner} {args : method.Args}
    (h : op.Asks band method args) : ∀ c ∈ method.configs args, c.InOrder := by
  cases h with
  | setConfiguration valid =>
    intro c given
    cases List.mem_singleton.1 given
    exact (BandConfig.isValid_iff _).1 valid
  | _ => exact List.forall_mem_nil _

theorem sound_call (host : Host) {i : Interface} (p : Peer i) (m : Method i) (args : m.Args)
    (ordered : ∀ c ∈ m.configs args, c.InOrder) (s : Bus) :
    Bus.Adds Event.Sound s (p.call host m args s).2 :=
  (carries_call host p m args s).mono fun _ h => h.sound ordered

theorem Session.configs_of_asks? {x : Session} {u : Session.Use} {call : TunerCall}
    (h : x.asks? u = some call) : ∀ c ∈ call.1.configs call.2, c.InOrder := by
  obtain ⟨s, t, op, request, asked, rfl⟩ | ⟨-, rfl⟩ := Session.asks?_eq_some h
  · exact (Operation.asks_request asked).1.configs_inOrder
  · exact List.forall_mem_nil _

theorem Session.sound_use (host : Host) (x : Session) (w : World) (u : Session.Use) :
    Bus.Adds Event.Sound w.bus (x.use host w u).2.bus := by
  have called := Session.called_use host x w u
  cases asks : x.asks? u with
  | none =>
    rw [asks] at called
    exact .of_events (Quiet.events called)
  | some call =>
    have ordered := Session.configs_of_asks? asks
    rw [asks] at called
    have sound := sound_call host x.tuner call.1 call.2 ordered w.bus
    exact sound.trans (.of_events (Quiet.events called))

theorem sound_resolve (host : Host) {i : Interface} (r : HandleRef i) (w : World) :
    Bus.Adds Event.Sound w.bus (w.resolve host r).2.bus := by
  cases handle : w.handle? r with
  | none =>
    simp only [resolve, handle]
    exact .of_events rfl
  | some x =>
    have events := events_resolve host handle
    split at events
    · refine .of_event events fun c gives => ?_
      cases gives
    · exact .of_events (events.trans (List.append_nil _))

theorem Errand.configs_call (e : Errand .radio) : ∀ c ∈ e.call.1.configs e.call.2, c.InOrder := by
  cases e with
  | listModules => exact nofun
  | openTuner module config withAudio valid =>
    intro c given
    exact c.isValid_iff.1 (valid c (Option.mem_toList.1 given))

theorem Errand.sound_run (host : Host) (e : Errand .radio) (r : HandleRef .radio) (w : World) :
    Bus.Adds Event.Sound w.bus (e.run host r w).2.bus := by
  have looked := sound_resolve host r w
  rcases resolved : w.resolve host r with ⟨_ | c, w₁⟩
  all_goals rw [resolved] at looked
  · exact looked.trans (.of_events (quiet_run_of_none resolved).events)
  · have called := sound_call host (.remote c) e.call.1 e.call.2 e.configs_call w₁.bus
    exact (looked.trans called).trans (.of_events (quiet_run resolved).events)

namespace RadioManager

theorem sound_openTuner (host : Host) (r : HandleRef .radio) (module : Int32)
    (config : Option BandConfig) (withAudio : Bool) (w : World) :
    Bus.Adds Event.Sound w.bus (openTuner host ⟨r⟩ module config withAudio w).2.bus := by
  by_cases valid : ∀ c ∈ config, c.isValid = true
  · exact (Errand.openTuner module config withAudio valid).sound_run host r w
  · obtain ⟨c, rfl, invalid⟩ : ∃ c, config = some c ∧ c.isValid = false := by
      simpa using valid
    rw [openTuner_of_invalid host ⟨r⟩ module invalid withAudio w]
    exact .of_events rfl

end RadioManager

namespace Console

theorem sound_step (host : Host) (r : HandleRef .radio) (st : Console) (command : Command) :
    Bus.Adds Event.Sound st.world.bus (step host r st command).world.bus := by
  -- What happens to a session is one use of it.
  have onSession (k : Nat) (f : Session → Console)
      (each : ∀ x, Bus.Adds Event.Sound st.world.bus (f x).world.bus) :
      Bus.Adds Event.Sound st.world.bus (st.onSession k f).world.bus :=
    onSession_cases (P := fun st' => Bus.Adds Event.Sound st.world.bus st'.world.bus)
      (fun _ => .of_events rfl) fun x _ => each x
  cases command with
  | listModules => exact Errand.listModules.sound_run host r st.world
  | openTuner module config withAudio =>
    exact RadioManager.sound_openTuner host r module config withAudio st.world
  | perform k op => exact onSession k _ fun x => x.sound_use host st.world (.perform op)
  | close k => exact onSession k _ fun x => x.sound_use host st.world .close
  | drop k => exact onSession k _ fun x => x.sound_use host st.world .drop
  | resolve => exact sound_resolve host r st.world
  | invalidate => exact .of_events (quiet_invalidate st.world r).events
  | invalidateIf stale => exact .of_events (quiet_invalidateIf st.world r stale).events
  | publish service => cases service <;> exact .of_events rfl
  | publishHandler descriptor handler => exact .of_events rfl
  | kill b => exact .of_events rfl
  | register registry name b =>
    exact .of_events ((st.world.registry registry).add_events name b st.world.bus)
  | check registry name =>
    exact .of_events ((st.world.registry registry).check_events name st.world.bus)

theorem sound_run (host : Host) (commands : List (HandleRef .radio × Command)) (st : Console) :
    Bus.Adds Event.Sound st.world.bus
      (commands.foldl (fun st c => step host c.1 st c.2) st).world.bus := by
  induction commands generalizing st with
  | nil => exact .of_events rfl
  | cons c commands ih => exact (sound_step host c.1 st c.2).trans (ih _)

end Console

theorem BandConfig.isValid_of_not_inOrder {c : BandConfig} (h : ¬ c.InOrder) : c.isValid = false :=
  Bool.eq_false_iff.2 (mt c.isValid_iff.1 h)

theorem Session.perform_of_not_inOrder (host : Host) (x : Session) (w : World) {c : BandConfig}
    (h : ¬ c.InOrder) :
    x.perform host (.setConfiguration c) w =
      if x.closed then (.error .invalidOperation, x, w)
      else
        (.error .badValue, x,
          w.say .error ("Can't set configuration: invalid band config " ++ c.inspect)) := by
  cases hx : x.closed with
  | true =>
    rw [Session.perform, if_pos hx]
    rfl
  | false =>
    have refused : (Operation.setConfiguration c).request x.band =
        .error
          ⟨.badValue, some ("Can't set configuration: invalid band config " ++ c.inspect)⟩ := by
      simp [Operation.request, BandConfig.isValid_of_not_inOrder h]
    rw [Session.perform_of_refused host hx refused]
    rfl

/-- The check of a configuration never leaves the range of the word type, and says whether the
configuration is in order. Whatever is done with managers and sessions, through whatever handles,
local implementations and binders are given configurations only if they are in order. A session and
a manager that are given another one refuse it and leave all as it is but for a line in the log. -/
theorem Console.gives_inOrder (host : Host) :
    (∀ c : BandConfig, c.check? = some c.isValid ∧ (c.isValid = true ↔ c.InOrder)) ∧
      (∀ (st : Console) (commands : List (HandleRef .radio × Command)),
        let after := commands.foldl (fun st c => step host c.1 st c.2) st
        ∃ more, after.world.bus.events = st.world.bus.events ++ more ∧
          ∀ e ∈ more, ∀ c, e.Gives c → c.InOrder) ∧
      ∀ c : BandConfig, ¬ c.InOrder →
        (∀ (x : Session) (w : World), x.perform host (.setConfiguration c) w =
          if x.closed then (.error .invalidOperation, x, w)
          else
            (.error .badValue, x,
              w.say .error ("Can't set configuration: invalid band config " ++ c.inspect))) ∧
        ∀ (m : RadioManager) (module : Int32) (withAudio : Bool) (w : World),
          m.openTuner host module (some c) withAudio w =
            (none, w.say .error ("Can't open tuner: invalid band config " ++ c.inspect)) := by
  refine ⟨fun c => ⟨c.check?_eq, c.isValid_iff⟩, fun st commands => sound_run host commands st, ?_⟩
  intro c h
  refine ⟨fun x w => x.perform_of_not_inOrder host w h, fun m module withAudio w => ?_⟩
  exact RadioManager.openTuner_of_invalid host m module (BandConfig.isValid_of_not_inOrder h)
    withAudio w

/-- Limits that cannot be subtracted are refused before they are; a tuner is given a configuration
that is in order. -/
theorem Console.gives_inOrder_extreme :
    let host : Host :=
      ⟨fun _ _ _ _ _ => ⟨.error .ok, 0, []⟩, fun _ _ _ _ => ⟨.ok .empty, 0, []⟩, fun _ _ _ => none⟩
    let wide := BandConfig.plain .fm (-2147483648) 2147483647 100
    let fm := BandConfig.plain .fm 87500 108000 100
    let x := Session.ofTuner (.hosted 3) none
    let commands : List (HandleRef .radio × Command) := [(⟨0⟩, .perform 0 (.setConfiguration fm))]
    let after := commands.foldl (fun st c => step host c.1 st c.2) ⟨World.empty, [x]⟩
    BandConfig.difference? wide.upperLimit wide.lowerLimit = none ∧ wide.check? = some false ∧
      ¬ wide.InOrder ∧ (x.perform host (.setConfiguration wide) World.empty).1 = .error .badValue ∧
      (RadioManager.openTuner host ⟨⟨1⟩⟩ 2 (some wide) true World.empty).1 = none ∧
      after.world.bus.events = [.invoked 3 .setConfiguration (fm, ())] ∧ fm.InOrder := by
  intro host wide fm x commands after
  obtain ⟨checks, runs, refuses⟩ := Console.gives_inOrder host
  have disorder : ¬ wide.InOrder := mt (checks wide).2.2 (by decide)
  obtain ⟨session, manager⟩ := refuses wide disorder
  obtain ⟨more, events, ordered⟩ := runs ⟨World.empty, [x]⟩ commands
  have given : more = [.invoked 3 .setConfiguration (fm, ())] := by
    refine events.symm.trans ?_
    dsimp only [commands, fm]
    rfl
  refine ⟨by decide, ?_, disorder, ?_, ?_, ?_, ?_⟩
  · rw [(checks wide).1]
    rfl
  · rw [session]
    rfl
  · rw [manager]
  · rw [events, given]
    rfl
  · subst given
    exact ordered _ List.mem_cons_self fm (.invoked List.mem_cons_self)

end ServiceBus
