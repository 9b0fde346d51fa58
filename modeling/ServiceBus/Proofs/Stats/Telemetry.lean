import ServiceBus.Proofs.Stats.Delivery

/-!
Telemetry over a run. Daemons come, are replaced and die, some of them while they are given an atom.
What they were given, all of them together, is what the client said it had handed over, in the same
order.
-/
namespace ServiceBus

open World

abbrev StatsCall : Type := (m : Method .stats) × m.Args

def Event.statsCall? : Event → Option StatsCall
  | @invoked _ .stats m args => some ⟨m, args⟩
  | _ => none

/-- What the daemons were given so far, all of them together. -/
def Bus.received (s : Bus) : List StatsCall := s.invocations.filterMap Event.statsCall?

theorem Bus.received_congr {s s' : Bus} (h : s'.invocations = s.invocations) :
    s'.received = s.received := by
  rw [received, received, h]

inductive Atom
  | start (label : Int32)
  | stop (label : Int32)
  | event (label : Int32)
  | binaryPush (train : String) (version : Int64) (options state : Int32)
      (experiments : List Int64)
deriving DecidableEq

namespace Atom

def log (host : Host) (l : StatsLog) (w : World) : Atom → Bool × World
  | start label => l.start host label w
  | stop label => l.stop host label w
  | event label => l.event host label w
  | binaryPush train version options state experiments =>
    l.binaryPush host train version options state experiments w

/-- What the daemon is to be given: all of it as it is, but of the options the three known bits. -/
def call : Atom → StatsCall
  | start label => ⟨.sendBreadcrumb, (label, 2, ())⟩
  | stop label => ⟨.sendBreadcrumb, (label, 1, ())⟩
  | event label => ⟨.sendBreadcrumb, (label, 0, ())⟩
  | binaryPush train version options state experiments =>
    ⟨.sendBinaryPush, (train, version, options &&& 7, state, experiments, ())⟩

theorem exists_log_eq_send (a : Atom) :
    ∃ label, ∀ host l w, a.log host l w = l.send host label a.call.1 a.call.2 w := by
  cases a with
  | start label => exact ⟨_, fun _ _ _ => rfl⟩
  | stop label => exact ⟨_, fun _ _ _ => rfl⟩
  | event label => exact ⟨_, fun _ _ _ => rfl⟩
  | binaryPush train version options state experiments =>
    rw [call, ← PushOption.mask_eq]
    exact ⟨_, fun _ _ _ => rfl⟩

end Atom

namespace StatsLog

variable {l : StatsLog} {id : Nat} {w : World}

/-- A step of a run: the client logs an atom, or something happens to the services. -/
inductive Command
  | log (a : Atom)
  | publish {i : Interface} (service : Peer i)
  | publishHandler (descriptor : String) (handler : ServantId)
  | kill (b : Binder)
  | register (registry : Nat) (name : String) (b : Binder)
  | check (registry : Nat) (name : String)

/-- Only plain binders are registered as the daemon in the client's registry. -/
def Command.Proper (id : Nat) : Command → Prop
  | register registry name b => registry = id → name = serviceName → b.Plain
  | _ => True

def step (host : Host) (l : StatsLog) (w : World) : Command → World
  | .log a => (a.log host l w).2
  | .publish service => (w.onBus fun s => s.publish service).2
  | .publishHandler descriptor handler => (w.onBus fun s => s.publishHandler descriptor handler).2
  | .kill b => (w.onBus fun s => ((), s.kill b)).2
  | .register registry name b => (w.onRegistry registry fun g s => g.add name b s).2
  | .check registry name => (w.onRegistry registry fun g s => g.check name s).2

def run (host : Host) (l : StatsLog) (w : World) (commands : List Command) : World :=
  commands.foldl (step host l) w

/-- The atom of a step that the client says was handed over, if it is one. -/
def told? (host : Host) (l : StatsLog) (w : World) : Command → Option Atom
  | .log a => if (a.log host l w).1 then some a else none
  | _ => none

def told (host : Host) (l : StatsLog) (w : World) : List Command → List Atom
  | [] => []
  | command :: commands =>
    (told? host l w command).toList ++ told host l (step host l w command) commands

theorem Kept.log (h : l.Kept id w) (host : Host) (a : Atom) :
    l.Reports w a.call.1 a.call.2 (a.log host l w) ∧ l.Kept id (a.log host l w).2 ∧
      ∀ host', (a.log host' l w).1 = (a.log host l w).1 := by
  obtain ⟨label, hlog⟩ := a.exists_log_eq_send
  obtain ⟨said, hsend⟩ := h.send label a.call.1 a.call.2
  obtain ⟨w', sent, reports, kept⟩ := hsend host
  rw [hlog, sent]
  refine ⟨reports, kept, fun host' => ?_⟩
  obtain ⟨w'', sent', -⟩ := hsend host'
  rw [hlog, sent']

theorem Reports.received {a : Atom} {after : Bool × World}
    (h : l.Reports w a.call.1 a.call.2 after) :
    after.2.bus.received =
      w.bus.received ++ (if after.1 then some a else none).toList.map Atom.call := by
  cases h with
  | sent cached front called =>
    rw [Bus.received, called, List.filterMap_append]
    rfl
  | lost cached called => exact (Bus.received_congr called).trans (List.append_nil _).symm

theorem Kept.step (h : l.Kept id w) (host : Host) {command : Command} (proper : command.Proper id) :
    l.Kept id (step host l w command) ∧ (step host l w command).bus.received =
      w.bus.received ++ (told? host l w command).toList.map Atom.call := by
  -- Nobody is called beside the logging.
  have quiet : ∀ {w' : World}, l.Kept id w' → w'.bus.events = w.bus.events →
      l.Kept id w' ∧ w'.bus.received = w.bus.received ++ [] := fun kept events =>
    ⟨kept, (Bus.received_congr (Bus.invocations_congr events)).trans (List.append_nil _).symm⟩
  cases command with
  | log a =>
    obtain ⟨reports, kept, -⟩ := h.log host a
    exact ⟨kept, reports.received⟩
  | publish service =>
    exact quiet (h.of_handles rfl h.admits) (by cases service <;> rfl)
  | publishHandler descriptor handler => exact quiet (h.of_handles rfl h.admits) rfl
  | kill b => exact quiet (h.of_handles rfl h.admits) rfl
  | register registry name b =>
    refine quiet (h.of_handles rfl (admits_onRegistry h.admits fun same => ?_))
      (Registry.add_events _ name b w.bus)
    subst same
    exact h.admits.add (proper rfl) w.bus
  | check registry name =>
    refine quiet (h.of_handles rfl (admits_onRegistry h.admits fun same => ?_))
      (Registry.check_events _ name w.bus)
    subst same
    exact h.admits.check name w.bus

theorem Kept.run (h : l.Kept id w) (host : Host) {commands : List Command}
    (proper : ∀ command ∈ commands, command.Proper id) :
    l.Kept id (run host l w commands) ∧ (run host l w commands).bus.received =
      w.bus.received ++ (told host l w commands).map Atom.call := by
  induction commands generalizing w with
  | nil => exact ⟨h, (List.append_nil _).symm⟩
  | cons command commands ih =>
    obtain ⟨kept, first⟩ := h.step host (proper command List.mem_cons_self)
    obtain ⟨kept', rest⟩ := ih kept fun c hc => proper c (List.mem_cons_of_mem _ hc)
    rw [first, List.append_assoc, ← List.map_append] at rest
    exact ⟨kept', rest⟩

theorem kept_ofDirectory (admits : (w.registry id).Admits) :
    (ofDirectory w (.registry id)).1.Kept id (ofDirectory w (.registry id)).2 := by
  have hx : (ofDirectory w (.registry id)).2.handle? (ofDirectory w (.registry id)).1.handle =
      some ⟨serviceName, .registry id, none⟩ := by
    simp [ofDirectory, addHandle, handle?]
  refine ⟨⟨_, hx, rfl, rfl⟩, fun c hc => ?_, admits⟩
  rw [cached?_of_handle? hx] at hc
  cases hc

/-- A run of a client of the daemon. What the daemons were given is what the client said was handed
over, in the same order. Whatever is logged next, what the client says about it is true, and is the
same for any other daemons. -/
theorem received_run (host : Host) (id : Nat) (w : World) (admits : (w.registry id).Admits)
    (commands : List Command) (proper : ∀ command ∈ commands, command.Proper id) :
    let l := (ofDirectory w (.registry id)).1
    let start := (ofDirectory w (.registry id)).2
    let after := run host l start commands
    after.bus.received = w.bus.received ++ (told host l start commands).map Atom.call ∧
      ∀ a : Atom, l.Reports after a.call.1 a.call.2 (a.log host l after) ∧
        ∀ host', (a.log host' l after).1 = (a.log host l after).1 := by
  intro l start after
  obtain ⟨kept, received⟩ := (kept_ofDirectory admits).run host proper
  refine ⟨received, fun a => ?_⟩
  obtain ⟨reports, -, same⟩ := kept.log host a
  exact ⟨reports, same⟩

/-- A daemon dies of the first atom it is given; the second is lost, and the third goes to another
daemon. -/
theorem received_run_replaced :
    let host : Host :=
      ⟨fun _ _ _ _ _ => ⟨.error .ok, 0, [.native 0 .stats 5]⟩,
       fun _ _ _ _ => ⟨.ok .empty, 0, []⟩, fun _ _ _ => none⟩
    let commands : List Command :=
      [.publish (.hosted 5 : Peer .stats), .register 0 "stats" (.native 0 .stats 5),
       .log (.start 7), .log (.stop 7),
       .publish (.hosted 6 : Peer .stats), .register 0 "stats" (.native 1 .stats 6),
       .log (.binaryPush "train" 3 (-1) 0 [])]
    let l := (ofDirectory World.empty (.registry 0)).1
    let start := (ofDirectory World.empty (.registry 0)).2
    (run host l start commands).bus.received =
      [⟨.sendBreadcrumb, (7, 2, ())⟩, ⟨.sendBinaryPush, ("train", 3, 7, 0, [], ())⟩] := by
  intro host commands l start
  have plain : ∀ k servant, (Binder.native k .stats servant).Plain := fun k servant =>
    .inl ⟨servant, k, rfl⟩
  have proper : ∀ command ∈ commands, command.Proper 0 := by
    simp [commands, Command.Proper, plain]
  have said : told host l start commands = [.start 7, .binaryPush "train" 3 (-1) 0 []] := by
    decide +kernel
  have h := (received_run host 0 World.empty Registry.admits_empty commands proper).1
  exact h.trans (congrArg (List.map Atom.call) said)

end StatsLog

end ServiceBus
