import ServiceBus.Proofs.Call.Footprint
import ServiceBus.Proofs.Call.Transparency
import ServiceBus.Proofs.Registry.Living

/-!
What becomes of a session on its way to a client. A session that is reached through a binder already
is handed on under that very binder, and one that is local gets a binder of its own, which nobody
has seen before and which leads to it for good.
-/
namespace ServiceBus

open Wire

namespace Bus

def Knows (s : Bus) (b : Binder) : Prop := b.id < s.live.length

/-- Whatever has come into being here has there. -/
def Precedes (s t : Bus) : Prop := ∀ b, s.Knows b → t.Knows b

@[simp] theorem length_absorb {α : Type} (s : Bus) (a : Answer α) :
    (s.absorb a).live.length = s.live.length + a.spawned := by
  have killed : ∀ s b, (kill s b).live.length = s.live.length := fun s b => by
    rw [kill_live, List.length_set]
  refine (foldl_kill (f := fun s => s.live.length) killed a.killed _).trans ?_
  rw [List.length_append, List.length_replicate]

theorem lasting_precedes : Lasting Precedes where
  refl _ _ h := h
  trans h k b known := k b (h b known)
  record _ _ _ h := h
  say _ _ _ _ h := h
  spawn s b h := by
    rw [Knows, spawn, List.length_append]
    exact Nat.lt_add_right _ h
  connect s i b d h := by
    unfold connect
    split <;> exact h
  absorb s a b h := by
    rw [Knows, length_absorb]
    exact Nat.lt_add_right _ h

theorem precedes_call (host : Host) {i : Interface} (p : Peer i) (m : Method i) (args : m.Args)
    (b : Binder) (s : Bus) : s.Precedes (p.call host m args (s.deliver b m args)).2 :=
  lasting_precedes.call host p m args (s.deliver b m args)

theorem isAlive_spawn {s : Bus} {b : Binder} (alive : s.isAlive b = true) :
    s.spawn.2.isAlive b = true := by
  have inside : b.id < s.live.length := lt_length_of_isAlive alive
  rw [isAlive, List.getD_eq_getElem?_getD] at alive ⊢
  rwa [spawn, List.getElem?_append_left inside]

end Bus

section

variable {host : Host} {i : Interface} {p : Peer i} {c : Connection i} {m : Method i} {args : m.Args}
  {s made : Bus}

theorem call_of_published (target : c.remote = (made.publish p).1) :
    c.call host m args s = requestVia c.remote (serve i (p.call host)) m args s := by
  rw [Connection.call, ← handler_publish host made p, ← target]

theorem events_call_published (target : c.remote = (made.publish p).1)
    (short : Vals.Short m.params args) (alive : s.isAlive c.remote = true) :
    (c.call host m args s).2.events =
      (p.call host m args (s.deliver c.remote m args)).2.events := by
  rw [call_of_published target, requestVia_events _ short alive,
    serve_of_ok (decodeRequest_request m short), answer_events]

theorem events_call_hosted {servant : ServantId}
    (target : c.remote = (made.publish (.hosted servant : Peer i)).1)
    (short : Vals.Short m.params args) (alive : s.isAlive c.remote = true) :
    (c.call host m args s).2.events = s.events ++ [.filled c.remote m.code,
      .handled c.remote m.code (m.request args), .invoked servant m args] := by
  rw [events_call_published target short alive, Peer.call, Host.run_events, Bus.deliver_events,
    List.append_assoc]
  rfl

end

/-- A client calls an implementation through a binder that was made for it, and that is alive from
the start of the call to its end. -/
structure Served (host : Host) {i : Interface} (p : Peer i) (c : Connection i) (m : Method i)
    (args : m.Args) (s : Bus) : Prop where
  made : ∃ made : Bus, c.remote = (made.publish p).1
  alive : s.isAlive c.remote = true
  survives : (p.call host m args (s.deliver c.remote m args)).2.isAlive c.remote = true

/-- A failure is told as it is, and in its place that it cannot be written if its text is too
long. -/
def TellsFailures {α : Type} (given got : Except Status α) : Prop :=
  ∀ e, given = .error e →
    (e ≠ .ok → e.Short → got = .error e) ∧ (¬ e.Short → got = .error (.ofCode .badValue))

theorem Served.failures {host : Host} {i : Interface} {p : Peer i} {c : Connection i} {m : Method i}
    {args : m.Args} {s : Bus} (h : Served host p c m args s) (waits : i.isOneWay = false)
    (short : Vals.Short m.params args) :
    TellsFailures (p.call host m args (s.deliver c.remote m args)).1 (c.call host m args s).1 := by
  obtain ⟨⟨made, target⟩, alive, survives⟩ := h
  rcases hd : p.call host m args (s.deliver c.remote m args) with ⟨r, s'⟩
  rw [hd] at survives
  rw [call_of_published target]
  rintro e rfl
  constructor
  · intro fails written
    rw [requestVia_serve_error waits short alive hd survives written fails]
  · intro long
    have refused := (Codec.accepts_status e).refuses long ⟨0, 0⟩
    have answered : answer m.code m (.error e) s' =
        (.ofWriter (.result m.reply.wire.codec (.error e)), s') := by
      simp only [answer, waits]
      rfl
    rw [requestVia_serve_refused waits short alive hd answered refused]

theorem Method.short_radio (m : Method .radio) (args : m.Args) : Vals.Short m.params args := by
  cases m with
  | listModules => trivial
  | openTuner => exact ⟨trivial, fun _ _ => trivial, trivial, trivial⟩

theorem adds_result_binder (b : Binder) :
    ∃ x, (Writer.result WireType.binder.codec (.ok b)).Adds ⟨0, 0⟩ x := ⟨_, rfl⟩

/-- A connection to a binder of a tuner's own. The binder came into being between two states of the
bus, is alive in the later one, and from then on passes every call on to the tuner. -/
structure Connection.Introduces (d : Connection .tuner) (host : Host) (tuner : ServantId)
    (s s' : Bus) : Prop where
  native : ∃ id, d.remote = .native id .tuner tuner
  new : ¬ s.Knows d.remote
  alive : s'.isAlive d.remote = true
  calls : ∀ (m : Method .tuner) (args : m.Args) (later : Bus), Vals.Short m.params args →
    later.isAlive d.remote = true →
      (d.call host m args later).2.events = later.events ++ [.filled d.remote m.code,
        .handled d.remote m.code (m.request args), .invoked tuner m args]

theorem Connection.Introduces.ne {d : Connection .tuner} {host : Host} {tuner : ServantId}
    {s s' : Bus} (h : d.Introduces host tuner s s') {b : Binder} (known : s.Knows b) :
    d.remote.same b = false := by
  refine beq_false_of_ne fun same => h.new ?_
  rwa [Bus.Knows, same]

section

variable {host : Host} {p : Peer .radio} {c : Connection .radio} {s s' : Bus}
  {args : Method.openTuner.Args}

/-- A session that comes under a binder is handed on under that binder, if it is one of a tuner. -/
theorem Served.session_remote (h : Served host p c .openTuner args s) {d : Connection .tuner}
    (given : p.call host .openTuner args (s.deliver c.remote .openTuner args) =
      (.ok (.remote d), s')) :
    (c.call host .openTuner args s).1 =
      if d.remote.descriptor = Interface.tuner.descriptor then
        .ok (.remote ⟨s'.connections, d.remote⟩)
      else .error (.ofCode .badType) := by
  obtain ⟨⟨made, target⟩, alive, survives⟩ := h
  rw [given] at survives
  obtain ⟨x, written⟩ := adds_result_binder d.remote
  rw [call_of_published target, requestVia_serve_ok rfl (Method.short_radio .openTuner args) alive
    given rfl survives written]
  by_cases tuner : d.remote.descriptor = Interface.tuner.descriptor
  · simp only [Reply.accept, Bus.connect, if_pos tuner]
  · simp only [Reply.accept, Bus.connect, if_neg tuner]

/-- A local session is handed on under a binder of its own. -/
theorem Served.session_hosted (h : Served host p c .openTuner args s) {t : ServantId}
    (given : p.call host .openTuner args (s.deliver c.remote .openTuner args) =
      (.ok (.hosted t), s')) :
    ∃ d, (c.call host .openTuner args s).1 = .ok (.remote d) ∧
      d.Introduces host t s' (c.call host .openTuner args s).2 := by
  obtain ⟨⟨made, target⟩, alive, survives⟩ := h
  rw [given] at survives
  let b := Binder.native s'.live.length .tuner t
  let d : Connection .tuner := ⟨s'.spawn.2.connections, b⟩
  obtain ⟨x, written⟩ := adds_result_binder b
  have presented : Reply.session.present (.hosted t) s' = (b, s'.spawn.2) := rfl
  have got : c.call host .openTuner args s =
      (.ok (.remote d), { s'.spawn.2 with connections := s'.spawn.2.connections + 1 }) := by
    rw [call_of_published target, requestVia_serve_ok rfl (Method.short_radio .openTuner args) alive
      given presented (Bus.isAlive_spawn survives) written]
    rfl
  have own : d.remote = (s'.publish (.hosted t : Peer .tuner)).1 := rfl
  rw [got]
  refine ⟨d, rfl, ⟨_, rfl⟩, Nat.lt_irrefl _, ?_, ?_⟩
  · simp [Bus.isAlive, Bus.spawn, d, b, Binder.id]
  · intro m args later short alive
    exact events_call_hosted own short alive

end

theorem Served.modules {host : Host} {p : Peer .radio} {c : Connection .radio} {s : Bus}
    (h : Served host p c .listModules () s) {modules : List ModuleProperties}
    (given : (p.call host .listModules () (s.deliver c.remote .listModules ())).1 = .ok modules) :
    (Method.listModules.reply.Short modules →
      (c.call host .listModules () s).1 = .ok modules) ∧
    (¬ Method.listModules.reply.Short modules →
      (c.call host .listModules () s).1 = .error (.ofCode .badValue)) := by
  obtain ⟨⟨made, target⟩, alive, survives⟩ := h
  rcases hd : p.call host .listModules () (s.deliver c.remote .listModules ()) with ⟨r, s'⟩
  rw [hd] at survives given
  cases given
  have asked := Method.short_radio .listModules ()
  have accepts := Reply.accepts_result (WireType.accepts (.list .moduleProperties) rfl modules)
  rw [call_of_published target]
  constructor
  · intro short
    obtain ⟨x, written⟩ := accepts.adds short ⟨0, 0⟩
    rw [requestVia_serve_ok rfl asked alive hd rfl survives written]
    rfl
  · intro long
    have refused := accepts.refuses long ⟨0, 0⟩
    rw [requestVia_serve_refused rfl asked alive hd rfl refused]

/-- A radio service is called through a connection to a binder that was made for it and that lives
to see the end. Each call calls the service once and with the same arguments. A session that is
reached through a binder of a tuner reaches the client under the very same binder, and no session
reaches it under any other; a local session reaches it under a new binder of its own, and under
another one each time. The list of modules and the failures of the service are told as they are, as
far as they can be written. -/
theorem radio_published (host : Host) {p : Peer .radio} {c : Connection .radio} {s : Bus} :
    (∀ (module : Int32) (config : Option BandConfig) (withAudio : Bool),
      let args : Method.openTuner.Args := (module, config, withAudio, ())
      let given := p.call host .openTuner args (s.deliver c.remote .openTuner args)
      let got := c.call host .openTuner args s
      Served host p c .openTuner args s →
        got.2.events = given.2.events ∧
        (∀ servant, p = .hosted servant → got.2.events = s.events ++ [.filled c.remote 2,
          .handled c.remote 2 (Method.openTuner.request args), .invoked servant .openTuner args]) ∧
        (∀ t b, given.1 = .ok t → t.binder? = some b → b.descriptor = Interface.tuner.descriptor →
          ∃ t', got.1 = .ok t' ∧ t'.binder? = some b) ∧
        (∀ t b, given.1 = .ok t → t.binder? = some b → b.descriptor ≠ Interface.tuner.descriptor →
          got.1 = .error (.ofCode .badType)) ∧
        (∀ t, given.1 = .ok (.hosted t) → ∃ d, got.1 = .ok (.remote d) ∧
          d.Introduces host t given.2 got.2 ∧
          ∀ (p' : Peer .radio) (c' : Connection .radio) (args' : Method.openTuner.Args)
            (later : Bus) (t' : ServantId) (d' : Connection .tuner), got.2.Precedes later →
            Served host p' c' .openTuner args' later →
            (p'.call host .openTuner args' (later.deliver c'.remote .openTuner args')).1 =
              .ok (.hosted t') →
            (c'.call host .openTuner args' later).1 = .ok (.remote d') →
              d'.remote.same d.remote = false) ∧
        TellsFailures given.1 got.1) ∧
    (let given := p.call host .listModules () (s.deliver c.remote .listModules ())
      let got := c.call host .listModules () s
      Served host p c .listModules () s →
        got.2.events = given.2.events ∧
        (∀ servant, p = .hosted servant → got.2.events = s.events ++ [.filled c.remote 1,
          .handled c.remote 1 (Method.listModules.request ()), .invoked servant .listModules ()]) ∧
        (∀ modules, given.1 = .ok modules → Method.listModules.reply.Short modules →
          got.1 = .ok modules) ∧
        (∀ modules, given.1 = .ok modules → ¬ Method.listModules.reply.Short modules →
          got.1 = .error (.ofCode .badValue)) ∧
        TellsFailures given.1 got.1) := by
  constructor
  · intro module config withAudio args given got served
    have short := Method.short_radio .openTuner args
    obtain ⟨made, target⟩ := served.made
    refine ⟨?once, ?called, ?same, ?other, ?own, served.failures rfl short⟩
    case once => exact events_call_published target short served.alive
    case called =>
      rintro servant rfl
      exact events_call_hosted target short served.alive
    case same =>
      rintro (t | d) b ok ⟨⟩ tuner
      have remote := served.session_remote (Prod.ext ok rfl)
      rw [if_pos tuner] at remote
      exact ⟨_, remote, rfl⟩
    case other =>
      rintro (t | d) b ok ⟨⟩ foreign
      have remote := served.session_remote (Prod.ext ok rfl)
      rwa [if_neg foreign] at remote
    case own =>
      intro t ok
      obtain ⟨d, hosted, introduced⟩ := served.session_hosted (Prod.ext ok rfl)
      refine ⟨d, hosted, introduced, ?_⟩
      intro p' c' args' later t' d' precedes served' ok' hosted'
      obtain ⟨d'', hosted'', introduced'⟩ := served'.session_hosted (Prod.ext ok' rfl)
      cases hosted'.symm.trans hosted''
      have known := precedes _ (Bus.lt_length_of_isAlive introduced.alive)
      exact introduced'.ne (Bus.precedes_call host p' _ _ _ later _ known)
  · intro given got served
    obtain ⟨made, target⟩ := served.made
    have short := Method.short_radio .listModules ()
    refine ⟨events_call_published target short served.alive, ?called, ?value, ?long,
      served.failures rfl short⟩
    case called =>
      rintro servant rfl
      exact events_call_hosted target short served.alive
    case value => exact fun modules ok => (served.modules ok).1
    case long => exact fun modules ok => (served.modules ok).2

/-- A tuner is opened twice, and then once more by a client of a client. -/
theorem radio_published_relayed :
    let host : Host :=
      ⟨fun _ _ m _ _ => match m with
        | .openTuner => ⟨.ok (.hosted 9), 0, []⟩
        | _ => ⟨.error .ok, 0, []⟩,
      fun _ _ _ _ => ⟨.ok .empty, 0, []⟩, fun _ _ _ => none⟩
    let service := Bus.empty.publish (.hosted 5 : Peer .radio)
    let near : Connection .radio := ⟨0, service.1⟩
    let relay := service.2.publish (.remote near : Peer .radio)
    let far : Connection .radio := ⟨1, relay.1⟩
    let args : Method.openTuner.Args := (3, none, true, ())
    let first := near.call host .openTuner args relay.2
    let second := near.call host .openTuner args first.2
    (∃ d d', first.1 = .ok (.remote d) ∧ second.1 = .ok (.remote d') ∧
      d'.remote.same d.remote = false) ∧
    ∃ x t, (near.call host .openTuner args (relay.2.deliver far.remote .openTuner args)).1 =
      .ok (.remote x) ∧ (far.call host .openTuner args relay.2).1 = .ok t ∧
        t.binder? = some x.remote := by
  intro host service near relay far args first second
  have served (s : Bus) (alive : s.isAlive near.remote = true) :
      Served host (.hosted 5) near .openTuner args s := by
    refine ⟨⟨Bus.empty, rfl⟩, alive, ?_⟩
    simpa [Peer.call, Host.run, Bus.absorb, Bus.deliver, Bus.isAlive, host] using alive
  have own (s : Bus) (alive : s.isAlive near.remote = true) :=
    ((radio_published host).1 3 none true (served s alive)).2.2.2.2.1 9 rfl
  obtain ⟨d, opened, introduced, others⟩ := own relay.2 rfl
  have alive : first.2.isAlive near.remote = true := by decide +kernel
  obtain ⟨d', opened', introduced', -⟩ := own first.2 alive
  refine ⟨⟨d, d', opened, opened', ?_⟩, ?_⟩
  · exact others (.hosted 5) near args first.2 9 d' (Bus.lasting_precedes.refl _)
      (served first.2 alive) rfl opened'
  · have survives : (near.call host .openTuner args
        (relay.2.deliver far.remote .openTuner args)).2.isAlive far.remote = true := by
      decide +kernel
    obtain ⟨x, given, own, -⟩ := own (relay.2.deliver far.remote .openTuner args) rfl
    have relayed : Served host (.remote near) far .openTuner args relay.2 :=
      ⟨⟨service.2, rfl⟩, rfl, survives⟩
    have tuner : x.remote.descriptor = Interface.tuner.descriptor := by
      obtain ⟨id, native⟩ := own.native
      rw [native]
      rfl
    obtain ⟨-, -, same, -⟩ := (radio_published host).1 3 none true relayed
    obtain ⟨t, got, binder⟩ := same (.remote x) x.remote given rfl tuner
    exact ⟨x, t, given, got, binder⟩

end ServiceBus
