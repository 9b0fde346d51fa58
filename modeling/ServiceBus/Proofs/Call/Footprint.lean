import ServiceBus.Proofs.Call.Dispatch
import ServiceBus.Proofs.Call.Faults

/-!
What a call leaves in the list of events. The request is filled in and handed over at the binder
that is called, and from then on only at the binders that this one passes calls on to. Nothing is
looked up on the way.
-/
namespace ServiceBus

open Wire

namespace Binder

/-- The binders that calls are passed on to, the next one first. -/
def behind : Binder → List Binder
  | custom _ _ _ => []
  | native _ _ _ => []
  | relay _ _ remote => remote :: remote.behind

theorem length_behind_lt {a b : Binder} (h : a ∈ b.behind) :
    a.behind.length < b.behind.length := by
  induction b with
  | custom id descriptor handler => cases h
  | native id i servant => cases h
  | relay id i remote ih =>
    rw [behind, List.length_cons, Nat.lt_succ_iff]
    rcases List.mem_cons.1 h with rfl | h
    · exact Nat.le_refl _
    · exact Nat.le_of_lt (ih h)

theorem not_mem_behind (b : Binder) : b ∉ b.behind := fun h =>
  Nat.lt_irrefl _ (length_behind_lt h)

end Binder

namespace Event

/-- The event is of a call of one of the binders, or of a local implementation. -/
def Among (l : List Binder) : Event → Prop
  | filled b _ => b ∈ l
  | handled b _ _ => b ∈ l
  | invoked _ _ _ => True
  | lookedUp _ _ _ => False

theorem Among.mono {l l' : List Binder} {e : Event} (h : e.Among l) (sub : ∀ b ∈ l, b ∈ l') :
    e.Among l' := by
  cases e with
  | filled b code => exact sub b h
  | handled b code request => exact sub b h
  | invoked servant m args => trivial
  | lookedUp directory name found => exact h

def lookup? : Event → Option (Directory × String × Option Binder)
  | lookedUp directory name found => some (directory, name, found)
  | _ => none

def requestTo? (b : Binder) : Event → Option (UInt32 × Payload)
  | handled target code request => if target = b then some (code, request) else none
  | _ => none

theorem Among.lookup? {l : List Binder} {e : Event} (h : e.Among l) : e.lookup? = none := by
  cases e with
  | lookedUp directory name found => exact h.elim
  | _ => rfl

theorem Among.requestTo? {l : List Binder} {e : Event} (h : e.Among l) {b : Binder} (out : b ∉ l) :
    e.requestTo? b = none := by
  cases e with
  | handled target code request =>
    refine if_neg fun same => out ?_
    subst same
    exact h
  | _ => rfl

end Event

namespace Bus

def lookups (s : Bus) : List (Directory × String × Option Binder) := s.events.filterMap Event.lookup?

/-- The requests that a binder was given so far. -/
def requestsTo (s : Bus) (b : Binder) : List (UInt32 × Payload) :=
  s.events.filterMap (Event.requestTo? b)

variable {l l' : List Binder} {s s' s'' : Bus} {b : Binder}

/-- What happened from one state of the bus to another is all of one kind. -/
def Adds (P : Event → Prop) (s s' : Bus) : Prop :=
  ∃ more, s'.events = s.events ++ more ∧ ∀ e ∈ more, P e

section

variable {P Q : Event → Prop}

theorem Adds.of_events (h : s'.events = s.events) : Adds P s s' :=
  ⟨[], h.trans (List.append_nil _).symm, fun _ he => absurd he List.not_mem_nil⟩

theorem Adds.of_event {e : Event} (h : s'.events = s.events ++ [e]) (p : P e) : Adds P s s' :=
  ⟨[e], h, fun _ he => List.mem_singleton.1 he ▸ p⟩

theorem Adds.trans (h : Adds P s s') (k : Adds P s' s'') : Adds P s s'' := by
  obtain ⟨more, events, kind⟩ := h
  obtain ⟨more', events', kind'⟩ := k
  refine ⟨more ++ more', by rw [events', events, List.append_assoc], fun e he => ?_⟩
  exact (List.mem_append.1 he).elim (kind e) (kind' e)

theorem Adds.mono (h : Adds P s s') (sub : ∀ e, P e → Q e) : Adds Q s s' := by
  obtain ⟨more, events, kind⟩ := h
  exact ⟨more, events, fun e he => sub e (kind e he)⟩

theorem Adds.filterMap_events {α : Type} (h : Adds P s s') {f : Event → Option α}
    (none : ∀ e, P e → f e = none) : s'.events.filterMap f = s.events.filterMap f := by
  obtain ⟨more, events, kind⟩ := h
  have unseen : more.filterMap f = [] := List.filterMap_eq_nil_iff.2 fun e he => none e (kind e he)
  rw [events, List.filterMap_append, unseen, List.append_nil]

end

/-- What happened from one state of the bus to another are calls of the binders. -/
def Reached (l : List Binder) (s s' : Bus) : Prop :=
  ∃ more, s'.events = s.events ++ more ∧ ∀ e ∈ more, e.Among l

theorem Reached.lookups (h : Reached l s s') : s'.lookups = s.lookups :=
  Adds.filterMap_events h fun _ among => among.lookup?

theorem Reached.requestsTo (h : Reached l s s') (out : b ∉ l) :
    s'.requestsTo b = s.requestsTo b :=
  Adds.filterMap_events h fun _ among => among.requestTo? out

theorem lookups_congr (h : s'.events = s.events) : s'.lookups = s.lookups := by
  rw [lookups, lookups, h]

theorem requestsTo_congr (h : s'.events = s.events) (b : Binder) :
    s'.requestsTo b = s.requestsTo b := by
  rw [requestsTo, requestsTo, h]

@[simp] theorem lookups_deliver (s : Bus) (b : Binder) {i : Interface} (m : Method i)
    (args : m.Args) : (s.deliver b m args).lookups = s.lookups := by
  rw [lookups, lookups, deliver_events, List.filterMap_append]
  exact List.append_nil _

@[simp] theorem requestsTo_filled (s : Bus) (b : Binder) (code : UInt32) :
    (s.record (.filled b code)).requestsTo b = s.requestsTo b := by
  simp [requestsTo, Event.requestTo?]

@[simp] theorem requestsTo_handled (s : Bus) (b : Binder) (code : UInt32) (request : Payload) :
    (s.record (.handled b code request)).requestsTo b = s.requestsTo b ++ [(code, request)] := by
  simp [requestsTo, Event.requestTo?]

@[simp] theorem requestsTo_deliver (s : Bus) (b : Binder) {i : Interface} (m : Method i)
    (args : m.Args) :
    (s.deliver b m args).requestsTo b = s.requestsTo b ++ [(m.code, m.request args)] := by
  rw [deliver, requestsTo_handled, requestsTo_filled]

end Bus

section

variable {i : Interface} {b : Binder} {handle : Handler} {m : Method i} {args : m.Args} {s : Bus}

theorem Bus.connect_events (s : Bus) (i : Interface) (b : Binder) :
    (s.connect i b).2.events = s.events := by
  unfold Bus.connect
  split <;> rfl

theorem Reply.accept_events (r : Reply) (v : r.wire.Val) (s : Bus) :
    (r.accept v s).2.events = s.events := by
  cases r with
  | value t => rfl
  | session =>
    have events := s.connect_events .tuner v
    rcases hc : s.connect .tuner v with ⟨e | c, s'⟩
    all_goals
      rw [hc] at events
      simp only [accept, hc]
      exact events

theorem transactVia_events (handle : Handler) (short : Vals.Short m.params args)
    (alive : s.isAlive b = true) :
    (transactVia b handle m.code i.flags (m.fill args) s).2.events =
      (handle m.code (m.request args) (s.deliver b m args)).2.events := by
  cases oneWay : i.isOneWay with
  | true =>
    obtain ⟨s', transacted, events⟩ := transactVia_oneWay oneWay handle short alive
    rw [transacted]
    exact events
  | false =>
    rw [transactVia_request oneWay handle short alive]
    rcases handle m.code (m.request args) (s.deliver b m args) with ⟨⟨e | u, p⟩, s'⟩
    · rfl
    · dsimp only
      split <;> rfl

theorem callVia_bus (b : Binder) (handle : Handler) (descriptor : String) (code flags : UInt32)
    (fill : Writer) (s : Bus) :
    (callVia b handle descriptor code flags fill s).2 =
      (transactVia b handle code flags (.token descriptor ++ fill) s).2 := by
  unfold callVia
  split
  · next ht => rw [ht]
  · next ht =>
    rw [ht]
    split
    · rfl
    · split
      · rfl
      · split <;> rfl

/-- Beyond the request itself, what happens in a call is the handler's doing. -/
theorem requestVia_events (handle : Handler) (short : Vals.Short m.params args)
    (alive : s.isAlive b = true) :
    (requestVia b handle m args s).2.events =
      (handle m.code (m.request args) (s.deliver b m args)).2.events := by
  have transacted := transactVia_events handle short alive
  rw [m.fill_eq] at transacted
  have called := congrArg Bus.events (callVia_bus b handle i.descriptor m.code i.flags
    (m.write args) s)
  rw [← called.trans transacted]
  unfold requestVia
  split
  · next hc => rw [hc]
  · next reply s' hc =>
    rw [hc]
    split
    · rfl
    · next v _ =>
      have accepted := m.reply.accept_events v s'
      split
      · next ha => rwa [ha] at accepted
      · next ha => rwa [ha] at accepted

section

variable {P : Event → Prop}

theorem adds_serve {invoke : (m : Method i) → m.Args → Bus → Except Status m.Outcome × Bus}
    {code : UInt32} {request : Payload}
    (h : ∀ m args s, decodeRequest i code request = .ok ⟨m, args⟩ →
      Bus.Adds P s (invoke m args s).2)
    (s : Bus) : Bus.Adds P s (serve i invoke code request s).2 := by
  rcases hd : decodeRequest i code request with e | ⟨m, args⟩
  · rw [serve_of_error hd]
    exact .of_events rfl
  · rw [serve_of_ok hd]
    exact (h m args s hd).trans (.of_events (answer_events code m _ _))

theorem adds_requestVia (filled : P (.filled b m.code))
    (h : Vals.Short m.params args → P (.handled b m.code (m.request args)) ∧
      ∀ s, Bus.Adds P s (handle m.code (m.request args) s).2)
    (s : Bus) : Bus.Adds P s (requestVia b handle m args s).2 := by
  cases alive : s.isAlive b with
  | false =>
    rw [requestVia_of_dead alive]
    exact .of_events rfl
  | true =>
    by_cases short : Vals.Short m.params args
    · obtain ⟨handled, adds⟩ := h short
      have fills : Bus.Adds P s (s.record (.filled b m.code)) := .of_event rfl filled
      have handed : Bus.Adds P s (s.deliver b m args) := fills.trans (.of_event rfl handled)
      exact (handed.trans (adds _)).trans (.of_events (requestVia_events handle short alive))
    · rw [requestVia_of_long short alive]
      exact .of_event rfl filled

end

/-- The induction is on how many binders stand in front of each other. -/
theorem reached_handler (host : Host) (b : Binder) (code : UInt32) (request : Payload) (s : Bus) :
    Bus.Reached b.behind s (b.handler host code request s).2 := by
  induction b generalizing code request s with
  | custom id descriptor handler => exact Bus.Adds.of_events (Bus.absorb_events s _)
  | native id i servant =>
    exact adds_serve (fun m args s _ => .of_event (host.run_events servant m args s) trivial) s
  | relay id i remote ih =>
    refine adds_serve (fun m args s _ => adds_requestVia ?_ (fun _ => ⟨?_, fun s => ?_⟩) s) s
    · exact List.mem_cons_self
    · exact List.mem_cons_self
    · exact Bus.Adds.mono (ih m.code (m.request args) s) fun e he =>
        he.mono fun a ha => List.mem_cons_of_mem remote ha

/-- A call that can be made is made once, and nothing is looked up for it. -/
theorem call_footprint (host : Host) (c : Connection i) (short : Vals.Short m.params args)
    (alive : s.isAlive c.remote = true) :
    (c.call host m args s).2.lookups = s.lookups ∧
      (c.call host m args s).2.requestsTo c.remote =
        s.requestsTo c.remote ++ [(m.code, m.request args)] := by
  have events := requestVia_events (c.remote.handler host) short alive
  have handled := reached_handler host c.remote m.code (m.request args)
    (s.deliver c.remote m args)
  constructor
  · exact (Bus.lookups_congr events).trans (handled.lookups.trans (s.lookups_deliver _ m args))
  · exact (Bus.requestsTo_congr events _).trans
      ((handled.requestsTo c.remote.not_mem_behind).trans (s.requestsTo_deliver _ m args))

/-- A binder that is dead is given no request; one that is alive is given one. -/
theorem call_requests (host : Host) (c : Connection i) (short : Vals.Short m.params args) :
    (c.call host m args s).2.lookups = s.lookups ∧
      (c.call host m args s).2.requestsTo c.remote = s.requestsTo c.remote ++
        if s.isAlive c.remote then [(m.code, m.request args)] else [] := by
  cases alive : s.isAlive c.remote with
  | false =>
    rw [Connection.call, requestVia_of_dead alive]
    exact ⟨rfl, (List.append_nil _).symm⟩
  | true => exact call_footprint host c short alive

end

end ServiceBus
