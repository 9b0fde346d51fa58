import ServiceBus.Stats.Log
import ServiceBus.Proofs.Call.Dispatch
import ServiceBus.Proofs.Call.Faults
import ServiceBus.Proofs.Handle.Caching

/-!
One atom on its way to a daemon. The caller is told whether the atom could be sent to a binder that
was alive; if that binder stands directly in front of a daemon, this is also whether the daemon was
given the atom. What the daemon makes of it is not heard of.
-/
namespace ServiceBus

open World Wire

def Event.isInvocation : Event → Bool
  | .invoked _ _ _ => true
  | _ => false

def Bus.invocations (s : Bus) : List Event := s.events.filter Event.isInvocation

theorem Bus.invocations_congr {s s' : Bus} (h : s'.events = s.events) :
    s'.invocations = s.invocations := by
  rw [invocations, invocations, h]

theorem Bus.invocations_append {s s' : Bus} {l : List Event} (h : s'.events = s.events ++ l) :
    s'.invocations = s.invocations ++ l.filter Event.isInvocation := by
  rw [invocations, invocations, h, List.filter_append]

/-- The binder stands directly in front of a local daemon. -/
def Binder.Fronts (b : Binder) (servant : ServantId) : Prop := ∃ id, b = .native id .stats servant

/-- A binder that leads to a local daemon, or that no telemetry client will take for one. -/
def Binder.Plain (b : Binder) : Prop :=
  (∃ servant, b.Fronts servant) ∨ b.descriptor ≠ Interface.stats.descriptor

section

variable {m : Method .stats} {args : m.Args} {s : Bus}

theorem requestVia_oneWay {b : Binder} (handle : Handler) (short : Vals.Short m.params args)
    (alive : s.isAlive b = true) :
    ∃ a s', requestVia b handle m args s = (.ok a, s') ∧
      s'.events = (handle m.code (m.request args) (s.deliver b m args)).2.events := by
  obtain ⟨s', ht, events⟩ := transactVia_oneWay rfl handle short alive
  rw [m.fill_eq] at ht
  have hflags := Interface.stats.isOneWay_flags
  cases m with
  | sendBreadcrumb | sendBinaryPush =>
    refine ⟨(), s', ?_, events⟩
    simp only [requestVia, callVia, ht, hflags]
    rfl

theorem call_fails (host : Host) (c : Connection .stats)
    (h : ¬ (Vals.Short m.params args ∧ s.isAlive c.remote = true)) :
    ∃ e s', c.call host m args s = (.error e, s') ∧ s'.invocations = s.invocations := by
  cases alive : s.isAlive c.remote with
  | false => exact ⟨_, _, requestVia_of_dead alive, rfl⟩
  | true =>
    refine ⟨_, _, requestVia_of_long (fun short => h ⟨short, alive⟩) alive, ?_⟩
    exact (Bus.invocations_append (s.record_events _)).trans (List.append_nil _)

theorem call_delivers (host : Host) {c : Connection .stats} {servant : ServantId}
    (front : c.remote.Fronts servant) (short : Vals.Short m.params args)
    (alive : s.isAlive c.remote = true) :
    ∃ a s', c.call host m args s = (.ok a, s') ∧
      s'.invocations = s.invocations ++ [.invoked servant m args] := by
  obtain ⟨id, remote⟩ := front
  obtain ⟨a, s', called, events⟩ := requestVia_oneWay (c.remote.handler host) short alive
  have hh : c.remote.handler host = serve .stats (host.run servant) := by
    rw [remote]
    rfl
  rw [hh, serve_of_ok (decodeRequest_request m short), answer_events, host.run_events,
    Bus.deliver_events, List.append_assoc] at events
  exact ⟨a, s', called, Bus.invocations_append events⟩

end

namespace Registry

/-- What is registered as the daemon may be registered as such. -/
def Admits (g : Registry) : Prop := ∀ b, g.services[StatsLog.serviceName]? = some b → b.Plain

theorem admits_empty : empty.Admits := by
  intro b h
  simp [empty] at h

theorem Admits.check {g : Registry} (h : g.Admits) (name : String) (s : Bus) :
    (g.check name s).2.1.Admits := by
  unfold Registry.check
  split
  · exact h
  · split
    · exact h
    · intro b hb
      rw [Std.ExtTreeMap.getElem?_erase] at hb
      split at hb
      · cases hb
      · exact h b hb

theorem Admits.add {g : Registry} (h : g.Admits) {name : String} {b : Binder}
    (plain : name = StatsLog.serviceName → b.Plain) (s : Bus) : (g.add name b s).2.1.Admits := by
  unfold Registry.add
  split
  · exact h
  · intro d hd
    rw [Std.ExtTreeMap.getElem?_insert] at hd
    split at hd
    · next same =>
      cases hd
      exact plain (Std.LawfulEqCmp.eq_of_compare same)
    · exact h d hd

end Registry

namespace World

theorem admits_onRegistry {α : Type} {w : World} {id k : Nat}
    {f : Registry → Bus → α × Registry × Bus} (h : (w.registry id).Admits)
    (kept : k = id → (f (w.registry k) w.bus).2.1.Admits) :
    ((w.onRegistry k f).2.registry id).Admits := by
  simp only [registry, onRegistry, List.getD_eq_getElem?_getD] at h kept ⊢
  rw [List.getElem?_set]
  split
  · next same =>
    split
    · exact kept same
    · exact Registry.admits_empty
  · exact h

theorem lookup_registry (w : World) (id : Nat) (name : String) :
    ∃ w₁, (∀ host, w.lookup host (.registry id) name = ((w.registry id).find? w.bus name, w₁)) ∧
      w₁.handles = w.handles ∧ w₁.bus.invocations = w.bus.invocations ∧
      ((w.registry id).Admits → (w₁.registry id).Admits) := by
  have found := (w.registry id).check_fst name w.bus
  have events := (w.registry id).check_events name w.bus
  let asked := (w.onRegistry id fun g s => g.check name s).2
  let seen : Event := .lookedUp (.registry id) name ((w.registry id).find? w.bus name)
  refine ⟨{ asked with bus := asked.bus.record seen }, fun host => ?_, rfl, ?_, fun h => ?_⟩
  · simp only [asked, seen, ← found]
    rfl
  · have more := Bus.invocations_append (asked.bus.record_events seen)
    exact (more.trans (List.append_nil _)).trans (Bus.invocations_congr events)
  · exact admits_onRegistry (f := fun g s => g.check name s) h fun same => same ▸ h.check name w.bus

theorem handle?_setCached_self {i : Interface} (w : World) (r : HandleRef i)
    (c : Option (Connection i)) :
    (w.setCached r c).handle? r = (w.handle? r).map fun h => { h with cached := c } := by
  unfold setCached
  cases h : w.handle? r with
  | none => simp [h]
  | some x =>
    have : r.index < (w.handles.of i).length := (List.getElem?_eq_some_iff.1 h).1
    simp [handle?, setHandle, this]

end World

namespace StatsLog

variable {l : StatsLog} {id : Nat} {w w' : World}

/-- What holds of a client while only plain binders are registered as the daemon: its handle looks
in the one registry, and has no connection but to a daemon. -/
structure Kept (l : StatsLog) (id : Nat) (w : World) : Prop where
  handle : ∃ h, w.handle? l.handle = some h ∧ h.name = serviceName ∧ h.directory = .registry id
  cached : ∀ c, w.cached? l.handle = some c → ∃ servant, c.remote.Fronts servant
  admits : (w.registry id).Admits

theorem Kept.of_handles (h : l.Kept id w) (handles : w'.handles = w.handles)
    (admits : (w'.registry id).Admits) : l.Kept id w' where
  handle := by
    rw [handle?, handles]
    exact h.handle
  cached := by
    rw [cached?_congr handles]
    exact h.cached
  admits := admits

theorem Kept.setCached (h : l.Kept id w) {c : Option (Connection .stats)}
    (fronts : ∀ d, c = some d → ∃ servant, d.remote.Fronts servant) :
    l.Kept id (w.setCached l.handle c) where
  handle := by
    obtain ⟨x, hx, name, directory⟩ := h.handle
    exact ⟨{ x with cached := c }, by rw [handle?_setCached_self, hx, Option.map_some], name,
      directory⟩
  cached := by
    obtain ⟨x, hx, -, -⟩ := h.handle
    rw [cached?_setCached_self, hx]
    exact fronts
  admits := by
    rw [registry, (quiet_setCached w l.handle c).registries]
    exact h.admits

theorem Kept.invalidate (h : l.Kept id w) {c : Connection .stats}
    (has : w.cached? l.handle = some c) : l.Kept id (w.invalidate l.handle) := by
  refine (h.setCached (c := none) nofun).of_handles (invalidate_handles has) ?_
  rw [registry, (quiet_invalidate w l.handle).registries]
  exact h.admits

/-- The handle finds a daemon or nothing, and calls nobody to find it. -/
theorem Kept.resolve (h : l.Kept id w) :
    ∃ c w', (∀ host, w.resolve host l.handle = (c, w')) ∧ l.Kept id w' ∧
      w'.cached? l.handle = c ∧ w'.bus.invocations = w.bus.invocations := by
  cases hc : w.cached? l.handle with
  | some c => exact ⟨some c, w, fun host => resolve_of_cached host hc, h, hc, rfl⟩
  | none =>
    obtain ⟨x, hx, name, directory⟩ := h.handle
    have empty : x.cached = none := (cached?_of_handle? hx).symm.trans hc
    obtain ⟨w₁, looked, handles, same, admits⟩ := w.lookup_registry id serviceName
    have kept := h.of_handles handles (admits h.admits)
    have hc₁ := (cached?_congr handles l.handle).trans hc
    -- What becomes of the handle does not depend on the host, since the registry does not.
    rcases hb : (w.registry id).find? w.bus serviceName with _ | b
    all_goals
      rw [hb] at looked
      simp only [World.resolve, hx, empty, directory, name, looked, onBus, Bus.connect]
    · exact ⟨none, _, fun _ => rfl, kept.of_handles rfl kept.admits, hc₁, same⟩
    · have plain := h.admits b (Option.filter_eq_some_iff.1 hb).1
      by_cases hd : b.descriptor = Interface.stats.descriptor
      · obtain ⟨servant, front⟩ := plain.resolve_right fun other => other hd
        have fronts : ∀ d, some (⟨w₁.bus.connections, b⟩ : Connection .stats) = some d →
            ∃ servant, d.remote.Fronts servant := by
          rintro d ⟨⟩
          exact ⟨servant, front⟩
        simp only [if_pos hd]
        refine ⟨_, _, fun _ => rfl, (kept.of_handles ?_ ?_).setCached fronts, ?_, ?_⟩
        · rfl
        · exact kept.admits
        · obtain ⟨y, hy, -, -⟩ := kept.handle
          rw [cached?_setCached_self]
          show (w₁.handle? l.handle).bind _ = _
          rw [hy, Option.bind_some]
        · exact (Bus.invocations_congr (quiet_setCached _ l.handle _).events).trans same
      · simp only [if_neg hd]
        exact ⟨none, _, fun _ => rfl, kept.of_handles rfl kept.admits, hc₁, same⟩

/-- What a client says about a call of the daemon. If it says that the call was made, it was, once,
and the handle has the connection at hand; otherwise nobody was called, and the handle has none. -/
inductive Reports (l : StatsLog) (w : World) (m : Method .stats) (args : m.Args) :
    Bool × World → Prop
  | sent {w' : World} {c : Connection .stats} {servant : ServantId}
      (cached : w'.cached? l.handle = some c) (front : c.remote.Fronts servant)
      (called : w'.bus.invocations = w.bus.invocations ++ [.invoked servant m args]) :
      Reports l w m args (true, w')
  | lost {w' : World} (cached : w'.cached? l.handle = none)
      (called : w'.bus.invocations = w.bus.invocations) : Reports l w m args (false, w')

/-- What is said about a call is true, and the daemon has no part in it. -/
theorem Kept.send (h : l.Kept id w) (label : String) (m : Method .stats) (args : m.Args) :
    ∃ told, ∀ host, ∃ w', l.send host label m args w = (told, w') ∧
      l.Reports w m args (told, w') ∧ l.Kept id w' := by
  obtain ⟨_ | c, w₁, resolved, kept, cached, same⟩ := h.resolve
  all_goals simp only [StatsLog.send, resolved, onBus]
  · exact ⟨false, fun host => ⟨_, rfl, .lost cached same, kept.of_handles rfl kept.admits⟩⟩
  · obtain ⟨servant, front⟩ := kept.cached c cached
    by_cases reached : Vals.Short m.params args ∧ w₁.bus.isAlive c.remote = true
    · refine ⟨true, fun host => ?_⟩
      obtain ⟨a, s', called, more⟩ := call_delivers host front reached.1 reached.2
      rw [called]
      rw [same] at more
      exact ⟨_, rfl, .sent cached front more, kept.of_handles rfl kept.admits⟩
    · refine ⟨false, fun host => ?_⟩
      obtain ⟨e, s', called, none⟩ := call_fails host c reached
      let w₂ : World := { w₁ with bus := s' }
      have kept₂ : l.Kept id w₂ := kept.of_handles rfl kept.admits
      have dropped := kept₂.invalidate (c := c) cached
      have quiet := Bus.invocations_congr (quiet_invalidate w₂ l.handle).events
      rw [called]
      exact ⟨_, rfl, .lost (cached?_invalidate w₂ l.handle) (quiet.trans (none.trans same)),
        dropped.of_handles rfl dropped.admits⟩

end StatsLog

end ServiceBus
