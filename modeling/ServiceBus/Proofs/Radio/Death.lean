import ServiceBus.Proofs.Handle.Reconnection
import ServiceBus.Proofs.Radio.Eviction

/-!
Death in the middle of a call. A binder may be dead when a caller comes to it, or die while its
handler runs. The caller is told of the death unless the handler ended with a failure of its own:
that failure is reported in its place, before anyone looks whether the binder is still alive. So a
client whose service fails and dies in one call keeps its connection until the next call.
-/
namespace ServiceBus

open Wire

/-- The binder is dead when a request comes to it, or dies over the request. How its handler ended
is noted; a handler that is never asked counts as one that ended well. -/
inductive Died (b : Binder) (handle : Handler) (code : UInt32) (fill : Writer) (s : Bus) :
    Except StatusCode Unit → Prop
  | before (dead : s.isAlive b = false) : Died b handle code fill s (.ok ())
  | meanwhile {request reply : Payload} {ended : Except StatusCode Unit} {s' : Bus}
      (alive : s.isAlive b = true) (filled : fill.run 0 0 = (.ok (), request))
      (handled : dispatch b handle code request (s.record (.filled b code)) = (⟨ended, reply⟩, s'))
      (dead : s'.isAlive b = false) : Died b handle code fill s ended

/-- What the caller of a binder that died is told, by how the handler ended. -/
def StatusCode.afterDeath : Except StatusCode Unit → StatusCode
  | .ok _ => .deadObject
  | .error e => e

theorem StatusCode.afterDeath_iff {P : StatusCode → Prop} (dead : P .deadObject)
    (ended : Except StatusCode Unit) : P (afterDeath ended) ↔ ∀ e, ended = .error e → P e := by
  cases ended with
  | ok u => exact iff_of_true dead nofun
  | error e =>
    constructor
    · rintro h _ ⟨⟩
      exact h
    · exact fun h => h e rfl

section

variable {b : Binder} {handle : Handler} {code flags : UInt32} {s : Bus}
  {ended : Except StatusCode Unit}

namespace Died

/-- The failure of the handler comes first. -/
theorem transactVia {fill : Writer} (died : Died b handle code fill s ended)
    (waits : Transaction.isOneWay flags = false) :
    (ServiceBus.transactVia b handle code flags fill s).1 = .error (.afterDeath ended) := by
  cases died with
  | before dead =>
    rw [transactVia_of_dead dead]
    rfl
  | meanwhile alive filled handled dead =>
    rw [transactVia_of_waits waits handle alive filled, handled]
    cases ended with
    | error e => rfl
    | ok u =>
      simp only [dead]
      rfl

theorem callVia {descriptor : String} {args : Writer}
    (died : Died b handle code (.token descriptor ++ args) s ended)
    (waits : Transaction.isOneWay flags = false) :
    (ServiceBus.callVia b handle descriptor code flags args s).1 =
      .error (.ofCode (.afterDeath ended)) :=
  callVia_of_error (died.transactVia waits)

theorem requestVia {i : Interface} {m : Method i} {args : m.Args}
    (died : Died b handle m.code (m.fill args) s ended) (waits : i.isOneWay = false) :
    (ServiceBus.requestVia b handle m args s).1 = .error (.ofCode (.afterDeath ended)) := by
  have failed := died.transactVia (i.isOneWay_flags.trans waits)
  rcases transacted : ServiceBus.transactVia b handle m.code i.flags (m.fill args) s with ⟨r, s'⟩
  rw [transacted] at failed
  cases failed
  rw [requestVia_of_transactVia_error transacted]

end Died

end

theorem outOfReach_afterDeath {α : Type} (ended : Except StatusCode Unit) :
    OutOfReach (.error (.ofCode (.afterDeath ended)) : Except Status α) ↔
      ∀ e, ended = .error e → e.Gone := by
  rw [outOfReach_error, Status.unreachable_ofCode_iff]
  exact StatusCode.afterDeath_iff .deadObject ended

theorem World.LostIf.cached?_eq_none_iff {w : World} {r : HandleRef .radio} {c : Connection .radio}
    {lost : Prop} (h : w.LostIf r c lost) : w.cached? r = none ↔ lost := by
  constructor
  · intro empty
    by_cases l : lost
    · exact l
    · cases empty.symm.trans (h.kept l)
  · exact h.gone

namespace Errand

/-- What a client does depends on the past only through what its handle resolves to. -/
theorem run_congr {host : Host} {i : Interface} {r : HandleRef i} {w w' : World} {e : Errand i}
    (h : w.resolve host r = w'.resolve host r) : e.run host r w = e.run host r w' := by
  cases e with
  | listModules => simp only [run, RadioManager.listModules, h]
  | openTuner module config withAudio valid =>
    have accepted := BandConfig.filter_not_isValid_eq_none_iff.2 valid
    simp only [run, RadioManager.openTuner, accepted, h]
  | log a =>
    obtain ⟨label, sent⟩ := a.exists_log_eq_send
    simp only [run, sent, StatsLog.send, h]

variable {host : Host} {r : HandleRef .radio} {w w' : World} {c : Connection .radio}

theorem lostIf_of_resolved (e : Errand .radio) (resolved : w.resolve host r = (some c, w')) :
    (e.run host r w).2.LostIf r c (OutOfReach (c.call host e.call.1 e.call.2 w'.bus).1) := by
  have cached : w'.cached? r = some c := World.cached?_of_resolve host resolved
  rw [run_congr (resolved.trans (World.resolve_of_cached host cached).symm)]
  cases e with
  | listModules => exact RadioManager.lostIf_listModules cached
  | openTuner module config withAudio valid =>
    exact (RadioManager.lostIf_openTuner module config withAudio cached).congr (and_iff_right valid)

theorem cached?_run_eq_none_iff (e : Errand .radio) (resolved : w.resolve host r = (some c, w')) :
    (e.run host r w).2.cached? r = none ↔
      OutOfReach (c.call host e.call.1 e.call.2 w'.bus).1 :=
  (e.lostIf_of_resolved resolved).cached?_eq_none_iff

end Errand

/-- A caller that waits, of a binder that is dead or dies over the call. A transaction tells of the
death, a call finds the binder out of reach, and the radio manager drops its connection, each just
if the handler did not end with a failure that says something else. -/
theorem died_iff (host : Host) :
    (∀ b handle code flags fill s ended, Transaction.isOneWay flags = false →
      Died b handle code fill s ended →
        ((transactVia b handle code flags fill s).1 = .error .deadObject ↔
          ∀ e, ended = .error e → e = .deadObject)) ∧
    (∀ b handle descriptor code flags args s ended, Transaction.isOneWay flags = false →
      Died b handle code (.token descriptor ++ args) s ended →
        ∃ status, (callVia b handle descriptor code flags args s).1 = .error status ∧
          (status.isUnreachable = true ↔ ∀ e, ended = .error e → e.Gone)) ∧
    ∀ (e : Errand .radio) (r : HandleRef .radio) (w w' : World) (c : Connection .radio) ended,
      w.resolve host r = (some c, w') →
      Died c.remote (c.remote.handler host) e.call.1.code (e.call.1.fill e.call.2) w'.bus ended →
        ((e.run host r w).2.cached? r = none ↔ ∀ e, ended = .error e → e.Gone) := by
  refine ⟨?transactions, ?calls, ?manager⟩
  case transactions =>
    intro b handle code flags fill s ended waits died
    rw [died.transactVia waits, Except.error.injEq]
    exact StatusCode.afterDeath_iff (P := (· = .deadObject)) rfl ended
  case calls =>
    intro b handle descriptor code flags args s ended waits died
    refine ⟨_, died.callVia waits, ?_⟩
    rw [Status.isUnreachable_iff, Status.unreachable_ofCode_iff]
    exact StatusCode.afterDeath_iff .deadObject ended
  case manager =>
    intro e r w w' c ended resolved died
    have failed := died.requestVia rfl
    rw [e.cached?_run_eq_none_iff resolved, Connection.call, failed]
    exact outOfReach_afterDeath ended

/-- Every handler kills the binder, and ends as given. -/
def Host.dying (b : Binder) (ended : Except StatusCode Unit) : Host :=
  ⟨fun _ _ _ _ _ => ⟨.error .ok, 0, []⟩, fun _ _ _ _ => ⟨⟨ended, .empty⟩, 0, [b]⟩, fun _ _ _ => none⟩

/-- A radio service dies and replies with nothing. -/
theorem died_iff_silent :
    let b := Binder.custom 0 Interface.radio.descriptor 5
    let host := Host.dying b (.ok ())
    let x : Handle .radio := ⟨"broadcastradio", .registry 0, some ⟨0, b⟩⟩
    let w : World := ⟨⟨[true], 1, [], []⟩, [.empty], ⟨[], [x], []⟩⟩
    let r : HandleRef .radio := ⟨0⟩
    (b.transact host 9 0 .done w.bus).1 = .error .deadObject ∧
      (∃ status, (b.call host b.descriptor 9 0 .done w.bus).1 = .error status ∧
        status.isUnreachable = true) ∧
      w.cached? r = some ⟨0, b⟩ ∧ (Errand.listModules.run host r w).2.cached? r = none := by
  intro b host x w r
  obtain ⟨transactions, calls, manager⟩ := died_iff host
  have transacted : Died b (b.handler host) 9 .done w.bus (.ok ()) :=
    .meanwhile rfl rfl rfl rfl
  have called : Died b (b.handler host) 9 (.token b.descriptor ++ .done) w.bus (.ok ()) :=
    .meanwhile rfl rfl rfl rfl
  have listed : Died b (b.handler host) 1 (Method.listModules.fill ()) w.bus (.ok ()) :=
    .meanwhile rfl rfl rfl rfl
  obtain ⟨status, failed, gone⟩ := calls b _ b.descriptor 9 0 .done w.bus _ rfl called
  exact ⟨(transactions b _ 9 0 .done w.bus _ rfl transacted).2 nofun,
    ⟨status, failed, gone.2 nofun⟩, rfl, (manager .listModules r w w _ _ rfl listed).2 nofun⟩

/-- The service dies as well, but its handler fails: the caller is told of the failure alone, and
the connection to the dead service is kept. -/
theorem died_iff_failing :
    let b := Binder.custom 0 Interface.radio.descriptor 5
    let host := Host.dying b (.error .badValue)
    let x : Handle .radio := ⟨"broadcastradio", .registry 0, some ⟨0, b⟩⟩
    let w : World := ⟨⟨[true], 1, [], []⟩, [.empty], ⟨[], [x], []⟩⟩
    let r : HandleRef .radio := ⟨0⟩
    let listed := Errand.listModules.run host r w
    w.bus.isAlive b = true ∧
      (b.transact host 9 0 .done w.bus).1 = .error .badValue ∧
      (b.transact host 9 0 .done w.bus).2.isAlive b = false ∧
      (b.call host b.descriptor 9 0 .done w.bus).1 = .error (.ofCode .badValue) ∧
      (Status.ofCode .badValue).isUnreachable = false ∧
      listed.2.bus.isAlive b = false ∧ listed.2.cached? r = some ⟨0, b⟩ := by
  intro b host x w r listed
  exact ⟨rfl, rfl, rfl, rfl, rfl, rfl, rfl⟩

end ServiceBus
