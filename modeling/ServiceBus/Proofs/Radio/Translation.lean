import ServiceBus.Proofs.Radio.Lifecycle

/-!
How an open session tells its caller about the tuner. Every operation with sound arguments asks the
tuner once, for one method; a value is passed on, and a failure is told by its kind alone, in the
way in which the operation fails. Only a configuration that was accepted changes the band. A failure
changes nothing in the session, and one handle at most.
-/
namespace ServiceBus

namespace Operation

def isSetMute : {s : Surface} → {t : WireType false} → Operation s t → Bool
  | _, _, setMute _ => true
  | _, _, _ => false

/-- What the caller is told about a failure of the tuner. A status that is fine is a failure as
well when it comes as one. -/
inductive Told : {s : Surface} → {t : WireType false} → Operation s t → Status →
    Except s.Failure t.Val → Prop
  | badValue {t : WireType false} (op : Operation .status t) {e : Status}
      (kind : e.failureKind = some .argumentRejected) : Told op e (.error .badValue)
  | invalidOperation {t : WireType false} (op : Operation .status t) {e : Status}
      (kind : e.failureKind = some .stateRejected) (other : op.isSetMute = false) :
      Told op e (.error .invalidOperation)
  | muteRejected (mute : Bool) {e : Status} (kind : e.failureKind = some .stateRejected) :
      Told (setMute mute) e (.error .error)
  | deadObject {t : WireType false} (op : Operation .status t) {e : Status}
      (kind : e.failureKind = some .unreachable) : Told op e (.error .deadObject)
  | error {t : WireType false} (op : Operation .status t) {e : Status}
      (kind : e.failureKind = none ∨ e.failureKind = some .other) : Told op e (.error .error)
  | invalidArgument {t : WireType false} (op : Operation .value t) {e : Status}
      (kind : e.failureKind = some .argumentRejected) :
      Told op e (.error (.invalidArgument (e.message.getD op.label)))
  | illegalState {t : WireType false} (op : Operation .value t) {e : Status}
      (kind : e.failureKind = some .stateRejected) :
      Told op e (.error (.illegalState (e.message.getD op.label)))
  | deadMute {e : Status} (kind : e.failureKind = some .unreachable) : Told getMute e (.ok true)
  | deadControl {e : Status} (kind : e.failureKind = some .unreachable) :
      Told hasControl e (.ok false)
  | serviceDied {t : WireType false} (op : Operation .value t) {e : Status}
      (kind : e.failureKind = some .unreachable) (other : op.withoutTuner? = none) :
      Told op e (.error (.serviceDied e))
  | remote {t : WireType false} (op : Operation .value t) {e : Status}
      (kind : e.failureKind = none ∨ e.failureKind = some .other) : Told op e (.error (.remote e))

variable {s : Surface} {t : WireType false}

theorem Told.unique {op : Operation s t} {e : Status} {r r' : Except s.Failure t.Val}
    (h : op.Told e r) (h' : op.Told e r') : r = r' := by
  cases h <;> cases h' <;> simp_all [isSetMute, withoutTuner?]

theorem told_failure (op : Operation s t) (e : Status)
    (h : e.failureKind = some .unreachable → op.withoutTuner? = none) :
    op.Told e (.error (op.failure (e.failureKind.getD .other) e)) := by
  cases s with
  | status =>
    cases hk : e.failureKind with
    | none => exact .error op (.inl hk)
    | some kind =>
      cases kind with
      | argumentRejected => exact .badValue op hk
      | unreachable => exact .deadObject op hk
      | other => exact .error op (.inr hk)
      | stateRejected =>
        cases op with
        | setMute mute => exact .muteRejected mute hk
        | _ => exact .invalidOperation _ hk rfl
  | value =>
    cases hk : e.failureKind with
    | none => exact .remote op (.inl hk)
    | some kind =>
      cases kind with
      | argumentRejected => exact .invalidArgument op hk
      | stateRejected => exact .illegalState op hk
      | unreachable => exact .serviceDied op hk (h hk)
      | other => exact .remote op (.inr hk)

theorem told_withoutTuner {op : Operation s t} {v : t.Val} (h : op.withoutTuner? = some v)
    {e : Status} (kind : e.failureKind = some .unreachable) : op.Told e (.ok v) := by
  cases op with
  | getMute =>
    cases h
    exact .deadMute kind
  | hasControl =>
    cases h
    exact .deadControl kind
  | _ => cases h

end Operation

open World

namespace Session

variable {s : Surface} {t : WireType false}

theorem told_fail (x : Session) (op : Operation s t) (e : Status) (w : World) :
    op.Told e (x.fail op e w).1 := by
  have hf := op.told_failure e
  by_cases hk : e.failureKind = some .unreachable
  · cases hw : op.withoutTuner? with
    | none => simpa [fail, hk, hw] using hf fun _ => hw
    | some v => simpa [fail, hk, hw] using Operation.told_withoutTuner hw hk
  · have hd := mt e.kind_eq_unreachable_iff.1 hk
    simpa [fail, hd] using hf fun h => absurd h hk

/-- What a tuner out of reach costs: the connection that the session was opened through, if its
handle still has it. -/
theorem fail_costs {x : Session} {r : HandleRef .radio} {c : Connection .radio}
    (through : x.openedThrough = some (r, c)) (op : Operation s t) {e : Status} {w w' : World}
    (same : w'.handles = w.handles) (unreachable : e.failureKind = some .unreachable) :
    (w.cached? r = some c → (x.fail op e w').2.cached? r = none ∧
      (x.fail op e w').2.handles = (w.setCached r none).handles) ∧
    (w.cached? r ≠ some c → (x.fail op e w').2.handles = w.handles) := by
  have left := fail_handles through op w' unreachable
  rw [cached?_congr same, setCached_handles_congr same, same] at left
  constructor
  · intro kept
    rw [if_pos kept] at left
    exact ⟨(cached?_congr left r).trans (cached?_setCached_none w r), left⟩
  · intro replaced
    rw [if_neg replaced] at left
    exact left

/-- An operation on an open session with sound arguments. It asks the tuner for its method, once,
and the bus is left as by that one call. A value is passed on, and the session is then on the band
that the operation set, if any. A failure is told by its kind, leaves the session as it is, and
costs a connection only if the tuner was out of reach: the one that the session was opened through,
if its handle still has it. -/
theorem perform_open (host : Host) (x : Session) (op : Operation s t) (w : World)
    (opened : x.closed = false) (sound : op.Sound x.band) :
    ∃ m args, op.Asks x.band m args ∧
      let answer := x.tuner.call host m args w.bus
      let after := x.perform host op w
      Quiet { w with bus := answer.2 } after.2.2 ∧
      (∀ servant, x.tuner = .hosted servant →
        after.2.2.bus.events = w.bus.events ++ [.invoked servant m args]) ∧
      (∀ c, x.tuner = .remote c → Vals.Short m.params args →
        after.2.2.bus.requestsTo c.remote = w.bus.requestsTo c.remote ++
          if w.bus.isAlive c.remote then [(m.code, m.request args)] else []) ∧
      (∀ a, answer.1 = .ok a → ∃ v, op.Passes v a ∧ after =
        (.ok v, { x with band := op.sets?.or x.band }, { w with bus := answer.2 })) ∧
      ∀ e, answer.1 = .error e →
        (∀ result, after.1 = result ↔ op.Told e result) ∧ after.2.1 = x ∧
        (e.failureKind ≠ some .unreachable → after.2.2.handles = w.handles) ∧
        (x.openedThrough = none → after.2.2.handles = w.handles) ∧
        ∀ r c, x.openedThrough = some (r, c) → e.failureKind = some .unreachable →
          (w.cached? r = some c →
            after.2.2.cached? r = none ∧ after.2.2.handles = (w.setCached r none).handles) ∧
          (w.cached? r ≠ some c → after.2.2.handles = w.handles) := by
  obtain ⟨request, asked⟩ := (op.exists_request_iff x.band).2 sound
  have called := called_perform host x w op
  rw [asks?_perform opened, asked] at called
  obtain ⟨asks, passes⟩ := Operation.asks_request asked
  refine ⟨request.method, request.args, asks, called, fun servant hosted => ?_,
    fun c remote short => ?_, fun a answered => ?_, fun e answered => ?_⟩
  · rw [hosted] at called
    exact called.events
  · rw [remote] at called
    exact called.requestsTo short
  · refine ⟨_, passes a, ?_⟩
    rw [← op.bandAfter_eq]
    exact perform_of_ok opened asked (Prod.ext answered rfl)
  · rw [perform_of_error opened asked (Prod.ext answered rfl)]
    have told := x.told_fail op e
    exact ⟨fun result => ⟨fun h => h ▸ told _, (told _).unique⟩, rfl,
      x.fail_handles_of_reached op _, fail_handles_of_none op e _,
      fun r c through => fail_costs through op rfl⟩

/-- Whether a tuner is muted whose service died, while the handle still has the connection. -/
theorem perform_open_dead :
    let dead : Status := .transactionFailed .deadObject none
    let host : Host :=
      ⟨fun _ _ _ _ _ => ⟨.error dead, 0, []⟩, fun _ _ _ _ => ⟨.ok .empty, 0, []⟩, fun _ _ _ => none⟩
    let r : HandleRef .radio := ⟨0⟩
    let c : Connection .radio := ⟨4, .native 0 .radio 1⟩
    let handles : Handles := ⟨[], [⟨"broadcastradio", .registry 0, some c⟩], []⟩
    let w : World := { World.empty with handles := handles }
    let x : Session := ⟨.hosted 3, false, none, some (r, c)⟩
    let after := x.perform host .getMute w
    after.2.2.bus.events = [.invoked 3 .isMuted ()] ∧ after.1 = .ok true ∧ after.2.1 = x ∧
      w.cached? r = some c ∧ after.2.2.cached? r = none := by
  intro dead host r c handles w x after
  obtain ⟨m, args, asks, -, called, -, -, failed⟩ := x.perform_open host .getMute w rfl trivial
  cases asks
  obtain ⟨told, same, -, -, cleared⟩ := failed dead rfl
  exact ⟨called 3 rfl, (told _).2 (.deadMute rfl), same, rfl, ((cleared r c rfl rfl).1 rfl).1⟩

end Session

end ServiceBus
