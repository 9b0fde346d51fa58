import ServiceBus.Radio.Session
import ServiceBus.Proofs.Handle.Caching

/-!
What a session leaves behind when the tuner fails. The log says so; a tuner that cannot be reached
costs the handle the connection that the session was opened through, if it still has that one.
-/
namespace ServiceBus

open World

theorem Status.isUnreachable_iff (e : Status) :
    e.isUnreachable = true ↔ e.failureKind = some .unreachable := by
  simp [isUnreachable]

theorem Status.kind_eq_unreachable_iff (e : Status) :
    e.failureKind.getD .other = .unreachable ↔ e.failureKind = some .unreachable := by
  cases e.failureKind <;> simp

namespace Session

variable {s : Surface} {t : WireType false}

theorem quiet_invalidateService (x : Session) (w : World) : w.Quiet (x.invalidateService w) := by
  unfold invalidateService
  split
  · exact quiet_invalidateIf _ _ _
  · exact Quiet.refl w

theorem quiet_report (w : World) (text : Option String) : w.Quiet (report w text) := by
  cases text with
  | none => exact Quiet.refl w
  | some t => exact quiet_say w _ t

theorem report_handles (w : World) (text : Option String) :
    (report w text).handles = w.handles := by
  cases text <;> rfl

/-- The world after a failure: what was written to the log, and a connection less if the tuner
was out of reach. -/
theorem fail_world (x : Session) (op : Operation s t) (e : Status) (w : World) :
    ∃ w', w.Quiet w' ∧ w'.handles = w.handles ∧
      (x.fail op e w).2 = if e.isUnreachable then x.invalidateService w' else w' := by
  refine ⟨report w (op.complaint? (e.failureKind.getD .other) e), quiet_report w _,
    report_handles w _, ?_⟩
  by_cases h : e.isUnreachable = true
  · have hk := e.kind_eq_unreachable_iff.2 (e.isUnreachable_iff.1 h)
    rw [if_pos h]
    simp only [fail, hk]
    cases op.withoutTuner? <;> rfl
  · have hk := mt e.kind_eq_unreachable_iff.1 (mt e.isUnreachable_iff.2 h)
    rw [if_neg h]
    simp only [fail, if_neg hk]

theorem invalidateService_of_none {x : Session} (h : x.openedThrough = none) (w : World) :
    x.invalidateService w = w := by
  rw [invalidateService, h]

theorem invalidateService_handles {x : Session} {r : HandleRef .radio} {c : Connection .radio}
    (h : x.openedThrough = some (r, c)) (w : World) :
    (x.invalidateService w).handles =
      if w.cached? r = some c then (w.setCached r none).handles else w.handles := by
  simp only [invalidateService, h]
  by_cases hc : w.cached? r = some c
  · rw [if_pos hc, invalidateIf_of_cached hc, invalidate_handles hc]
  · rw [if_neg hc]
    apply invalidateIf_handles_of_ne
    intro hm
    obtain ⟨d, hd, hp⟩ := Option.map_eq_some_iff.1 hm
    cases hp
    exact hc hd

theorem quiet_fail (x : Session) (op : Operation s t) (e : Status) (w : World) :
    w.Quiet (x.fail op e w).2 := by
  obtain ⟨w', quiet, -, hw⟩ := x.fail_world op e w
  rw [hw]
  split
  · exact quiet.trans (quiet_invalidateService x w')
  · exact quiet

theorem fail_handles_of_reached (x : Session) (op : Operation s t) {e : Status} (w : World)
    (h : e.failureKind ≠ some .unreachable) : (x.fail op e w).2.handles = w.handles := by
  obtain ⟨w', -, handles, hw⟩ := x.fail_world op e w
  rw [hw, if_neg (mt e.isUnreachable_iff.1 h)]
  exact handles

theorem fail_handles_of_none {x : Session} (op : Operation s t) (e : Status) (w : World)
    (h : x.openedThrough = none) : (x.fail op e w).2.handles = w.handles := by
  obtain ⟨w', -, handles, hw⟩ := x.fail_world op e w
  rw [hw, invalidateService_of_none h, ite_self]
  exact handles

theorem fail_handles {x : Session} {r : HandleRef .radio} {c : Connection .radio}
    (through : x.openedThrough = some (r, c)) (op : Operation s t) {e : Status} (w : World)
    (h : e.failureKind = some .unreachable) :
    (x.fail op e w).2.handles =
      if w.cached? r = some c then (w.setCached r none).handles else w.handles := by
  obtain ⟨w', -, handles, hw⟩ := x.fail_world op e w
  have hh := invalidateService_handles through w'
  rw [cached?_congr handles, setCached_handles_congr handles, handles] at hh
  rw [hw, if_pos (e.isUnreachable_iff.2 h)]
  exact hh

theorem perform_of_closed (host : Host) {x : Session} (closed : x.closed = true)
    (op : Operation s t) (w : World) :
    ∃ w', w.Quiet w' ∧ w'.handles = w.handles ∧ (x.perform host op w).2 = (x, w') := by
  rw [perform, if_pos closed]
  cases op.withoutTuner? with
  | some v => exact ⟨w, Quiet.refl w, rfl, rfl⟩
  | none =>
    by_cases h : op.reportsClosed = true
    · exact ⟨_, quiet_say w _ _, rfl, congrArg (Prod.mk x) (if_pos h)⟩
    · exact ⟨w, Quiet.refl w, rfl, congrArg (Prod.mk x) (if_neg h)⟩

theorem perform_of_refused (host : Host) {x : Session} {op : Operation s t}
    (opened : x.closed = false) {refusal : Refusal s} (refused : op.request x.band = .error refusal)
    (w : World) :
    x.perform host op w = (.error refusal.failure, x, report w refusal.complaint) := by
  simp only [perform, opened, refused]
  rfl

theorem perform_of_ok {host : Host} {x : Session} {op : Operation s t} {w : World}
    {request : TunerRequest t} {a : request.method.Outcome} {s' : Bus} (opened : x.closed = false)
    (asked : op.request x.band = .ok request)
    (answered : x.tuner.call host request.method request.args w.bus = (.ok a, s')) :
    x.perform host op w =
      (.ok (request.result a), { x with band := op.bandAfter x.band }, { w with bus := s' }) := by
  simp only [perform, opened, asked, onBus, answered]
  rfl

theorem perform_of_error {host : Host} {x : Session} {op : Operation s t} {w : World}
    {request : TunerRequest t} {e : Status} {s' : Bus} (opened : x.closed = false)
    (asked : op.request x.band = .ok request)
    (answered : x.tuner.call host request.method request.args w.bus = (.error e, s')) :
    x.perform host op w =
      ((x.fail op e { w with bus := s' }).1, x, (x.fail op e { w with bus := s' }).2) := by
  simp only [perform, opened, asked, onBus, answered]
  rfl

theorem close_of_ok {host : Host} {x : Session} {w : World} {a : Unit} {s' : Bus}
    (opened : x.closed = false) (answered : x.tuner.call host .close () w.bus = (.ok a, s')) :
    x.close host w = ({ x with closed := true }, { w with bus := s' }) := by
  simp only [close, opened, onBus, answered]
  rfl

theorem close_of_error {host : Host} {x : Session} {w : World} {e : Status} {s' : Bus}
    (opened : x.closed = false) (answered : x.tuner.call host .close () w.bus = (.error e, s')) :
    ∃ w', Quiet { w with bus := s' } w' ∧ w'.handles = w.handles ∧
      x.close host w =
        ({ x with closed := true }, if e.isUnreachable then x.invalidateService w' else w') := by
  refine ⟨({ w with bus := s' } : World).say .error
    ("Exception trying to close tuner: " ++ e.render), quiet_say _ _ _, rfl, ?_⟩
  simp only [close, opened, onBus, answered]
  rfl

end Session

end ServiceBus
