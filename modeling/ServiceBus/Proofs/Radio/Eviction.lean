import ServiceBus.Proofs.Radio.Console
import ServiceBus.Proofs.Radio.Failure

/-!
What costs a handle its connection. The steps that do are listed in `Console.Evicts`; any other
step keeps the connection. A session that fails late costs the handle only the connection that the
session was opened through, and a connection that was once gone does not come back.
-/
namespace ServiceBus

open World

/-- A call that failed because the other side cannot be reached. -/
def OutOfReach {α : Type} (r : Except Status α) : Prop :=
  ∃ e, r = .error e ∧ e.failureKind = some .unreachable

theorem outOfReach_error {α : Type} (e : Status) :
    OutOfReach (.error e : Except Status α) ↔ e.failureKind = some .unreachable := by
  constructor
  · rintro ⟨_, ⟨⟩, h⟩
    exact h
  · exact fun h => ⟨e, rfl, h⟩

theorem not_outOfReach_ok {α : Type} (a : α) : ¬ OutOfReach (.ok a : Except Status α) := by
  rintro ⟨e, ⟨⟩, -⟩

/-- A handle that had a connection at hand has lost it under a condition, and has it otherwise. -/
structure World.LostIf (w : World) (r : HandleRef .radio) (c : Connection .radio) (lost : Prop) :
    Prop where
  gone : lost → w.cached? r = none
  kept : ¬ lost → w.cached? r = some c

variable {host : Host} {w : World} {r : HandleRef .radio} {c : Connection .radio} {lost : Prop}

theorem World.LostIf.of_kept (h : w.cached? r = some c) (n : ¬ lost) : w.LostIf r c lost :=
  ⟨fun l => absurd l n, fun _ => h⟩

theorem World.LostIf.of_gone (h : w.cached? r = none) (l : lost) : w.LostIf r c lost :=
  ⟨fun _ => h, fun n => absurd l n⟩

theorem World.LostIf.congr {lost' : Prop} (h : w.LostIf r c lost) (e : lost ↔ lost') :
    w.LostIf r c lost' :=
  ⟨fun l => h.gone (e.2 l), fun n => h.kept fun l => n (e.1 l)⟩

namespace Session

variable {s : Surface} {t : WireType false}

/-- An open session that was opened through a connection asks its tuner and cannot reach it. -/
structure Loses (host : Host) (x : Session) (r : HandleRef .radio) (c : Connection .radio)
    (m : Method .tuner) (args : m.Args) (s : Bus) : Prop where
  opened : x.closed = false
  through : x.openedThrough = some (r, c)
  call : OutOfReach (x.tuner.call host m args s).1

theorem cached?_invalidateService (x : Session) (h : w.cached? r = some c) :
    (x.invalidateService w).cached? r = if x.openedThrough = some (r, c) then none else some c := by
  cases hx : x.openedThrough with
  | none =>
    rw [invalidateService_of_none hx, if_neg nofun, h]
  | some p =>
    obtain ⟨q, d⟩ := p
    have hh := invalidateService_handles hx w
    -- The session is of this handle and connection, of another connection, or of another handle.
    by_cases hq : q = r
    · subst hq
      by_cases hd : d = c
      · subst hd
        rw [if_pos h] at hh
        rw [if_pos rfl, cached?_congr hh, cached?_setCached_none]
      · have hn : w.cached? q ≠ some d := by
          rw [h]
          exact fun e => hd (Option.some.inj e).symm
        rw [if_neg hn] at hh
        rw [if_neg fun e => hd (by cases e; rfl), cached?_congr hh, h]
    · have hr : (w.setCached q none).cached? r = w.cached? r := by
        rw [cached?, cached?, handle?_setCached_of_ne (Ne.symm hq)]
      rw [if_neg fun e => hq (by cases e; rfl)]
      split at hh
      · rw [cached?_congr hh, hr, h]
      · rw [cached?_congr hh, h]

theorem cached?_fail (x : Session) (op : Operation s t) (e : Status) (h : w.cached? r = some c) :
    (x.fail op e w).2.cached? r =
      if e.failureKind = some .unreachable ∧ x.openedThrough = some (r, c) then none
      else some c := by
  obtain ⟨w', -, handles, hw⟩ := x.fail_world op e w
  have h' : w'.cached? r = some c := (cached?_congr handles r).trans h
  rw [hw]
  by_cases hk : e.failureKind = some .unreachable
  · rw [if_pos (e.isUnreachable_iff.2 hk), cached?_invalidateService x h']
    simp only [hk, true_and]
  · rw [if_neg (mt e.isUnreachable_iff.1 hk), h', if_neg fun a => hk a.1]

theorem loses_iff {x : Session} {m : Method .tuner} {args : m.Args} {r' : Except Status m.Outcome}
    {s s' : Bus} (opened : x.closed = false) (answered : x.tuner.call host m args s = (r', s')) :
    x.Loses host r c m args s ↔ OutOfReach r' ∧ x.openedThrough = some (r, c) := by
  constructor
  · rintro ⟨-, through, call⟩
    rw [answered] at call
    exact ⟨call, through⟩
  · rintro ⟨call, through⟩
    exact ⟨opened, through, by rwa [answered]⟩

theorem lostIf_perform (x : Session) (op : Operation s t) (h : w.cached? r = some c) :
    (x.perform host op w).2.2.LostIf r c (∃ request, op.request x.band = .ok request ∧
      x.Loses host r c request.method request.args w.bus) := by
  cases hx : x.closed with
  | true =>
    obtain ⟨w', -, handles, hw⟩ := perform_of_closed host hx op w
    rw [hw]
    refine .of_kept ((cached?_congr handles r).trans h) ?_
    rintro ⟨request, -, l⟩
    exact absurd (hx.symm.trans l.opened) nofun
  | false =>
    cases asked : op.request x.band with
    | error refusal =>
      rw [perform_of_refused host hx asked]
      refine .of_kept ((cached?_congr (report_handles w _) r).trans h) ?_
      rintro ⟨request, ⟨⟩, -⟩
    | ok request =>
      rcases answered : x.tuner.call host request.method request.args w.bus with ⟨e | a, s'⟩
      · have hs : ({ w with bus := s' } : World).cached? r = some c := h
        have hl := (loses_iff (r := r) (c := c) hx answered).trans
          (and_congr_left fun _ => outOfReach_error e)
        rw [perform_of_error hx asked answered]
        constructor
        · rintro ⟨_, ⟨⟩, l⟩
          exact (cached?_fail x op e hs).trans (if_pos (hl.1 l))
        · intro n
          exact (cached?_fail x op e hs).trans (if_neg fun l => n ⟨request, rfl, hl.2 l⟩)
      · rw [perform_of_ok hx asked answered]
        refine .of_kept h ?_
        rintro ⟨_, ⟨⟩, l⟩
        exact not_outOfReach_ok a ((loses_iff hx answered).1 l).1

theorem lostIf_close (x : Session) (h : w.cached? r = some c) :
    (x.close host w).2.LostIf r c (x.Loses host r c .close () w.bus) := by
  cases hx : x.closed with
  | true =>
    rw [close_of_closed host x w hx]
    exact .of_kept h fun l => absurd (hx.symm.trans l.opened) nofun
  | false =>
    rcases answered : x.tuner.call host .close () w.bus with ⟨e | a, s'⟩
    · have hl := (loses_iff (r := r) (c := c) hx answered).trans
        (and_congr_left fun _ => outOfReach_error e)
      obtain ⟨w', -, handles, hw⟩ := close_of_error hx answered
      have h' : w'.cached? r = some c := (cached?_congr handles r).trans h
      rw [hw]
      by_cases hk : e.failureKind = some .unreachable
      · rw [if_pos (e.isUnreachable_iff.2 hk)]
        constructor
        · exact fun l => (cached?_invalidateService x h').trans (if_pos l.through)
        · exact fun n => (cached?_invalidateService x h').trans (if_neg fun t => n (hl.2 ⟨hk, t⟩))
      · rw [if_neg (mt e.isUnreachable_iff.1 hk)]
        exact .of_kept h' fun l => hk (hl.1 l).1
    · rw [close_of_ok hx answered]
      exact .of_kept h fun l => not_outOfReach_ok a ((loses_iff hx answered).1 l).1

end Session

namespace RadioManager

theorem lostIf_listModules (h : w.cached? r = some c) :
    (listModules host ⟨r⟩ w).2.LostIf r c (OutOfReach (c.call host .listModules () w.bus).1) := by
  rcases answered : c.call host .listModules () w.bus with ⟨e | modules, s'⟩
  · simp only [listModules, resolve_of_cached host h, onBus, answered]
    by_cases hk : e.failureKind = some .unreachable
    · rw [if_pos (e.isUnreachable_iff.2 hk)]
      exact .of_gone (cached?_invalidate _ r) ((outOfReach_error e).2 hk)
    · rw [if_neg (mt e.isUnreachable_iff.1 hk)]
      exact .of_kept h (mt (outOfReach_error e).1 hk)
  · simp only [listModules, resolve_of_cached host h, onBus, answered]
    exact .of_kept h (not_outOfReach_ok modules)

theorem lostIf_openTuner (module : Int32) (config : Option BandConfig) (withAudio : Bool)
    (h : w.cached? r = some c) :
    (openTuner host ⟨r⟩ module config withAudio w).2.LostIf r c
      ((∀ b ∈ config, b.isValid = true) ∧
        OutOfReach (c.call host .openTuner (module, config, withAudio, ()) w.bus).1) := by
  cases hf : config.filter fun b => !b.isValid with
  | some b =>
    simp only [openTuner, hf]
    refine .of_kept h fun l => ?_
    obtain ⟨hb, hn⟩ := Option.filter_eq_some_iff.1 hf
    have hv := l.1 b hb
    simp [hv] at hn
  | none =>
    have valid := BandConfig.filter_not_isValid_eq_none_iff.1 hf
    rcases answered : c.call host .openTuner (module, config, withAudio, ()) w.bus with ⟨e | a, s'⟩
    · simp only [openTuner, hf, resolve_of_cached host h, onBus, answered]
      by_cases hk : e.failureKind = some .unreachable
      · rw [if_pos (e.isUnreachable_iff.2 hk)]
        exact .of_gone (cached?_invalidate _ r) ⟨valid, (outOfReach_error e).2 hk⟩
      · rw [if_neg (mt e.isUnreachable_iff.1 hk)]
        exact .of_kept h fun l => hk ((outOfReach_error e).1 l.2)
    · simp only [openTuner, hf, resolve_of_cached host h, onBus, answered]
      exact .of_kept h fun l => not_outOfReach_ok a l.2

end RadioManager

namespace Console

/-- The steps that cost the handle the connection that it has at hand. -/
inductive Evicts (host : Host) (r : HandleRef .radio) (c : Connection .radio) (st : Console) :
    Command → Prop
  | invalidate : Evicts host r c st .invalidate
  | invalidateIf : Evicts host r c st (.invalidateIf (.remote c))
  | listModules (call : OutOfReach (c.call host .listModules () st.world.bus).1) :
      Evicts host r c st .listModules
  | openTuner {module : Int32} {config : Option BandConfig} {withAudio : Bool}
      (valid : ∀ b ∈ config, b.isValid = true)
      (call : OutOfReach (c.call host .openTuner (module, config, withAudio, ()) st.world.bus).1) :
      Evicts host r c st (.openTuner module config withAudio)
  | perform {k : Nat} {x : Session} {s : Surface} {t : WireType false} {op : Operation s t}
      {request : TunerRequest t} (session : st.sessions[k]? = some x)
      (asked : op.request x.band = .ok request)
      (call : x.Loses host r c request.method request.args st.world.bus) :
      Evicts host r c st (.perform k op)
  | close {k : Nat} {x : Session} (session : st.sessions[k]? = some x)
      (call : x.Loses host r c .close () st.world.bus) : Evicts host r c st (.close k)
  | drop {k : Nat} {x : Session} (session : st.sessions[k]? = some x)
      (call : x.Loses host r c .close () st.world.bus) : Evicts host r c st (.drop k)

theorem lostIf_onSession {st : Console} {k : Nat} {f : Session → Console} {loses : Session → Prop}
    (h : st.world.cached? r = some c) (each : ∀ x, (f x).world.LostIf r c (loses x))
    (e : lost ↔ ∃ x, st.sessions[k]? = some x ∧ loses x) :
    (st.onSession k f).world.LostIf r c lost := by
  refine onSession_cases (P := fun st' => st'.world.LostIf r c lost) (fun hk => ?_) fun x hk => ?_
  · refine .of_kept h fun l => ?_
    obtain ⟨x, hx, -⟩ := e.1 l
    cases hk.symm.trans hx
  · refine (each x).congr ⟨fun l => e.2 ⟨x, hk, l⟩, fun l => ?_⟩
    obtain ⟨y, hy, ly⟩ := e.1 l
    cases hk.symm.trans hy
    exact ly

theorem lostIf_step (host : Host) {st : Console} (h : st.world.cached? r = some c)
    (command : Command) :
    (step host r st command).world.LostIf r c (Evicts host r c st command) := by
  cases command with
  | listModules =>
    exact (RadioManager.lostIf_listModules h).congr ⟨.listModules, fun | .listModules l => l⟩
  | openTuner module config withAudio =>
    exact (RadioManager.lostIf_openTuner module config withAudio h).congr
      ⟨fun l => .openTuner l.1 l.2, fun | .openTuner v l => ⟨v, l⟩⟩
  | perform k op =>
    exact lostIf_onSession h (fun x => x.lostIf_perform op h)
      ⟨fun | .perform session asked l => ⟨_, session, _, asked, l⟩,
        fun ⟨_, session, _, asked, l⟩ => .perform session asked l⟩
  | close k =>
    exact lostIf_onSession h (fun x => x.lostIf_close h)
      ⟨fun | .close session l => ⟨_, session, l⟩, fun ⟨_, session, l⟩ => .close session l⟩
  | drop k =>
    exact lostIf_onSession h (fun x => x.lostIf_close h)
      ⟨fun | .drop session l => ⟨_, session, l⟩, fun ⟨_, session, l⟩ => .drop session l⟩
  | resolve =>
    simp only [step, resolve_of_cached host h]
    exact .of_kept h nofun
  | invalidate => exact .of_gone (cached?_invalidate _ r) .invalidate
  | invalidateIf stale =>
    by_cases hs : stale = .remote c
    · subst hs
      simp only [step, invalidateIf_of_cached h]
      exact .of_gone (cached?_invalidate _ r) .invalidateIf
    · have hn : (st.world.cached? r).map Peer.remote ≠ some stale := by
        rw [h]
        exact fun e => hs (Option.some.inj e).symm
      refine .of_kept ((cached?_congr (invalidateIf_handles_of_ne hn) r).trans h) fun l => ?_
      cases l
      exact hs rfl
  | publish service => exact .of_kept h nofun
  | publishHandler descriptor handler => exact .of_kept h nofun
  | kill b => exact .of_kept h nofun
  | register registry name b => exact .of_kept h nofun
  | check registry name => exact .of_kept h nofun

end Console

end ServiceBus
