import Mathlib.Data.List.Induction
import ServiceBus.Proofs.Handle.Renewal
import ServiceBus.Proofs.Radio.Eviction

/-!
What a handle has at hand over a run. A connection is at hand from when it is made until it is
gone, and then never again, since every connection that is made later has another number.
-/
namespace ServiceBus

open World

variable {host : Host} {r : HandleRef .radio} {w : World}

namespace Session

variable {s : Surface} {t : WireType false} (x : Session)

theorem renews_invalidateService (w : World) : Renews r w (x.invalidateService w) := by
  cases hx : x.openedThrough with
  | none =>
    rw [invalidateService_of_none hx]
    exact .refl w
  | some p =>
    simp only [invalidateService, hx]
    exact renews_invalidateIf w p.1 (.remote p.2)

theorem renews_perform (op : Operation s t) (w : World) : Renews r w (x.perform host op w).2.2 := by
  cases hx : x.closed with
  | true =>
    obtain ⟨w', quiet, handles, hw⟩ := perform_of_closed host hx op w
    rw [hw]
    exact renews_of_quiet quiet handles
  | false =>
    cases asked : op.request x.band with
    | error refusal =>
      rw [perform_of_refused host hx asked]
      exact renews_of_quiet (quiet_report w _) (report_handles w _)
    | ok request =>
      have hc : Renews r w _ := renews_call host x.tuner request.method request.args w
      rcases answered : x.tuner.call host request.method request.args w.bus with ⟨e | a, s'⟩
      all_goals rw [answered] at hc
      · obtain ⟨w', quiet, handles, hw⟩ := x.fail_world op e { w with bus := s' }
        have hs := hc.trans (renews_of_quiet quiet handles)
        rw [perform_of_error hx asked answered, hw]
        split
        · exact hs.trans (renews_invalidateService x w')
        · exact hs
      · rw [perform_of_ok hx asked answered]
        exact hc

theorem renews_close (w : World) : Renews r w (x.close host w).2 := by
  cases hx : x.closed with
  | true =>
    rw [close_of_closed host x w hx]
    exact renews_say w _ _
  | false =>
    have hc : Renews r w _ := renews_call host x.tuner .close () w
    rcases answered : x.tuner.call host .close () w.bus with ⟨e | a, s'⟩
    all_goals rw [answered] at hc
    · obtain ⟨w', quiet, handles, hw⟩ := close_of_error hx answered
      have hs := hc.trans (renews_of_quiet quiet handles)
      rw [hw]
      dsimp only
      split
      · exact hs.trans (renews_invalidateService x w')
      · exact hs
    · rw [close_of_ok hx answered]
      exact hc

theorem openedThrough_perform (op : Operation s t) (w : World) :
    (x.perform host op w).2.1.openedThrough = x.openedThrough := by
  cases hx : x.closed with
  | true =>
    obtain ⟨w', -, -, hw⟩ := perform_of_closed host hx op w
    rw [hw]
  | false =>
    cases asked : op.request x.band with
    | error refusal => rw [perform_of_refused host hx asked]
    | ok request =>
      rcases answered : x.tuner.call host request.method request.args w.bus with ⟨e | a, s'⟩
      · rw [perform_of_error hx asked answered]
      · rw [perform_of_ok hx asked answered]

theorem openedThrough_close (w : World) : (x.close host w).1.openedThrough = x.openedThrough := by
  cases hx : x.closed with
  | true => rw [close_of_closed host x w hx]
  | false =>
    simp only [close, hx]
    rfl

end Session

namespace RadioManager

theorem renews_listModules (w : World) : Renews r w (listModules host ⟨r⟩ w).2 := by
  have hr : Renews r w (w.resolve host r).2 := renews_resolve w
  rcases resolved : w.resolve host r with ⟨_ | c, w₁⟩
  all_goals rw [resolved] at hr
  · simp only [listModules, resolved]
    exact hr
  · have hc := hr.trans (renews_call host (.remote c) .listModules () w₁)
    rcases answered : c.call host .listModules () w₁.bus with ⟨e | modules, s'⟩
    all_goals
      simp only [Peer.call, answered] at hc
      simp only [listModules, resolved, onBus, answered]
    · have hs := hc.trans (renews_say _ .error ("Failed to list modules: " ++ e.render))
      split
      · exact hs.trans (renews_invalidate _)
      · exact hs
    · exact hc

theorem renews_openTuner (module : Int32) (config : Option BandConfig) (withAudio : Bool)
    (w : World) : Renews r w (openTuner host ⟨r⟩ module config withAudio w).2 := by
  unfold openTuner
  split
  · exact renews_say w _ _
  · have hr : Renews r w (w.resolve host r).2 := renews_resolve w
    rcases resolved : w.resolve host r with ⟨_ | c, w₁⟩
    all_goals rw [resolved] at hr
    · exact hr
    · have hc := hr.trans
        (renews_call host (.remote c) .openTuner (module, config, withAudio, ()) w₁)
      rcases answered : c.call host .openTuner (module, config, withAudio, ()) w₁.bus with
        ⟨e | a, s'⟩
      all_goals
        simp only [Peer.call, answered] at hc
        simp only [onBus, answered]
      · have hs := hc.trans (renews_say _ .error
          ("Failed to open tuner on module " ++ toString module ++ ": " ++ e.render))
        split
        · exact hs.trans (renews_invalidate _)
        · exact hs
      · exact hc

/-- A session remembers the connection that the handle has at hand when the session is opened. -/
theorem openedThrough_openTuner {module : Int32} {config : Option BandConfig} {withAudio : Bool}
    {x : Session} (h : (openTuner host ⟨r⟩ module config withAudio w).1 = some x) :
    ∃ c, x.openedThrough = some (r, c) ∧
      (openTuner host ⟨r⟩ module config withAudio w).2.cached? r = some c := by
  cases hf : config.filter fun b => !b.isValid with
  | some b =>
    simp only [openTuner, hf] at h
    cases h
  | none =>
    have hr := cached?_resolve host w r
    rcases resolved : w.resolve host r with ⟨_ | c, w₁⟩
    all_goals rw [resolved] at hr
    · simp only [openTuner, hf, resolved] at h
      cases h
    · rcases answered : c.call host .openTuner (module, config, withAudio, ()) w₁.bus with
        ⟨e | a, s'⟩
      all_goals simp only [openTuner, hf, resolved, onBus, answered] at h ⊢
      · cases h
      · cases h
        exact ⟨c, rfl, hr⟩

end RadioManager

namespace Console

theorem renews_onSession {st : Console} {k : Nat} {f : Session → Console}
    (each : ∀ x, Renews r st.world (f x).world) : Renews r st.world (st.onSession k f).world :=
  onSession_cases (P := fun st' => Renews r st.world st'.world) (fun _ => .refl _) fun x _ => each x

theorem renews_step (st : Console) (command : Command) :
    Renews r st.world (step host r st command).world := by
  cases command with
  | listModules => exact RadioManager.renews_listModules st.world
  | openTuner module config withAudio =>
    exact RadioManager.renews_openTuner module config withAudio st.world
  | perform k op => exact renews_onSession fun x => x.renews_perform op st.world
  | close k => exact renews_onSession fun x => x.renews_close st.world
  | drop k => exact renews_onSession fun x => x.renews_close st.world
  | resolve => exact renews_resolve st.world
  | invalidate => exact renews_invalidate st.world
  | invalidateIf stale => exact renews_invalidateIf st.world r stale
  | publish service =>
    exact .of_kept rfl (Bus.lasting_connections.publish st.world.bus service)
  | publishHandler descriptor handler =>
    exact .of_kept rfl (Bus.lasting_connections.publishHandler st.world.bus descriptor handler)
  | kill b => exact .of_kept rfl (Nat.le_refl _)
  | register registry name b =>
    exact .of_kept rfl (lasting_add Bus.lasting_connections _ name b st.world.bus)
  | check registry name =>
    exact .of_kept rfl (lasting_check Bus.lasting_connections _ name st.world.bus)

theorem renews_run (host : Host) (st : Console) (commands : List Command) :
    Renews r st.world (run host r st commands).world := by
  induction commands generalizing st with
  | nil => exact .refl _
  | cons command commands ih => exact (renews_step st command).trans (ih (step host r st command))

theorem openedThrough_onSession {st : Console} {k : Nat} {f : Session → Console}
    (each : ∀ y ∈ st.sessions, ∀ z ∈ (f y).sessions,
      ∃ x ∈ st.sessions, x.openedThrough = z.openedThrough) {z : Session}
    (h : z ∈ (st.onSession k f).sessions) :
    ∃ x ∈ st.sessions, x.openedThrough = z.openedThrough :=
  onSession_cases
    (P := fun st' => z ∈ st'.sessions → ∃ x ∈ st.sessions, x.openedThrough = z.openedThrough)
    (fun _ hz => ⟨z, hz, rfl⟩) (fun y hy => each y (List.mem_of_getElem? hy) z) h

/-- Every session was there before, or it was opened through what is now at hand. -/
theorem openedThrough_step {st : Console} {command : Command} {x : Session}
    (h : x ∈ (step host r st command).sessions) :
    (∃ y ∈ st.sessions, y.openedThrough = x.openedThrough) ∨
      ∃ c, x.openedThrough = some (r, c) ∧
        (step host r st command).world.cached? r = some c := by
  cases command with
  | openTuner module config withAudio =>
    rcases List.mem_append.1 h with hx | hx
    · exact .inl ⟨x, hx, rfl⟩
    · exact .inr (RadioManager.openedThrough_openTuner (Option.mem_toList.1 hx))
  | perform k op =>
    refine .inl (openedThrough_onSession (fun y hy z hz => ?_) h)
    rcases List.mem_or_eq_of_mem_set hz with hz | rfl
    · exact ⟨z, hz, rfl⟩
    · exact ⟨y, hy, (y.openedThrough_perform op st.world).symm⟩
  | close k =>
    refine .inl (openedThrough_onSession (fun y hy z hz => ?_) h)
    rcases List.mem_or_eq_of_mem_set hz with hz | rfl
    · exact ⟨z, hz, rfl⟩
    · exact ⟨y, hy, (y.openedThrough_close st.world).symm⟩
  | drop k =>
    exact .inl (openedThrough_onSession (fun _ _ z hz => ⟨z, List.mem_of_mem_eraseIdx hz, rfl⟩) h)
  | _ => exact .inl ⟨x, h, rfl⟩

theorem openedThrough_run (w : World) (commands : List Command) :
    ∀ x ∈ (run host r ⟨w, []⟩ commands).sessions, ∃ earlier c, earlier <+: commands ∧
      x.openedThrough = some (r, c) ∧
      (run host r ⟨w, []⟩ earlier).world.cached? r = some c := by
  induction commands using List.reverseRecOn with
  | nil => exact nofun
  | append_singleton commands command ih =>
    intro x hx
    rw [run_append] at hx
    rcases openedThrough_step hx with ⟨y, hy, same⟩ | ⟨c, through, hc⟩
    · obtain ⟨earlier, c, before, through, hc⟩ := ih y hy
      exact ⟨earlier, c, before.trans (List.prefix_append _ _), same ▸ through, hc⟩
    · exact ⟨commands ++ [command], c, List.prefix_refl _, through, by rwa [run_append]⟩

/-- A connection that was once at hand and once gone does not come back. -/
theorem ne_of_gone (fresh : w.cached? r = none) {earlier middle later : List Command}
    {c d : Connection .radio} (before : earlier <+: middle) (after : middle <+: later)
    (had : (run host r ⟨w, []⟩ earlier).world.cached? r = some d)
    (gone : (run host r ⟨w, []⟩ middle).world.cached? r ≠ some d)
    (has : (run host r ⟨w, []⟩ later).world.cached? r = some c) : d ≠ c := by
  rintro rfl
  obtain ⟨rest, rfl⟩ := before
  obtain ⟨rest', rfl⟩ := after
  have first := renews_run (r := r) host ⟨w, []⟩ earlier
  have second := renews_run (r := r) host (run host r ⟨w, []⟩ earlier) rest
  have third := renews_run (r := r) host (run host r ⟨w, []⟩ (earlier ++ rest)) rest'
  rw [← run_append] at second third
  -- What was made by the earlier moment has a smaller number than what is made after the middle one.
  have lt : d.serial < (run host r ⟨w, []⟩ earlier).world.bus.connections := by
    rcases first.cached d had with h | h
    · cases fresh.symm.trans h
    · exact h.2
  rcases third.cached d has with h | h
  · exact gone h
  · have := second.connections
    have := h.1
    omega

/-- What a run leaves at hand, a step keeps, unless it is one of those that cost a connection. A
session that was opened through another connection costs none; and it was opened through another
one if its own was gone for a moment since. -/
theorem lostIf_run (host : Host) (r : HandleRef .radio) (w : World) (fresh : w.cached? r = none)
    (commands : List Command) (c : Connection .radio)
    (has : (run host r ⟨w, []⟩ commands).world.cached? r = some c) :
    let st := run host r ⟨w, []⟩ commands
    (∀ command,
      (Evicts host r c st command → (step host r st command).world.cached? r = none) ∧
        (¬ Evicts host r c st command → (step host r st command).world.cached? r = some c)) ∧
      (∀ k x, st.sessions[k]? = some x → x.openedThrough ≠ some (r, c) →
        (∀ {s t} (op : Operation s t),
          (step host r st (.perform k op)).world.cached? r = some c) ∧
        (step host r st (.close k)).world.cached? r = some c ∧
        (step host r st (.drop k)).world.cached? r = some c) ∧
      ∀ x ∈ st.sessions, ∃ earlier d, earlier <+: commands ∧ x.openedThrough = some (r, d) ∧
        (run host r ⟨w, []⟩ earlier).world.cached? r = some d ∧
        ∀ middle, earlier <+: middle → middle <+: commands →
          (run host r ⟨w, []⟩ middle).world.cached? r ≠ some d →
            x.openedThrough ≠ some (r, c) := by
  intro st
  have hl := fun command => lostIf_step host has command
  refine ⟨fun command => ⟨(hl command).gone, (hl command).kept⟩, ?_, ?_⟩
  · intro k x hk other
    refine ⟨fun op => (hl _).kept fun l => ?_, (hl _).kept fun l => ?_, (hl _).kept fun l => ?_⟩
    · cases l with
      | perform session asked l =>
        cases hk.symm.trans session
        exact other l.through
    · cases l with
      | close session l =>
        cases hk.symm.trans session
        exact other l.through
    · cases l with
      | drop session l =>
        cases hk.symm.trans session
        exact other l.through
  · intro x hx
    obtain ⟨earlier, d, before, through, hd⟩ := openedThrough_run w commands x hx
    refine ⟨earlier, d, before, through, hd, ?_⟩
    intro middle first second gone same
    cases through.symm.trans same
    exact ne_of_gone fresh first second hd gone has rfl

/-- A tuner is opened, the handle is emptied and resolved again to the same binder, and the tuner
fails late. -/
theorem lostIf_run_late :
    let dead : Status := .transactionFailed .deadObject none
    let host : Host :=
      ⟨fun _ i m _ _ => match i, m with
        | .radio, .openTuner => ⟨.ok (.hosted 7), 0, []⟩
        | _, _ => ⟨.error dead, 0, []⟩,
       fun _ _ _ _ => ⟨.ok .empty, 0, []⟩, fun _ _ _ => some (.native 0 .radio 1)⟩
    let handles : Handles := ⟨[], [⟨"broadcastradio", .custom 0, none⟩], []⟩
    let w : World := ⟨⟨[true], 0, [], []⟩, [], handles⟩
    let r : HandleRef .radio := ⟨0⟩
    let st := run host r ⟨w, []⟩ [.openTuner 0 none false, .invalidate, .resolve]
    st.sessions.map (fun x => x.openedThrough) = [some (r, ⟨0, .native 0 .radio 1⟩)] ∧
      (step host r st (.perform 0 .getMute)).world.cached? r = some ⟨2, .native 0 .radio 1⟩ := by
  intro dead host handles w r st
  have has : st.world.cached? r = some ⟨2, .native 0 .radio 1⟩ := by decide +kernel
  have through : st.sessions.map (fun x => x.openedThrough) =
      [some (r, ⟨0, .native 0 .radio 1⟩)] := by
    decide +kernel
  obtain ⟨-, others, -⟩ := lostIf_run host r w rfl _ _ has
  obtain ⟨x, hx, hc⟩ := List.map_eq_singleton_iff.1 through
  have first : st.sessions[0]? = some x := by rw [hx, List.getElem?_cons_zero]
  refine ⟨through, (others 0 x first ?_).1 .getMute⟩
  rw [hc]
  decide

end Console

end ServiceBus
