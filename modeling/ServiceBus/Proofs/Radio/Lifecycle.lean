import ServiceBus.Proofs.Call.Footprint
import ServiceBus.Proofs.Radio.Asking
import ServiceBus.Proofs.Radio.Failure

/-!
The life of a session. It is open until it is closed or dropped, whichever comes first, and closed
from then on. The tuner hears of it once, at that moment, and hears nothing of what comes later.
-/
namespace ServiceBus

open World

namespace Operation

/-- What an operation answers once the session is closed. Its arguments do not matter. -/
def closedAnswer : {s : Surface} → {t : WireType false} → Operation s t → Except s.Failure t.Val
  | _, _, getMute => .ok true
  | _, _, hasControl => .ok false
  | .status, _, _ => .error .invalidOperation
  | .value, _, _ => .error .closed

end Operation

abbrev TunerCall : Type := (m : Method .tuner) × m.Args

namespace Session

variable {host : Host} {x : Session} {w : World}

inductive Use
  | perform {s : Surface} {t : WireType false} (op : Operation s t)
  | close
  | drop

def Use.Releases : Use → Prop
  | .perform _ => False
  | .close => True
  | .drop => True

/-- A session that is dropped is closed first. -/
def use (host : Host) (x : Session) (w : World) : Use → Session × World
  | .perform op => (x.perform host op w).2
  | .close => x.close host w
  | .drop => x.close host w

/-- What a use asks the tuner: an operation with sound arguments its method, and a use that gives
the session up to close; and nothing once the session is closed. -/
def asks? (x : Session) (u : Use) : Option TunerCall :=
  if x.closed then none
  else
    match u with
    | .perform op =>
      match op.request x.band with
      | .ok request => some ⟨request.method, request.args⟩
      | .error _ => none
    | .close => some ⟨.close, ()⟩
    | .drop => some ⟨.close, ()⟩

/-- The second world is what the call, if there is one, makes of the first, but for the log and for
what the handles have at hand. -/
def Called (host : Host) (tuner : Peer .tuner) (w w' : World) : Option TunerCall → Prop
  | none => w.Quiet w'
  | some ⟨m, args⟩ => Quiet { w with bus := (tuner.call host m args w.bus).2 } w'

theorem asks?_of_closed (closed : x.closed = true) (u : Use) : x.asks? u = none :=
  if_pos closed

theorem asks?_perform (opened : x.closed = false) {s : Surface} {t : WireType false}
    (op : Operation s t) :
    x.asks? (.perform op) =
      match op.request x.band with
      | .ok request => some ⟨request.method, request.args⟩
      | .error _ => none :=
  if_neg (Bool.eq_false_iff.1 opened)

theorem asks?_of_releases (opened : x.closed = false) {u : Use} (h : u.Releases) :
    x.asks? u = some ⟨.close, ()⟩ := by
  cases u with
  | perform op => exact h.elim
  | close => exact if_neg (Bool.eq_false_iff.1 opened)
  | drop => exact if_neg (Bool.eq_false_iff.1 opened)

theorem asks?_eq_some {u : Use} {c : TunerCall} (hc : x.asks? u = some c) :
    (∃ (s : Surface) (t : WireType false) (op : Operation s t) (request : TunerRequest t),
      op.request x.band = .ok request ∧ c = ⟨request.method, request.args⟩) ∨
    u.Releases ∧ c = ⟨.close, ()⟩ := by
  cases hx : x.closed with
  | true => cases (asks?_of_closed hx u).symm.trans hc
  | false =>
    cases u with
    | perform op =>
      rw [asks?_perform hx] at hc
      cases asked : op.request x.band with
      | error refusal =>
        rw [asked] at hc
        cases hc
      | ok request =>
        rw [asked] at hc
        cases hc
        exact .inl ⟨_, _, op, request, asked, rfl⟩
    | close | drop =>
      cases hc.symm.trans (asks?_of_releases hx trivial)
      exact .inr ⟨trivial, rfl⟩

theorem ne_close_of_asks? {u : Use} (h : ¬ u.Releases) {c : TunerCall} (hc : x.asks? u = some c) :
    c.1 ≠ .close := by
  obtain ⟨s, t, op, request, asked, rfl⟩ | ⟨released, -⟩ := asks?_eq_some hc
  · exact (Operation.asks_request asked).1.ne_close
  · exact absurd released h

theorem called_perform (host : Host) (x : Session) (w : World) {s : Surface} {t : WireType false}
    (op : Operation s t) :
    Called host x.tuner w (x.perform host op w).2.2 (x.asks? (.perform op)) := by
  cases hx : x.closed with
  | true =>
    obtain ⟨w', quiet, -, hw⟩ := perform_of_closed host hx op w
    rw [asks?_of_closed hx, hw]
    exact quiet
  | false =>
    rw [asks?_perform hx]
    cases asked : op.request x.band with
    | error refusal =>
      rw [perform_of_refused host hx asked]
      exact quiet_report w _
    | ok request =>
      rcases answered : x.tuner.call host request.method request.args w.bus with ⟨e | a, s'⟩
      all_goals simp only [Called, answered]
      · rw [perform_of_error hx asked answered]
        exact x.quiet_fail op e _
      · rw [perform_of_ok hx asked answered]
        exact Quiet.refl _

theorem called_close (host : Host) (x : Session) (w : World) :
    Called host x.tuner w (x.close host w).2 (x.asks? .close) := by
  cases hx : x.closed with
  | true =>
    rw [asks?_of_closed hx, close_of_closed host x w hx]
    exact quiet_say w _ _
  | false =>
    rw [asks?_of_releases (u := .close) hx trivial]
    rcases answered : x.tuner.call host .close () w.bus with ⟨e | a, s'⟩
    all_goals simp only [Called, answered]
    · obtain ⟨w', quiet, -, hw⟩ := close_of_error hx answered
      rw [hw]
      dsimp only
      split
      · exact quiet.trans (x.quiet_invalidateService w')
      · exact quiet
    · rw [close_of_ok hx answered]
      exact Quiet.refl _

theorem called_use (host : Host) (x : Session) (w : World) (u : Use) :
    Called host x.tuner w (x.use host w u).2 (x.asks? u) := by
  cases u with
  | perform op => exact called_perform host x w op
  | close => exact called_close host x w
  | drop => exact called_close host x w

theorem Called.events {w' : World} {servant : ServantId} {call : Option TunerCall}
    (h : Called host (.hosted servant) w w' call) :
    w'.bus.events = w.bus.events ++ call.toList.map fun c => .invoked servant c.1 c.2 := by
  cases call with
  | none =>
    rw [Quiet.events h]
    exact (List.append_nil _).symm
  | some c =>
    rw [Quiet.events h]
    exact host.run_events servant c.1 c.2 w.bus

theorem Called.requestsTo {w' : World} {c : Connection .tuner} {m : Method .tuner} {args : m.Args}
    (h : Called host (.remote c) w w' (some ⟨m, args⟩)) (short : Vals.Short m.params args) :
    w'.bus.requestsTo c.remote = w.bus.requestsTo c.remote ++
      if w.bus.isAlive c.remote then [(m.code, m.request args)] else [] :=
  (Bus.requestsTo_congr (Quiet.events h) _).trans (call_requests host c short).2

theorem closed_perform {s : Surface} {t : WireType false} (op : Operation s t) :
    (x.perform host op w).2.1.closed = x.closed ∧ (x.perform host op w).2.1.tuner = x.tuner := by
  cases hx : x.closed with
  | true =>
    obtain ⟨w', -, -, hw⟩ := perform_of_closed host hx op w
    rw [hw]
    exact ⟨hx, rfl⟩
  | false =>
    cases asked : op.request x.band with
    | error refusal =>
      rw [perform_of_refused host hx asked]
      exact ⟨hx, rfl⟩
    | ok request =>
      rcases answered : x.tuner.call host request.method request.args w.bus with ⟨e | a, s'⟩
      · rw [perform_of_error hx asked answered]
        exact ⟨hx, rfl⟩
      · rw [perform_of_ok hx asked answered]
        exact ⟨hx, rfl⟩

theorem tuner_close : (x.close host w).1.tuner = x.tuner := by
  unfold close
  split <;> rfl

theorem closed_use (u : Use) : (x.use host w u).1.closed = true ↔ x.closed = true ∨ u.Releases := by
  cases u with
  | perform op =>
    rw [use, (closed_perform op).1]
    exact (or_iff_left id).symm
  | close => exact iff_of_true (x.close_fst_closed host w) (.inr trivial)
  | drop => exact iff_of_true (x.close_fst_closed host w) (.inr trivial)

theorem tuner_use (u : Use) : (x.use host w u).1.tuner = x.tuner := by
  cases u with
  | perform op => exact (closed_perform op).2
  | close => exact tuner_close
  | drop => exact tuner_close

theorem use_of_closed (closed : x.closed = true) (u : Use) :
    (x.use host w u).1 = x ∧ (x.use host w u).2.handles = w.handles := by
  cases u with
  | perform op =>
    obtain ⟨w', -, handles, hw⟩ := perform_of_closed host closed op w
    rw [use, hw]
    exact ⟨rfl, handles⟩
  | close | drop =>
    rw [use, close_of_closed host x w closed]
    exact ⟨rfl, rfl⟩

theorem perform_closedAnswer (closed : x.closed = true) {s : Surface} {t : WireType false}
    (op : Operation s t) : (x.perform host op w).1 = op.closedAnswer := by
  rw [perform, if_pos closed]
  cases op <;> rfl

/-- A step of a run: the session is used, or meanwhile others leave the world in another state. -/
inductive Step
  | use (u : Use)
  | meanwhile (w : World)

def Released (steps : List Step) : Prop := ∃ u, .use u ∈ steps ∧ u.Releases

def step (host : Host) (st : Session × World) : Step → Session × World
  | .use u => st.1.use host st.2 u
  | .meanwhile w => (st.1, w)

def run (host : Host) (st : Session × World) (steps : List Step) : Session × World :=
  steps.foldl (step host) st

def calls (host : Host) (st : Session × World) : List Step → List TunerCall
  | [] => []
  | .use u :: steps => (st.1.asks? u).toList ++ calls host (st.1.use host st.2 u) steps
  | .meanwhile w :: steps => calls host (st.1, w) steps

theorem released_use {u : Use} {steps : List Step} :
    Released (.use u :: steps) ↔ u.Releases ∨ Released steps := by
  simp [Released, or_and_right, exists_or]

theorem released_meanwhile {w' : World} {steps : List Step} :
    Released (.meanwhile w' :: steps) ↔ Released steps := by
  simp [Released]

theorem calls_of_closed (closed : x.closed = true) (steps : List Step) :
    calls host (x, w) steps = [] := by
  induction steps generalizing x w with
  | nil => rfl
  | cons e steps ih =>
    cases e with
    | use u =>
      rw [calls, asks?_of_closed closed]
      exact ih ((closed_use u).2 (.inl closed))
    | meanwhile w' => exact ih closed

theorem closed_run (steps : List Step) :
    (run host (x, w) steps).1.closed = true ↔ x.closed = true ∨ Released steps := by
  induction steps generalizing x w with
  | nil => exact (or_iff_left (by rintro ⟨u, h, -⟩; cases h)).symm
  | cons e steps ih =>
    cases e with
    | use u =>
      have later := ih (x := (x.use host w u).1) (w := (x.use host w u).2)
      rw [closed_use, or_assoc, ← released_use] at later
      exact later
    | meanwhile w' =>
      rw [released_meanwhile]
      exact ih

theorem tuner_run (steps : List Step) : (run host (x, w) steps).1.tuner = x.tuner := by
  induction steps generalizing x w with
  | nil => rfl
  | cons e steps ih =>
    cases e with
    | use u => exact ih.trans (tuner_use u)
    | meanwhile w' => exact ih

/-- A tuner in the same process sees the calls of the run and no others, if nobody else does
anything. -/
theorem events_run {servant : ServantId} (hosted : x.tuner = .hosted servant) {steps : List Step}
    (alone : ∀ w', .meanwhile w' ∉ steps) :
    (run host (x, w) steps).2.bus.events =
      w.bus.events ++ (calls host (x, w) steps).map fun c => .invoked servant c.1 c.2 := by
  induction steps generalizing x w with
  | nil => exact (List.append_nil _).symm
  | cons e steps ih =>
    cases e with
    | meanwhile w' => exact absurd List.mem_cons_self (alone w')
    | use u =>
      have called := called_use host x w u
      rw [hosted] at called
      have rest := ih (x := (x.use host w u).1) (w := (x.use host w u).2)
        ((tuner_use u).trans hosted) fun w' h => alone w' (List.mem_cons_of_mem _ h)
      rw [called.events, List.append_assoc, ← List.map_append] at rest
      exact rest

/-- The tuner is asked to close when the session is given up, and it is asked nothing else then. -/
theorem calls_of_open (opened : x.closed = false) (steps : List Step) :
    ∃ before, (∀ c ∈ before, c.1 ≠ .close) ∧
      (¬ Released steps → calls host (x, w) steps = before) ∧
      (Released steps → calls host (x, w) steps = before ++ [⟨.close, ()⟩]) := by
  induction steps generalizing x w with
  | nil => exact ⟨[], nofun, fun _ => rfl, fun ⟨_, h, _⟩ => nomatch h⟩
  | cons e steps ih =>
    cases e with
    | meanwhile w' =>
      simp only [released_meanwhile]
      exact ih opened
    | use u =>
      simp only [released_use, calls]
      by_cases h : u.Releases
      · have closed : (x.use host w u).1.closed = true := (closed_use u).2 (.inr h)
        refine ⟨[], nofun, fun n => absurd (.inl h) n, fun _ => ?_⟩
        rw [asks?_of_releases opened h, calls_of_closed closed]
        rfl
      · have opened' : (x.use host w u).1.closed = false := by
          rw [Bool.eq_false_iff, ne_eq, closed_use, opened]
          exact fun hc => hc.elim nofun h
        obtain ⟨before, others, kept, last⟩ := ih (w := (x.use host w u).2) opened'
        refine ⟨(x.asks? u).toList ++ before, fun c hc => ?_, fun n => ?_, fun r => ?_⟩
        · rcases List.mem_append.1 hc with hc | hc
          · exact ne_close_of_asks? h (Option.mem_toList.1 hc)
          · exact others c hc
        · exact congrArg _ (kept fun r => n (.inr r))
        · rw [List.append_assoc]
          exact congrArg _ (last (r.resolve_left h))

/-- A session after any run, whatever the tuner and the rest of the world did. It is closed if it
was given up; then the tuner was asked to close once, and that was the last it was asked. The next
use calls the tuner as it asks and no more. Once the session is closed a use asks nothing, changes
neither the session nor any handle, and an operation gives the answer of a closed session. -/
theorem run_open (host : Host) (x : Session) (w : World) (opened : x.closed = false)
    (steps : List Step) :
    let st := run host (x, w) steps
    let asked := calls host (x, w) steps
    (st.1.closed = true ↔ Released steps) ∧
      (∃ before, (∀ c ∈ before, c.1 ≠ .close) ∧ (¬ Released steps → asked = before) ∧
        (Released steps → asked = before ++ [⟨.close, ()⟩])) ∧
      (∀ servant, x.tuner = .hosted servant → (∀ w', .meanwhile w' ∉ steps) →
        st.2.bus.events = w.bus.events ++ asked.map fun c => .invoked servant c.1 c.2) ∧
      (∀ u, Called host x.tuner st.2 (st.1.use host st.2 u).2 (st.1.asks? u)) ∧
      (Released steps →
        (∀ u, st.1.asks? u = none ∧ (st.1.use host st.2 u).1 = st.1 ∧
          (st.1.use host st.2 u).2.handles = st.2.handles) ∧
        ∀ {s : Surface} {t : WireType false} (op : Operation s t),
          (st.1.perform host op st.2).1 = op.closedAnswer) := by
  intro st asked
  have closed : st.1.closed = true ↔ Released steps := by
    rw [closed_run, opened]
    exact or_iff_right nofun
  have tuner : st.1.tuner = x.tuner := tuner_run steps
  refine ⟨closed, calls_of_open opened steps, fun servant hosted => events_run hosted,
    fun u => ?_, ?_⟩
  · rw [← tuner]
    exact called_use host st.1 st.2 u
  · intro released
    have hc := closed.2 released
    exact ⟨fun u => ⟨asks?_of_closed hc u, use_of_closed hc u⟩, perform_closedAnswer hc⟩

/-- A tuner that is dead from the start is muted in vain, closed in vain and dropped, and asked to
tune to a channel that there is not. -/
theorem run_open_dead :
    let dead : Status := .transactionFailed .deadObject none
    let host : Host :=
      ⟨fun _ _ _ _ _ => ⟨.error dead, 0, []⟩, fun _ _ _ _ => ⟨.ok .empty, 0, []⟩, fun _ _ _ => none⟩
    let x := ofTuner (.hosted 3) none
    let steps : List Step := [.use (.perform (.setMute true)), .use .close, .use .drop]
    let st := run host (x, World.empty) steps
    x.closed = false ∧ st.1.closed = true ∧
      st.2.bus.events = [.invoked 3 .setMuted (true, ()), .invoked 3 .close ()] ∧
      (st.1.perform host (.tune 0 0) st.2).1 = .error .invalidOperation := by
  intro dead host x steps st
  have released : Released steps :=
    ⟨.close, List.mem_cons_of_mem _ List.mem_cons_self, trivial⟩
  have alone : ∀ w', .meanwhile w' ∉ steps := fun w' => by simp [steps]
  obtain ⟨closed, -, events, -, later⟩ := run_open host x World.empty rfl steps
  exact ⟨rfl, closed.2 released, events 3 rfl alone, (later released).2 (.tune 0 0)⟩

end Session

end ServiceBus
