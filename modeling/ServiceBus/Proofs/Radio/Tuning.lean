import ServiceBus.Proofs.Radio.Lifecycle
import ServiceBus.Proofs.Radio.Station

/-!
Where a session tunes. A session is on the band of the last configuration that its tuner accepted,
and a channel is tuned on that band. The tuner is asked for stations that the band carries, and
never hears of any other channel.
-/
namespace ServiceBus

open Wire World

namespace Operation

theorem bandAfter_of_withoutTuner? {s : Surface} {t : WireType false} {op : Operation s t}
    {v : t.Val} (h : op.withoutTuner? = some v) (band : Option Band) :
    op.bandAfter band = band := by
  cases op with
  | setConfiguration c => cases h
  | _ => rfl

variable {band : Option Band} {channel subChannel : Int32}

theorem request_tune_of_ok {selector : ProgramSelector}
    (h : ProgramSelector.amFm band channel subChannel = .ok selector) :
    (tune channel subChannel).request band = .ok ⟨.tune, (selector, ()), id⟩ := by
  simp only [request, h]

theorem request_tune_of_error {e : SelectorError}
    (h : ProgramSelector.amFm band channel subChannel = .error e) :
    (tune channel subChannel).request band =
      .error ⟨.badValue, some ("Can't tune: " ++ e.message)⟩ := by
  simp only [request, h]

end Operation

theorem Band.short_station (b : Band) (frequency subChannel : Int32) :
    Vals.Short Method.tune.params (b.station frequency subChannel, ()) := by
  have one : (b.station frequency subChannel).secondary.length ≤ 1 := by
    simp only [station]
    split <;> simp
  exact ⟨⟨Nat.le_trans one (by decide), Nat.zero_le _⟩, trivial⟩

namespace Session

variable {host : Host} {x : Session} {w : World}

theorem withoutTuner?_of_fail {s : Surface} {t : WireType false} {op : Operation s t} {e : Status}
    {v : t.Val} (h : (x.fail op e w).1 = .ok v) : op.withoutTuner? = some v := by
  simp only [fail] at h
  split at h
  · split at h
    · next without => cases h; exact without
    · cases h
  · cases h

theorem band_perform (host : Host) (x : Session) (w : World) {s : Surface} {t : WireType false}
    (op : Operation s t) :
    (x.perform host op w).2.1.band =
      match (x.perform host op w).1 with
      | .ok _ => op.bandAfter x.band
      | .error _ => x.band := by
  cases hx : x.closed with
  | true =>
    rw [perform, if_pos hx]
    cases without : op.withoutTuner? with
    | some v => exact (op.bandAfter_of_withoutTuner? without x.band).symm
    | none => rfl
  | false =>
    cases asked : op.request x.band with
    | error refusal => rw [perform_of_refused host hx asked]
    | ok request =>
      rcases answered : x.tuner.call host request.method request.args w.bus with ⟨e | a, s'⟩
      · rw [perform_of_error hx asked answered]
        cases told : (x.fail op e { w with bus := s' }).1 with
        | error failure => rfl
        | ok v => exact (op.bandAfter_of_withoutTuner? (withoutTuner?_of_fail told) x.band).symm
      · rw [perform_of_ok hx asked answered]

/-- The band of the configuration that a use sets, if that is answered with success. -/
def accepts? (host : Host) (x : Session) (w : World) : Use → Option Band
  | .perform (.setConfiguration c) =>
    match (x.perform host (.setConfiguration c) w).1 with
    | .ok _ => some c.band
    | .error _ => none
  | _ => none

theorem band_use (host : Host) (x : Session) (w : World) (u : Use) :
    (x.use host w u).1.band = (accepts? host x w u).or x.band := by
  cases u with
  | perform op =>
    rw [use, band_perform]
    cases op with
    | setConfiguration c =>
      simp only [accepts?]
      cases (x.perform host (.setConfiguration c) w).1 <;> rfl
    | _ =>
      simp only [accepts?]
      split <;> rfl
  | close | drop =>
    simp only [use, close]
    split <;> rfl

/-- The bands of the configurations that were accepted in a run, in order. -/
def accepted (host : Host) (st : Session × World) : List Step → List Band
  | [] => []
  | .use u :: steps =>
    (accepts? host st.1 st.2 u).toList ++ accepted host (st.1.use host st.2 u) steps
  | .meanwhile w :: steps => accepted host (st.1, w) steps

theorem band_run (steps : List Step) :
    (run host (x, w) steps).1.band = (accepted host (x, w) steps).getLast?.or x.band := by
  induction steps generalizing x w with
  | nil => rfl
  | cons e steps ih =>
    cases e with
    | meanwhile w' => exact ih
    | use u =>
      have later := ih (x := (x.use host w u).1) (w := (x.use host w u).2)
      rw [band_use, ← Option.or_assoc] at later
      refine later.trans (congrArg (Option.or · x.band) ?_)
      rw [accepted, List.getLast?_append]
      cases accepts? host x w u <;> rfl

/-- A session after any run, whatever the tuner and the rest of the world did. It is on the band of
the last configuration that was accepted, or else on the one that it started with. While it is open,
a channel that makes a station of that band, or of the inferred one if there is none, is tuned by
one call with the selector of the station; a sub-channel is never asked for on a band that is not
digital. Any other channel is refused without a call. -/
theorem run_tune (host : Host) (x : Session) (w : World) (steps : List Step) :
    let st := run host (x, w) steps
    st.1.band = (accepted host (x, w) steps).getLast?.or x.band ∧
      ∀ channel subChannel, st.1.closed = false →
        let tuned := st.1.perform host (.tune channel subChannel) st.2
        (∀ selector, ProgramSelector.amFm st.1.band channel subChannel = .ok selector →
          Called host x.tuner st.2 tuned.2.2 (some ⟨.tune, selector, ()⟩) ∧
          (∀ servant, x.tuner = .hosted servant →
            tuned.2.2.bus.events = st.2.bus.events ++ [.invoked servant .tune (selector, ())]) ∧
          (∀ c, x.tuner = .remote c →
            tuned.2.2.bus.requestsTo c.remote = st.2.bus.requestsTo c.remote ++
              if st.2.bus.isAlive c.remote then
                [(Method.tune.code, Method.tune.request (selector, ()))]
              else []) ∧
          (∃ b : Band, (∀ known, st.1.band = some known → b = known) ∧
            b.Carries channel subChannel ∧ selector = b.station channel subChannel) ∧
          selector.primary.type = IdentifierType.amFmFrequency.raw ∧
          selector.primary.value.toInt = channel.toInt ∧
          (selector.secondary ≠ [] → ∀ known, st.1.band = some known → known.isHd = true)) ∧
        (∀ e, ProgramSelector.amFm st.1.band channel subChannel = .error e →
          tuned.1 = .error .badValue ∧ tuned.2.1 = st.1 ∧
          Called host x.tuner st.2 tuned.2.2 none ∧ tuned.2.2.handles = st.2.handles) := by
  intro st
  have tuner : st.1.tuner = x.tuner := tuner_run steps
  refine ⟨band_run steps, fun channel subChannel opened => ⟨fun selector made => ?_,
    fun e refused => ?_⟩⟩
  · have asked := Operation.request_tune_of_ok made
    have called := called_perform host st.1 st.2 (.tune channel subChannel)
    rw [asks?_perform opened, asked, tuner] at called
    obtain ⟨b, same, carries, rfl⟩ := ProgramSelector.exists_station_of_amFm made
    refine ⟨called, fun servant hosted => ?_, fun c remote => ?_, ⟨b, same, carries, rfl⟩, rfl,
      b.station_value channel subChannel, fun named known committed => ?_⟩
    · rw [hosted] at called
      exact called.events
    · rw [remote] at called
      exact called.requestsTo (b.short_station channel subChannel)
    · rw [← same known committed]
      exact carries.digital (Int.not_le.1 (mt Band.station_secondary_eq_nil_iff.2 named))
  · rw [perform_of_refused host opened (Operation.request_tune_of_error refused)]
    have quiet : st.2.Quiet (report st.2 (some ("Can't tune: " ++ e.message))) := quiet_report _ _
    exact ⟨rfl, rfl, quiet, report_handles _ _⟩

/-- A tuner accepts a band in its own region, and not one in another. It is tuned to a sub-channel
on the first; a station of the second cannot be tuned to. -/
theorem run_tune_hd :
    let host : Host :=
      ⟨fun _ i m args _ => match i, m, args with
        | .tuner, .setConfiguration, (c, ()) =>
          if c.region = 0 then ⟨.ok (), 0, []⟩ else ⟨.error .ok, 0, []⟩
        | _, _, _ => ⟨.error .ok, 0, []⟩,
       fun _ _ _ _ => ⟨.ok .empty, 0, []⟩, fun _ _ _ => none⟩
    let x := ofTuner (.hosted 3) none
    let fmHd := BandConfig.plain .fmHd 87500 108000 100
    let am := { BandConfig.plain .am 530 1710 10 with region := 1 }
    let steps : List Step :=
      [.use (.perform (.setConfiguration fmHd)), .use (.perform (.setConfiguration am))]
    let st := run host (x, World.empty) steps
    let selector : ProgramSelector := ⟨2, ⟨1, 98700⟩, [⟨4, 1⟩], []⟩
    x.band = none ∧ st.1.band = some .fmHd ∧
      (st.1.perform host (.tune 98700 2) st.2).2.2.bus.events =
        st.2.bus.events ++ [.invoked 3 .tune (selector, ())] ∧
      (st.1.perform host (.tune 612 0) st.2).1 = .error .badValue := by
  intro host x fmHd am steps st selector
  -- Unifying with a name for the run would evaluate the run.
  dsimp only [st]
  obtain ⟨band, tunes⟩ := run_tune host x World.empty steps
  have committed : accepted host (x, World.empty) steps = [.fmHd] := by decide +kernel
  have on : (run host (x, World.empty) steps).1.band = some .fmHd := by
    rw [band, committed]
    rfl
  have opened : (run host (x, World.empty) steps).1.closed = false := by decide +kernel
  have sound : ProgramSelector.amFm (some .fmHd) 98700 2 = .ok selector := rfl
  have foreign : ProgramSelector.amFm (some .fmHd) 612 0 =
    .error (.frequencyOutOfRange .fmHd 612) := rfl
  rw [← on] at sound foreign
  obtain ⟨-, events, -⟩ := (tunes 98700 2 opened).1 selector sound
  obtain ⟨refused, -⟩ := (tunes 612 0 opened).2 _ foreign
  exact ⟨rfl, on, events 3 rfl, refused⟩

end Session

end ServiceBus
