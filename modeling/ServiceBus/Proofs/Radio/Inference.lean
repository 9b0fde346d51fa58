import ServiceBus.Proofs.Radio.Station

/-!
Stations that are asked for without a band. The band is inferred from the frequency and the
sub-channel, and nothing is lost by that: a station has a selector without a band just if it has one
on some band, and it is the same selector on all of them.
-/
namespace ServiceBus

namespace Band

variable {b : Band} {frequency subChannel : Int32}

theorem isAm_infer : (infer frequency subChannel).isAm = true ↔ frequency.toInt < 50000 := by
  have low : frequency < 50000 ↔ frequency.toInt < 50000 := Int32.lt_iff_toInt_lt
  rw [← low]
  by_cases am : frequency < 50000 <;> by_cases part : 0 < subChannel <;>
    simp [infer, isAm, am, part]

theorem isHd_infer : (infer frequency subChannel).isHd = true ↔ 0 < subChannel.toInt := by
  have positive : 0 < subChannel ↔ 0 < subChannel.toInt := Int32.lt_iff_toInt_lt
  rw [← positive]
  by_cases am : frequency < 50000 <;> by_cases part : 0 < subChannel <;>
    simp [infer, isHd, am, part]

/-- There are no stations about the frequency that divides the bands. -/
theorem Carries.isAm_iff (h : b.Carries frequency subChannel) :
    b.isAm = true ↔ frequency.toInt < 50000 := by
  cases am : b.isAm with
  | true =>
    have range := h.onAm am
    exact iff_of_true rfl (by omega)
  | false =>
    have range := h.onFm am
    exact iff_of_false (by decide) (by omega)

/-- The inferred band differs from any band that carries the station in its digital part at most. -/
theorem Carries.isAm_infer (h : b.Carries frequency subChannel) :
    (infer frequency subChannel).isAm = b.isAm :=
  Bool.eq_iff_iff.2 (Band.isAm_infer.trans h.isAm_iff.symm)

theorem Carries.infer (h : b.Carries frequency subChannel) :
    (infer frequency subChannel).Carries frequency subChannel where
  inRange := h.inRange
  digital := isHd_infer.2
  onAm am := h.onAm (h.isAm_infer ▸ am)
  onFm fm := h.onFm (h.isAm_infer ▸ fm)

theorem Carries.station_infer (h : b.Carries frequency subChannel) :
    (Band.infer frequency subChannel).station frequency subChannel =
      b.station frequency subChannel := by
  simp only [station, programType, h.isAm_infer]

end Band

namespace ProgramSelector

/-- A selector names a station: the frequency is the primary identifier, and a sub-channel is the
one secondary identifier, counted from zero. -/
structure Names (x : ProgramSelector) (b : Band) (frequency subChannel : Int32) : Prop where
  am : b.isAm = true → x.programType = ProgramType.am.raw
  fm : b.isAm = false → x.programType = ProgramType.fm.raw
  primary : x.primary.type = IdentifierType.amFmFrequency.raw
  frequency : x.primary.value.toInt = frequency.toInt
  whole : subChannel.toInt = 0 → x.secondary = []
  part : 0 < subChannel.toInt → ∃ value : Int64,
    x.secondary = [⟨IdentifierType.hdSubChannel.raw, value⟩] ∧ value.toInt = subChannel.toInt - 1
  vendor : x.vendor = []

variable {x : ProgramSelector} {b : Band} {frequency subChannel : Int32}

theorem Names.isValid (h : x.Names b frequency subChannel) : x.isValid = true := by
  rw [ProgramSelector.isValid, h.primary]
  rfl

theorem names_station (b : Band) (frequency subChannel : Int32) :
    (b.station frequency subChannel).Names b frequency subChannel where
  am h := by simp [Band.station, Band.programType, h]
  fm h := by simp [Band.station, Band.programType, h]
  primary := rfl
  frequency := b.station_value frequency subChannel
  whole h := Band.station_secondary_eq_nil_iff.2 (Int.le_of_eq h)
  part h := by
    have positive : 0 < subChannel := Int32.lt_iff_toInt_lt.2 h
    have one : (1 : Int32) ≤ subChannel := Int32.le_iff_toInt_le.2 h
    refine ⟨(subChannel - 1).toInt64, by simp [Band.station, positive], ?_⟩
    rw [Int32.toInt_toInt64, Int32.toInt_sub_of_le subChannel 1 (by decide) one]
    rfl
  vendor := rfl

theorem Names.unique {b' : Band} {frequency' subChannel' : Int32}
    (h : x.Names b frequency subChannel) (h' : x.Names b' frequency' subChannel')
    (le : 0 ≤ subChannel.toInt) (le' : 0 ≤ subChannel'.toInt) :
    frequency' = frequency ∧ subChannel' = subChannel := by
  refine ⟨Int32.toInt_inj.1 (h'.frequency.symm.trans h.frequency), Int32.toInt_inj.1 ?_⟩
  rcases Int.lt_or_eq_of_le le with part | whole
  · obtain ⟨value, one, eq⟩ := h.part part
    rcases Int.lt_or_eq_of_le le' with part' | whole'
    · obtain ⟨value', one', eq'⟩ := h'.part part'
      rw [one] at one'
      cases one'
      omega
    · rw [h'.whole whole'.symm] at one
      cases one
  · rcases Int.lt_or_eq_of_le le' with part' | whole'
    · obtain ⟨value', one', -⟩ := h'.part part'
      rw [h.whole whole.symm] at one'
      cases one'
    · omega

theorem exists_amFm_iff {band : Option Band} :
    (∃ x, amFm band frequency subChannel = .ok x) ↔
      (band.getD (Band.infer frequency subChannel)).Carries frequency subChannel := by
  constructor
  · rintro ⟨x, made⟩
    exact (amFm_eq_ok_iff.1 made).1
  · exact fun carries => ⟨_, amFm_eq_ok_iff.2 ⟨carries, rfl⟩⟩

theorem names_of_amFm {band : Option Band} (made : amFm band frequency subChannel = .ok x) :
    x.Names (band.getD (Band.infer frequency subChannel)) frequency subChannel := by
  rw [← (amFm_eq_ok_iff.1 made).2]
  exact names_station _ _ _

/-- A selector is made for the stations that the band carries, given or inferred, and names its
station and no other. The band is inferred from the frequency, and it is digital if there is a
sub-channel. So a station has a selector without a band just if it has one on some band, and then
the same. -/
theorem amFm_station (band : Option Band) (frequency subChannel : Int32) :
    let inferred := Band.infer frequency subChannel
    ((∃ x, amFm band frequency subChannel = .ok x) ↔
        (band.getD inferred).Carries frequency subChannel) ∧
      (∀ x, amFm band frequency subChannel = .ok x →
        x.isValid = true ∧ x.Names (band.getD inferred) frequency subChannel ∧
          ∀ band' frequency' subChannel', amFm band' frequency' subChannel' = .ok x →
            frequency' = frequency ∧ subChannel' = subChannel) ∧
      (inferred.isAm = true ↔ frequency.toInt < 50000) ∧
      (inferred.isHd = true ↔ 0 < subChannel.toInt) ∧
      ((∃ x, amFm none frequency subChannel = .ok x) ↔
        ∃ b x, amFm (some b) frequency subChannel = .ok x) ∧
      ∀ b x y, amFm none frequency subChannel = .ok x →
        amFm (some b) frequency subChannel = .ok y → x = y := by
  refine ⟨exists_amFm_iff, fun x made => ?_, Band.isAm_infer, Band.isHd_infer, ?_, ?_⟩
  · have names := names_of_amFm made
    refine ⟨names.isValid, names, fun band' frequency' subChannel' made' => ?_⟩
    exact names.unique (names_of_amFm made') (amFm_eq_ok_iff.1 made).1.inRange.1
      (amFm_eq_ok_iff.1 made').1.inRange.1
  · constructor
    · intro made
      exact ⟨_, exists_amFm_iff.2 (exists_amFm_iff.1 made)⟩
    · rintro ⟨b, made⟩
      exact exists_amFm_iff.2 (exists_amFm_iff.1 made).infer
  · intro b x y made made'
    obtain ⟨-, rfl⟩ := amFm_eq_ok_iff.1 made
    obtain ⟨carries, rfl⟩ := amFm_eq_ok_iff.1 made'
    exact carries.station_infer

/-- The last sub-channel at the upper end of the band, and a frequency between the bands. -/
theorem amFm_station_last :
    let x : ProgramSelector := ⟨2, ⟨1, 109999⟩, [⟨4, 7⟩], []⟩
    amFm none 109999 8 = .ok x ∧ x.Names .fmHd 109999 8 ∧
      (∀ y, amFm (some .fmHd) 109999 8 = .ok y → x = y) ∧
      ¬ ∃ b y, amFm (some b) 50000 0 = .ok y := by
  intro x
  have made : amFm none 109999 8 = .ok x := rfl
  obtain ⟨-, names, -, -, -, same⟩ := amFm_station none 109999 8
  obtain ⟨-, -, -, -, some_band, -⟩ := amFm_station none 50000 0
  refine ⟨made, (names x made).2.1, fun y => same .fmHd x y made, fun h => ?_⟩
  obtain ⟨y, between⟩ := some_band.2 h
  cases between

end ProgramSelector

end ServiceBus
