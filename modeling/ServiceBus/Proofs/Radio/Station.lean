import ServiceBus.Radio.Program

/-!
The stations of a band. A selector is made for the stations that its band carries and for no others,
and tells the frequency and the sub-channel.
-/
namespace ServiceBus

namespace Band

/-- The band carries a station: it broadcasts on the frequency (in kHz), and it is digital if the
station is a sub-channel, of which there are eight. -/
structure Carries (b : Band) (frequency subChannel : Int32) : Prop where
  inRange : 0 ≤ subChannel.toInt ∧ subChannel.toInt ≤ 8
  digital : 0 < subChannel.toInt → b.isHd = true
  onAm : b.isAm = true → 150 < frequency.toInt ∧ frequency.toInt ≤ 30000
  onFm : b.isAm = false → 60000 < frequency.toInt ∧ frequency.toInt < 110000

def station (b : Band) (frequency subChannel : Int32) : ProgramSelector where
  programType := b.programType.raw
  primary := ⟨IdentifierType.amFmFrequency.raw, frequency.toInt64⟩
  secondary :=
    if 0 < subChannel then [⟨IdentifierType.hdSubChannel.raw, (subChannel - 1).toInt64⟩] else []
  vendor := []

theorem covers_iff {b : Band} {frequency : Int32} :
    b.covers frequency = true ↔
      (b.isAm = true → 150 < frequency.toInt ∧ frequency.toInt ≤ 30000) ∧
        (b.isAm = false → 60000 < frequency.toInt ∧ frequency.toInt < 110000) := by
  cases am : b.isAm <;> simp [covers, am, Int32.lt_iff_toInt_lt, Int32.le_iff_toInt_le]

theorem station_value (b : Band) (frequency subChannel : Int32) :
    (b.station frequency subChannel).primary.value.toInt = frequency.toInt :=
  Int32.toInt_toInt64 frequency

theorem station_secondary_eq_nil_iff {b : Band} {frequency subChannel : Int32} :
    (b.station frequency subChannel).secondary = [] ↔ subChannel.toInt ≤ 0 := by
  simp [station, Int32.lt_iff_toInt_lt]

end Band

namespace ProgramSelector

variable {band : Option Band} {frequency subChannel : Int32}

/-- A selector is made just if the band, which is inferred if it is not known, carries the
station. -/
theorem amFm_eq_ok_iff {x : ProgramSelector} :
    amFm band frequency subChannel = .ok x ↔
      (band.getD (Band.infer frequency subChannel)).Carries frequency subChannel ∧
        (band.getD (Band.infer frequency subChannel)).station frequency subChannel = x := by
  unfold amFm
  generalize band.getD (Band.infer frequency subChannel) = b
  have inRange : (subChannel < 0 || maxSubChannel < subChannel) = true ↔
      ¬ (0 ≤ subChannel.toInt ∧ subChannel.toInt ≤ 8) := by
    simp [maxSubChannel, Int32.lt_iff_toInt_lt]
    omega
  have digital : (0 < subChannel && !b.isHd) = true ↔
      ¬ (0 < subChannel.toInt → b.isHd = true) := by
    simp [Int32.lt_iff_toInt_lt]
  have covered : (!b.covers frequency) = true ↔ ¬ b.covers frequency = true := by simp
  dsimp only
  split
  · next h => exact ⟨nofun, fun k => absurd k.1.inRange (inRange.1 h)⟩
  split
  · next h => exact ⟨nofun, fun k => absurd k.1.digital (digital.1 h)⟩
  split
  · next h =>
    exact ⟨nofun, fun k => absurd (Band.covers_iff.2 ⟨k.1.onAm, k.1.onFm⟩) (covered.1 h)⟩
  · next hr hd hc =>
    obtain ⟨onAm, onFm⟩ := Band.covers_iff.1 (Decidable.not_not.1 (mt covered.2 hc))
    have carries : b.Carries frequency subChannel :=
      ⟨Decidable.not_not.1 (mt inRange.2 hr), Decidable.not_not.1 (mt digital.2 hd), onAm, onFm⟩
    rw [Except.ok.injEq]
    exact (and_iff_right carries).symm

theorem exists_station_of_amFm {x : ProgramSelector}
    (h : amFm band frequency subChannel = .ok x) :
    ∃ b : Band, (∀ known, band = some known → b = known) ∧
      b.Carries frequency subChannel ∧ x = b.station frequency subChannel := by
  obtain ⟨carries, station⟩ := amFm_eq_ok_iff.1 h
  refine ⟨_, ?_, carries, station.symm⟩
  rintro known rfl
  rfl

end ProgramSelector

end ServiceBus
