import EnvMonitor.Ess.UpdateSpec

/-!
# How one bad field freezes the characteristics behind it

An out-of-range environmental field ends `ess_service_update` with `-ERANGE`. The later
characteristics are then not updated and not invalidated either: they keep a value of an
earlier snapshot, still marked as known. `read_u16` treats the same fields the other way, and
goes on to the humidity when the temperature is out of range.

Two snapshots that agree on a measurement group should leave its characteristics alike,
whatever they hold elsewhere. `essServiceUpdate_isolated_iff` says exactly when they do.
-/

namespace EnvMonitor

/-! ### The two-run property -/

/-- The measurement groups of a snapshot. -/
inductive MeasurementGroup where
  | temperature
  | humidity
  | pressure
  | airQuality
deriving DecidableEq, Repr

namespace MeasurementGroup

/-- The characteristics of a group. -/
def chars : MeasurementGroup → List EssCharId
  | .temperature => [.temperature]
  | .humidity => [.humidity]
  | .pressure => [.pressure]
  | .airQuality => [.co2, .tvoc]

/-- Two snapshots agree on the valid bit and the fields of a group. -/
def AgreeOn (d₁ d₂ : SensorData) : MeasurementGroup → Prop
  | .temperature =>
    d₁.isValid .temperature = d₂.isValid .temperature ∧ d₁.temperature = d₂.temperature
  | .humidity => d₁.isValid .humidity = d₂.isValid .humidity ∧ d₁.humidity = d₂.humidity
  | .pressure => d₁.isValid .pressure = d₂.isValid .pressure ∧ d₁.pressure = d₂.pressure
  | .airQuality =>
    d₁.isValid .airQuality = d₂.isValid .airQuality ∧ d₁.eco2 = d₂.eco2 ∧ d₁.tvoc = d₂.tvoc

end MeasurementGroup

/-- One `ess_service_update` of a snapshot while the CCS811's readiness is fixed. -/
def essUpdateFixed (ready : Bool) (s : EssState) (data : SensorData) : EssRun Unit :=
  (essServiceUpdate (fun env => (ready, env)) (some data) ⟨s, [], ()⟩).state

/-- The payloads of the notifications attempted for a characteristic. -/
def attemptsOf (c : EssCharId) (writes : List EssWrite) : List (List UInt8) :=
  (writesOf c writes).filterMap EssWrite.attempt

/-- What an update leaves behind for a characteristic: its value, whether it is known, and
its notifications. -/
def outcome (ready : Bool) (s : EssState) (data : SensorData) (c : EssCharId) :
    ℤ × Bool × List (List UInt8) :=
  let u := essUpdateFixed ready s data
  ((u.ess.sensor c).value, (u.ess.sensor c).valueKnown, attemptsOf c u.writes)

/-- The field of the characteristic is valid and in range, or stands for the conditioning
sentinel. The two gases have one field. -/
def OwnFieldGood (ready : Bool) (data : SensorData) : EssCharId → Prop
  | .temperature =>
    data.isValid .temperature = true ∧ essTemperatureInRange data.temperature = true
  | .humidity => data.isValid .humidity = true ∧ essHumidityInRange data.humidity = true
  | .pressure => data.isValid .pressure = true ∧ essPressureInRange data.pressure = true
  | .co2 | .tvoc =>
    ready = false ∨ (data.isValid .airQuality = true ∧ essCo2InRange data.eco2 = true ∧
      essTvocInRange data.tvoc = true)

/-- The update treats the group on its own merits: the two snapshots have one outcome for
each of its characteristics, which is known exactly when its field is good. -/
def Isolated (ready : Bool) (s : EssState) (d₁ d₂ : SensorData) (c : EssCharId) : Prop :=
  outcome ready s d₁ c = outcome ready s d₂ c ∧
    ((outcome ready s d₁ c).2.1 = true ↔ OwnFieldGood ready d₁ c) ∧
    ((outcome ready s d₂ c).2.1 = true ↔ OwnFieldGood ready d₂ c)

/-! ### The condition -/

/-- The update does not reach the characteristic: the service is not initialised, or an
environmental field ahead of it is valid and out of range. -/
def Frozen (s : EssState) (data : SensorData) (c : EssCharId) : Prop :=
  s.initialized = false ∨ blocked data c = true

/-- What the snapshot's own fields offer the characteristic while the readiness is fixed. -/
def ownReading (ready : Bool) (data : SensorData) (c : EssCharId) : Reading :=
  let gate : GasGate :=
    if data.isValid .airQuality && ready then .real
    else if !ready then .conditioning else .invalid
  updateReading gate gate data c

/-- The characteristic already holds what the snapshot's own fields offer it. -/
def UpToDate (ready : Bool) (s : EssState) (data : SensorData) (c : EssCharId) : Prop :=
  (ownReading ready data c).updated (s.sensor c) = s.sensor c

/-! ### Outcomes -/

/-- While the readiness is fixed, both gates come to the same. -/
theorem gasGates_fixed (ready : Bool) (data : SensorData) (c : EssCharId) :
    let gates := gasGates (fun env : Unit => (ready, env)) data ()
    updateReading gates.1 gates.2 data c = ownReading ready data c := by
  rw [gasGates, gasGate, ownReading]
  cases data.isValid .airQuality <;> cases ready <;> rfl

/-- A field is good exactly when it offers a value. -/
theorem ownFieldGood_iff (ready : Bool) (data : SensorData) (c : EssCharId) :
    OwnFieldGood ready data c ↔ ∃ v, ownReading ready data c = .value v := by
  have hfield : ∀ {valid inRange : Bool} {encoded : ℤ},
      (valid = true ∧ inRange = true) ↔ ∃ v, fieldReading valid inRange encoded = .value v := by
    intro valid inRange encoded
    simp only [fieldReading_eq_value, ← and_assoc, exists_and_left, exists_eq', and_true]
  cases c with
  | temperature => exact hfield
  | humidity => exact hfield
  | pressure => exact hfield
  | co2 =>
    rw [OwnFieldGood, ownReading]
    cases ready <;> cases data.isValid .airQuality <;>
      cases hco2 : essCo2InRange data.eco2 <;> cases htvoc : essTvocInRange data.tvoc <;>
      simp [updateReading, co2UpdateReading, hco2, htvoc]
  | tvoc =>
    rw [OwnFieldGood, ownReading]
    cases ready <;> cases data.isValid .airQuality <;>
      cases hco2 : essCo2InRange data.eco2 <;> cases htvoc : essTvocInRange data.tvoc <;>
      simp [updateReading, tvocUpdateReading, co2UpdateReading, hco2, htvoc]

/-- An update does not touch a frozen characteristic. -/
theorem essUpdateFixed_of_frozen {s : EssState} {data : SensorData} {c : EssCharId}
    (h : Frozen s data c) (ready : Bool) :
    (essUpdateFixed ready s data).ess.sensor c = s.sensor c ∧
      writesOf c (essUpdateFixed ready s data).writes = [] := by
  rw [essUpdateFixed]
  cases hinit : s.initialized with
  | false => simp [essServiceUpdate, hinit, writesOf]
  | true =>
    have hblocked : blocked data c = true := h.resolve_left (by simp [hinit])
    have hsensor := essServiceUpdate_sensor (u := (⟨s, [], ()⟩ : EssRun Unit)) hinit
      (fun env => (ready, env)) data c
    have hwrites := writesOf_essServiceUpdate (u := (⟨s, [], ()⟩ : EssRun Unit)) hinit
      (fun env => (ready, env)) data c
    simp only [hblocked, if_true] at hsensor hwrites
    exact ⟨hsensor, hwrites⟩

/-- Any other one does what its own reading says. -/
theorem essUpdateFixed_of_not_frozen {s : EssState} {data : SensorData} {c : EssCharId}
    (h : ¬ Frozen s data c) (ready : Bool) :
    (essUpdateFixed ready s data).ess.sensor c =
        (ownReading ready data c).updated (s.sensor c) ∧
      writesOf c (essUpdateFixed ready s data).writes =
        (ownReading ready data c).writes c (s.sensor c) := by
  obtain ⟨hinit, hblocked⟩ : s.initialized = true ∧ blocked data c = false := by
    simpa [Frozen] using h
  have hsensor := essServiceUpdate_sensor (u := (⟨s, [], ()⟩ : EssRun Unit)) hinit
    (fun env => (ready, env)) data c
  have hwrites := writesOf_essServiceUpdate (u := (⟨s, [], ()⟩ : EssRun Unit)) hinit
    (fun env => (ready, env)) data c
  simp only [hblocked, Bool.false_eq_true, if_false, gasGates_fixed] at hsensor hwrites
  exact ⟨hsensor, hwrites⟩

/-- A frozen characteristic keeps its record and notifies nothing. -/
theorem outcome_of_frozen {s : EssState} {data : SensorData} {c : EssCharId}
    (h : Frozen s data c) (ready : Bool) :
    outcome ready s data c = ((s.sensor c).value, (s.sensor c).valueKnown, []) := by
  obtain ⟨hsensor, hwrites⟩ := essUpdateFixed_of_frozen h ready
  simp only [outcome, attemptsOf, hsensor, hwrites]
  rfl

/-- Any other one gets what its own reading says. -/
theorem outcome_of_not_frozen {s : EssState} {data : SensorData} {c : EssCharId}
    (h : ¬ Frozen s data c) (ready : Bool) :
    outcome ready s data c =
      (((ownReading ready data c).updated (s.sensor c)).value,
        ((ownReading ready data c).updated (s.sensor c)).valueKnown,
        ((ownReading ready data c).writes c (s.sensor c)).filterMap EssWrite.attempt) := by
  obtain ⟨hsensor, hwrites⟩ := essUpdateFixed_of_not_frozen h ready
  simp only [outcome, attemptsOf, hsensor, hwrites]

/-! ### When a group is isolated -/

/-- Snapshots that agree on a group offer its characteristics the same. -/
theorem ownReading_eq_of_agreeOn {X : MeasurementGroup} {d₁ d₂ : SensorData}
    (h : X.AgreeOn d₁ d₂) (ready : Bool) {c : EssCharId} (hc : c ∈ X.chars) :
    ownReading ready d₁ c = ownReading ready d₂ c := by
  cases X with
  | temperature =>
    obtain rfl := List.mem_singleton.mp hc
    obtain ⟨hvalid, hfield⟩ := h
    simp only [ownReading, updateReading, temperatureReading, hvalid, hfield]
  | humidity =>
    obtain rfl := List.mem_singleton.mp hc
    obtain ⟨hvalid, hfield⟩ := h
    simp only [ownReading, updateReading, humidityReading, hvalid, hfield]
  | pressure =>
    obtain rfl := List.mem_singleton.mp hc
    obtain ⟨hvalid, hfield⟩ := h
    simp only [ownReading, updateReading, pressureReading, hvalid, hfield]
  | airQuality =>
    obtain ⟨hvalid, heco2, htvoc⟩ := h
    have hco2 : ∀ gate, co2UpdateReading gate d₁ = co2UpdateReading gate d₂ := by
      intro gate
      simp only [co2UpdateReading, heco2, htvoc]
    simp only [MeasurementGroup.chars, List.mem_cons, List.not_mem_nil, or_false] at hc
    rcases hc with rfl | rfl
    · simp only [ownReading, updateReading, hvalid, hco2]
    · simp only [ownReading, updateReading, tvocUpdateReading, hvalid, hco2, htvoc]

/-- Snapshots that offer a characteristic the same agree on whether its field is good. -/
private theorem ownFieldGood_congr {ready : Bool} {d₁ d₂ : SensorData} {c : EssCharId}
    (h : ownReading ready d₁ c = ownReading ready d₂ c) :
    OwnFieldGood ready d₁ c ↔ OwnFieldGood ready d₂ c := by
  rw [ownFieldGood_iff, ownFieldGood_iff, h]

theorem ownReading_inWire (ready : Bool) (data : SensorData) (c : EssCharId) :
    (ownReading ready data c).InWire c := updateReading_inWire _ _ data c

/-- An up-to-date characteristic is known exactly when its field is good. -/
theorem UpToDate.known_iff {ready : Bool} {s : EssState} {data : SensorData} {c : EssCharId}
    (h : UpToDate ready s data c) :
    (s.sensor c).valueKnown = true ↔ OwnFieldGood ready data c := by
  rw [ownFieldGood_iff, ← Reading.valueKnown_updated _ (s.sensor c), h]

/-- Freezing a characteristic makes no difference exactly when it is up to date. -/
theorem frozen_outcome_eq_iff {s : EssState} {d₁ d₂ : SensorData} {c : EssCharId}
    (h₁ : Frozen s d₁ c) (h₂ : ¬ Frozen s d₂ c) (ready : Bool) :
    outcome ready s d₁ c = outcome ready s d₂ c ↔ UpToDate ready s d₂ c := by
  rw [outcome_of_frozen h₁, outcome_of_not_frozen h₂]
  constructor
  · intro h
    obtain ⟨hvalue, hknown, -⟩ := by simpa only [Prod.mk.injEq] using h
    have hnotify := Reading.notifyEnabled_updated (ownReading ready d₂ c) (s.sensor c)
    exact EssSensor.ext hvalue.symm hnotify hknown.symm
  · intro h
    have hnone := Reading.attempt_eq_none_of_fixed (ownReading_inWire ready d₂ c) h
    have hattempts : ((ownReading ready d₂ c).writes c (s.sensor c)).filterMap
        EssWrite.attempt = [] := List.filterMap_eq_nil_iff.mpr hnone
    rw [hattempts, h]

/-- **When a group is isolated.** Two snapshots that agree on a group have the same outcome
for each of its characteristics, known exactly when its field is good, if and only if the
characteristic is frozen by neither snapshot, or already holds what its field offers, or is
frozen by both with its known flag right by chance. -/
theorem essServiceUpdate_isolated_iff {X : MeasurementGroup} {d₁ d₂ : SensorData}
    (hagree : X.AgreeOn d₁ d₂) (ready : Bool) (s : EssState) :
    (∀ c ∈ X.chars, Isolated ready s d₁ d₂ c) ↔
      ∀ c ∈ X.chars,
        (¬ Frozen s d₁ c ∧ ¬ Frozen s d₂ c) ∨ UpToDate ready s d₁ c ∨
          (Frozen s d₁ c ∧ Frozen s d₂ c ∧
            ((s.sensor c).valueKnown = true ↔ OwnFieldGood ready d₁ c)) := by
  refine forall₂_congr fun c hc => ?_
  have hown := ownReading_eq_of_agreeOn hagree ready hc
  have hgood : OwnFieldGood ready d₁ c ↔ OwnFieldGood ready d₂ c := ownFieldGood_congr hown
  have hupToDate : UpToDate ready s d₁ c ↔ UpToDate ready s d₂ c := by
    rw [UpToDate, UpToDate, hown]
  have hreached : ∀ d, ¬ Frozen s d c →
      ((outcome ready s d c).2.1 = true ↔ OwnFieldGood ready d c) := by
    intro d hd
    rw [outcome_of_not_frozen hd, ownFieldGood_iff]
    exact Reading.valueKnown_updated _ _
  have hskipped : ∀ d, Frozen s d c → (outcome ready s d c).2.1 = (s.sensor c).valueKnown := by
    intro d hd
    rw [outcome_of_frozen hd]
  by_cases h₁ : Frozen s d₁ c <;> by_cases h₂ : Frozen s d₂ c
  · -- frozen by both: nothing changes, so only the flag can be wrong
    constructor
    · rintro ⟨-, hflag, -⟩
      rw [hskipped d₁ h₁] at hflag
      exact Or.inr (Or.inr ⟨h₁, h₂, hflag⟩)
    · intro hcond
      have hflag : (s.sensor c).valueKnown = true ↔ OwnFieldGood ready d₁ c := by
        rcases hcond with ⟨hn, -⟩ | hup | ⟨-, -, hflag⟩
        · exact absurd h₁ hn
        · exact hup.known_iff
        · exact hflag
      refine ⟨?_, ?_, ?_⟩
      · rw [outcome_of_frozen h₁, outcome_of_frozen h₂]
      · rwa [hskipped d₁ h₁]
      · rwa [hskipped d₂ h₂, ← hgood]
  · constructor
    · rintro ⟨hsame, -, -⟩
      exact Or.inr (Or.inl (hupToDate.mpr ((frozen_outcome_eq_iff h₁ h₂ ready).mp hsame)))
    · rintro (⟨hn, -⟩ | hup | ⟨-, hf, -⟩)
      · exact absurd h₁ hn
      · refine ⟨(frozen_outcome_eq_iff h₁ h₂ ready).mpr (hupToDate.mp hup), ?_, hreached d₂ h₂⟩
        rw [hskipped d₁ h₁]
        exact hup.known_iff
      · exact absurd hf h₂
  · constructor
    · rintro ⟨hsame, -, -⟩
      exact Or.inr (Or.inl ((frozen_outcome_eq_iff h₂ h₁ ready).mp hsame.symm))
    · rintro (⟨-, hn⟩ | hup | ⟨hf, -, -⟩)
      · exact absurd h₂ hn
      · refine ⟨((frozen_outcome_eq_iff h₂ h₁ ready).mpr hup).symm, hreached d₁ h₁, ?_⟩
        rw [hskipped d₂ h₂]
        exact (hupToDate.mp hup).known_iff
      · exact absurd hf h₁
  · -- reached by both: the outcome is a function of the record and the shared reading
    refine iff_of_true ⟨?_, hreached d₁ h₁, hreached d₂ h₂⟩ (Or.inl ⟨h₁, h₂⟩)
    rw [outcome_of_not_frozen h₁, outcome_of_not_frozen h₂, hown]

/-- A snapshot of temperature and humidity only: 40 % humidity at the given temperature. -/
def humidityAt (tempCelsius : ℚ) : SensorData :=
  { sensorDataZero with
    temperature := .fin tempCelsius
    humidity := .fin 40
    validMask := SensorSelect.tempHumidity }

/-- The service just after `ess_service_init`. -/
def essInitialized : EssState := { essStart with initialized := true }

/-- `essServiceUpdate_isolated_iff` at the humidity of a cold and a mild snapshot. -/
theorem essServiceUpdate_isolated_iff_humidity :
    (∀ c ∈ MeasurementGroup.humidity.chars,
        Isolated false essInitialized (humidityAt (-300)) (humidityAt 20) c) ↔
      ∀ c ∈ MeasurementGroup.humidity.chars,
        (¬ Frozen essInitialized (humidityAt (-300)) c ∧
            ¬ Frozen essInitialized (humidityAt 20) c) ∨
          UpToDate false essInitialized (humidityAt (-300)) c ∨
          (Frozen essInitialized (humidityAt (-300)) c ∧
            Frozen essInitialized (humidityAt 20) c ∧
            ((essInitialized.sensor c).valueKnown = true ↔
              OwnFieldGood false (humidityAt (-300)) c)) := by
  have hagree : MeasurementGroup.humidity.AgreeOn (humidityAt (-300)) (humidityAt 20) :=
    ⟨rfl, rfl⟩
  exact essServiceUpdate_isolated_iff hagree false essInitialized

/-- A temperature below absolute zero freezes a good humidity: two snapshots that agree on
the humidity leave it unknown and known. -/
theorem essServiceUpdate_not_isolated :
    ¬ ∀ (ready : Bool) (s : EssState) (X : MeasurementGroup) (d₁ d₂ : SensorData),
      X.AgreeOn d₁ d₂ → ∀ c ∈ X.chars, Isolated ready s d₁ d₂ c := by
  intro hall
  have hsame := (hall false essInitialized .humidity (humidityAt (-300)) (humidityAt 20)
    ⟨rfl, rfl⟩ .humidity (List.mem_singleton_self _)).1
  have hcold : (outcome false essInitialized (humidityAt (-300)) .humidity).2.1 = false := by
    decide +kernel
  have hmild : (outcome false essInitialized (humidityAt 20) .humidity).2.1 = true := by
    decide +kernel
  rw [hsame, hmild] at hcold
  cases hcold

end EnvMonitor
