import EnvMonitor.Ess.Isolation
import EnvMonitor.Ess.Read

/-!
# Updates and reads of one snapshot

A value gets into the cache by `ess_service_update` or by a read handler, and both validate,
encode and store it in code of their own. `read_agrees_update_iff` compares what they make of one
snapshot. For temperature, humidity and pressure the two are the same, as soon as the update is
not stopped before. For the gases the update checks the pair, in the CO2 stage, and the read
handlers each check their own: a gas that is in range while the other one is not becomes known
by a read and unknown by an update.
-/

namespace EnvMonitor

/-! ### What the two leave behind -/

/-- A read of a characteristic in which every call of the sensor manager succeeds, without
running the callback, and delivers one snapshot, while the CCS811's readiness is fixed. -/
def essReadFixed (ready : Bool) (s : EssState) (data : SensorData) (c : EssCharId)
    (len offset : ℕ) : EssRun Unit :=
  (essRead (ManagerOps.fixed ready data) c len offset ⟨s, [], ()⟩).2

/-- Two records are alike to a client: known or not, and with one value if they are. -/
def EssSensor.Agrees (x y : EssSensor) : Prop :=
  x.valueKnown = y.valueKnown ∧ (x.valueKnown = true → x.value = y.value)

instance (x y : EssSensor) : Decidable (x.Agrees y) := inferInstanceAs (Decidable (_ ∧ _))

/-- The environmental fields that are valid are in the ranges of the ESS. -/
structure SensorData.ValidInRange (data : SensorData) : Prop where
  temperature : data.isValid .temperature = true → essTemperatureInRange data.temperature = true
  humidity : data.isValid .humidity = true → essHumidityInRange data.humidity = true
  pressure : data.isValid .pressure = true → essPressureInRange data.pressure = true

/-- The gas `c` of the snapshot is in range and the other one is not, the CCS811 being ready. -/
def SplitPair (ready : Bool) (data : SensorData) (c : EssCharId) : Prop :=
  ready = true ∧ data.isValid .airQuality = true ∧
    match c with
    | .co2 => essCo2InRange data.eco2 = true ∧ essTvocInRange data.tvoc = false
    | .tvoc => essTvocInRange data.tvoc = true ∧ essCo2InRange data.eco2 = false
    | _ => False

/-! ### The update -/

theorem SensorData.ValidInRange.not_blocked {data : SensorData} (h : data.ValidInRange)
    (c : EssCharId) : blocked data c = false := by
  have hfield : ∀ {valid inRange : Bool} {encoded : ℤ}, (valid = true → inRange = true) →
      fieldReading valid inRange encoded ≠ .outOfRange := by
    intro valid inRange encoded himp hout
    obtain ⟨hvalid, hrange⟩ := fieldReading_eq_outOfRange.mp hout
    exact absurd (hrange.symm.trans (himp hvalid)) Bool.false_ne_true
  have htemperature : temperatureReading data ≠ .outOfRange := hfield h.temperature
  have hhumidity : humidityReading data ≠ .outOfRange := hfield h.humidity
  have hpressure : pressureReading data ≠ .outOfRange := hfield h.pressure
  cases c <;> simp [blocked, htemperature, hhumidity, hpressure]

/-! ### The read -/

/-- What a read of a characteristic makes of a snapshot. -/
def readReading (ready : Bool) (data : SensorData) (c : EssCharId) : Reading :=
  match c with
  | .co2 | .tvoc => if ready then c.reading data else .value ESS_UNKNOWN_U16
  | _ => c.reading data

/-- Caching a reading does to its own record what an update would. -/
theorem cacheFresh_sensor {c : EssCharId} {r : Reading} (hr : r.InWire c) (reading : EssCharId)
    (u : EssRun Unit) :
    (cacheFresh reading c r u).2.ess.sensor c = r.updated (u.ess.sensor c) := by
  cases r with
  | absent => simp [cacheFresh, EssRun.invalidateSensor, EssState.invalidateSensor, Reading.updated]
  | outOfRange =>
    simp [cacheFresh, EssRun.invalidateSensor, EssState.invalidateSensor, Reading.updated]
  | value v => simp [cacheFresh, EssRun.store, Reading.updated, (hr v rfl).toSigned_eq]

/-- Caching temperature and humidity does so to the one that is read, the other one being
cached before or after it, or not at all. -/
theorem cacheTempHumidity_sensor {c : EssCharId} (hc : c = .temperature ∨ c = .humidity)
    (data : SensorData) (u : EssRun Unit) :
    (cacheTempHumidity c data u).2.ess.sensor c = (c.reading data).updated (u.ess.sensor c) := by
  rw [cacheTempHumidity]
  dsimp only
  rcases hc with rfl | rfl
  · have htemp := cacheFresh_sensor (EssCharId.reading_inWire .temperature data) .temperature u
    have hne : EssCharId.temperature ≠ .humidity := by decide
    split_ifs
    · exact htemp
    · rw [(cacheFresh_of_ne hne _ _).2]
      exact htemp
  · have hne : EssCharId.humidity ≠ .temperature := by decide
    obtain ⟨hnone, hsame⟩ := cacheFresh_of_ne hne (temperatureReading data) u
    rw [hnone, if_neg (by simp)]
    exact (cacheFresh_sensor (EssCharId.reading_inWire .humidity data) .humidity _).trans
      (congrArg _ hsame)

/-- **The record after a read.** -/
theorem essReadFixed_sensor (ready : Bool) (s : EssState) (data : SensorData) (c : EssCharId)
    (len offset : ℕ) :
    (essReadFixed ready s data c len offset).ess.sensor c =
      (readReading ready data c).updated (s.sensor c) := by
  have hgas : ∀ {c : EssCharId}, c = .co2 ∨ c = .tvoc →
      (readGas (ManagerOps.fixed ready data) c c.reading len offset
        (⟨s, [], ()⟩ : EssRun Unit)).2.ess.sensor c =
          (if ready then c.reading data else .value ESS_UNKNOWN_U16).updated (s.sensor c) := by
    intro c hc
    refine returnOrServe_keeps (Q := fun u => u.ess.sensor c = _) ?_ fun u => by
      rw [readU16_gas _ hc]
    cases ready with
    | false => simp [ManagerOps.fixed, EssRun.store, Reading.updated]
    | true => exact cacheFresh_sensor (c.reading_inWire data) c _
  cases c with
  | temperature =>
    refine returnOrServe_keeps (Q := fun u => u.ess.sensor .temperature = _)
      (cacheTempHumidity_sensor (Or.inl rfl) data _) fun u => ?_
    dsimp only
    split_ifs <;> rfl
  | humidity =>
    refine returnOrServe_keeps (Q := fun u => u.ess.sensor .humidity = _)
      (cacheTempHumidity_sensor (Or.inr rfl) data _) fun u => ?_
    dsimp only
    split_ifs <;> rfl
  | pressure =>
    refine returnOrServe_keeps (Q := fun u => u.ess.sensor .pressure = _)
      (cacheFresh_sensor (EssCharId.reading_inWire .pressure data) .pressure _) fun u => ?_
    split_ifs <;> rfl
  | co2 => exact hgas (Or.inl rfl)
  | tvoc => exact hgas (Or.inr rfl)

/-! ### Agreement -/

/-- Two readings leave records that a client finds alike, whatever was there before, exactly if
they offer the same value or none. -/
theorem updated_agrees_iff (r r' : Reading) (x : EssSensor) :
    (r.updated x).Agrees (r'.updated x) ↔ ∀ v, r = .value v ↔ r' = .value v := by
  cases r with
  | value w =>
    cases r' with
    | value w' =>
      simp only [Reading.updated, EssSensor.Agrees, true_and, forall_const, Reading.value.injEq]
      exact ⟨fun h v => by rw [h], fun h => ((h w').mpr rfl)⟩
    | absent => simp [Reading.updated, EssSensor.Agrees]
    | outOfRange => simp [Reading.updated, EssSensor.Agrees]
  | absent => cases r' <;> simp [Reading.updated, EssSensor.Agrees]
  | outOfRange => cases r' <;> simp [Reading.updated, EssSensor.Agrees]

/-- Update and read offer a characteristic the same, unless its gas is parted from the other. -/
theorem readReading_agrees_iff (ready : Bool) (data : SensorData) (c : EssCharId) :
    (∀ v, ownReading ready data c = .value v ↔ readReading ready data c = .value v) ↔
      ¬ SplitPair ready data c := by
  have hsame : ownReading ready data c = readReading ready data c → ¬ SplitPair ready data c →
      ((∀ v, ownReading ready data c = .value v ↔ readReading ready data c = .value v) ↔
        ¬ SplitPair ready data c) := by
    intro h hsplit
    exact iff_of_true (fun v => by rw [h]) hsplit
  cases c with
  | temperature => exact hsame rfl (by simp [SplitPair])
  | humidity => exact hsame rfl (by simp [SplitPair])
  | pressure => exact hsame rfl (by simp [SplitPair])
  | co2 =>
    cases ready <;> cases hair : data.isValid .airQuality <;>
      cases hco2 : essCo2InRange data.eco2 <;> cases htvoc : essTvocInRange data.tvoc <;>
      simp [SplitPair, ownReading, readReading, updateReading, co2UpdateReading, EssCharId.reading,
        co2Reading, fieldReading, hair, hco2, htvoc]
  | tvoc =>
    cases ready <;> cases hair : data.isValid .airQuality <;>
      cases hco2 : essCo2InRange data.eco2 <;> cases htvoc : essTvocInRange data.tvoc <;>
      simp [SplitPair, ownReading, readReading, updateReading, tvocUpdateReading, co2UpdateReading,
        EssCharId.reading, tvocReading, fieldReading, hair, hco2, htvoc]

/-- **Update and read agree.** Both make one record of a snapshot whose environmental fields are
in range, exactly if the snapshot does not part the gases. -/
theorem read_agrees_update_iff {s : EssState} (hinit : s.initialized = true) {data : SensorData}
    (hdata : data.ValidInRange) (ready : Bool) (c : EssCharId) (len offset : ℕ) :
    ((essUpdateFixed ready s data).ess.sensor c).Agrees
        ((essReadFixed ready s data c len offset).ess.sensor c) ↔ ¬ SplitPair ready data c := by
  have hreached : ¬ Frozen s data c := by
    rintro (hoff | hblocked)
    · exact Bool.false_ne_true (hoff.symm.trans hinit)
    · exact Bool.false_ne_true ((hdata.not_blocked c).symm.trans hblocked)
  rw [(essUpdateFixed_of_not_frozen hreached ready).1, essReadFixed_sensor, updated_agrees_iff]
  exact readReading_agrees_iff ready data c

/-- A snapshot of air quality only. -/
def gasesOnly (eco2 tvoc : UInt16) : SensorData :=
  { sensorDataZero with eco2 := eco2, tvoc := tvoc, validMask := SensorSelect.airQuality }

theorem gasesOnly_validInRange (eco2 tvoc : UInt16) : (gasesOnly eco2 tvoc).ValidInRange := by
  have hclear : ∀ flag, hasAny SensorSelect.airQuality flag = false → ∀ {b : Bool},
      (gasesOnly eco2 tvoc).isValid flag = true → b = true := by
    intro flag hflag b hvalid
    exact absurd (hflag.symm.trans hvalid) Bool.false_ne_true
  exact ⟨hclear _ (by decide), hclear _ (by decide), hclear _ (by decide)⟩

/-- `read_agrees_update_iff` for the CO2 of a snapshot with both gases in range. -/
theorem read_agrees_update_iff_gases :
    ((essUpdateFixed true essInitialized (gasesOnly 800 100)).ess.sensor .co2).Agrees
        ((essReadFixed true essInitialized (gasesOnly 800 100) .co2 2 0).ess.sensor .co2) ↔
      ¬ SplitPair true (gasesOnly 800 100) .co2 :=
  read_agrees_update_iff rfl (gasesOnly_validInRange 800 100) true .co2 2 0

/-- 100 ppb next to 6000 ppm are unknown after an update and known after a read. And even where
the gases are not parted, an update that comes before `ess_service_init` makes nothing known, and
a read does. -/
theorem read_not_agrees_update :
    (¬ ∀ (s : EssState) (ready : Bool) (data : SensorData), data.ValidInRange →
        ∀ (c : EssCharId) (len offset : ℕ),
          ((essUpdateFixed ready s data).ess.sensor c).Agrees
            ((essReadFixed ready s data c len offset).ess.sensor c)) ∧
      ¬ ∀ (s : EssState) (ready : Bool) (data : SensorData), data.ValidInRange →
        ∀ (c : EssCharId) (len offset : ℕ), ¬ SplitPair ready data c →
          ((essUpdateFixed ready s data).ess.sensor c).Agrees
            ((essReadFixed ready s data c len offset).ess.sensor c) := by
  have hparted : ¬ ((essUpdateFixed true essInitialized (gasesOnly 6000 100)).ess.sensor
      .tvoc).Agrees
        ((essReadFixed true essInitialized (gasesOnly 6000 100) .tvoc 2 0).ess.sensor .tvoc) := by
    decide +kernel
  have hearly : ¬ ((essUpdateFixed true essStart (gasesOnly 800 100)).ess.sensor .co2).Agrees
      ((essReadFixed true essStart (gasesOnly 800 100) .co2 2 0).ess.sensor .co2) := by
    decide +kernel
  refine ⟨fun hall => hparted (hall _ _ _ (gasesOnly_validInRange 6000 100) _ _ _),
    fun hall => hearly (hall _ _ _ (gasesOnly_validInRange 800 100) _ _ _ ?_)⟩
  rintro ⟨-, -, -, htvoc⟩
  exact absurd htvoc (by decide)

end EnvMonitor
