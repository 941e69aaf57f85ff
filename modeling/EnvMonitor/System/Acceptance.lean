import EnvMonitor.Ess.Read
import EnvMonitor.SensorManager.Runs

/-!
# Which readings of the sensor manager the ESS accepts

The sensor manager marks a gas pair valid if it passes the ranges of the CCS811, up to
8192 ppm of eCO2; the ESS accepts up to 5000 ppm. Every pair the manager marks valid is the
answer of one driver read that passed the manager's checks, `GasRecorded`, and the ESS accepts
it exactly if its eCO2 is at most 5000 ppm: the TVOC range of the manager lies inside that of
the ESS.
-/

namespace EnvMonitor

variable {ρ : Type*}

/-! ### What the ESS makes of it -/

/-- Temperature, humidity and pressure are valid and in the ranges of the ESS. -/
def SensorData.EnvironmentInRange (data : SensorData) : Prop :=
  (data.isValid .temperature = true ∧ essTemperatureInRange data.temperature = true) ∧
    (data.isValid .humidity = true ∧ essHumidityInRange data.humidity = true) ∧
      data.isValid .pressure = true ∧ essPressureInRange data.pressure = true

/-- While the CCS811 is ready, the ESS accepts the gas pair of a snapshot: an update on it
stores both gases, if the rest of the snapshot is in range, and no read of a gas that gets
it fails with the out-of-range error. -/
structure AcceptedByEss (data : SensorData) : Prop where
  update : ∀ {σ : Type} {ready : σ → Bool × σ} {u : EssRun σ},
    (∀ env, (ready env).1 = true) → u.ess.initialized = true → data.EnvironmentInRange →
      let out := essServiceUpdate ready (some data) u
      out.code ≠ -ERANGE ∧
        (out.state.ess.sensor .co2).valueKnown = true ∧
        (out.state.ess.sensor .co2).value = data.eco2.toNat ∧
        (out.state.ess.sensor .tvoc).valueKnown = true ∧
        (out.state.ess.sensor .tvoc).value = data.tvoc.toNat
  read : ∀ {σ : Type} {ops : ManagerOps σ} {c : EssCharId} {u u' : EssRun σ},
    c = .co2 ∨ c = .tvoc → ops.ReadGets c u data u' →
      ∀ len offset, (essRead ops c len offset u).1 ≠ .error .outOfRange

section Accepted

variable {σ : Type} {data : SensorData}

/-- With the air-quality bit set and the CCS811 ready, both gas stages are taken. -/
theorem gasGates_ready {ready : σ → Bool × σ} (hready : ∀ env, (ready env).1 = true)
    (hvalid : data.isValid .airQuality = true) (env : σ) :
    gasGates ready data env = (.real, .real) := by
  have hgate : ∀ env, (gasGate ready true env).1 = .real := by
    intro env
    simp [gasGate, hready env]
  simp only [gasGates, hvalid, hgate]

/-- A snapshot with the rest in range blocks no stage. -/
theorem SensorData.EnvironmentInRange.not_blocked (h : data.EnvironmentInRange)
    (c : EssCharId) : blocked data c = false := by
  obtain ⟨⟨htv, htr⟩, ⟨hhv, hhr⟩, hpv, hpr⟩ := h
  cases c <;>
    simp [blocked, temperatureReading, humidityReading, pressureReading, fieldReading, *]

/-- A gas pair that passes the sensor manager's checks is in the ranges of the ESS as soon as
its eCO2 is at most 5000 ppm. -/
theorem inRange_of_le {co2Ppm tvocPpb : UInt16} (heco2 : eco2Ok co2Ppm = true)
    (htvoc : tvocOk tvocPpb = true) (hle : co2Ppm ≤ 5000) :
    essCo2InRange co2Ppm = true ∧ essTvocInRange tvocPpb = true := by
  simp only [eco2Ok, tvocOk, essCo2InRange, essTvocInRange, Bool.and_eq_true,
    decide_eq_true_eq] at *
  refine ⟨⟨heco2.1.2, hle⟩, htvoc.1.2, ?_⟩
  have htvoc' : tvocPpb.toNat ≤ 1187 := htvoc.2
  change tvocPpb.toNat ≤ 32767
  omega

/-- Both fields in range make an accepted snapshot. -/
theorem acceptedByEss_of_inRange (hvalid : data.isValid .airQuality = true)
    (hco2 : essCo2InRange data.eco2 = true) (htvoc : essTvocInRange data.tvoc = true) :
    AcceptedByEss data where
  update {σ ready u} hready hinit henv := by
    have hgates : gasGates ready data u.env = (.real, .real) :=
      gasGates_ready hready hvalid u.env
    have hco2Reading : updateReading .real .real data .co2 = .value data.eco2.toNat := by
      simp [updateReading, co2UpdateReading, hco2, htvoc, essEncodeCo2]
    have htvocReading : updateReading .real .real data .tvoc = .value data.tvoc.toNat := by
      simp [updateReading, tvocUpdateReading, co2UpdateReading, hco2, htvoc, essEncodeTvoc]
    -- no stage is blocked, so each gas gets its own reading
    have hsensor : ∀ c v, updateReading .real .real data c = .value v →
        let x := (essServiceUpdate ready (some data) u).state.ess.sensor c
        x.valueKnown = true ∧ x.value = v := by
      intro c v hreading
      have hc := essServiceUpdate_sensor hinit ready data c
      rw [henv.not_blocked c, hgates] at hc
      simp only [Bool.false_eq_true, if_false] at hc
      rw [hc, hreading]
      exact ⟨rfl, rfl⟩
    have hcode : (essServiceUpdate ready (some data) u).code ≠ -ERANGE := by
      have h := essServiceUpdate_code hinit ready data
      rw [hgates] at h
      have hnone : ¬ ∃ c ∈ unblocked data,
          updateReading .real .real data c = .outOfRange := by
        rintro ⟨c, -, hout⟩
        obtain ⟨⟨htv, htr⟩, ⟨hhv, hhr⟩, hpv, hpr⟩ := henv
        cases c with
        | co2 => exact absurd (hco2Reading.symm.trans hout) (by simp)
        | tvoc => exact absurd (htvocReading.symm.trans hout) (by simp)
        | temperature =>
          simp [updateReading, temperatureReading, fieldReading, htv, htr] at hout
        | humidity => simp [updateReading, humidityReading, fieldReading, hhv, hhr] at hout
        | pressure => simp [updateReading, pressureReading, fieldReading, hpv, hpr] at hout
      rw [h, if_neg hnone]
      decide
    obtain ⟨hknown, hvalue⟩ := hsensor .co2 _ hco2Reading
    exact ⟨hcode, hknown, hvalue, hsensor .tvoc _ htvocReading⟩
  read {σ ops c u u'} hc hgets len offset := by
    have hreading : ∃ v, c.reading data = .value v := by
      rcases hc with rfl | rfl
      · exact ⟨_, fieldReading_eq_value.mpr ⟨hvalid, hco2, rfl⟩⟩
      · exact ⟨_, fieldReading_eq_value.mpr ⟨hvalid, htvoc, rfl⟩⟩
    obtain ⟨v, hv⟩ := hreading
    rw [essRead_gas_of_readGets hc hgets, hv, cacheFresh, returnOrServe, readU16_gas ops hc,
      EssCharId.served, btGattAttrRead]
    split_ifs <;> simp

/-- A read of the CO2 that gets a snapshot over 5000 ppm fails with the out-of-range error. -/
theorem not_acceptedByEss_of_outOfRange (hvalid : data.isValid .airQuality = true)
    (hco2 : essCo2InRange data.eco2 = false) : ¬ AcceptedByEss data := by
  intro haccepted
  let u : EssRun Unit := ⟨essStart, [], ()⟩
  have hgets : (ManagerOps.fixed true data).ReadGets .co2 u data u := ⟨rfl, rfl⟩
  refine haccepted.read (Or.inl rfl) hgets 2 0 ?_
  have hreading : EssCharId.reading .co2 data = .outOfRange :=
    fieldReading_eq_outOfRange.mpr ⟨hvalid, hco2⟩
  rw [essRead_gas_of_readGets (Or.inl rfl) hgets, hreading]
  rfl

end Accepted

/-- **Which valid gas readings the ESS accepts.** In every run of the sensor manager over any
drivers, a snapshot handed to the callback or to a caller with the air-quality bit set
carries the pair of one driver answer so far that passed the manager's checks, and the ESS
accepts it exactly if the eCO2 of that answer is at most 5000 ppm. -/
theorem airQuality_accepted_iff (D : Drivers ρ) {es : List ManagerEvent} {env : ρ}
    {x : ManagerRun (ρ × SensorLog)} {obs : List (SensorData × ρ × SensorLog)}
    (hrun : (managerMachine D.recorded).run es ⟨managerStart, env, {}⟩ = some (x, obs)) :
    ∀ o ∈ obs, o.1.isValid .airQuality = true →
      ∃ answer ∈ o.2.2.gas, answer.Passes ∧ o.1.eco2 = answer.co2Ppm ∧
        o.1.tvoc = answer.tvocPpb ∧ (AcceptedByEss o.1 ↔ answer.co2Ppm ≤ 5000) := by
  have hI : Maintained D.recorded GasRecorded := gasRecorded_maintained D
  have hobs := Machine.Preserves.run_emits hI.preserves hI.emits (fun _ _ => trivial)
    (managerStart_gasRecorded env) hrun
  intro o ho hvalid
  obtain ⟨x', hx', rfl⟩ := hobs o ho
  obtain ⟨answer, hmem, hpasses, hpair⟩ := hx' hvalid
  obtain ⟨heco2, htvoc⟩ := Prod.mk.inj hpair
  refine ⟨answer, hmem, hpasses, heco2, htvoc, ?_⟩
  obtain ⟨-, heco2Ok, htvocOk⟩ := hpasses
  rw [← heco2] at heco2Ok ⊢
  rw [← htvoc] at htvocOk
  constructor
  · -- one read that fails is enough
    intro haccepted
    by_contra hgt
    refine not_acceptedByEss_of_outOfRange hvalid ?_ haccepted
    simp [essCo2InRange, hgt]
  · intro hle
    obtain ⟨hco2Range, htvocRange⟩ := inRange_of_le heco2Ok htvocOk hle
    exact acceptedByEss_of_inRange hvalid hco2Range htvocRange

/-- Over a sensor at 800 ppm, the snapshot handed out carries the reading. -/
theorem bootAndGet_800 :
    ∃ r ∈ (managerMachine (steadyDrivers 800 10).recorded).run bootAndGet
      ⟨managerStart, (), {}⟩,
      ∃ o ∈ r.2, o.1.isValid .airQuality = true ∧ o.1.eco2 = 800 := by
  decide +kernel

/-- Over a sensor at 6000 ppm, the snapshot handed out carries a reading that the ESS does
not accept. -/
theorem bootAndGet_6000 :
    ∃ r ∈ (managerMachine (steadyDrivers 6000 10)).run bootAndGet ⟨managerStart, ()⟩,
      ∃ o ∈ r.2, o.1.isValid .airQuality = true ∧ essCo2InRange o.1.eco2 = false := by
  decide +kernel

/-- `airQuality_accepted_iff` at a boot next to a sensor at 800 ppm. -/
theorem airQuality_accepted_iff_800 :
    ∃ x obs, (managerMachine (steadyDrivers 800 10).recorded).run bootAndGet
        ⟨managerStart, (), {}⟩ = some (x, obs) ∧
      (∃ o ∈ obs, o.1.isValid .airQuality = true ∧ o.1.eco2 = 800) ∧
      ∀ o ∈ obs, o.1.isValid .airQuality = true →
        ∃ answer ∈ o.2.2.gas, answer.Passes ∧ o.1.eco2 = answer.co2Ppm ∧
          o.1.tvoc = answer.tvocPpb ∧ (AcceptedByEss o.1 ↔ answer.co2Ppm ≤ 5000) := by
  obtain ⟨⟨x, obs⟩, hrun, hobs⟩ := bootAndGet_800
  exact ⟨x, obs, hrun, hobs, airQuality_accepted_iff (steadyDrivers 800 10) hrun⟩

/-- Not every valid gas reading is accepted: the ranges differ above 5000 ppm. -/
theorem airQuality_not_accepted :
    ¬ ∀ (D : Drivers Unit) (es : List ManagerEvent) (x : ManagerRun Unit)
      (obs : List (SensorData × Unit)),
      (managerMachine D).run es ⟨managerStart, ()⟩ = some (x, obs) →
      ∀ o ∈ obs, o.1.isValid .airQuality = true → AcceptedByEss o.1 := by
  intro hall
  obtain ⟨⟨x, obs⟩, hrun, o, ho, hvalid, hrange⟩ := bootAndGet_6000
  exact not_acceptedByEss_of_outOfRange hvalid hrange (hall _ _ x obs hrun o ho hvalid)

end EnvMonitor
