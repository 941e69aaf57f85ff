import EnvMonitor.System.Interleaving

/-!
# Fresh temperature, humidity and pressure

A read of one of these characteristics updates the sensor and then fetches the snapshot under
a second acquisition of the mutex. In between, and around both, other threads run any entry
points of the sensor manager and the callbacks of their updates; the read's own update runs
the callback, too.

What carries the freshness across all of this is the flag of the quantity's group: from the
read's own critical section on, the snapshot shows the last answer of the group's driver,
`Shows`, whichever thread asked for it. `essRead_fresh` follows, because the log starts empty
when the handler is entered.
-/

namespace EnvMonitor

variable {ρ : Type*}

/-! ### The three quantities -/

/-- The quantities that a read measures afresh. -/
inductive LiveQuantity where
  | temperature
  | humidity
  | pressure
deriving DecidableEq, Repr

namespace LiveQuantity

/-- Its characteristic. -/
def char : LiveQuantity → EssCharId
  | temperature => .temperature
  | humidity => .humidity
  | pressure => .pressure

/-- What the driver has returned of it, latest first: a failed read is `none`. -/
def samples (q : LiveQuantity) (log : SensorLog) : List (Option CFloat) :=
  match q with
  | temperature =>
    log.hts.map fun answer => if answer.ret = 0 then some answer.temperature else none
  | humidity => log.hts.map fun answer => if answer.ret = 0 then some answer.humidity else none
  | pressure => log.lps.map fun answer => if answer.ret = 0 then some answer.pressure else none

/-- What a snapshot shows of it: its field, if its flag is set. -/
def shown (q : LiveQuantity) (data : SensorData) : Option CFloat :=
  match q with
  | temperature => if data.tempHumidityView.1.1 then some data.tempHumidityView.1.2 else none
  | humidity => if data.tempHumidityView.2.1 then some data.tempHumidityView.2.2 else none
  | pressure => if data.pressureView.1 then some data.pressureView.2 else none

/-- The range of the ESS for it. -/
def inRange : LiveQuantity → CFloat → Bool
  | temperature => essTemperatureInRange
  | humidity => essHumidityInRange
  | pressure => essPressureInRange

/-- Its encoding. -/
def encoded : LiveQuantity → CFloat → ℤ
  | temperature => essEncodeTemperature
  | humidity => essEncodeHumidity
  | pressure => essEncodePressure

/-- A snapshot offers the value of a quantity exactly if it shows one in range. -/
theorem reading_eq_value {q : LiveQuantity} {data : SensorData} {v : ℤ} :
    q.char.reading data = .value v ↔
      ∃ x, q.shown data = some x ∧ q.inRange x = true ∧ q.encoded x = v := by
  have hfield : ∀ {valid : Bool} {field : CFloat},
      fieldReading valid (q.inRange field) (q.encoded field) = .value v ↔
        ∃ x, (if valid then some field else none) = some x ∧ q.inRange x = true ∧
          q.encoded x = v := by
    intro valid field
    rw [fieldReading_eq_value]
    cases valid <;> simp
  cases q <;> exact hfield

end LiveQuantity

/-! ### The flags follow the log -/

/-- The snapshot shows the latest sample. -/
def Shows (q : LiveQuantity) (x : ManagerRun (ρ × SensorLog)) : Prop :=
  (q.samples x.env.2).head? = some (q.shown x.mgr.current)

/-- A sample is in the log. -/
def Sampled (q : LiveQuantity) (sample : Option CFloat) (x : ManagerRun (ρ × SensorLog)) :
    Prop :=
  sample ∈ q.samples x.env.2

section Flags

variable {D : Drivers ρ} {q : LiveQuantity}

/-- A read of the HTS221 makes the snapshot show its answer. -/
private theorem shows_readTemperatureHumidity (hq : q ≠ .pressure)
    (x : ManagerRun (ρ × SensorLog)) : Shows q (readTemperatureHumidity D.recorded x).2 := by
  have hcurrent : (readTemperatureHumidity D.recorded x).2.mgr.current =
      cacheTemperatureHumidity (D.hts221ReadBoth x.env.1).1 x.mgr.current := rfl
  have hlog : (readTemperatureHumidity D.recorded x).2.env.2.hts =
      (D.hts221ReadBoth x.env.1).1 :: x.env.2.hts := rfl
  cases q with
  | pressure => exact absurd rfl hq
  | _ =>
    simp only [Shows, LiveQuantity.samples, LiveQuantity.shown, hlog, List.map_cons,
      List.head?_cons, hcurrent, cacheTemperatureHumidity_view]
    by_cases hret : (D.hts221ReadBoth x.env.1).1.ret = 0 <;> simp [hret]

/-- A read of the LPS22HB makes the snapshot show its answer. -/
private theorem shows_readPressure (x : ManagerRun (ρ × SensorLog)) :
    Shows .pressure (readPressure D.recorded x).2 := by
  have hcurrent : (readPressure D.recorded x).2.mgr.current =
      cachePressure (D.lps22hbReadPressure x.env.1).1 x.mgr.current := rfl
  have hlog : (readPressure D.recorded x).2.env.2.lps =
      (D.lps22hbReadPressure x.env.1).1 :: x.env.2.lps := rfl
  simp only [Shows, LiveQuantity.samples, LiveQuantity.shown, hlog, List.map_cons,
    List.head?_cons, hcurrent, cachePressure_view]
  by_cases hret : (D.lps22hbReadPressure x.env.1).1.ret = 0 <;> simp [hret]

/-- Nothing but the two views decides what is shown. -/
private theorem shown_congr {data data' : SensorData}
    (htempHumidity : data'.tempHumidityView = data.tempHumidityView)
    (hpressure : data'.pressureView = data.pressureView) : q.shown data' = q.shown data := by
  cases q <;> simp only [LiveQuantity.shown, htempHumidity, hpressure]

/-- A step that changes neither what is shown nor the samples. -/
private theorem Shows.congr {x x' : ManagerRun (ρ × SensorLog)} (hx : Shows q x)
    (hshown : q.shown x'.mgr.current = q.shown x.mgr.current)
    (hlog : q.samples x'.env.2 = q.samples x.env.2) : Shows q x' := by
  rw [Shows, hlog, hshown]
  exact hx

/-- **Invariant.** Once a sample is in the log, the snapshot shows the latest one: a
successful read sets the flag with its value, a failed one clears it, and nothing else
touches either. -/
theorem shows_maintained (D : Drivers ρ) (q : LiveQuantity) :
    Maintained D.recorded (Shows q) where
  bookkeeping hmgr hx := hx.congr (congrArg q.shown hmgr) rfl
  lock hx := hx
  stampTime hx := hx.congr (shown_congr rfl rfl) rfl
  temperatureHumidity {x} hx := by
    cases q with
    | pressure =>
      refine hx.congr ?_ rfl
      exact congrArg (fun view : Bool × CFloat => if view.1 then some view.2 else none)
        (cacheTemperatureHumidity_pressureView ..)
    | _ => exact shows_readTemperatureHumidity (by decide) x
  pressure {x} hx := by
    cases q with
    | pressure => exact shows_readPressure x
    | temperature =>
      refine hx.congr ?_ rfl
      exact congrArg (fun view => if view.1.1 then some view.1.2 else none)
        (cachePressure_tempHumidityView ..)
    | humidity =>
      refine hx.congr ?_ rfl
      exact congrArg (fun view => if view.2.1 then some view.2.2 else none)
        (cachePressure_tempHumidityView ..)
  airQuality hx := hx.congr (shown_congr (cacheAirQuality_tempHumidityView ..)
    (cacheAirQuality_pressureView ..)) rfl
  battery hx := hx.congr (shown_congr (cacheBatteryLevel_tempHumidityView ..)
    (cacheBatteryLevel_pressureView ..)) rfl
  airQualityForBle {x} hx := by
    rw [sensorManagerUpdateAirQualityForBle]
    split_ifs
    · exact hx
    · exact hx.congr (shown_congr (cacheAirQualityForBle_tempHumidityView ..)
        (cacheAirQualityForBle_pressureView ..)) rfl
  isReady hx := hx
  connected hx := hx
  disconnected hx := hx
  i2cReady hx := hx
  initDrivers hx := hx

/-- The log only grows. -/
theorem sampled_maintained (D : Drivers ρ) (q : LiveQuantity) (sample : Option CFloat) :
    Maintained D.recorded (Sampled q sample) where
  bookkeeping _ hx := hx
  lock hx := hx
  stampTime hx := hx
  temperatureHumidity hx := by
    cases q with
    | pressure => exact hx
    | _ => exact List.mem_cons_of_mem _ hx
  pressure hx := by
    cases q with
    | pressure => exact List.mem_cons_of_mem _ hx
    | _ => exact hx
  airQuality hx := hx
  battery hx := hx
  airQualityForBle hx := by
    rw [sensorManagerUpdateAirQualityForBle]
    split_ifs <;> exact hx
  isReady hx := hx
  connected hx := hx
  disconnected hx := hx
  i2cReady hx := hx
  initDrivers hx := hx

/-- The critical section of a read's own update samples the quantity that is read. -/
theorem shows_selectiveSection (x : ManagerRun (ρ × SensorLog)) :
    Shows q (selectiveSection D.recorded q.char.sensors x) := by
  cases q with
  | temperature => exact shows_readTemperatureHumidity (by decide) _
  | humidity => exact shows_readTemperatureHumidity (by decide) _
  | pressure => exact shows_readPressure _

end Flags

/-! ### Every live read -/

/-- **Fresh reads.** Whatever other threads do between the critical sections, whether or not
the callback is registered and whatever the drivers, the mutex and the readiness answer: a
read of temperature, humidity or pressure that succeeds serves the encoding of an in-range
value that the sensor's driver has returned since the handler was entered, and if every such
driver read failed, the read fails and leaves the characteristic unknown. -/
theorem essRead_fresh (D : Drivers ρ) (i : Interleaving) (q : LiveQuantity) (len : ℕ)
    (ess : EssState) (mgr : ManagerState) (env : ρ) :
    let out := essRead (interleavedOps D.recorded i) q.char len 0 ⟨ess, [], mgr, env, {}⟩
    let samples := q.samples out.2.env.env.2
    (∀ bytes, out.1 = .ok bytes → ∃ x, some x ∈ samples ∧ q.inRange x = true ∧
        bytes = (q.char.payload (q.encoded x)).take len) ∧
      ((∀ sample ∈ samples, sample = none) →
        (∃ e, out.1 = .error e) ∧ (out.2.ess.sensor q.char).valueKnown = false) := by
  intro out samples
  let P : ManagerRun (ρ × SensorLog) → ℤ → Prop := fun x v =>
    ∃ y, some y ∈ q.samples x.env.2 ∧ q.inRange y = true ∧ q.encoded y = v
  have houtcome : ReadOutcome P q.char len 0 out := by
    refine essRead_outcome (fun data u' v hgets hreading => ?_) (fun env' hunready => ?_) len 0
    · have hlive : ∃ u₁, (interleavedOps D.recorded i).updateSelective q.char.sensors
          ⟨ess, [], mgr, env, {}⟩ = (0, u₁) ∧
            (interleavedOps D.recorded i).getData u₁ = (0, data, u') := by
        cases q <;> exact hgets
      obtain ⟨u₁, hupdate, hget⟩ := hlive
      -- from the own critical section on, the snapshot shows the latest sample
      have hshows₁ : Shows q u₁.env :=
        interleavedUpdate_establishes (shows_maintained D q) shows_selectiveSection hupdate
      obtain ⟨u₂, hshows₂, rfl, rfl⟩ :=
        interleavedGetData_holds (shows_maintained D q) hshows₁ hget
      obtain ⟨y, hshown, hrange, hvalue⟩ := LiveQuantity.reading_eq_value.mp hreading
      have hsampled : Sampled q (some y) u₂.env := by
        rw [← hshown]
        exact List.mem_of_head? hshows₂
      exact ⟨y, (sampled_maintained D q (some y)).runOthers _ hsampled, hrange, hvalue⟩
    · obtain ⟨hgas, -⟩ := hunready
      cases q <;> exact absurd hgas (by decide)
  refine ⟨fun bytes hok => ?_, fun hfailed => ?_⟩
  · rcases houtcome with ⟨e, herror, -⟩ | ⟨-, -, ⟨y, hmem, hrange, hvalue⟩, hserved⟩
    · rw [hok] at herror
      cases herror
    · refine ⟨y, hmem, hrange, ?_⟩
      rw [hok, EssCharId.served, btGattAttrRead, if_neg (Nat.not_lt_zero _), List.drop_zero,
        ← hvalue] at hserved
      exact Except.ok.inj hserved
  · rcases houtcome with ⟨e, herror, hunknown⟩ | ⟨-, -, ⟨y, hmem, -⟩, -⟩
    · exact ⟨⟨e, herror⟩, hunknown⟩
    · cases hfailed (some y) hmem

end EnvMonitor
