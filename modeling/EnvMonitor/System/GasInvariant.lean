import EnvMonitor.System.Composed

/-!
# Invariants about the gases

A property of the gas group of the snapshot and of the environment, that may be stronger while
the service shows a gas value, is an invariant of the composed system if the driver's steps, its
initialisation and its two reads keep it and finding the sensor ready gives the stronger form.
`GasInvariant` states this once; the sensor manager's pieces, the callback, the updates and the
reads of the service, among other threads, are then accounted for.
-/

namespace EnvMonitor

/-! ### What the service shows -/

/-- A gas characteristic is known with a value other than the sentinel. -/
def EssState.ShowsGas (s : EssState) : Prop :=
  ∃ c, (c = .co2 ∨ c = .tvoc) ∧ (s.sensor c).valueKnown = true ∧
    (s.sensor c).value ≠ ESS_UNKNOWN_U16

/-- A record that is replaced by no known gas value accounts for none that is shown. -/
theorem EssState.ShowsGas.of_set {s : EssState} {c : EssCharId} {x : EssSensor}
    (h : (s.set c x).ShowsGas)
    (hx : c = .co2 ∨ c = .tvoc → x.valueKnown = true → x.value = ESS_UNKNOWN_U16) :
    s.ShowsGas := by
  obtain ⟨c', hc', hknown, hvalue⟩ := h
  by_cases hcc : c' = c
  · subst hcc
    rw [EssState.set_sensor_self] at hknown hvalue
    exact absurd (hx hc' hknown) hvalue
  · rw [EssState.set_sensor_of_ne s hcc] at hknown hvalue
    exact ⟨c', hc', hknown, hvalue⟩

/-- Enabling notifications shows nothing. -/
theorem EssState.ShowsGas.of_cccCfgChanged {s : EssState} {c : EssCharId} {value : ℕ}
    (h : (cccCfgChanged c value s).ShowsGas) : s.ShowsGas := by
  obtain ⟨c', hc', hknown, hvalue⟩ := h
  refine ⟨c', hc', ?_⟩
  by_cases hcc : c' = c
  · subst hcc
    rw [cccCfgChanged, EssState.set_sensor_self] at hknown hvalue
    exact ⟨hknown, hvalue⟩
  · rw [cccCfgChanged, EssState.set_sensor_of_ne s hcc] at hknown hvalue
    exact ⟨hknown, hvalue⟩

/-! ### The rule -/

/-- `K shows` is about the gas group of the snapshot and the environment, the weaker the less
is shown, and survives what the system does to either. -/
structure GasInvariant (K : Prop → SensorData → SystemEnv → Prop) : Prop where
  weaken : ∀ {shows shows' : Prop} {data s}, (shows' → shows) → K shows data s →
    K shows' data s
  gases : ∀ {shows data s} {data' : SensorData}, data'.gasView = data.gasView →
    K shows data s → K shows data' s
  script : ∀ {shows data s} script, K shows data s → K shows data { s with script := script }
  handler : ∀ {shows data s}, K shows data s →
    K shows data { s with handlerStart := s.ccs.now, refreshRet := none }
  step : ∀ e {shows data} {s : SystemEnv}, K shows data s →
    K shows data { s with ccs := ccs811Step s.ccs e }
  ready : ∀ {shows data} {s : SystemEnv}, K shows data s →
    (ccs811DriverIsReady s.ccs).1 = true →
      K True data { s with ccs := (ccs811DriverIsReady s.ccs).2 }
  init : ∀ a {shows data} {s : SystemEnv}, K shows data s →
    K shows data { s with ccs := (ccs811DriverInit a s.ccs).2 }
  readAirQuality : ∀ t {shows data} {s : SystemEnv}, K shows data s →
    K shows (cacheAirQuality (s.readAirQuality t).1 data) (s.readAirQuality t).2
  readForBle : ∀ t {shows data} {s : SystemEnv}, K shows data s →
    K shows (cacheAirQualityForBle (s.readForBle t).1 data) (s.readForBle t).2

namespace GasInvariant

variable {K : Prop → SensorData → SystemEnv → Prop}

private theorem turn (hK : GasInvariant K) {shows : Prop} {data : SensorData} {s : SystemEnv}
    (h : K shows data s) : K shows data s.turn.2 := by
  have hsteps : ∀ es {s : SystemEnv}, K shows data s →
      K shows data { s with ccs := ccs811Steps es s.ccs } := by
    intro es
    induction es with
    | nil => exact fun h => h
    | cons e es ih => exact fun h => ih (hK.step e h)
  rw [SystemEnv.turn]
  cases s.script with
  | nil => exact h
  | cons t script => exact hsteps t.before (hK.script script h)

/-- The pieces of the sensor manager. -/
theorem maintained (hK : GasInvariant K) (shows : Prop) :
    Maintained systemDrivers fun x => K shows x.mgr.current x.env where
  bookkeeping hmgr hx := by
    dsimp only
    rw [hmgr]
    exact hx
  lock hx := hK.turn hx
  stampTime {x} hx := by
    have hgas : (stampTime systemDrivers x).mgr.current.gasView = x.mgr.current.gasView := rfl
    exact hK.gases hgas (hK.turn hx)
  temperatureHumidity hx := hK.gases (cacheTemperatureHumidity_gasView ..) (hK.turn hx)
  pressure hx := hK.gases (cachePressure_gasView ..) (hK.turn hx)
  airQuality hx := hK.readAirQuality _ (hK.turn hx)
  battery {x} hx := by
    have hgas : (readBattery systemDrivers x).2.mgr.current.gasView =
        x.mgr.current.gasView := cacheBatteryLevel_gasView ..
    exact hK.gases hgas (hK.turn (hK.turn hx))
  airQualityForBle {x} hx := by
    rw [sensorManagerUpdateAirQualityForBle]
    split_ifs
    · exact hx
    · exact hK.readForBle _ (hK.turn hx)
  isReady hx := hK.step .isReady (hK.turn hx)
  connected {x} hx := hK.step (.connected x.env.turn.1.lockRet x.env.turn.1.modeRet) (hK.turn hx)
  disconnected {x} hx :=
    hK.step (.disconnected x.env.turn.1.lockRet x.env.turn.1.modeRet) (hK.turn hx)
  i2cReady hx := hK.turn hx
  initDrivers {x} hx := by
    simp only [systemDrivers]
    split_ifs
    · exact hK.init _ (hK.turn hx)
    · exact hK.turn hx

/-- A record may be replaced, by no known gas value. -/
private theorem set (hK : GasInvariant K) {c : EssCharId} {x : EssSensor}
    (hx : c = .co2 ∨ c = .tvoc → x.valueKnown = true → x.value = ESS_UNKNOWN_U16)
    {ess : EssState} {data : SensorData} {s : SystemEnv} (h : K ess.ShowsGas data s) :
    K (ess.set c x).ShowsGas data s :=
  hK.weaken (fun hshows => hshows.of_set hx) h

private theorem not_gas {c : EssCharId} (hco2 : c ≠ .co2) (htvoc : c ≠ .tvoc) :
    ¬ (c = .co2 ∨ c = .tvoc) := by
  rintro (rfl | rfl)
  · exact hco2 rfl
  · exact htvoc rfl

/-- The updates of the service. -/
theorem serviceKeeps (hK : GasInvariant K) :
    ServiceKeeps systemDrivers fun ess x => K ess.ShowsGas x.mgr.current x.env where
  manager ess := hK.maintained ess.ShowsGas
  update data := {
    asked := fun {u} hu => (hK.maintained u.ess.ShowsGas).isReady hu
    invalidate := fun c {u} hu => hK.set (fun _ h => absurd h Bool.false_ne_true) hu
    environment := fun {c u} hco2 htvoc hu => by
      -- each update function is a replacement of its record
      have hc := not_gas hco2 htvoc
      cases c <;> exact hK.set (fun hgas => absurd hgas hc) hu
    sentinel := fun {c u} hc hu => by
      rcases hc with rfl | rfl <;> exact hK.set (fun _ _ => rfl) hu
    gas := fun {c u} hc _ hready hu => by
      have hshows := hK.ready (hK.turn hu) hready
      rcases hc with rfl | rfl <;> exact hK.weaken (fun _ => trivial) hshows }

/-- The reads of the service, among other threads. -/
theorem readKeeps (hK : GasInvariant K) (i : Interleaving) :
    ReadKeeps (interleavedOps systemDrivers i)
      (fun u => K u.ess.ShowsGas u.env.mgr.current u.env.env)
      fun x => K True x.mgr.current x.env where
  updateSelective sensors {u} hu := hK.serviceKeeps.updateSelective i sensors hu
  getData hu := hK.serviceKeeps.getData i hu
  asked {u} hu := (hK.maintained u.ess.ShowsGas).isReady hu
  invalidate c {u} hu := hK.set (fun _ h => absurd h Bool.false_ne_true) hu
  environment {c} v {u} hco2 htvoc hu := by
    have hc := not_gas hco2 htvoc
    exact hK.set (fun hgas => absurd hgas hc) hu
  sentinel hc hu := hK.set (fun _ _ => rfl) hu
  ready hu hready := hK.ready (hK.turn hu) hready
  updateForBle hu := (hK.maintained True).airQualityForBle hu
  getDataReady hu := (hK.maintained True).serviceKeeps.getData i hu
  of_ready hu := hK.weaken (fun _ => trivial) hu

/-! ### Steps -/

/-- The property at a state of the system. -/
def holds (K : Prop → SensorData → SystemEnv → Prop) (u : SystemRun) : Prop :=
  K u.ess.ShowsGas u.env.mgr.current u.env.env

private theorem runWithCallback (hK : GasInvariant K)
    {call : ManagerRun SystemEnv → ℤ × Option SensorData × ManagerRun SystemEnv}
    {u : SystemRun} (hcall : K u.ess.ShowsGas (call u.env).2.2.mgr.current (call u.env).2.2.env) :
    holds K (runWithCallback systemDrivers call u) := by
  rcases hout : call u.env with ⟨ret, snapshot, x⟩
  rw [hout] at hcall
  rw [EnvMonitor.runWithCallback, hout]
  exact hK.serviceKeeps.runCallback (u := { u with env := x }) snapshot hcall

private theorem managerCall (hK : GasInvariant K) (e : ManagerEvent) {u : SystemRun}
    (hu : holds K u) : holds K (managerCall systemDrivers e u) := by
  have hI := hK.maintained u.ess.ShowsGas
  cases e with
  | init => exact hK.runWithCallback (hI.kept.init hu)
  | update => exact hK.runWithCallback (hI.kept.update hu)
  | updateSelective sensors => exact hK.runWithCallback (hI.kept.updateSelective sensors hu)
  | registerCallback => exact hI.step .registerCallback hu
  | arm => exact hI.step .arm hu
  | trackConnected => exact hI.step .trackConnected hu
  | onDisconnected => exact hI.step .onDisconnected hu
  | getData => exact hI.step .getData hu
  | updateAirQualityForBle => exact hI.step .updateAirQualityForBle hu
  | isReady => exact hI.step .isReady hu

private theorem onConnected (hK : GasInvariant K) (i : Interleaving) {u : SystemRun}
    (hu : holds K u) : holds K (sensorManagerOnConnected systemDrivers i u).2 := by
  have htrack := (hK.maintained u.ess.ShowsGas).trackConnected hu
  rcases hout : sensorManagerTrackConnected systemDrivers u.env with ⟨ret, x⟩
  rw [hout] at htrack
  simp only [sensorManagerOnConnected, hout]
  split_ifs
  · exact htrack
  · exact hK.serviceKeeps.updateSelective i .airQuality
      (hK.serviceKeeps.updateSelective (u := { u with env := x }) i .envBasic htrack)

/-- **One event.** -/
theorem systemStep (hK : GasInvariant K) (e : SystemEvent) {u : SystemRun} (hu : holds K u) :
    holds K (systemStep e u).1 := by
  have hu := hK.script e.turns hu
  rw [EnvMonitor.systemStep]
  cases e.call with
  | manager e => exact hK.managerCall e hu
  | connected i => exact hK.onConnected i hu
  | essInit => exact (hK.maintained _).kept.registerCallback hu
  | essUpdate data =>
    cases data with
    | none =>
      simp only [essServiceUpdate]
      split_ifs <;> exact hu
    | some data => exact (hK.serviceKeeps.update data).essServiceUpdate hu
  | cccWrite c value => exact hK.weaken EssState.ShowsGas.of_cccCfgChanged hu
  | read c len offset i => exact (hK.readKeeps _).essRead c len offset (hK.handler hu)
  | driver e => exact hK.step e hu

/-- **Reachable states.** An invariant of the gases holds after every run. -/
theorem preserves (hK : GasInvariant K) :
    systemMachine.Preserves Machine.anyEvent (holds K) := by
  intro e u u' os _ hu hs
  obtain ⟨rfl, -⟩ := Prod.mk.inj (Option.some.inj hs)
  exact hK.systemStep e hu

end GasInvariant

end EnvMonitor
