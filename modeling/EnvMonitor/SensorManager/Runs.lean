import EnvMonitor.Lib.Machine
import EnvMonitor.SensorManager.Sections

/-!
# Runs of the sensor manager

The sensor manager as a machine: its entry points in any order, over any drivers, with the
snapshots it lets others see as observations. `Drivers.recorded` adds to any drivers a log of
what the sensors returned, which nothing reads; a statement about where a value came from is
a statement about the log.

What is `Maintained` holds in every reachable state, `Maintained.preserves`, and an
observation is the current snapshot of a state on the way, `Maintained.emits`.
-/

namespace EnvMonitor

variable {ρ : Type*}

/-! ### A log of the sensors -/

/-- What the sensor drivers have returned, latest first. -/
structure SensorLog where
  hts : List HtsAnswer := []
  lps : List LpsAnswer := []
  gas : List GasAnswer := []

/-- A call whose answer is entered in a log. -/
def noting {α τ : Type*} (note : α → τ → τ) (f : ρ → α × ρ) (s : ρ × τ) : α × ρ × τ :=
  ((f s.1).1, (f s.1).2, note (f s.1).1 s.2)

/-- A call that is not logged. -/
def unnoted {α τ : Type*} (f : ρ → α × ρ) (s : ρ × τ) : α × ρ × τ :=
  noting (fun _ log => log) f s

/-- The same drivers with a log. -/
def Drivers.recorded (D : Drivers ρ) : Drivers (ρ × SensorLog) where
  uptime := unnoted D.uptime
  lock := unnoted D.lock
  hts221ReadBoth := noting (fun answer log => { log with hts := answer :: log.hts })
    D.hts221ReadBoth
  lps22hbReadPressure := noting (fun answer log => { log with lps := answer :: log.lps })
    D.lps22hbReadPressure
  ccs811ReadAirQuality temp humidity :=
    noting (fun answer log => { log with gas := answer :: log.gas })
      (D.ccs811ReadAirQuality temp humidity)
  ccs811ReadForBle temp humidity :=
    noting (fun answer log => { log with gas := answer :: log.gas })
      (D.ccs811ReadForBle temp humidity)
  ccs811IsReady := unnoted D.ccs811IsReady
  ccs811OnConnected s := (D.ccs811OnConnected s.1, s.2)
  ccs811OnDisconnected s := (D.ccs811OnDisconnected s.1, s.2)
  i2cReady := unnoted D.i2cReady
  initDrivers s := (D.initDrivers s.1, s.2)
  batteryGetLevel := unnoted D.batteryGetLevel
  batteryIsCharging := unnoted D.batteryIsCharging

/-! ### The machine -/

/-- The entry points. The two updates of `sensor_manager_on_connected` are events of their
own. -/
inductive ManagerEvent where
  | init
  | registerCallback
  | arm
  | trackConnected
  | onDisconnected
  | update
  | updateSelective (sensors : SensorSelect)
  | getData
  | updateAirQualityForBle
  | isReady

/-- One call, with the snapshots handed to the callback or to the caller. -/
def managerStep (D : Drivers ρ) (e : ManagerEvent) (x : ManagerRun ρ) :
    ManagerRun ρ × List SensorData :=
  match e with
  | .init =>
    let (_, snapshot, x) := sensorManagerInit D x
    (x, snapshot.toList)
  | .registerCallback => ((sensorManagerRegisterCallback D x).2, [])
  | .arm => ((sensorManagerArm x).2, [])
  | .trackConnected => ((sensorManagerTrackConnected D x).2, [])
  | .onDisconnected => (sensorManagerOnDisconnected D x, [])
  | .update =>
    let (_, snapshot, x) := sensorManagerUpdate D x
    (x, snapshot.toList)
  | .updateSelective sensors =>
    let (_, snapshot, x) := sensorManagerUpdateSelective D sensors x
    (x, snapshot.toList)
  | .getData =>
    let (ret, data, x) := sensorManagerGetData D x
    (x, if ret = 0 then [data] else [])
  | .updateAirQualityForBle => (sensorManagerUpdateAirQualityForBle D x, [])
  | .isReady => ((sensorManagerIsCcs811Ready D x).2, [])

/-- The sensor manager over the drivers `D`. An observation is a snapshot handed out, with
the environment at that moment. -/
def managerMachine (D : Drivers ρ) : Machine (ManagerRun ρ) ManagerEvent (SensorData × ρ) where
  step e x :=
    let (x, snapshots) := managerStep D e x
    some (x, snapshots.map fun data => (data, x.env))

/-! ### Every run -/

variable {D : Drivers ρ} {I : ManagerRun ρ → Prop}

/-- The call leaves the bookkeeping of connections alone. -/
def ManagerEvent.quiet : ManagerEvent → Bool
  | .trackConnected | .onDisconnected => false
  | _ => true

theorem Kept.step (hI : Kept D I) {e : ManagerEvent} (he : e.quiet = true) {x : ManagerRun ρ}
    (hx : I x) : I (managerStep D e x).1 := by
  cases e with
  | init => exact hI.init hx
  | registerCallback => exact hI.registerCallback hx
  | arm => exact hI.arm hx
  | trackConnected => exact absurd he Bool.false_ne_true
  | onDisconnected => exact absurd he Bool.false_ne_true
  | update => exact hI.update hx
  | updateSelective sensors => exact hI.updateSelective sensors hx
  | getData => exact hI.getData hx
  | updateAirQualityForBle => exact hI.airQualityForBle hx
  | isReady => exact hI.isReady hx

theorem Maintained.step (hI : Maintained D I) (e : ManagerEvent) {x : ManagerRun ρ}
    (hx : I x) : I (managerStep D e x).1 := by
  cases e with
  | trackConnected => exact hI.trackConnected hx
  | onDisconnected => exact hI.onDisconnected hx
  | _ => exact hI.kept.step rfl hx

/-- The snapshot of the boot sample is the current one, too. -/
theorem sensorManagerInit_snapshot {x : ManagerRun ρ} {data : SensorData}
    (h : (sensorManagerInit D x).2.1 = some data) :
    data = (sensorManagerInit D x).2.2.mgr.current := by
  rcases hcall : x.call D.i2cReady with ⟨i2cReady, x'⟩
  simp only [sensorManagerInit, hcall] at h ⊢
  split_ifs at h ⊢
  exact lockedUpdate_snapshot h

/-- What a call lets others see is the snapshot it leaves. -/
theorem managerStep_observed {e : ManagerEvent} {x : ManagerRun ρ} {data : SensorData}
    (h : data ∈ (managerStep D e x).2) : data = (managerStep D e x).1.mgr.current := by
  cases e with
  | init => exact sensorManagerInit_snapshot (Option.mem_toList.mp h)
  | update => exact lockedUpdate_snapshot (Option.mem_toList.mp h)
  | updateSelective sensors => exact lockedUpdate_snapshot (Option.mem_toList.mp h)
  | getData =>
    rcases hget : sensorManagerGetData D x with ⟨ret, data', x'⟩
    simp only [managerStep, hget] at h ⊢
    split_ifs at h with hret
    · subst hret
      exact (List.mem_singleton.mp h).trans (getData_of_ret_eq_zero hget).1
    · cases h
  | _ => exact absurd h List.not_mem_nil

/-- **Reachable states.** What is maintained holds after every run. -/
theorem Maintained.preserves (hI : Maintained D I) :
    (managerMachine D).Preserves Machine.anyEvent I := by
  intro e x x' os _ hx hs
  have hx' : (managerStep D e x).1 = x' := (Prod.mk.inj (Option.some.inj hs)).1
  exact hx' ▸ hI.step e hx

/-- **Observed snapshots.** Every one is the current snapshot of a state where the maintained
predicate holds. -/
theorem Maintained.emits (hI : Maintained D I) :
    (managerMachine D).Emits Machine.anyEvent I
      fun o => ∃ x, I x ∧ o = (x.mgr.current, x.env) := by
  intro e x x' os _ hx hs o ho
  have hos : os = (managerStep D e x).2.map fun data => (data, (managerStep D e x).1.env) :=
    (Prod.mk.inj (Option.some.inj hs)).2.symm
  rw [hos] at ho
  obtain ⟨data, hdata, rfl⟩ := List.mem_map.mp ho
  exact ⟨(managerStep D e x).1, hI.step e hx, by rw [← managerStep_observed hdata]⟩

/-! ### Where a valid pair comes from -/

/-- A driver answer that both checks of the sensor manager pass. -/
def GasAnswer.Passes (answer : GasAnswer) : Prop :=
  answer.ret = 0 ∧ eco2Ok answer.co2Ppm = true ∧ tvocOk answer.tvocPpb = true

/-- A gas pair marked valid is one the log accounts for. -/
def GasRecorded (x : ManagerRun (ρ × SensorLog)) : Prop :=
  x.mgr.current.gasView.1 = true →
    ∃ answer ∈ x.env.2.gas, answer.Passes ∧
      x.mgr.current.gasView.2 = (answer.co2Ppm, answer.tvocPpb)

theorem managerStart_gasRecorded (env : ρ) : GasRecorded ⟨managerStart, env, {}⟩ := by
  intro h
  have hinvalid : managerStart.current.gasView.1 = false := by decide
  exact absurd (hinvalid.symm.trans h) Bool.false_ne_true

/-- Only what is read and the log matter. -/
private theorem GasRecorded.congr {x x' : ManagerRun (ρ × SensorLog)} (hx : GasRecorded x)
    (hview : x'.mgr.current.gasView = x.mgr.current.gasView)
    (hlog : ∀ answer ∈ x.env.2.gas, answer ∈ x'.env.2.gas) : GasRecorded x' := by
  intro hvalid
  rw [hview] at hvalid ⊢
  obtain ⟨answer, hmem, hpasses, hpair⟩ := hx hvalid
  exact ⟨answer, hlog answer hmem, hpasses, hpair⟩

/-- **Invariant.** Every pair ever marked valid is the answer of one driver read that passed
both checks. -/
theorem gasRecorded_maintained (D : Drivers ρ) : Maintained D.recorded GasRecorded where
  bookkeeping hmgr hx := hx.congr (congrArg SensorData.gasView hmgr) fun _ h => h
  lock hx := hx.congr rfl fun _ h => h
  stampTime hx := hx.congr rfl fun _ h => h
  temperatureHumidity hx := hx.congr (cacheTemperatureHumidity_gasView ..) fun _ h => h
  pressure hx := hx.congr (cachePressure_gasView ..) fun _ h => h
  airQuality {x} _ := by
    intro hvalid
    obtain ⟨hpasses, hview⟩ := cacheAirQuality_valid x.mgr.current hvalid
    exact ⟨_, List.mem_cons_self, hpasses, congrArg Prod.snd hview⟩
  battery hx := hx.congr (cacheBatteryLevel_gasView ..) fun _ h => h
  airQualityForBle {x} hx := by
    rw [sensorManagerUpdateAirQualityForBle]
    split_ifs
    · exact hx
    · simp only [ManagerRun.call, ManagerRun.modify]
      intro hvalid
      simp only [cacheAirQualityForBle_view] at hvalid ⊢
      split_ifs at hvalid ⊢ with hpass
      · exact ⟨_, List.mem_cons_self, hpass, rfl⟩
      · obtain ⟨answer, hmem, hpasses, hpair⟩ := hx hvalid
        exact ⟨answer, List.mem_cons_of_mem _ hmem, hpasses, hpair⟩
  isReady hx := hx.congr rfl fun _ h => h
  connected hx := hx.congr rfl fun _ h => h
  disconnected hx := hx.congr rfl fun _ h => h
  i2cReady hx := hx.congr rfl fun _ h => h
  initDrivers hx := hx.congr rfl fun _ h => h

/-! ### A run -/

/-- Drivers that always succeed, with one gas pair. -/
def steadyDrivers (co2Ppm tvocPpb : UInt16) : Drivers Unit where
  uptime _ := (0, ())
  lock _ := (0, ())
  hts221ReadBoth _ := (⟨0, .fin 20, .fin 40⟩, ())
  lps22hbReadPressure _ := (⟨0, .fin 100⟩, ())
  ccs811ReadAirQuality _ _ _ := (⟨0, co2Ppm, tvocPpb⟩, ())
  ccs811ReadForBle _ _ _ := (⟨0, co2Ppm, tvocPpb⟩, ())
  ccs811IsReady _ := (true, ())
  ccs811OnConnected _ := ()
  ccs811OnDisconnected _ := ()
  i2cReady _ := (true, ())
  initDrivers _ := ()
  batteryGetLevel _ := (50, ())
  batteryIsCharging _ := (false, ())

/-- Boot, then one `sensor_manager_get_data`. -/
def bootAndGet : List ManagerEvent := [.init, .getData]

end EnvMonitor
