import EnvMonitor.Lib.Rounds
import EnvMonitor.SensorManager.Runs

/-!
# Splitting an update

Whether the sensors are read in one update or in two makes no difference to the snapshot, as long
as the drivers answer the same: `update_split`. The exception is a first update that reads the air
quality and a second that reads temperature and humidity, because the air quality is compensated
with what the snapshot holds of them when it is read.

A read is a write to the fields of its own group and a mark on the flags of that group. Reads of
different groups commute unless one feeds the other, and a read done twice is a read done once, so
that an update is a round of reads in the sense of `Lib/Rounds.lean`.
-/

namespace EnvMonitor

variable {ρ : Type*}

/-! ### Fixed answers -/

/-- What the mutex, the drivers and the battery service answer. The CCS811 answers by the
temperature and humidity it is given. -/
structure DriverAnswers where
  lockRet : ℤ
  hts : HtsAnswer
  lps : LpsAnswer
  gas : CFloat → CFloat → GasAnswer
  batteryLevel : ℤ
  batteryCharging : Bool

/-- The drivers give these answers, whatever their state. The clock may run on. -/
structure AnswersFixed (D : Drivers ρ) (answers : DriverAnswers) : Prop where
  lock : ∀ env, (D.lock env).1 = answers.lockRet
  hts : ∀ env, (D.hts221ReadBoth env).1 = answers.hts
  lps : ∀ env, (D.lps22hbReadPressure env).1 = answers.lps
  gas : ∀ temperature humidity env,
    (D.ccs811ReadAirQuality temperature humidity env).1 = answers.gas temperature humidity
  batteryLevel : ∀ env, (D.batteryGetLevel env).1 = answers.batteryLevel
  batteryCharging : ∀ env, (D.batteryIsCharging env).1 = answers.batteryCharging

/-! ### Reads -/

/-- The four reads of an update. -/
inductive SensorRead where
  | tempHumidity
  | pressure
  | airQuality
  | battery
deriving DecidableEq

namespace SensorRead

/-- The order in which both updates read. -/
def order : List SensorRead := [.tempHumidity, .pressure, .airQuality, .battery]

/-- The flags that select the read, which are also those it marks. -/
def flags : SensorRead → SensorSelect
  | .tempHumidity => SensorSelect.tempHumidity
  | .pressure => SensorSelect.pressure
  | .airQuality => SensorSelect.airQuality
  | .battery => SensorSelect.battery

/-- The read function. -/
def run (D : Drivers ρ) : SensorRead → ManagerRun ρ → ℤ × ManagerRun ρ
  | .tempHumidity => readTemperatureHumidity D
  | .pressure => readPressure D
  | .airQuality => readAirQuality D
  | .battery => readBattery D

variable (answers : DriverAnswers)

/-- What the CCS811 answers next to this snapshot. -/
def gasAnswer (data : SensorData) : GasAnswer :=
  answers.gas (compensationTemperature data) (compensationHumidity data)

/-- What the read writes, its flags apart. -/
def fields : SensorRead → SensorData → SensorData
  | .tempHumidity, data => { data with
      temperature := if answers.hts.ret = 0 then answers.hts.temperature else data.temperature
      humidity := if answers.hts.ret = 0 then answers.hts.humidity else data.humidity }
  | .pressure, data => { data with
      pressure := if answers.lps.ret = 0 then answers.lps.pressure else data.pressure }
  | .airQuality, data =>
    let gas := gasAnswer answers data
    { data with
      eco2 := if gas.ret = 0 ∧ eco2Ok gas.co2Ppm then gas.co2Ppm else data.eco2
      tvoc := if gas.ret = 0 ∧ tvocOk gas.tvocPpb then gas.tvocPpb else data.tvoc }
  | .battery, data => { data with
      batteryLevel := if answers.batteryLevel ≥ 0 then UInt8.ofNat answers.batteryLevel.toNat
        else data.batteryLevel
      batteryCharging := answers.batteryCharging }

/-- Whether the read marks its flags as valid. -/
def passes : SensorRead → SensorData → Bool
  | .tempHumidity, _ => answers.hts.ret = 0
  | .pressure, _ => answers.lps.ret = 0
  | .airQuality, data =>
    let gas := gasAnswer answers data
    gas.ret = 0 && (eco2Ok gas.co2Ppm && tvocOk gas.tvocPpb)
  | .battery, _ => answers.batteryLevel ≥ 0

end SensorRead

/-- Set or clear flags. -/
def SensorData.mark (valid : Bool) (flags : SensorSelect) (data : SensorData) : SensorData :=
  { data with validMask := markFlag valid flags data.validMask }

/-- The read with fixed answers, on the snapshot. -/
def SensorRead.cached (answers : DriverAnswers) (read : SensorRead) (data : SensorData) :
    SensorData :=
  (read.fields answers data).mark (read.passes answers data) read.flags

namespace SensorRead

variable {answers : DriverAnswers}

/-- Only the air quality looks at flags, and only at those of temperature and humidity. -/
theorem gasAnswer_mark {flags : SensorSelect} (h : flags &&& SensorSelect.tempHumidity = 0#32)
    (valid : Bool) (data : SensorData) :
    gasAnswer answers (data.mark valid flags) = gasAnswer answers data := by
  have hflags : flags &&& SensorSelect.temperature = 0#32 ∧
      flags &&& SensorSelect.humidity = 0#32 := by
    rwa [SensorSelect.tempHumidity, BitVec.and_or_distrib_left, BitVec.or_eq_zero_iff] at h
  have htemperature : (data.mark valid flags).isValid .temperature = data.isValid .temperature :=
    hasAny_markFlag hflags.1 valid data.validMask
  have hhumidity : (data.mark valid flags).isValid .humidity = data.isValid .humidity :=
    hasAny_markFlag hflags.2 valid data.validMask
  rw [gasAnswer, compensationTemperature, compensationHumidity, htemperature, hhumidity]
  rfl

/-- Flags that do not feed a read may be marked before it or after it. -/
theorem fields_mark {read : SensorRead} {flags : SensorSelect}
    (h : read = .airQuality → flags &&& SensorSelect.tempHumidity = 0#32) (valid : Bool)
    (data : SensorData) :
    read.fields answers (data.mark valid flags) = (read.fields answers data).mark valid flags ∧
      read.passes answers (data.mark valid flags) = read.passes answers data := by
  cases read with
  | airQuality =>
    have hgas : gasAnswer answers (data.mark valid flags) = gasAnswer answers data :=
      gasAnswer_mark (h rfl) valid data
    exact ⟨by rw [fields, hgas]; rfl, by rw [passes, hgas]; rfl⟩
  | _ => exact ⟨rfl, rfl⟩

/-- One of the reads feeds the other. -/
def Fed (read read' : SensorRead) : Prop :=
  (read = .tempHumidity ∧ read' = .airQuality) ∨ (read = .airQuality ∧ read' = .tempHumidity)

/-- Reads that do not feed each other write next to each other. -/
theorem fields_comm (answers : DriverAnswers) {read read' : SensorRead} (hne : read ≠ read')
    (h : ¬ Fed read read') (data : SensorData) :
    read.fields answers (read'.fields answers data) =
        read'.fields answers (read.fields answers data) ∧
      read.passes answers (read'.fields answers data) = read.passes answers data := by
  cases read <;> cases read' <;>
    first
      | exact ⟨rfl, rfl⟩
      | exact absurd rfl hne
      | exact absurd (Or.inl ⟨rfl, rfl⟩) h
      | exact absurd (Or.inr ⟨rfl, rfl⟩) h

/-- A read writes the same twice. -/
theorem fields_fields (read : SensorRead) (data : SensorData) :
    read.fields answers (read.fields answers data) = read.fields answers data ∧
      read.passes answers (read.fields answers data) = read.passes answers data := by
  refine ⟨?_, by cases read <;> rfl⟩
  have hite : ∀ {α : Type} (p : Prop) [Decidable p] (x y : α),
      (if p then x else if p then x else y) = if p then x else y := by
    intro α p _ x y
    split_ifs <;> rfl
  cases read with
  | airQuality =>
    have hgas : gasAnswer answers (fields answers .airQuality data) = gasAnswer answers data := rfl
    rw [fields, hgas]
    simp only [fields, hite]
  | _ => simp only [fields, hite]

theorem flags_disjoint {read read' : SensorRead} (h : read ≠ read') :
    read.flags &&& read'.flags = 0#32 := by
  revert h
  cases read <;> cases read' <;> decide

/-- **Reads commute** unless they are the same or feed each other. -/
theorem cached_comm {read read' : SensorRead} (hne : read ≠ read') (h : ¬ Fed read read') :
    Function.Commute (read.cached answers) (read'.cached answers) := by
  have hfeeds : read = .airQuality → read'.flags &&& SensorSelect.tempHumidity = 0#32 := by
    rintro rfl
    exact flags_disjoint fun hread' => h (Or.inr ⟨rfl, hread'⟩)
  have hfeeds' : read' = .airQuality → read.flags &&& SensorSelect.tempHumidity = 0#32 := by
    rintro rfl
    exact flags_disjoint fun hread => h (Or.inl ⟨hread, rfl⟩)
  intro data
  obtain ⟨hfields, hpasses⟩ := fields_comm answers hne h data
  obtain ⟨-, hpasses'⟩ := fields_comm answers hne.symm
    (fun hfed => h (hfed.symm.imp And.symm And.symm)) data
  simp only [cached, fields_mark hfeeds, fields_mark hfeeds', hfields, hpasses, hpasses']
  rw [SensorData.mark, SensorData.mark, SensorData.mark, SensorData.mark,
    markFlag_comm (flags_disjoint hne)]

/-- **A read done twice is a read done once.** -/
theorem cached_cached (read : SensorRead) (data : SensorData) :
    read.cached answers (read.cached answers data) = read.cached answers data := by
  have hown : read = .airQuality → read.flags &&& SensorSelect.tempHumidity = 0#32 := by
    rintro rfl
    decide
  simp only [cached, fields_mark hown, fields_fields]
  rw [SensorData.mark, SensorData.mark, markFlag_markFlag]

/-! ### The read functions -/

private theorem cacheTemperatureHumidity_eq (answer : HtsAnswer) (data : SensorData) :
    cacheTemperatureHumidity answer data = { data with
      temperature := if answer.ret = 0 then answer.temperature else data.temperature
      humidity := if answer.ret = 0 then answer.humidity else data.humidity
      validMask := markFlag (answer.ret = 0) SensorSelect.tempHumidity data.validMask } := by
  have hset : data.validMask ||| SensorSelect.temperature ||| SensorSelect.humidity =
      data.validMask ||| SensorSelect.tempHumidity := BitVec.or_assoc ..
  have hclear : data.validMask &&& ~~~SensorSelect.temperature &&& ~~~SensorSelect.humidity =
      data.validMask &&& ~~~SensorSelect.tempHumidity := BitVec.and_assoc ..
  rw [cacheTemperatureHumidity]
  split_ifs with hret
  · simp only [SensorData.setValid, hset, markFlag, hret, decide_true, if_true]
  · simp only [SensorData.clearValid, hclear, markFlag, hret, decide_false, Bool.false_eq_true,
      if_false]

private theorem cachePressure_eq (answer : LpsAnswer) (data : SensorData) :
    cachePressure answer data = { data with
      pressure := if answer.ret = 0 then answer.pressure else data.pressure
      validMask := markFlag (answer.ret = 0) SensorSelect.pressure data.validMask } := by
  rw [cachePressure]
  split_ifs with hret
  · simp only [SensorData.setValid, markFlag, hret, decide_true, if_true]
  · simp only [SensorData.clearValid, markFlag, hret, decide_false, Bool.false_eq_true, if_false]

private theorem cacheAirQuality_eq (answer : GasAnswer) (data : SensorData) :
    cacheAirQuality answer data = { data with
      eco2 := if answer.ret = 0 ∧ eco2Ok answer.co2Ppm then answer.co2Ppm else data.eco2
      tvoc := if answer.ret = 0 ∧ tvocOk answer.tvocPpb then answer.tvocPpb else data.tvoc
      validMask := markFlag (answer.ret = 0 && (eco2Ok answer.co2Ppm && tvocOk answer.tvocPpb))
        SensorSelect.airQuality data.validMask } := by
  by_cases hret : answer.ret = 0
  · rw [cacheAirQuality, if_pos hret]
    cases heco2 : eco2Ok answer.co2Ppm <;> cases htvoc : tvocOk answer.tvocPpb <;>
      simp [SensorData.setValid, SensorData.clearValid, markFlag, hret]
  · rw [cacheAirQuality, if_neg hret]
    simp [SensorData.clearValid, markFlag, hret]

private theorem cacheBatteryLevel_eq (batLevel : ℤ) (data : SensorData) :
    cacheBatteryLevel batLevel data = { data with
      batteryLevel := if batLevel ≥ 0 then UInt8.ofNat batLevel.toNat else data.batteryLevel
      validMask := markFlag (batLevel ≥ 0) SensorSelect.battery data.validMask } := by
  rw [cacheBatteryLevel]
  split_ifs with hlevel
  · simp only [SensorData.setValid, markFlag, hlevel, decide_true, if_true]
  · simp only [SensorData.clearValid, markFlag, hlevel, decide_false, Bool.false_eq_true, if_false]

/-- A read function does to the static variables what its read does to the snapshot. -/
theorem run_mgr {D : Drivers ρ} (hD : AnswersFixed D answers) (read : SensorRead)
    (x : ManagerRun ρ) :
    (read.run D x).2.mgr = { x.mgr with current := read.cached answers x.mgr.current } := by
  cases read with
  | tempHumidity =>
    simp only [run, readTemperatureHumidity, ManagerRun.call, ManagerRun.modify, hD.hts,
      cacheTemperatureHumidity_eq]
    rfl
  | pressure =>
    simp only [run, readPressure, ManagerRun.call, ManagerRun.modify, hD.lps, cachePressure_eq]
    rfl
  | airQuality =>
    simp only [run, readAirQuality, ManagerRun.call, ManagerRun.modify, hD.gas, cacheAirQuality_eq]
    rfl
  | battery =>
    simp only [run, readBattery, ManagerRun.call, ManagerRun.modify, hD.batteryLevel,
      hD.batteryCharging, cacheBatteryLevel_eq]
    rfl

end SensorRead

/-! ### Updates -/

/-- The snapshot without its timestamp. -/
def SensorData.untimed (data : SensorData) : SensorData := { data with timestamp := 0 }

/-- The static variables without the timestamp of the snapshot. -/
def ManagerState.untimed (mgr : ManagerState) : ManagerState :=
  { mgr with current := mgr.current.untimed }

/-- An update with fixed answers, on the snapshot. -/
def refresh (answers : DriverAnswers) (sensors : SensorSelect) : SensorData → SensorData :=
  runSelected (SensorRead.cached answers) (fun read => hasAny sensors read.flags) SensorRead.order

/-- **Two updates are one**, unless the first reads the air quality and the second what it is
compensated with. -/
theorem refresh_refresh {answers : DriverAnswers} {sensors sensors' : SensorSelect}
    (h : ¬ (hasAny sensors SensorSelect.airQuality = true ∧
      hasAny sensors' SensorSelect.tempHumidity = true)) (data : SensorData) :
    refresh answers sensors' (refresh answers sensors data) =
      refresh answers (sensors ||| sensors') data := by
  have horder : SensorRead.order.Pairwise fun read read' =>
      read ≠ read' ∧ (read = .airQuality → read' ≠ .tempHumidity) := by decide
  simp only [refresh, hasAny_or_left]
  refine runSelected_merge SensorRead.cached_cached (horder.imp ?_) data
  rintro read read' ⟨hne, hafter⟩ hselected hselected'
  refine SensorRead.cached_comm hne ?_
  rintro (⟨rfl, rfl⟩ | ⟨rfl, rfl⟩)
  · exact h ⟨hselected, hselected'⟩
  · exact hafter rfl rfl

variable {D : Drivers ρ} {answers : DriverAnswers}

/-- The critical section of an update, up to the timestamp. -/
theorem selectiveSection_untimed (hD : AnswersFixed D answers) (sensors : SensorSelect)
    (x : ManagerRun ρ) :
    (selectiveSection D sensors x).mgr.untimed =
      { x.mgr.untimed with current := refresh answers sensors x.mgr.untimed.current } := by
  have hround : selectiveSection D sensors x =
      runSelected (fun read x => (read.run D x).2) (fun read => hasAny sensors read.flags)
        SensorRead.order (stampTime D x) := rfl
  have hread : ∀ (read : SensorRead) {y : ManagerRun ρ} {data : SensorData},
      y.mgr.untimed = { x.mgr.untimed with current := data } →
      (read.run D y).2.mgr.untimed =
        { x.mgr.untimed with current := read.cached answers data } := by
    intro read y data hy
    have hcurrent : y.mgr.current.untimed = data := congrArg ManagerState.current hy
    have huntimed : (read.cached answers y.mgr.current).untimed =
        read.cached answers y.mgr.current.untimed := by cases read <;> rfl
    rw [read.run_mgr hD, ManagerState.untimed, huntimed, hcurrent]
    exact congrArg (fun mgr : ManagerState =>
      { mgr with current := read.cached answers data }) hy
  rw [hround]
  exact runSelected_sim hread SensorRead.order rfl

/-- What an update returns, hands to the callback and leaves in the static variables, each without
the timestamp. -/
def updateOutcome (out : ℤ × Option SensorData × ManagerRun ρ) :
    ℤ × Option SensorData × ManagerState :=
  (out.1, out.2.1.map SensorData.untimed, out.2.2.mgr.untimed)

/-- The outcome of an update with fixed answers. -/
def refreshOutcome (answers : DriverAnswers) (sensors : SensorSelect) (mgr : ManagerState) :
    ℤ × Option SensorData × ManagerState :=
  if !mgr.initialized then (-EINVAL, none, mgr)
  else if answers.lockRet ≠ 0 then (answers.lockRet, none, mgr)
  else
    let mgr := { mgr with current := refresh answers sensors mgr.current }
    (0, if mgr.updateCallback then some mgr.current else none, mgr)

/-- The snapshot for the callback is the current one. -/
private theorem callbackSnapshot_untimed (x : ManagerRun ρ) :
    (callbackSnapshot x).map SensorData.untimed =
      if x.mgr.untimed.updateCallback then some x.mgr.untimed.current else none := by
  rw [callbackSnapshot, apply_ite (Option.map SensorData.untimed)]
  rfl

/-- **One update**: its outcome depends on the outcome before it and on nothing else. -/
theorem updateSelective_outcome (hD : AnswersFixed D answers) (sensors : SensorSelect)
    (x : ManagerRun ρ) :
    updateOutcome (sensorManagerUpdateSelective D sensors x) =
      refreshOutcome answers sensors x.mgr.untimed := by
  have hret : (x.call D.lock).1 = answers.lockRet := hD.lock x.env
  have hinit : x.mgr.untimed.initialized = x.mgr.initialized := rfl
  rw [sensorManagerUpdateSelective, lockedUpdate, refreshOutcome, hinit]
  dsimp only
  rw [hret]
  by_cases hoff : (!x.mgr.initialized) = true
  · rw [if_pos hoff, if_pos hoff]
    rfl
  · rw [if_neg hoff, if_neg hoff]
    by_cases hlock : answers.lockRet ≠ 0
    · rw [if_pos hlock, if_pos hlock]
      rfl
    · rw [if_neg hlock, if_neg hlock, updateOutcome, callbackSnapshot_untimed,
        selectiveSection_untimed hD sensors (x.call D.lock).2]
      rfl

/-- **Two updates in a row**, on the outcomes. -/
theorem refreshOutcome_refreshOutcome {sensors sensors' : SensorSelect}
    (h : ¬ (hasAny sensors SensorSelect.airQuality = true ∧
      hasAny sensors' SensorSelect.tempHumidity = true)) (mgr : ManagerState) :
    refreshOutcome answers sensors' (refreshOutcome answers sensors mgr).2.2 =
      refreshOutcome answers (sensors ||| sensors') mgr := by
  by_cases hinit : (!mgr.initialized) = true
  · simp only [refreshOutcome, if_pos hinit]
  · by_cases hlock : answers.lockRet ≠ 0
    · simp only [refreshOutcome, if_neg hinit, if_pos hlock]
    · simp only [refreshOutcome, if_neg hinit, if_neg hlock, refresh_refresh h]

/-- The snapshot that an update leaves depends on the snapshot before it and on whether the update
runs at all. -/
theorem updateSelective_current (hD : AnswersFixed D answers) (sensors : SensorSelect)
    (x : ManagerRun ρ) :
    (sensorManagerUpdateSelective D sensors x).2.2.mgr.current.untimed =
      if (!x.mgr.initialized) = true ∨ answers.lockRet ≠ 0 then x.mgr.current.untimed
      else refresh answers sensors x.mgr.current.untimed := by
  have houtcome : (sensorManagerUpdateSelective D sensors x).2.2.mgr.current.untimed =
      (refreshOutcome answers sensors x.mgr.untimed).2.2.current :=
    congrArg (fun out => out.2.2.current) (updateSelective_outcome hD sensors x)
  have hinit : x.mgr.untimed.initialized = x.mgr.initialized := rfl
  rw [houtcome, refreshOutcome, hinit]
  by_cases hoff : (!x.mgr.initialized) = true
  · rw [if_pos hoff, if_pos (Or.inl hoff)]
    rfl
  · rw [if_neg hoff]
    by_cases hlock : answers.lockRet ≠ 0
    · rw [if_pos hlock, if_pos (Or.inr hlock)]
      rfl
    · rw [if_neg hlock, if_neg (not_or.mpr ⟨hoff, hlock⟩)]
      rfl

/-- **Splitting an update.** While the drivers answer the same:

* an update of some sensors and then one of others comes to the same, for the caller, the last
  callback and the static variables, as one update of both, unless the first reads the air quality
  and the second temperature and humidity;
* `sensor_manager_update` is the selective update of `SENSOR_ENV_FULL`, timestamp included;
* the two updates of a connection, after its bookkeeping, leave the snapshot that a full update
  leaves. -/
theorem update_split (hD : AnswersFixed D answers) (x : ManagerRun ρ) :
    (∀ sensors sensors' : SensorSelect,
      ¬ (hasAny sensors SensorSelect.airQuality = true ∧
        hasAny sensors' SensorSelect.tempHumidity = true) →
      updateOutcome (sensorManagerUpdateSelective D sensors'
          (sensorManagerUpdateSelective D sensors x).2.2) =
        updateOutcome (sensorManagerUpdateSelective D (sensors ||| sensors') x)) ∧
      sensorManagerUpdate D x = sensorManagerUpdateSelective D .envFull x ∧
      (sensorManagerUpdateSelective D .airQuality (sensorManagerUpdateSelective D .envBasic
          (sensorManagerTrackConnected D x).2).2.2).2.2.mgr.current.untimed =
        (sensorManagerUpdate D x).2.2.mgr.current.untimed := by
  have hfull : ∀ y : ManagerRun ρ,
      sensorManagerUpdate D y = sensorManagerUpdateSelective D .envFull y := fun _ => rfl
  have hsplit : ∀ (y : ManagerRun ρ) (sensors sensors' : SensorSelect),
      ¬ (hasAny sensors SensorSelect.airQuality = true ∧
        hasAny sensors' SensorSelect.tempHumidity = true) →
      updateOutcome (sensorManagerUpdateSelective D sensors'
          (sensorManagerUpdateSelective D sensors y).2.2) =
        updateOutcome (sensorManagerUpdateSelective D (sensors ||| sensors') y) := by
    intro y sensors sensors' h
    have hfirst := congrArg (fun out => out.2.2) (updateSelective_outcome hD sensors y)
    rw [updateSelective_outcome hD, updateSelective_outcome hD,
      ← refreshOutcome_refreshOutcome h, ← hfirst]
    rfl
  refine ⟨hsplit x, hfull x, ?_⟩
  -- the bookkeeping of a connection changes nothing that an update looks at
  have htrack : (sensorManagerTrackConnected D x).2.mgr.current = x.mgr.current ∧
      (sensorManagerTrackConnected D x).2.mgr.initialized = x.mgr.initialized := by
    rw [sensorManagerTrackConnected]
    split_ifs <;> exact ⟨rfl, rfl⟩
  have hconnect := congrArg (fun out => out.2.2.current)
    (hsplit (sensorManagerTrackConnected D x).2 .envBasic .airQuality (by decide))
  refine hconnect.trans ?_
  have hunion : SensorSelect.envBasic ||| SensorSelect.airQuality = SensorSelect.envFull := rfl
  rw [hfull, hunion, updateSelective_current hD, ← htrack.1, ← htrack.2,
    ← updateSelective_current hD]
  rfl

/-- The answers of `steadyDrivers`. -/
def steadyAnswers (co2Ppm tvocPpb : UInt16) : DriverAnswers where
  lockRet := 0
  hts := ⟨0, .fin 20, .fin 40⟩
  lps := ⟨0, .fin 100⟩
  gas _ _ := ⟨0, co2Ppm, tvocPpb⟩
  batteryLevel := 50
  batteryCharging := false

theorem steadyDrivers_answersFixed (co2Ppm tvocPpb : UInt16) :
    AnswersFixed (steadyDrivers co2Ppm tvocPpb) (steadyAnswers co2Ppm tvocPpb) :=
  ⟨fun _ => rfl, fun _ => rfl, fun _ => rfl, fun _ _ _ => rfl, fun _ => rfl, fun _ => rfl⟩

/-- A booted manager over steady drivers. -/
def steadyManager : ManagerRun Unit := ⟨{ managerStart with initialized := true }, ()⟩

/-- `update_split` over steady drivers, for the two updates of a connection. -/
theorem update_split_steady :
    let D := steadyDrivers 600 100
    updateOutcome (sensorManagerUpdateSelective D .airQuality
        (sensorManagerUpdateSelective D .envBasic steadyManager).2.2) =
      updateOutcome (sensorManagerUpdateSelective D (.envBasic ||| .airQuality) steadyManager) ∧
    sensorManagerUpdate D steadyManager =
      sensorManagerUpdateSelective D .envFull steadyManager := by
  intro D
  obtain ⟨hsplit, hfull, -⟩ := update_split (steadyDrivers_answersFixed 600 100) steadyManager
  exact ⟨hsplit .envBasic .airQuality (by decide), hfull⟩

end EnvMonitor
