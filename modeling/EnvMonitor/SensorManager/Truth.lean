import EnvMonitor.SensorManager.Runs

/-!
# The valid mask tells the truth

An update selects groups of the snapshot: temperature and humidity, pressure, the gases, the
battery. `Touches` is what a piece of the sensor manager that works on some groups leaves
alone, in the snapshot and in the logs of the drivers. An update is a chain of such pieces, one
for each selected group, so what a piece does to its own group is still there at the end of the
update, and what the CCS811 was given is what the snapshot says afterwards.

The update for a read of a gas has semantics of its own: it takes no mutex, stamps no time and
keeps the flag of the gases where a locked read would clear it.
-/

namespace EnvMonitor

variable {ρ : Type*}

/-! ### The calls an update makes -/

/-- The temperatures and humidities given to the CCS811 driver and the answers of
`battery_service_get_level`, latest first. -/
structure CallLog where
  compensation : List (CFloat × CFloat) := []
  battery : List ℤ := []

/-- The same drivers with a log of these calls. -/
def Drivers.called (D : Drivers ρ) : Drivers (ρ × CallLog) where
  uptime := unnoted D.uptime
  lock := unnoted D.lock
  hts221ReadBoth := unnoted D.hts221ReadBoth
  lps22hbReadPressure := unnoted D.lps22hbReadPressure
  ccs811ReadAirQuality temp humidity :=
    noting (fun _ log => { log with compensation := (temp, humidity) :: log.compensation })
      (D.ccs811ReadAirQuality temp humidity)
  ccs811ReadForBle temp humidity :=
    noting (fun _ log => { log with compensation := (temp, humidity) :: log.compensation })
      (D.ccs811ReadForBle temp humidity)
  ccs811IsReady := unnoted D.ccs811IsReady
  ccs811OnConnected s := (D.ccs811OnConnected s.1, s.2)
  ccs811OnDisconnected s := (D.ccs811OnDisconnected s.1, s.2)
  i2cReady := unnoted D.i2cReady
  initDrivers s := (D.initDrivers s.1, s.2)
  batteryGetLevel := noting (fun level log => { log with battery := level :: log.battery })
    D.batteryGetLevel
  batteryIsCharging := unnoted D.batteryIsCharging

/-- The same drivers with a log of every answer and of the compensation. -/
def Drivers.logged (D : Drivers ρ) : Drivers ((ρ × CallLog) × SensorLog) := D.called.recorded

/-- A run over logged drivers. -/
abbrev LoggedRun (ρ : Type*) := ManagerRun ((ρ × CallLog) × SensorLog)

/-- The answers of the sensors in a run. -/
def ManagerRun.sensors (x : LoggedRun ρ) : SensorLog := x.env.2

/-- The calls of a run. -/
def ManagerRun.calls (x : LoggedRun ρ) : CallLog := x.env.1.2

/-! ### What an update selects -/

/-- The flags of a group, if it is selected. -/
def groupIf (selected : Bool) (group : SensorSelect) : SensorSelect :=
  if selected then group else 0#32

/-- The flags of the groups that a mask selects. Any flag of a group selects all of it, and a
flag of no group selects nothing. -/
def selectedGroups (sensors : SensorSelect) : SensorSelect :=
  groupIf (hasAny sensors SensorSelect.tempHumidity) SensorSelect.tempHumidity |||
    groupIf (hasAny sensors SensorSelect.pressure) SensorSelect.pressure |||
    groupIf (hasAny sensors SensorSelect.airQuality) SensorSelect.airQuality |||
    groupIf (hasAny sensors SensorSelect.battery) SensorSelect.battery

theorem hasAny_groupIf {group flag : SensorSelect} (h : hasAny group flag = false)
    (selected : Bool) : hasAny (groupIf selected group) flag = false := by
  cases selected with
  | false => exact hasAny_eq_false.mpr (BitVec.zero_and)
  | true => exact h

/-! ### What a piece of an update leaves alone -/

/-- `x'` differs from `x` at most in the timestamp and in the groups that `flags` meets, their
drivers' logs included. -/
structure Touches (flags : SensorSelect) (x x' : LoggedRun ρ) : Prop where
  snapshot : x.mgr.current.Frame flags x'.mgr.current
  hts : hasAny flags SensorSelect.tempHumidity = false → x'.sensors.hts = x.sensors.hts
  lps : hasAny flags SensorSelect.pressure = false → x'.sensors.lps = x.sensors.lps
  compensation : hasAny flags SensorSelect.airQuality = false →
    x'.calls.compensation = x.calls.compensation
  battery : hasAny flags SensorSelect.battery = false → x'.calls.battery = x.calls.battery

namespace Touches

variable {flags flags' : SensorSelect} {x x' x'' : LoggedRun ρ}

theorem refl (flags : SensorSelect) (x : LoggedRun ρ) : Touches flags x x :=
  ⟨SensorData.Frame.refl _ _, fun _ => rfl, fun _ => rfl, fun _ => rfl, fun _ => rfl⟩

theorem trans (h : Touches flags x x') (h' : Touches flags' x' x'') :
    Touches (flags ||| flags') x x'' := by
  have hsplit : ∀ {flag : SensorSelect}, hasAny (flags ||| flags') flag = false →
      hasAny flags flag = false ∧ hasAny flags' flag = false := by
    intro flag hflag
    rwa [hasAny_or_left, Bool.or_eq_false_iff] at hflag
  refine ⟨h.snapshot.trans h'.snapshot, fun hd => ?_, fun hd => ?_, fun hd => ?_, fun hd => ?_⟩ <;>
    obtain ⟨hd, hd'⟩ := hsplit hd
  · exact (h'.hts hd').trans (h.hts hd)
  · exact (h'.lps hd').trans (h.lps hd)
  · exact (h'.compensation hd').trans (h.compensation hd)
  · exact (h'.battery hd').trans (h.battery hd)

/-- A read that is not selected touches nothing. -/
theorem readIf {read : LoggedRun ρ → ℤ × LoggedRun ρ} {group : SensorSelect}
    (hread : Touches group x (read x).2) (selected : Bool) :
    Touches (groupIf selected group) x (readIf selected read x) := by
  cases selected with
  | false => exact refl _ x
  | true => exact hread

end Touches

section Pieces

variable (D : Drivers ρ) (x : LoggedRun ρ)

theorem touches_stampTime : Touches 0#32 x (stampTime D.logged x) :=
  ⟨⟨fun _ => rfl, fun _ => ⟨rfl, rfl⟩, fun _ => rfl, fun _ => ⟨rfl, rfl⟩, fun _ => ⟨rfl, rfl⟩⟩,
    fun _ => rfl, fun _ => rfl, fun _ => rfl, fun _ => rfl⟩

theorem touches_readTemperatureHumidity :
    Touches SensorSelect.tempHumidity x (readTemperatureHumidity D.logged x).2 :=
  ⟨cacheTemperatureHumidity_frame _ _, fun h => absurd h (by decide), fun _ => rfl,
    fun _ => rfl, fun _ => rfl⟩

theorem touches_readPressure : Touches SensorSelect.pressure x (readPressure D.logged x).2 :=
  ⟨cachePressure_frame _ _, fun _ => rfl, fun h => absurd h (by decide),
    fun _ => rfl, fun _ => rfl⟩

theorem touches_readAirQuality :
    Touches SensorSelect.airQuality x (readAirQuality D.logged x).2 :=
  ⟨cacheAirQuality_frame _ _, fun _ => rfl, fun _ => rfl,
    fun h => absurd h (by decide), fun _ => rfl⟩

theorem touches_readBattery : Touches SensorSelect.battery x (readBattery D.logged x).2 := by
  have hcharging : ∀ (data : SensorData) (charging : Bool),
      data.Frame SensorSelect.battery { data with batteryCharging := charging } :=
    fun _ _ => ⟨fun _ => rfl, fun _ => ⟨rfl, rfl⟩, fun _ => rfl, fun _ => ⟨rfl, rfl⟩,
      fun h => absurd h (by decide)⟩
  have hsnapshot : x.mgr.current.Frame (SensorSelect.battery ||| SensorSelect.battery)
      (readBattery D.logged x).2.mgr.current :=
    (cacheBatteryLevel_frame _ _).trans (hcharging _ _)
  rw [BitVec.or_self] at hsnapshot
  exact ⟨hsnapshot, fun _ => rfl, fun _ => rfl, fun _ => rfl, fun h => absurd h (by decide)⟩

theorem touches_airQualityForBle :
    Touches SensorSelect.airQuality x (sensorManagerUpdateAirQualityForBle D.logged x) := by
  rw [sensorManagerUpdateAirQualityForBle]
  split_ifs
  · exact Touches.refl _ x
  · exact ⟨cacheAirQualityForBle_frame _ _, fun _ => rfl, fun _ => rfl,
      fun h => absurd h (by decide), fun _ => rfl⟩

end Pieces

/-! ### Truth -/

/-- What an update of the selection `sensors` reports: the answers it got, and in each selected
group the flag set exactly if the read succeeded, with the values of the answer, or cleared
over the values that were there. The level of the battery is converted to `uint8_t`. -/
structure Truthful (sensors : SensorSelect) (x x' : LoggedRun ρ) : Prop where
  tempHumidity : hasAny sensors SensorSelect.tempHumidity = true →
    ∃ answer, x'.sensors.hts = answer :: x.sensors.hts ∧
      x'.mgr.current.tempHumidityView =
        if answer.ret = 0 then ((true, answer.temperature), true, answer.humidity)
        else ((false, x.mgr.current.temperature), false, x.mgr.current.humidity)
  pressure : hasAny sensors SensorSelect.pressure = true →
    ∃ answer, x'.sensors.lps = answer :: x.sensors.lps ∧
      x'.mgr.current.pressureView =
        if answer.ret = 0 then (true, answer.pressure) else (false, x.mgr.current.pressure)
  battery : hasAny sensors SensorSelect.battery = true →
    ∃ level, x'.calls.battery = level :: x.calls.battery ∧
      (x'.mgr.current.batteryView =
        if 0 ≤ level then (true, UInt8.ofNat level.toNat)
        else (false, x.mgr.current.batteryLevel)) ∧
      (0 ≤ level → level ≤ 255 → (x'.mgr.current.batteryLevel.toNat : ℤ) = level)

/-- Pieces that leave the group alone, before or after, do not change the report on it. -/
theorem Truthful.framed {group before after : SensorSelect} {x y z w : LoggedRun ρ}
    (h : Truthful group y z)
    (hgroup : (hasAny group SensorSelect.tempHumidity = true → SensorSelect.tempHumidity = group) ∧
      (hasAny group SensorSelect.pressure = true → SensorSelect.pressure = group) ∧
      (hasAny group SensorSelect.battery = true → SensorSelect.battery = group))
    (hxy : Touches before x y) (hbefore : hasAny before group = false)
    (hzw : Touches after z w) (hafter : hasAny after group = false) : Truthful group x w := by
  refine ⟨fun hsel => ?_, fun hsel => ?_, fun hsel => ?_⟩
  · obtain ⟨answer, hlog, hview⟩ := h.tempHumidity hsel
    obtain rfl := hgroup.1 hsel
    obtain ⟨htemp, hhum⟩ := hxy.snapshot.tempHumidity hbefore
    rw [hxy.hts hbefore] at hlog
    rw [htemp, hhum] at hview
    exact ⟨answer, (hzw.hts hafter).trans hlog,
      (hzw.snapshot.tempHumidityView hafter).trans hview⟩
  · obtain ⟨answer, hlog, hview⟩ := h.pressure hsel
    obtain rfl := hgroup.2.1 hsel
    rw [hxy.lps hbefore] at hlog
    rw [hxy.snapshot.pressure hbefore] at hview
    exact ⟨answer, (hzw.lps hafter).trans hlog, (hzw.snapshot.pressureView hafter).trans hview⟩
  · obtain ⟨level, hlog, hview, hlevel⟩ := h.battery hsel
    obtain rfl := hgroup.2.2 hsel
    rw [hxy.battery hbefore] at hlog
    rw [(hxy.snapshot.battery hbefore).1] at hview
    rw [← (hzw.snapshot.battery hafter).1] at hlevel
    exact ⟨level, (hzw.battery hafter).trans hlog,
      (hzw.snapshot.batteryView hafter).trans hview, hlevel⟩

section Reads

variable (D : Drivers ρ) (x : LoggedRun ρ)

theorem truthful_readTemperatureHumidity :
    Truthful SensorSelect.tempHumidity x (readTemperatureHumidity D.logged x).2 :=
  ⟨fun _ => ⟨_, rfl, cacheTemperatureHumidity_view _ _⟩, fun h => absurd h (by decide),
    fun h => absurd h (by decide)⟩

theorem truthful_readPressure :
    Truthful SensorSelect.pressure x (readPressure D.logged x).2 :=
  ⟨fun h => absurd h (by decide), fun _ => ⟨_, rfl, cachePressure_view _ _⟩,
    fun h => absurd h (by decide)⟩

/-- A level that fits `uint8_t` is reported as it is. -/
theorem truthful_readBattery : Truthful SensorSelect.battery x (readBattery D.logged x).2 :=
  ⟨fun h => absurd h (by decide), fun h => absurd h (by decide),
    fun _ => ⟨_, rfl, cacheBatteryLevel_view _ _, cacheBatteryLevel_toNat _⟩⟩

end Reads

/-- Every call of the CCS811 driver on the way was given the temperature and humidity of the
snapshot reached, if their flags are set, and NaN for both otherwise. -/
def Compensated (x x' : LoggedRun ρ) : Prop :=
  ∃ calls, x'.calls.compensation = calls ++ x.calls.compensation ∧
    ∀ call ∈ calls, call =
      if x'.mgr.current.isValid .temperature = true ∧ x'.mgr.current.isValid .humidity = true
      then (x'.mgr.current.temperature, x'.mgr.current.humidity)
      else (.nan, .nan)

/-- One call, given the compensation of a snapshot whose temperature and humidity stay as they
are. -/
theorem compensated_of_call {x x' : LoggedRun ρ} {data : SensorData}
    (hlog : x'.calls.compensation =
      (compensationTemperature data, compensationHumidity data) :: x.calls.compensation)
    (hview : x'.mgr.current.tempHumidityView = data.tempHumidityView)
    (hpair : x'.mgr.current.isValid .temperature = x'.mgr.current.isValid .humidity) :
    Compensated x x' := by
  refine ⟨[_], hlog, fun call hcall => ?_⟩
  obtain rfl := List.mem_singleton.mp hcall
  simp only [SensorData.tempHumidityView, Prod.mk.injEq] at hview
  obtain ⟨⟨htempValid, htemp⟩, hhumValid, hhum⟩ := hview
  rw [compensationTemperature, compensationHumidity, ← htempValid, ← htemp, ← hhumValid, ← hhum,
    hpair]
  cases x'.mgr.current.isValid .humidity <;> rfl

section Section

variable (D : Drivers ρ) (sensors : SensorSelect) (x : LoggedRun ρ)

/-- The first read of the critical section, if selected. -/
private theorem touches_tempHumidityIf :
    Touches (groupIf (hasAny sensors SensorSelect.tempHumidity) SensorSelect.tempHumidity) x
      (readIf (hasAny sensors SensorSelect.tempHumidity) (readTemperatureHumidity D.logged)
        (stampTime D.logged x)) := by
  have htouches := (touches_stampTime D x).trans
    ((touches_readTemperatureHumidity D (stampTime D.logged x)).readIf
      (hasAny sensors SensorSelect.tempHumidity))
  rwa [BitVec.zero_or] at htouches

private theorem touches_pressureIf :
    Touches (groupIf (hasAny sensors SensorSelect.pressure) SensorSelect.pressure) x
      (readIf (hasAny sensors SensorSelect.pressure) (readPressure D.logged) x) :=
  (touches_readPressure D x).readIf _

private theorem touches_airQualityIf :
    Touches (groupIf (hasAny sensors SensorSelect.airQuality) SensorSelect.airQuality) x
      (readIf (hasAny sensors SensorSelect.airQuality) (readAirQuality D.logged) x) :=
  (touches_readAirQuality D x).readIf _

private theorem touches_batteryIf :
    Touches (groupIf (hasAny sensors SensorSelect.battery) SensorSelect.battery) x
      (readIf (hasAny sensors SensorSelect.battery) (readBattery D.logged) x) :=
  (touches_readBattery D x).readIf _

/-- The critical section touches the selected groups. -/
theorem touches_selectiveSection :
    Touches (selectedGroups sensors) x (selectiveSection D.logged sensors x) :=
  (((touches_tempHumidityIf D sensors x).trans (touches_pressureIf D sensors _)).trans
    (touches_airQualityIf D sensors _)).trans (touches_batteryIf D sensors _)

/-- And reports truthfully on them: the other reads leave alone what each of them has done. -/
theorem truthful_selectiveSection :
    Truthful sensors x (selectiveSection D.logged sensors x) := by
  have htemp : hasAny sensors SensorSelect.tempHumidity = true →
      Truthful SensorSelect.tempHumidity x (selectiveSection D.logged sensors x) := by
    intro hsel
    have hrest := ((touches_pressureIf D sensors
      (readTemperatureHumidity D.logged (stampTime D.logged x)).2).trans
      (touches_airQualityIf D sensors _)).trans (touches_batteryIf D sensors _)
    have htruth := (truthful_readTemperatureHumidity D (stampTime D.logged x)).framed (by decide)
      (touches_stampTime D x) (by decide) hrest
      (by simp (disch := decide) only [hasAny_or_left, hasAny_groupIf, Bool.or_self])
    rw [selectiveSection, hsel]
    exact htruth
  have hpress : hasAny sensors SensorSelect.pressure = true →
      Truthful SensorSelect.pressure x (selectiveSection D.logged sensors x) := by
    intro hsel
    have hrest := (touches_airQualityIf D sensors (readPressure D.logged
      (readIf (hasAny sensors SensorSelect.tempHumidity) (readTemperatureHumidity D.logged)
        (stampTime D.logged x))).2).trans (touches_batteryIf D sensors _)
    have htruth := (truthful_readPressure D _).framed (by decide)
      (touches_tempHumidityIf D sensors x) (hasAny_groupIf (by decide) _) hrest
      (by simp (disch := decide) only [hasAny_or_left, hasAny_groupIf, Bool.or_self])
    rw [selectiveSection, hsel]
    exact htruth
  have hbat : hasAny sensors SensorSelect.battery = true →
      Truthful SensorSelect.battery x (selectiveSection D.logged sensors x) := by
    intro hsel
    have hbefore := ((touches_tempHumidityIf D sensors x).trans
      (touches_pressureIf D sensors _)).trans (touches_airQualityIf D sensors _)
    have htruth := (truthful_readBattery D _).framed (by decide) hbefore
      (by simp (disch := decide) only [hasAny_or_left, hasAny_groupIf, Bool.or_self])
      (Touches.refl 0#32 _) (by decide)
    rw [selectiveSection, hsel]
    exact htruth
  exact ⟨fun hsel => (htemp hsel).tempHumidity (by decide),
    fun hsel => (hpress hsel).pressure (by decide), fun hsel => (hbat hsel).battery (by decide)⟩

/-- The CCS811 was given what the snapshot says afterwards, if the flags of temperature and
humidity are equal. -/
theorem compensated_selectiveSection
    (hpair : (selectiveSection D.logged sensors x).mgr.current.isValid .temperature =
      (selectiveSection D.logged sensors x).mgr.current.isValid .humidity) :
    Compensated x (selectiveSection D.logged sensors x) := by
  cases hsel : hasAny sensors SensorSelect.airQuality with
  | false =>
    have hnone : hasAny (selectedGroups sensors) SensorSelect.airQuality = false := by
      rw [selectedGroups, hsel]
      simp (disch := decide) only [hasAny_or_left, hasAny_groupIf, Bool.or_self]
      rfl
    exact ⟨[], (touches_selectiveSection D sensors x).compensation hnone,
      fun call hcall => absurd hcall List.not_mem_nil⟩
  | true =>
    have hbefore := (touches_tempHumidityIf D sensors x).trans (touches_pressureIf D sensors _)
    have hafter := (touches_readAirQuality D (readIf (hasAny sensors SensorSelect.pressure)
      (readPressure D.logged) (readIf (hasAny sensors SensorSelect.tempHumidity)
        (readTemperatureHumidity D.logged) (stampTime D.logged x)))).trans
      (touches_batteryIf D sensors _)
    have hlog := (touches_batteryIf D sensors (readAirQuality D.logged
      (readIf (hasAny sensors SensorSelect.pressure) (readPressure D.logged)
        (readIf (hasAny sensors SensorSelect.tempHumidity) (readTemperatureHumidity D.logged)
          (stampTime D.logged x)))).2).compensation (hasAny_groupIf (by decide) _)
    rw [selectiveSection, hsel] at hpair ⊢
    refine compensated_of_call (hlog.trans (congrArg _ (hbefore.compensation ?_)))
      (hafter.snapshot.tempHumidityView ?_) hpair
    · simp (disch := decide) only [hasAny_or_left, hasAny_groupIf, Bool.or_self]
    · simp (disch := decide) only [hasAny_or_left, hasAny_groupIf]
      decide

end Section

/-! ### Runs -/

/-- `SENSOR_ALL`. -/
def SensorSelect.all : SensorSelect := 0xFF

/-- The three updates of the sensor manager. -/
inductive ManagerUpdate where
  | update
  | updateSelective (sensors : SensorSelect)
  | updateAirQualityForBle

namespace ManagerUpdate

/-- What the update selects. -/
def sensors : ManagerUpdate → SensorSelect
  | .update => SensorSelect.all
  | .updateSelective sensors => sensors
  | .updateAirQualityForBle => SensorSelect.airQuality

/-- What the update does to a run. -/
def apply (D : Drivers ρ) (u : ManagerUpdate) (x : ManagerRun ρ) : ManagerRun ρ :=
  match u with
  | .update => (sensorManagerUpdate D x).2.2
  | .updateSelective sensors => (sensorManagerUpdateSelective D sensors x).2.2
  | .updateAirQualityForBle => sensorManagerUpdateAirQualityForBle D x

end ManagerUpdate

/-- Once the mutex is acquired, an update of an initialised manager is its critical section. -/
theorem lockedUpdate_run {D : Drivers ρ} (hlock : ∀ env, (D.lock env).1 = 0)
    (body : ManagerRun ρ → ManagerRun ρ) (x : ManagerRun ρ) :
    (lockedUpdate D body x).2.2 =
      if x.mgr.initialized then body (x.call D.lock).2 else x := by
  have hret : (x.call D.lock).1 = 0 := hlock x.env
  rcases hcall : x.call D.lock with ⟨ret, x'⟩
  obtain rfl : ret = 0 := by
    rw [hcall] at hret
    exact hret
  cases hinit : x.mgr.initialized <;> simp [lockedUpdate, hinit, hcall]

/-- The flags of temperature and humidity are equal. -/
def TempHumidityPaired (x : ManagerRun ρ) : Prop :=
  x.mgr.current.isValid .temperature = x.mgr.current.isValid .humidity

theorem managerStart_tempHumidityPaired (env : ρ) :
    TempHumidityPaired (⟨managerStart, env⟩ : ManagerRun ρ) :=
  (by decide : managerStart.current.isValid .temperature =
    managerStart.current.isValid .humidity)

private theorem TempHumidityPaired.congr {x x' : ManagerRun ρ} (hx : TempHumidityPaired x)
    (hview : x'.mgr.current.tempHumidityView = x.mgr.current.tempHumidityView) :
    TempHumidityPaired x' := by
  simp only [SensorData.tempHumidityView, Prod.mk.injEq] at hview
  rw [TempHumidityPaired, hview.1.1, hview.2.1]
  exact hx

/-- **Invariant.** They always are: only the read of both changes either. -/
theorem tempHumidityPaired_maintained (D : Drivers ρ) : Maintained D TempHumidityPaired where
  bookkeeping hmgr hx := hx.congr (congrArg SensorData.tempHumidityView hmgr)
  lock hx := hx.congr rfl
  stampTime hx := hx.congr rfl
  temperatureHumidity {x} _ := by
    have hview := cacheTemperatureHumidity_view x.mgr.current (x.call D.hts221ReadBoth).1
    have htemp := congrArg (fun view => view.1.1) hview
    have hhum := congrArg (fun view => view.2.1) hview
    refine htemp.trans (Eq.trans ?_ hhum.symm)
    split_ifs <;> rfl
  pressure hx := hx.congr (cachePressure_tempHumidityView ..)
  airQuality hx := hx.congr (cacheAirQuality_tempHumidityView ..)
  battery hx := hx.congr (cacheBatteryLevel_tempHumidityView ..)
  airQualityForBle {x} hx := by
    rw [sensorManagerUpdateAirQualityForBle]
    split_ifs
    · exact hx
    · exact hx.congr (cacheAirQualityForBle_tempHumidityView ..)
  isReady hx := hx.congr rfl
  connected hx := hx.congr rfl
  disconnected hx := hx.congr rfl
  i2cReady hx := hx.congr rfl
  initDrivers hx := hx.congr rfl

/-- What an update promises of the step from `x` to `x'`: it changes only the timestamp and what
it selected, it reports truthfully, and it gives the CCS811 the cached compensation. -/
structure UpdateTold (sensors : SensorSelect) (x x' : LoggedRun ρ) : Prop where
  frame : x.mgr.current.Frame (selectedGroups sensors) x'.mgr.current
  truthful : x.mgr.initialized = true → Truthful sensors x x'
  compensated : Compensated x x'

section Updates

variable {D : Drivers ρ} {x : LoggedRun ρ}

/-- An update that does nothing promises nothing false. -/
theorem updateTold_refl {sensors : SensorSelect} (h : x.mgr.initialized = false) :
    UpdateTold sensors x x where
  frame := SensorData.Frame.refl _ _
  truthful hinit := absurd (h.symm.trans hinit) Bool.false_ne_true
  compensated := ⟨[], rfl, fun _ hcall => absurd hcall List.not_mem_nil⟩

/-- **Locked updates.** -/
theorem updateTold_selective (hlock : ∀ env, (D.logged.lock env).1 = 0) (sensors : SensorSelect)
    (hx : TempHumidityPaired x) :
    UpdateTold sensors x (sensorManagerUpdateSelective D.logged sensors x).2.2 := by
  have hpaired := (tempHumidityPaired_maintained D.logged).kept.updateSelective sensors hx
  rw [sensorManagerUpdateSelective, lockedUpdate_run hlock] at hpaired ⊢
  cases hinit : x.mgr.initialized with
  | false => exact updateTold_refl hinit
  | true =>
    rw [hinit, if_pos rfl] at hpaired
    rw [if_pos rfl]
    -- the mutex changes neither the snapshot nor a log
    have htruth := truthful_selectiveSection D sensors (x.call D.logged.lock).2
    exact ⟨(touches_selectiveSection D sensors (x.call D.logged.lock).2).snapshot,
      fun _ => ⟨htruth.tempHumidity, htruth.pressure, htruth.battery⟩,
      compensated_selectiveSection D sensors (x.call D.logged.lock).2 hpaired⟩

/-- **The update for a read of a gas.** -/
theorem updateTold_airQualityForBle (hx : TempHumidityPaired x) :
    UpdateTold SensorSelect.airQuality x (sensorManagerUpdateAirQualityForBle D.logged x) := by
  have hpaired := (tempHumidityPaired_maintained D.logged).airQualityForBle hx
  have htouches := touches_airQualityForBle D x
  cases hinit : x.mgr.initialized with
  | false =>
    rw [sensorManagerUpdateAirQualityForBle, hinit]
    exact updateTold_refl hinit
  | true =>
    have hview := htouches.snapshot.tempHumidityView (by decide)
    refine ⟨htouches.snapshot, fun _ => ?_, ?_⟩
    · exact ⟨fun h => absurd h (by decide), fun h => absurd h (by decide),
        fun h => absurd h (by decide)⟩
    · refine compensated_of_call ?_ hview hpaired
      rw [sensorManagerUpdateAirQualityForBle, hinit]
      rfl

theorem updateTold_apply (hlock : ∀ env, (D.lock env).1 = 0) (u : ManagerUpdate)
    (hx : TempHumidityPaired x) : UpdateTold u.sensors x (u.apply D.logged x) := by
  have hlock' : ∀ env, (D.logged.lock env).1 = 0 := fun env => hlock env.1.1
  cases u with
  | update => exact updateTold_selective hlock' SensorSelect.all hx
  | updateSelective sensors => exact updateTold_selective hlock' sensors hx
  | updateAirQualityForBle => exact updateTold_airQualityForBle hx

end Updates

/-- The checks of the sensor manager bound a pair by the ranges of the CCS811. -/
theorem GasAnswer.Passes.bounds {answer : GasAnswer} (h : answer.Passes) :
    (400 ≤ answer.co2Ppm ∧ answer.co2Ppm ≤ 8192) ∧ answer.tvocPpb ≤ 1187 := by
  obtain ⟨-, heco2, htvoc⟩ := h
  simp only [eco2Ok, tvocOk, Bool.and_eq_true, decide_eq_true_eq] at heco2 htvoc
  exact ⟨⟨heco2.1.2, heco2.2⟩, htvoc.2⟩

/-- **The valid mask tells the truth.** In every state of every run of the sensor manager, the
flags of temperature and humidity are equal, and the flag of the gases means that eCO2 and TVOC
come from one driver answer, within the ranges of the CCS811. Every update from there changes
only the timestamp and the groups it selects, reports truthfully on temperature and humidity,
the pressure and the level of the battery where it selects them, and gives the CCS811 the cached
temperature and humidity, or NaN for both while they are invalid. -/
theorem valid_mask_truthful (D : Drivers ρ) (hlock : ∀ env, (D.lock env).1 = 0)
    {es : List ManagerEvent} {env : ρ} {x : LoggedRun ρ}
    {obs : List (SensorData × (ρ × CallLog) × SensorLog)}
    (hrun : (managerMachine D.logged).run es ⟨managerStart, (env, {}), {}⟩ = some (x, obs)) :
    x.mgr.current.isValid .temperature = x.mgr.current.isValid .humidity ∧
      (x.mgr.current.isValid .airQuality = true →
        ∃ answer ∈ x.sensors.gas, answer.ret = 0 ∧
          x.mgr.current.eco2 = answer.co2Ppm ∧ x.mgr.current.tvoc = answer.tvocPpb ∧
          (400 ≤ x.mgr.current.eco2 ∧ x.mgr.current.eco2 ≤ 8192) ∧
          x.mgr.current.tvoc ≤ 1187) ∧
      ∀ u : ManagerUpdate,
        let x' := u.apply D.logged x
        x.mgr.current.Frame (selectedGroups u.sensors) x'.mgr.current ∧
          (x.mgr.initialized = true → Truthful u.sensors x x') ∧ Compensated x x' := by
  have hpaired : TempHumidityPaired x :=
    Machine.Preserves.run (tempHumidityPaired_maintained D.logged).preserves
      (fun _ _ => trivial) (managerStart_tempHumidityPaired _) hrun
  have hgas : GasRecorded x := by
    rw [Drivers.logged] at hrun
    exact Machine.Preserves.run (gasRecorded_maintained D.called).preserves (fun _ _ => trivial)
      (managerStart_gasRecorded (env, {})) hrun
  refine ⟨hpaired, fun hvalid => ?_, fun u => ?_⟩
  · obtain ⟨answer, hmem, hpasses, hpair⟩ := hgas hvalid
    obtain ⟨heco2, htvoc⟩ := Prod.mk.inj hpair
    obtain ⟨hco2, hbound⟩ := hpasses.bounds
    exact ⟨answer, hmem, hpasses.1, heco2, htvoc, heco2 ▸ hco2, htvoc ▸ hbound⟩
  · have htold := updateTold_apply hlock u hpaired
    exact ⟨htold.frame, htold.truthful, htold.compensated⟩

/-- `valid_mask_truthful` after a boot next to sensors that always answer. -/
theorem valid_mask_truthful_steady :
    ∃ (x : LoggedRun Unit) (obs : List (SensorData × (Unit × CallLog) × SensorLog)),
      (managerMachine (steadyDrivers 800 10).logged).run bootAndGet
          ⟨managerStart, ((), {}), {}⟩ = some (x, obs) ∧
        (x.mgr.initialized = true ∧ x.mgr.current.isValid .airQuality = true) ∧
        x.mgr.current.isValid .temperature = x.mgr.current.isValid .humidity ∧
        (x.mgr.current.isValid .airQuality = true →
          ∃ answer ∈ x.sensors.gas, answer.ret = 0 ∧
            x.mgr.current.eco2 = answer.co2Ppm ∧ x.mgr.current.tvoc = answer.tvocPpb ∧
            (400 ≤ x.mgr.current.eco2 ∧ x.mgr.current.eco2 ≤ 8192) ∧
            x.mgr.current.tvoc ≤ 1187) ∧
        ∀ u : ManagerUpdate,
          let x' := u.apply (steadyDrivers 800 10).logged x
          x.mgr.current.Frame (selectedGroups u.sensors) x'.mgr.current ∧
            (x.mgr.initialized = true → Truthful u.sensors x x') ∧ Compensated x x' := by
  have hboot : ∃ r ∈ (managerMachine (steadyDrivers 800 10).logged).run bootAndGet
      ⟨managerStart, ((), {}), {}⟩,
      r.1.mgr.initialized = true ∧ r.1.mgr.current.isValid .airQuality = true := by
    decide +kernel
  obtain ⟨⟨x, obs⟩, hrun, hvalid⟩ := hboot
  exact ⟨x, obs, hrun, hvalid, valid_mask_truthful (steadyDrivers 800 10) (fun _ => rfl) hrun⟩

end EnvMonitor
