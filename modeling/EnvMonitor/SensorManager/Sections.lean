import EnvMonitor.SensorManager.Manager

/-!
# What a critical section does to the snapshot

The fields of a snapshot fall into groups, each with its own flags and its own read function:
temperature and humidity, pressure, and the two gases. A group is a view of the snapshot, and
a read function changes the view of its own group only.

An invariant of the sensor manager need therefore only be checked against the pieces that run
without a break, `Maintained`; the updates, which string these pieces together, follow.
-/

namespace EnvMonitor

variable {ρ : Type*}

/-! ### Groups -/

namespace SensorData

/-- Temperature and humidity, with their flags. -/
def tempHumidityView (data : SensorData) : (Bool × CFloat) × Bool × CFloat :=
  ((data.isValid .temperature, data.temperature), data.isValid .humidity, data.humidity)

/-- The pressure, with its flag. -/
def pressureView (data : SensorData) : Bool × CFloat :=
  (data.isValid .pressure, data.pressure)

/-- Both gases, with the flag they share. -/
def gasView (data : SensorData) : Bool × UInt16 × UInt16 :=
  (data.isValid .airQuality, data.eco2, data.tvoc)

/-- The battery level, with its flag. -/
def batteryView (data : SensorData) : Bool × UInt8 :=
  (data.isValid .battery, data.batteryLevel)

/-! ### The flags -/

theorem isValid_setValid_self {flag : SensorSelect} (h : flag ≠ 0#32) (data : SensorData) :
    (data.setValid flag).isValid flag = true := by
  have hflag : hasAny flag flag = true := by rwa [hasAny_eq_true, BitVec.and_self]
  rw [SensorData.isValid, SensorData.setValid, hasAny_or_left, hflag, Bool.or_true]

theorem isValid_setValid {flag flag' : SensorSelect} (h : flag &&& flag' = 0#32)
    (data : SensorData) : (data.setValid flag).isValid flag' = data.isValid flag' := by
  have hflag : hasAny flag flag' = false := hasAny_eq_false.mpr h
  rw [SensorData.isValid, SensorData.setValid, hasAny_or_left, hflag, Bool.or_false]
  rfl

theorem isValid_clearValid_self (data : SensorData) (flag : SensorSelect) :
    (data.clearValid flag).isValid flag = false := hasAny_clear_self ..

theorem isValid_clearValid {flag flag' : SensorSelect} (h : flag &&& flag' = 0#32)
    (data : SensorData) : (data.clearValid flag).isValid flag' = data.isValid flag' :=
  hasAny_clear_of_disjoint h ..

/-! ### Frames -/

/-- `data'` differs from `data` at most in its timestamp and in the flags and the fields of the
groups that `flags` meets. -/
structure Frame (flags : SensorSelect) (data data' : SensorData) : Prop where
  isValid : ∀ {flag : SensorSelect}, hasAny flags flag = false →
    data'.isValid flag = data.isValid flag
  tempHumidity : hasAny flags SensorSelect.tempHumidity = false →
    data'.temperature = data.temperature ∧ data'.humidity = data.humidity
  pressure : hasAny flags SensorSelect.pressure = false → data'.pressure = data.pressure
  airQuality : hasAny flags SensorSelect.airQuality = false →
    data'.eco2 = data.eco2 ∧ data'.tvoc = data.tvoc
  battery : hasAny flags SensorSelect.battery = false →
    data'.batteryLevel = data.batteryLevel ∧ data'.batteryCharging = data.batteryCharging

namespace Frame

variable {flags flags' flag : SensorSelect} {data data' data'' : SensorData}

theorem refl (flags : SensorSelect) (data : SensorData) : Frame flags data data :=
  ⟨fun _ => rfl, fun _ => ⟨rfl, rfl⟩, fun _ => rfl, fun _ => ⟨rfl, rfl⟩, fun _ => ⟨rfl, rfl⟩⟩

/-- Two frames compose to one of all their groups. -/
theorem trans (h : Frame flags data data') (h' : Frame flags' data' data'') :
    Frame (flags ||| flags') data data'' := by
  have hsplit : ∀ {flag : SensorSelect}, hasAny (flags ||| flags') flag = false →
      hasAny flags flag = false ∧ hasAny flags' flag = false := by
    intro flag hflag
    rwa [hasAny_or_left, Bool.or_eq_false_iff] at hflag
  refine ⟨fun hd => ?_, fun hd => ?_, fun hd => ?_, fun hd => ?_, fun hd => ?_⟩ <;>
    obtain ⟨hd, hd'⟩ := hsplit hd
  · exact (h'.isValid hd').trans (h.isValid hd)
  · exact ⟨(h'.tempHumidity hd').1.trans (h.tempHumidity hd).1,
      (h'.tempHumidity hd').2.trans (h.tempHumidity hd).2⟩
  · exact (h'.pressure hd').trans (h.pressure hd)
  · exact ⟨(h'.airQuality hd').1.trans (h.airQuality hd).1,
      (h'.airQuality hd').2.trans (h.airQuality hd).2⟩
  · exact ⟨(h'.battery hd').1.trans (h.battery hd).1,
      (h'.battery hd').2.trans (h.battery hd).2⟩

/-- The flags of the frame's own groups may be set. -/
theorem setValid (h : Frame flags data data') (hflag : flags ||| flag = flags) :
    Frame flags data (data'.setValid flag) where
  isValid {flag'} hd := by
    have hdisjoint := hd
    rw [← hflag, hasAny_or_left, Bool.or_eq_false_iff] at hdisjoint
    rw [isValid_setValid (hasAny_eq_false.mp hdisjoint.2)]
    exact h.isValid hd
  tempHumidity := h.tempHumidity
  pressure := h.pressure
  airQuality := h.airQuality
  battery := h.battery

/-- And they may be cleared. -/
theorem clearValid (h : Frame flags data data') (hflag : flags ||| flag = flags) :
    Frame flags data (data'.clearValid flag) where
  isValid {flag'} hd := by
    have hdisjoint := hd
    rw [← hflag, hasAny_or_left, Bool.or_eq_false_iff] at hdisjoint
    rw [isValid_clearValid (hasAny_eq_false.mp hdisjoint.2)]
    exact h.isValid hd
  tempHumidity := h.tempHumidity
  pressure := h.pressure
  airQuality := h.airQuality
  battery := h.battery

/-! The views of the other groups are the same. -/

theorem tempHumidityView (h : Frame flags data data')
    (hd : hasAny flags SensorSelect.tempHumidity = false) :
    data'.tempHumidityView = data.tempHumidityView := by
  obtain ⟨ht, hh⟩ := h.tempHumidity hd
  rw [SensorSelect.tempHumidity, hasAny_or_right, Bool.or_eq_false_iff] at hd
  rw [SensorData.tempHumidityView, h.isValid hd.1, h.isValid hd.2, ht, hh]
  rfl

theorem pressureView (h : Frame flags data data')
    (hd : hasAny flags SensorSelect.pressure = false) :
    data'.pressureView = data.pressureView := by
  rw [SensorData.pressureView, h.isValid hd, h.pressure hd]
  rfl

theorem gasView (h : Frame flags data data')
    (hd : hasAny flags SensorSelect.airQuality = false) : data'.gasView = data.gasView := by
  obtain ⟨he, ht⟩ := h.airQuality hd
  rw [SensorData.gasView, h.isValid hd, he, ht]
  rfl

theorem batteryView (h : Frame flags data data')
    (hd : hasAny flags SensorSelect.battery = false) : data'.batteryView = data.batteryView := by
  rw [SensorData.batteryView, h.isValid hd, (h.battery hd).1]
  rfl

end Frame

end SensorData

open SensorData

/-! ### The read functions -/

section Views

variable (data : SensorData)

/-- A successful read of the HTS221 is cached and marked valid, a failed one clears both
flags. -/
theorem cacheTemperatureHumidity_view (answer : HtsAnswer) :
    (cacheTemperatureHumidity answer data).tempHumidityView =
      if answer.ret = 0 then ((true, answer.temperature), true, answer.humidity)
      else ((false, data.temperature), false, data.humidity) := by
  rw [cacheTemperatureHumidity]
  split_ifs
  · simp (disch := decide) only [tempHumidityView, isValid_setValid, isValid_setValid_self]
    rfl
  · simp (disch := decide) only [tempHumidityView, isValid_clearValid,
      isValid_clearValid_self]
    rfl

/-- A successful read of the LPS22HB is cached and marked valid, a failed one clears the
flag. -/
theorem cachePressure_view (answer : LpsAnswer) :
    (cachePressure answer data).pressureView =
      if answer.ret = 0 then (true, answer.pressure) else (false, data.pressure) := by
  rw [cachePressure]
  split_ifs
  · simp (disch := decide) only [pressureView, isValid_setValid_self]
    rfl
  · simp only [pressureView, isValid_clearValid_self]
    rfl

/-- The pair is marked valid only if the driver succeeded and both readings pass the
manager's checks, and then it is the driver's pair. -/
theorem cacheAirQuality_view (answer : GasAnswer) :
    (cacheAirQuality answer data).gasView =
      if answer.ret = 0 then
        (eco2Ok answer.co2Ppm && tvocOk answer.tvocPpb,
          if eco2Ok answer.co2Ppm then answer.co2Ppm else data.eco2,
          if tvocOk answer.tvocPpb then answer.tvocPpb else data.tvoc)
      else (false, data.eco2, data.tvoc) := by
  by_cases hret : answer.ret = 0
  · simp only [cacheAirQuality, hret, if_true]
    cases eco2Ok answer.co2Ppm <;> cases tvocOk answer.tvocPpb <;>
      simp (disch := decide) only [gasView, isValid_setValid_self, isValid_clearValid_self,
        if_true, Bool.false_eq_true, if_false, Bool.and_self, Bool.and_false,
        Bool.and_true] <;>
      rfl
  · simp only [cacheAirQuality, hret, if_false, gasView, isValid_clearValid_self]
    rfl

/-- So a pair that is marked valid after a read is the driver's, and passes. -/
theorem cacheAirQuality_valid {answer : GasAnswer}
    (h : (cacheAirQuality answer data).isValid .airQuality = true) :
    (answer.ret = 0 ∧ eco2Ok answer.co2Ppm = true ∧ tvocOk answer.tvocPpb = true) ∧
      (cacheAirQuality answer data).gasView = (true, answer.co2Ppm, answer.tvocPpb) := by
  have hview := cacheAirQuality_view data answer
  have hflag := (congrArg Prod.fst hview).symm.trans h
  split_ifs at hview hflag with hret heco2 htvoc htvoc
  · exact ⟨⟨hret, heco2, htvoc⟩, by rw [hview, heco2, htvoc]; rfl⟩
  -- one reading fails its check, and the flag is cleared
  · rw [Bool.eq_false_iff.mpr htvoc, Bool.and_false] at hflag
    exact absurd hflag Bool.false_ne_true
  · rw [Bool.eq_false_iff.mpr heco2, Bool.false_and] at hflag
    exact absurd hflag Bool.false_ne_true
  · rw [Bool.eq_false_iff.mpr heco2, Bool.false_and] at hflag
    exact absurd hflag Bool.false_ne_true

/-- The update for a read of a gas replaces the pair by one that passes the checks and marks
it valid, or leaves it as it is. -/
theorem cacheAirQualityForBle_view (answer : GasAnswer) :
    (cacheAirQualityForBle answer data).gasView =
      if answer.ret = 0 ∧ eco2Ok answer.co2Ppm = true ∧ tvocOk answer.tvocPpb = true then
        (true, answer.co2Ppm, answer.tvocPpb)
      else data.gasView := by
  rw [cacheAirQualityForBle]
  by_cases hret : answer.ret = 0
  · cases eco2Ok answer.co2Ppm <;> cases tvocOk answer.tvocPpb <;>
      simp (disch := decide) [hret, gasView, isValid_setValid_self]
    exact ⟨rfl, rfl⟩
  · simp [hret]

/-- The battery level is cached and marked valid unless it is an error. -/
theorem cacheBatteryLevel_view (batLevel : ℤ) :
    (cacheBatteryLevel batLevel data).batteryView =
      if 0 ≤ batLevel then (true, UInt8.ofNat batLevel.toNat)
      else (false, data.batteryLevel) := by
  rw [cacheBatteryLevel]
  split_ifs
  · simp (disch := decide) only [batteryView, isValid_setValid_self]
    rfl
  · simp only [batteryView, isValid_clearValid_self]
    rfl

/-- A level that fits `uint8_t` is stored as it is. -/
theorem cacheBatteryLevel_toNat {batLevel : ℤ} (hpos : 0 ≤ batLevel) (hle : batLevel ≤ 255) :
    ((cacheBatteryLevel batLevel data).batteryLevel.toNat : ℤ) = batLevel := by
  have hlevel : (cacheBatteryLevel batLevel data).batteryLevel = UInt8.ofNat batLevel.toNat :=
    congrArg Prod.snd ((cacheBatteryLevel_view data batLevel).trans (if_pos hpos))
  have hlt : batLevel.toNat < 256 := by omega
  rw [hlevel, UInt8.toNat_ofNat_of_lt' hlt]
  exact Int.toNat_of_nonneg hpos

/-! Every other group is left alone. -/

theorem cacheTemperatureHumidity_frame (answer : HtsAnswer) :
    Frame SensorSelect.tempHumidity data (cacheTemperatureHumidity answer data) := by
  have hfields : Frame SensorSelect.tempHumidity data
      { data with temperature := answer.temperature, humidity := answer.humidity } :=
    ⟨fun _ => rfl, fun h => absurd h (by decide), fun _ => rfl, fun _ => ⟨rfl, rfl⟩,
      fun _ => ⟨rfl, rfl⟩⟩
  rw [cacheTemperatureHumidity]
  split_ifs
  · exact (hfields.setValid (by decide)).setValid (by decide)
  · exact ((Frame.refl _ data).clearValid (by decide)).clearValid (by decide)

theorem cachePressure_frame (answer : LpsAnswer) :
    Frame SensorSelect.pressure data (cachePressure answer data) := by
  have hfields : Frame SensorSelect.pressure data { data with pressure := answer.pressure } :=
    ⟨fun _ => rfl, fun _ => ⟨rfl, rfl⟩, fun h => absurd h (by decide), fun _ => ⟨rfl, rfl⟩,
      fun _ => ⟨rfl, rfl⟩⟩
  rw [cachePressure]
  split_ifs
  · exact hfields.setValid (by decide)
  · exact (Frame.refl _ data).clearValid (by decide)

/-- Whatever is stored in the two gases, the rest is framed. -/
private theorem frame_gases (eco2 tvoc : UInt16) :
    Frame SensorSelect.airQuality data { data with eco2 := eco2, tvoc := tvoc } :=
  ⟨fun _ => rfl, fun _ => ⟨rfl, rfl⟩, fun _ => rfl, fun h => absurd h (by decide),
    fun _ => ⟨rfl, rfl⟩⟩

theorem cacheAirQuality_frame (answer : GasAnswer) :
    Frame SensorSelect.airQuality data (cacheAirQuality answer data) := by
  have hkeep : Frame SensorSelect.airQuality data (data.clearValid SensorSelect.airQuality) :=
    (Frame.refl _ data).clearValid (by decide)
  by_cases hret : answer.ret = 0
  · rw [cacheAirQuality, if_pos hret]
    cases eco2Ok answer.co2Ppm <;> cases tvocOk answer.tvocPpb
    · exact hkeep
    · exact (frame_gases data data.eco2 answer.tvocPpb).clearValid (by decide)
    · exact (frame_gases data answer.co2Ppm data.tvoc).clearValid (by decide)
    · exact (frame_gases data answer.co2Ppm answer.tvocPpb).setValid (by decide)
  · rw [cacheAirQuality, if_neg hret]
    exact hkeep

theorem cacheAirQualityForBle_frame (answer : GasAnswer) :
    Frame SensorSelect.airQuality data (cacheAirQualityForBle answer data) := by
  rw [cacheAirQualityForBle]
  split_ifs
  · exact (frame_gases data _ _).setValid (by decide)
  · exact Frame.refl _ data
  · exact Frame.refl _ data

theorem cacheBatteryLevel_frame (batLevel : ℤ) :
    Frame SensorSelect.battery data (cacheBatteryLevel batLevel data) := by
  have hfields : Frame SensorSelect.battery data
      { data with batteryLevel := UInt8.ofNat batLevel.toNat } :=
    ⟨fun _ => rfl, fun _ => ⟨rfl, rfl⟩, fun _ => rfl, fun _ => ⟨rfl, rfl⟩,
      fun h => absurd h (by decide)⟩
  rw [cacheBatteryLevel]
  split_ifs
  · exact hfields.setValid (by decide)
  · exact (Frame.refl _ data).clearValid (by decide)

@[simp]
theorem cacheTemperatureHumidity_pressureView (answer : HtsAnswer) :
    (cacheTemperatureHumidity answer data).pressureView = data.pressureView :=
  (cacheTemperatureHumidity_frame data answer).pressureView (by decide)

@[simp]
theorem cacheTemperatureHumidity_gasView (answer : HtsAnswer) :
    (cacheTemperatureHumidity answer data).gasView = data.gasView :=
  (cacheTemperatureHumidity_frame data answer).gasView (by decide)

@[simp]
theorem cachePressure_tempHumidityView (answer : LpsAnswer) :
    (cachePressure answer data).tempHumidityView = data.tempHumidityView :=
  (cachePressure_frame data answer).tempHumidityView (by decide)

@[simp]
theorem cachePressure_gasView (answer : LpsAnswer) :
    (cachePressure answer data).gasView = data.gasView :=
  (cachePressure_frame data answer).gasView (by decide)

@[simp]
theorem cacheAirQuality_tempHumidityView (answer : GasAnswer) :
    (cacheAirQuality answer data).tempHumidityView = data.tempHumidityView :=
  (cacheAirQuality_frame data answer).tempHumidityView (by decide)

@[simp]
theorem cacheAirQuality_pressureView (answer : GasAnswer) :
    (cacheAirQuality answer data).pressureView = data.pressureView :=
  (cacheAirQuality_frame data answer).pressureView (by decide)

@[simp]
theorem cacheAirQualityForBle_tempHumidityView (answer : GasAnswer) :
    (cacheAirQualityForBle answer data).tempHumidityView = data.tempHumidityView :=
  (cacheAirQualityForBle_frame data answer).tempHumidityView (by decide)

@[simp]
theorem cacheAirQualityForBle_pressureView (answer : GasAnswer) :
    (cacheAirQualityForBle answer data).pressureView = data.pressureView :=
  (cacheAirQualityForBle_frame data answer).pressureView (by decide)

@[simp]
theorem cacheBatteryLevel_tempHumidityView (batLevel : ℤ) :
    (cacheBatteryLevel batLevel data).tempHumidityView = data.tempHumidityView :=
  (cacheBatteryLevel_frame data batLevel).tempHumidityView (by decide)

@[simp]
theorem cacheBatteryLevel_pressureView (batLevel : ℤ) :
    (cacheBatteryLevel batLevel data).pressureView = data.pressureView :=
  (cacheBatteryLevel_frame data batLevel).pressureView (by decide)

@[simp]
theorem cacheBatteryLevel_gasView (batLevel : ℤ) :
    (cacheBatteryLevel batLevel data).gasView = data.gasView :=
  (cacheBatteryLevel_frame data batLevel).gasView (by decide)

end Views

/-! ### Invariants -/

/-- `I` survives every piece of the sensor manager that runs without a break. -/
structure Maintained (D : Drivers ρ) (I : ManagerRun ρ → Prop) : Prop where
  /-- The other static variables play no part. -/
  bookkeeping : ∀ {x} {mgr : ManagerState}, mgr.current = x.mgr.current → I x →
    I { x with mgr := mgr }
  lock : ∀ {x}, I x → I (x.call D.lock).2
  stampTime : ∀ {x}, I x → I (stampTime D x)
  temperatureHumidity : ∀ {x}, I x → I (readTemperatureHumidity D x).2
  pressure : ∀ {x}, I x → I (readPressure D x).2
  airQuality : ∀ {x}, I x → I (readAirQuality D x).2
  battery : ∀ {x}, I x → I (readBattery D x).2
  airQualityForBle : ∀ {x}, I x → I (sensorManagerUpdateAirQualityForBle D x)
  isReady : ∀ {x}, I x → I (x.call D.ccs811IsReady).2
  connected : ∀ {x}, I x → I { x with env := D.ccs811OnConnected x.env }
  disconnected : ∀ {x}, I x → I { x with env := D.ccs811OnDisconnected x.env }
  i2cReady : ∀ {x}, I x → I (x.call D.i2cReady).2
  initDrivers : ∀ {x}, I x → I { x with env := D.initDrivers x.env }

/-- `I` survives the pieces that an update consists of. -/
structure SampleKeeps (D : Drivers ρ) (I : ManagerRun ρ → Prop) : Prop where
  lock : ∀ {x}, I x → I (x.call D.lock).2
  stampTime : ∀ {x}, I x → I (stampTime D x)
  temperatureHumidity : ∀ {x}, I x → I (readTemperatureHumidity D x).2
  pressure : ∀ {x}, I x → I (readPressure D x).2
  airQuality : ∀ {x}, I x → I (readAirQuality D x).2
  battery : ∀ {x}, I x → I (readBattery D x).2

namespace SampleKeeps

variable {D : Drivers ρ} {I : ManagerRun ρ → Prop} {x : ManagerRun ρ}

private theorem readIf {read : ManagerRun ρ → ℤ × ManagerRun ρ}
    (hread : ∀ {x}, I x → I (read x).2) (condition : Bool) (hx : I x) :
    I (EnvMonitor.readIf condition read x) := by
  cases condition with
  | false => exact hx
  | true => exact hread hx

theorem selectiveSection (hI : SampleKeeps D I) (sensors : SensorSelect) (hx : I x) :
    I (selectiveSection D sensors x) :=
  readIf hI.battery _ (readIf hI.airQuality _ (readIf hI.pressure _
    (readIf hI.temperatureHumidity _ (hI.stampTime hx))))

theorem updateSection (hI : SampleKeeps D I) (hx : I x) : I (updateSection D x) :=
  hI.battery (hI.airQuality (hI.pressure (hI.temperatureHumidity (hI.stampTime hx))))

theorem lockedUpdate (hI : SampleKeeps D I) {body : ManagerRun ρ → ManagerRun ρ}
    (hbody : ∀ {x}, I x → I (body x)) (hx : I x) : I (lockedUpdate D body x).2.2 := by
  have hlock : I (x.call D.lock).2 := hI.lock hx
  rcases hcall : x.call D.lock with ⟨ret, x'⟩
  rw [hcall] at hlock
  simp only [EnvMonitor.lockedUpdate, hcall]
  split_ifs
  · exact hx
  · exact hlock
  · exact hbody hlock

theorem updateSelective (hI : SampleKeeps D I) (sensors : SensorSelect) (hx : I x) :
    I (sensorManagerUpdateSelective D sensors x).2.2 :=
  hI.lockedUpdate (hI.selectiveSection sensors) hx

theorem update (hI : SampleKeeps D I) (hx : I x) : I (sensorManagerUpdate D x).2.2 :=
  hI.lockedUpdate hI.updateSection hx

end SampleKeeps

/-- `I` survives everything but the bookkeeping of connections: of the static variables other
than the snapshot, the three flags alone play no part. -/
structure Kept (D : Drivers ρ) (I : ManagerRun ρ → Prop) : Prop extends SampleKeeps D I where
  flags : ∀ {x} (updateCallback initialized armed : Bool), I x →
    I { x with mgr := { x.mgr with
      updateCallback := updateCallback, initialized := initialized, armed := armed } }
  airQualityForBle : ∀ {x}, I x → I (sensorManagerUpdateAirQualityForBle D x)
  isReady : ∀ {x}, I x → I (x.call D.ccs811IsReady).2
  i2cReady : ∀ {x}, I x → I (x.call D.i2cReady).2
  initDrivers : ∀ {x}, I x → I { x with env := D.initDrivers x.env }

namespace Kept

variable {D : Drivers ρ} {I : ManagerRun ρ → Prop} {x : ManagerRun ρ}

theorem getData (hI : Kept D I) (hx : I x) : I (sensorManagerGetData D x).2.2 := by
  have hlock : I (x.call D.lock).2 := hI.lock hx
  rcases hcall : x.call D.lock with ⟨ret, x'⟩
  rw [hcall] at hlock
  simp only [sensorManagerGetData, hcall]
  split_ifs
  · exact hx
  · exact hlock
  · exact hlock

theorem registerCallback (hI : Kept D I) (hx : I x) :
    I (sensorManagerRegisterCallback D x).2 := by
  have hlock : I (x.call D.lock).2 := hI.lock hx
  rcases hcall : x.call D.lock with ⟨ret, x'⟩
  rw [hcall] at hlock
  simp only [sensorManagerRegisterCallback, hcall]
  split_ifs
  · exact hlock
  · exact hI.flags true x'.mgr.initialized x'.mgr.armed hlock

theorem arm (hI : Kept D I) (hx : I x) : I (sensorManagerArm x).2 := by
  rw [sensorManagerArm]
  split_ifs
  · exact hx
  · exact hx
  · exact hI.flags x.mgr.updateCallback x.mgr.initialized true hx

theorem init (hI : Kept D I) (hx : I x) : I (sensorManagerInit D x).2.2 := by
  have hi2c : I (x.call D.i2cReady).2 := hI.i2cReady hx
  rcases hcall : x.call D.i2cReady with ⟨i2cReady, x'⟩
  rw [hcall] at hi2c
  simp only [sensorManagerInit, hcall]
  split_ifs
  · exact hx
  · exact hi2c
  · exact hI.update (hI.flags (x := { x' with env := _ }) x'.mgr.updateCallback true
      x'.mgr.armed (hI.initDrivers hi2c))

end Kept

namespace Maintained

variable {D : Drivers ρ} {I : ManagerRun ρ → Prop} {x : ManagerRun ρ}

theorem kept (hI : Maintained D I) : Kept D I where
  flags _ _ _ hx := hI.bookkeeping rfl hx
  lock := hI.lock
  stampTime := hI.stampTime
  temperatureHumidity := hI.temperatureHumidity
  pressure := hI.pressure
  airQuality := hI.airQuality
  battery := hI.battery
  airQualityForBle := hI.airQualityForBle
  isReady := hI.isReady
  i2cReady := hI.i2cReady
  initDrivers := hI.initDrivers

theorem trackConnected (hI : Maintained D I) (hx : I x) :
    I (sensorManagerTrackConnected D x).2 := by
  rw [sensorManagerTrackConnected]
  split_ifs
  · exact hx
  · exact hI.bookkeeping (x := { x with env := _ }) rfl (hI.connected hx)

theorem onDisconnected (hI : Maintained D I) (hx : I x) :
    I (sensorManagerOnDisconnected D x) := by
  rw [sensorManagerOnDisconnected]
  split_ifs
  · exact hx
  · dsimp only
    split_ifs
    · exact hI.bookkeeping (x := { x with env := _ }) rfl (hI.disconnected hx)
    · exact hI.bookkeeping rfl hx

end Maintained

/-- A successful update ends with its critical section, run on what the mutex leaves. -/
theorem lockedUpdate_of_ret_eq_zero {D : Drivers ρ} {body : ManagerRun ρ → ManagerRun ρ}
    {x : ManagerRun ρ} (h : (lockedUpdate D body x).1 = 0) :
    (lockedUpdate D body x).2.2 = body (x.call D.lock).2 := by
  rcases hcall : x.call D.lock with ⟨ret, x'⟩
  simp only [lockedUpdate, hcall] at h ⊢
  split_ifs at h ⊢ with hinit hlock
  · exact absurd h (by decide : (-EINVAL : ℤ) ≠ 0)
  · exact absurd h hlock
  · rfl

/-- The snapshot an update hands to the callback is the current one. -/
theorem lockedUpdate_snapshot {D : Drivers ρ} {body : ManagerRun ρ → ManagerRun ρ}
    {x : ManagerRun ρ} {data : SensorData}
    (h : (lockedUpdate D body x).2.1 = some data) :
    data = (lockedUpdate D body x).2.2.mgr.current := by
  rcases hcall : x.call D.lock with ⟨ret, x'⟩
  simp only [lockedUpdate, hcall, callbackSnapshot] at h ⊢
  split_ifs at h ⊢ with hinit hlock hcallback
  exact (Option.some.inj h).symm

/-- A snapshot handed out by `sensor_manager_get_data` is the current one. -/
theorem getData_of_ret_eq_zero {D : Drivers ρ} {x x' : ManagerRun ρ} {data : SensorData}
    (h : sensorManagerGetData D x = (0, data, x')) :
    data = x'.mgr.current ∧ x' = (x.call D.lock).2 := by
  rcases hcall : x.call D.lock with ⟨ret, x₁⟩
  simp only [sensorManagerGetData, hcall] at h
  split_ifs at h with hinit hlock
  · exact absurd (congrArg Prod.fst h) (by decide : (-EINVAL : ℤ) ≠ 0)
  · exact absurd (congrArg Prod.fst h) hlock
  · obtain ⟨rfl, rfl⟩ := Prod.mk.inj (Prod.mk.inj h).2
    exact ⟨rfl, rfl⟩

end EnvMonitor
