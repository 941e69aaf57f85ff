import EnvMonitor.Errno
import EnvMonitor.SensorManager.Data

/-!
# The sensor manager

`sensor_manager.c`: one snapshot `current_data` behind a mutex, refreshed by calls into the
sensor drivers and handed to one registered callback after each update. The drivers, the
mutex and the clock are an environment `Drivers`; every call threads its state, so the same
code runs over scripted answers, over a log of what the drivers returned and over the CCS811
driver itself.

An update returns the snapshot for the callback and does not run it: the callback runs after
the mutex is released, and what may happen in between is for the client of this module to
say.

Each read function is a call of its driver and a pure function `cache*` of the answer, which
is all that it does to the snapshot.
-/

namespace EnvMonitor

/-! ### The environment -/

/-- The answer of `hts221_driver_read_both`. -/
structure HtsAnswer where
  ret : ℤ
  temperature : CFloat
  humidity : CFloat

/-- The answer of `lps22hb_driver_read_pressure`. -/
structure LpsAnswer where
  ret : ℤ
  pressure : CFloat

/-- The answer of a CCS811 driver read: its return code and what the two output variables
hold after it, which may be what they held before. -/
structure GasAnswer where
  ret : ℤ
  co2Ppm : UInt16
  tvocPpb : UInt16

/-- What the sensor manager calls. -/
structure Drivers (ρ : Type*) where
  /-- `k_uptime_get`. -/
  uptime : ρ → ℤ × ρ
  /-- `k_mutex_lock` on `sensor_manager_mutex`. -/
  lock : ρ → ℤ × ρ
  hts221ReadBoth : ρ → HtsAnswer × ρ
  lps22hbReadPressure : ρ → LpsAnswer × ρ
  /-- `ccs811_driver_read_air_quality`, given temperature and humidity. -/
  ccs811ReadAirQuality : CFloat → CFloat → ρ → GasAnswer × ρ
  /-- `ccs811_driver_read_for_ble`, given temperature and humidity. -/
  ccs811ReadForBle : CFloat → CFloat → ρ → GasAnswer × ρ
  ccs811IsReady : ρ → Bool × ρ
  ccs811OnConnected : ρ → ρ
  ccs811OnDisconnected : ρ → ρ
  /-- `device_is_ready` of the I2C bus. -/
  i2cReady : ρ → Bool × ρ
  /-- `battery_service_init`, `hts221_driver_init`, `lps22hb_driver_init` and
  `ccs811_driver_init`, each if its device is ready; a failure is only logged. -/
  initDrivers : ρ → ρ
  /-- `battery_service_get_level`. -/
  batteryGetLevel : ρ → ℤ × ρ
  /-- `battery_service_is_charging`. -/
  batteryIsCharging : ρ → Bool × ρ

/-! ### State -/

/-- The static variables of `sensor_manager.c`, but for its work items. The only callback
that the firmware registers is that of the ESS. -/
structure ManagerState where
  current : SensorData
  updateCallback : Bool
  initialized : Bool
  armed : Bool
  connectedCount : UInt32
deriving DecidableEq

/-- The state the program starts with. -/
def managerStart : ManagerState where
  current := sensorDataZero
  updateCallback := false
  initialized := false
  armed := false
  connectedCount := 0

/-- A run inside the sensor manager: its state and its environment. -/
structure ManagerRun (ρ : Type*) where
  mgr : ManagerState
  env : ρ

variable {ρ : Type*}

namespace ManagerRun

/-- Call into the environment. -/
def call {α : Type*} (x : ManagerRun ρ) (f : ρ → α × ρ) : α × ManagerRun ρ :=
  ((f x.env).1, { x with env := (f x.env).2 })

/-- Change the current snapshot. -/
def modify (x : ManagerRun ρ) (f : SensorData → SensorData) : ManagerRun ρ :=
  { x with mgr := { x.mgr with current := f x.mgr.current } }

end ManagerRun

/-- `valid_mask |= flag`. -/
def SensorData.setValid (data : SensorData) (flag : SensorSelect) : SensorData :=
  { data with validMask := data.validMask ||| flag }

/-- `valid_mask &= ~flag`. -/
def SensorData.clearValid (data : SensorData) (flag : SensorSelect) : SensorData :=
  { data with validMask := data.validMask &&& ~~~flag }

/-! ### Reading the sensors -/

/-- What `read_temperature_humidity` does with the driver's answer. -/
def cacheTemperatureHumidity (answer : HtsAnswer) (data : SensorData) : SensorData :=
  if answer.ret = 0 then
    ({ data with temperature := answer.temperature, humidity := answer.humidity }.setValid
      .temperature).setValid .humidity
  else (data.clearValid .temperature).clearValid .humidity

/-- `read_temperature_humidity`. -/
def readTemperatureHumidity (D : Drivers ρ) (x : ManagerRun ρ) : ℤ × ManagerRun ρ :=
  let (answer, x) := x.call D.hts221ReadBoth
  (answer.ret, x.modify (cacheTemperatureHumidity answer))

/-- What `read_pressure` does with the driver's answer. -/
def cachePressure (answer : LpsAnswer) (data : SensorData) : SensorData :=
  if answer.ret = 0 then { data with pressure := answer.pressure }.setValid .pressure
  else data.clearValid .pressure

/-- `read_pressure`. -/
def readPressure (D : Drivers ρ) (x : ManagerRun ρ) : ℤ × ManagerRun ρ :=
  let (answer, x) := x.call D.lps22hbReadPressure
  (answer.ret, x.modify (cachePressure answer))

/-- The check `eco2_ok` of both air-quality functions, with `CCS811_INVALID_READING`,
`CCS811_ECO2_MIN_PPM` and `CCS811_ECO2_MAX_PPM`. -/
def eco2Ok (co2Ppm : UInt16) : Bool :=
  co2Ppm != 65021 && co2Ppm != 0 && 400 ≤ co2Ppm && co2Ppm ≤ 8192

/-- The check `tvoc_ok` of both air-quality functions, with `CCS811_INVALID_READING`,
`CCS811_TVOC_MIN_PPB` and `CCS811_TVOC_MAX_PPB`. -/
def tvocOk (tvocPpb : UInt16) : Bool :=
  tvocPpb != 65021 && 0 ≤ tvocPpb && tvocPpb ≤ 1187

/-- The temperature for the CCS811's compensation: NaN while the cached one is invalid. -/
def compensationTemperature (data : SensorData) : CFloat :=
  if data.isValid .temperature then data.temperature else .nan

/-- The humidity for the CCS811's compensation: NaN while the cached one is invalid. -/
def compensationHumidity (data : SensorData) : CFloat :=
  if data.isValid .humidity then data.humidity else .nan

/-- What `read_air_quality` does with the driver's answer. Each reading is kept on its own;
the flag needs both. -/
def cacheAirQuality (answer : GasAnswer) (data : SensorData) : SensorData :=
  if answer.ret = 0 then
    let data := if eco2Ok answer.co2Ppm then { data with eco2 := answer.co2Ppm } else data
    let data := if tvocOk answer.tvocPpb then { data with tvoc := answer.tvocPpb } else data
    if eco2Ok answer.co2Ppm && tvocOk answer.tvocPpb then data.setValid .airQuality
    else data.clearValid .airQuality
  else data.clearValid .airQuality

/-- `read_air_quality`. -/
def readAirQuality (D : Drivers ρ) (x : ManagerRun ρ) : ℤ × ManagerRun ρ :=
  let (answer, x) := x.call (D.ccs811ReadAirQuality (compensationTemperature x.mgr.current)
    (compensationHumidity x.mgr.current))
  (answer.ret, x.modify (cacheAirQuality answer))

/-- What `read_battery` does with the level. -/
def cacheBatteryLevel (batLevel : ℤ) (data : SensorData) : SensorData :=
  if batLevel ≥ 0 then
    { data with batteryLevel := UInt8.ofNat batLevel.toNat }.setValid .battery
  else data.clearValid .battery

/-- `read_battery`. -/
def readBattery (D : Drivers ρ) (x : ManagerRun ρ) : ℤ × ManagerRun ρ :=
  let (batLevel, x) := x.call D.batteryGetLevel
  let x := x.modify (cacheBatteryLevel batLevel)
  let (charging, x) := x.call D.batteryIsCharging
  (0, x.modify fun data => { data with batteryCharging := charging })

/-! ### Updates -/

/-- `current_data.timestamp = k_uptime_get()`. -/
def stampTime (D : Drivers ρ) (x : ManagerRun ρ) : ManagerRun ρ :=
  let (now, x) := x.call D.uptime
  x.modify fun data => { data with timestamp := now }

/-- Run a read function if its condition holds; its return code is ignored. -/
def readIf (condition : Bool) (read : ManagerRun ρ → ℤ × ManagerRun ρ) (x : ManagerRun ρ) :
    ManagerRun ρ :=
  if condition then (read x).2 else x

/-- The critical section of `sensor_manager_update_selective`. -/
def selectiveSection (D : Drivers ρ) (sensors : SensorSelect) (x : ManagerRun ρ) :
    ManagerRun ρ :=
  let x := stampTime D x
  let x := readIf (hasAny sensors SensorSelect.tempHumidity) (readTemperatureHumidity D) x
  let x := readIf (hasAny sensors SensorSelect.pressure) (readPressure D) x
  let x := readIf (hasAny sensors SensorSelect.airQuality) (readAirQuality D) x
  readIf (hasAny sensors SensorSelect.battery) (readBattery D) x

/-- The critical section of `sensor_manager_update`. -/
def updateSection (D : Drivers ρ) (x : ManagerRun ρ) : ManagerRun ρ :=
  let x := stampTime D x
  let x := (readTemperatureHumidity D x).2
  let x := (readPressure D x).2
  let x := (readAirQuality D x).2
  (readBattery D x).2

/-- What an update hands to the callback after its critical section. -/
def callbackSnapshot (x : ManagerRun ρ) : Option SensorData :=
  if x.mgr.updateCallback then some x.mgr.current else none

/-- The frame of both updates: the initialisation check, the mutex and the critical section.
The second component is the snapshot that the callback is run on. -/
def lockedUpdate (D : Drivers ρ) (body : ManagerRun ρ → ManagerRun ρ) (x : ManagerRun ρ) :
    ℤ × Option SensorData × ManagerRun ρ :=
  if !x.mgr.initialized then (-EINVAL, none, x)
  else
    let (ret, x) := x.call D.lock
    if ret ≠ 0 then (ret, none, x)
    else
      let x := body x
      (0, callbackSnapshot x, x)

/-- `sensor_manager_update_selective`, up to its call of the callback. -/
def sensorManagerUpdateSelective (D : Drivers ρ) (sensors : SensorSelect)
    (x : ManagerRun ρ) : ℤ × Option SensorData × ManagerRun ρ :=
  lockedUpdate D (selectiveSection D sensors) x

/-- `sensor_manager_update`, up to its call of the callback. -/
def sensorManagerUpdate (D : Drivers ρ) (x : ManagerRun ρ) :
    ℤ × Option SensorData × ManagerRun ρ :=
  lockedUpdate D (updateSection D) x

/-- `sensor_manager_get_data`. The data is that of the caller's variable if it fails. -/
def sensorManagerGetData (D : Drivers ρ) (x : ManagerRun ρ) :
    ℤ × SensorData × ManagerRun ρ :=
  if !x.mgr.initialized then (-EINVAL, sensorDataZero, x)
  else
    let (ret, x) := x.call D.lock
    if ret ≠ 0 then (ret, sensorDataZero, x) else (0, x.mgr.current, x)

/-- What `sensor_manager_update_air_quality_for_ble` does with the driver's answer: it keeps
the cached pair unless both new readings pass, and never clears the flag. -/
def cacheAirQualityForBle (answer : GasAnswer) (data : SensorData) : SensorData :=
  if answer.ret = 0 then
    if eco2Ok answer.co2Ppm && tvocOk answer.tvocPpb then
      { data with eco2 := answer.co2Ppm, tvoc := answer.tvocPpb }.setValid .airQuality
    else data
  else data

/-- `sensor_manager_update_air_quality_for_ble`, which takes no mutex. -/
def sensorManagerUpdateAirQualityForBle (D : Drivers ρ) (x : ManagerRun ρ) : ManagerRun ρ :=
  if !x.mgr.initialized then x
  else
    let (answer, x) := x.call (D.ccs811ReadForBle (compensationTemperature x.mgr.current)
      (compensationHumidity x.mgr.current))
    x.modify (cacheAirQualityForBle answer)

/-- `sensor_manager_is_ccs811_ready`. -/
def sensorManagerIsCcs811Ready (D : Drivers ρ) (x : ManagerRun ρ) : Bool × ManagerRun ρ :=
  x.call D.ccs811IsReady

/-- `sensor_manager_register_callback` with the callback of the ESS. -/
def sensorManagerRegisterCallback (D : Drivers ρ) (x : ManagerRun ρ) : ℤ × ManagerRun ρ :=
  let (ret, x) := x.call D.lock
  if ret ≠ 0 then (ret, x) else (0, { x with mgr := { x.mgr with updateCallback := true } })

/-- `sensor_manager_arm`. -/
def sensorManagerArm (x : ManagerRun ρ) : ℤ × ManagerRun ρ :=
  if !x.mgr.initialized then (-EINVAL, x)
  else if !x.mgr.updateCallback then (-EINVAL, x)
  else (0, { x with mgr := { x.mgr with armed := true } })

/-- `sensor_manager_on_connected` before its two updates: the bookkeeping and the call of the
driver. -/
def sensorManagerTrackConnected (D : Drivers ρ) (x : ManagerRun ρ) : ℤ × ManagerRun ρ :=
  if !x.mgr.armed then (-EINVAL, x)
  else
    (0, { mgr := { x.mgr with connectedCount := x.mgr.connectedCount + 1 }
          env := D.ccs811OnConnected x.env })

/-- An armed sensor manager counts the connection. -/
theorem sensorManagerTrackConnected_of_armed (D : Drivers ρ) {x : ManagerRun ρ}
    (harmed : x.mgr.armed = true) :
    sensorManagerTrackConnected D x =
      (0, { mgr := { x.mgr with connectedCount := x.mgr.connectedCount + 1 }
            env := D.ccs811OnConnected x.env }) :=
  if_neg (Bool.eq_false_iff.mp (congrArg (!·) harmed))

/-- One that is not refuses it. -/
theorem sensorManagerTrackConnected_of_not_armed (D : Drivers ρ) {x : ManagerRun ρ}
    (harmed : x.mgr.armed = false) : sensorManagerTrackConnected D x = (-EINVAL, x) :=
  if_pos (congrArg (!·) harmed)

/-- `sensor_manager_on_disconnected`. -/
def sensorManagerOnDisconnected (D : Drivers ρ) (x : ManagerRun ρ) : ManagerRun ρ :=
  if x.mgr.connectedCount = 0 then x
  else
    let connectedCount := x.mgr.connectedCount - 1
    { mgr := { x.mgr with connectedCount := connectedCount }
      env := if connectedCount = 0 then D.ccs811OnDisconnected x.env else x.env }

/-- `sensor_manager_init`, up to its call of the callback on the boot sample. -/
def sensorManagerInit (D : Drivers ρ) (x : ManagerRun ρ) :
    ℤ × Option SensorData × ManagerRun ρ :=
  if x.mgr.initialized then (0, none, x)
  else
    let (i2cReady, x) := x.call D.i2cReady
    if !i2cReady then (-ENODEV, none, x)
    else
      let x : ManagerRun ρ :=
        { mgr := { x.mgr with initialized := true }, env := D.initDrivers x.env }
      let (_, snapshot, x) := sensorManagerUpdate D x
      (0, snapshot, x)

end EnvMonitor
