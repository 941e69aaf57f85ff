import EnvMonitor.Ess.State
import EnvMonitor.Lib.Exit

/-!
# `ess_service_update`

The update is a chain of five stages over one snapshot: temperature, humidity, pressure,
CO2, TVOC. A stage whose field is valid but out of range invalidates its characteristic and
leaves the whole function with `-ERANGE`, so the stages after it do not run.

The gas stages ask the sensor manager whether the CCS811 is ready, each for itself and up to
twice, and the answer may change in between. The readiness is therefore an oracle
`ready : ρ → Bool × ρ` on an environment that the update threads through its calls.

The specification is `essServiceUpdate_sensor`: a characteristic behind an out-of-range
field is untouched, and every other one gets what its own reading says.
-/

namespace EnvMonitor

variable {ρ : Type*}

/-! ### Storing and notifying -/

namespace EssRun

/-- The body the three `update_sensor_*` functions share: store the value, and attempt a
notification if the trigger asks for one and the client enabled it. The return code of
`bt_gatt_notify` is only logged. -/
def updateSensor (c : EssCharId) (notify : Bool) (stored : ℤ) (payload : List UInt8)
    (u : EssRun ρ) : EssRun ρ :=
  u.store .update c stored
    (if notify && (u.ess.sensor c).notifyEnabled then some payload else none)

/-- `update_sensor_u16`. -/
def updateSensorU16 (c : EssCharId) (newValue : ℤ) (u : EssRun ρ) : EssRun ρ :=
  u.updateSensor c
    (essShouldNotify16 c.condition (toSigned 16 (u.ess.sensor c).value)
      (toSigned 16 newValue) (toSigned 16 c.refVal))
    newValue (leBytes 2 (toUnsigned 16 newValue))

/-- `update_sensor_i16`. -/
def updateSensorI16 (c : EssCharId) (newValue : ℤ) (u : EssRun ρ) : EssRun ρ :=
  u.updateSensor c
    (essShouldNotify16 c.condition (toSigned 16 (u.ess.sensor c).value) newValue
      (toSigned 16 c.refVal))
    newValue (leBytes 2 (toUnsigned 16 newValue))

/-- `update_sensor_u32`. -/
def updateSensorU32 (c : EssCharId) (newValue : ℤ) (u : EssRun ρ) : EssRun ρ :=
  u.updateSensor c
    (essShouldNotify32 c.condition (u.ess.sensor c).value (toSigned 32 newValue) c.refVal)
    (toSigned 32 newValue) (leBytes 4 (toUnsigned 32 newValue))

/-- The update function that `ess_service_update` uses for each characteristic. -/
def updateSensorOf : EssCharId → ℤ → EssRun ρ → EssRun ρ
  | .temperature => updateSensorI16 .temperature
  | .humidity => updateSensorU16 .humidity
  | .pressure => updateSensorU32 .pressure
  | .co2 => updateSensorU16 .co2
  | .tvoc => updateSensorU16 .tvoc

end EssRun

/-! ### Stages -/

/-- The temperature, humidity and pressure stages: an out-of-range field ends the update. -/
def updateStage (c : EssCharId) (reading : Reading) (u : EssRun ρ) : Exit (EssRun ρ) :=
  match reading with
  | .absent => .next (u.invalidateSensor c)
  | .outOfRange => .returned (-ERANGE) (u.invalidateSensor c)
  | .value v => .next (u.updateSensorOf c v)

/-- What the condition of a gas stage came to. -/
inductive GasGate where
  /-- The snapshot has the air-quality bit and the CCS811 is ready. -/
  | real
  /-- The CCS811 is not ready. -/
  | conditioning
  /-- The CCS811 is ready but the snapshot has no air-quality bit. -/
  | invalid
deriving DecidableEq, Repr

/-- The condition `(valid_mask & SENSOR_AIR_QUALITY) != 0 && is_ready()`, then
`!is_ready()`: two calls, the first only with the bit set, the second only if the first
condition fails. -/
def gasGate (ready : ρ → Bool × ρ) (airQuality : Bool) (env : ρ) : GasGate × ρ :=
  let (isReady, env) := if airQuality then ready env else (false, env)
  if isReady then (.real, env)
  else
    let (isReady, env) := ready env
    if !isReady then (.conditioning, env) else (.invalid, env)

/-- The CO2 stage. Its range check covers both gases and invalidates both. -/
def co2Stage (ready : ρ → Bool × ρ) (data : SensorData) (u : EssRun ρ) :
    Exit (EssRun ρ) :=
  let (gate, env) := gasGate ready (data.isValid .airQuality) u.env
  let u := { u with env := env }
  match gate with
  | .real =>
    if !essCo2InRange data.eco2 || !essTvocInRange data.tvoc then
      .returned (-ERANGE) ((u.invalidateSensor .co2).invalidateSensor .tvoc)
    else .next (u.updateSensorOf .co2 (essEncodeCo2 data.eco2))
  | .conditioning => .next (u.updateSensorOf .co2 ESS_UNKNOWN_U16)
  | .invalid => .next (u.invalidateSensor .co2)

/-- The TVOC stage. -/
def tvocStage (ready : ρ → Bool × ρ) (data : SensorData) (u : EssRun ρ) :
    Exit (EssRun ρ) :=
  let (gate, env) := gasGate ready (data.isValid .airQuality) u.env
  let u := { u with env := env }
  match gate with
  | .real => .next (u.updateSensorOf .tvoc (essEncodeTvoc data.tvoc))
  | .conditioning => .next (u.updateSensorOf .tvoc ESS_UNKNOWN_U16)
  | .invalid => .next (u.invalidateSensor .tvoc)

/-- The log line at the end asks for the readiness once more if the air-quality bit is
clear. -/
def logStage (ready : ρ → Bool × ρ) (data : SensorData) (u : EssRun ρ) : Exit (EssRun ρ) :=
  if data.isValid .airQuality then .next u else .next { u with env := (ready u.env).2 }

/-- `ess_service_update`; the null pointer is `none`. -/
def essServiceUpdate (ready : ρ → Bool × ρ) (data : Option SensorData) (u : EssRun ρ) :
    Exit (EssRun ρ) :=
  if !u.ess.initialized then .returned (-ENODEV) u
  else
    match data with
    | none => .returned (-EINVAL) u
    | some data =>
      (updateStage .temperature (temperatureReading data) u).andThen fun u =>
      (updateStage .humidity (humidityReading data) u).andThen fun u =>
      (updateStage .pressure (pressureReading data) u).andThen fun u =>
      (co2Stage ready data u).andThen fun u =>
      (tvocStage ready data u).andThen fun u =>
      logStage ready data u

/-- `sensor_data_callback`. -/
def sensorDataCallback (ready : ρ → Bool × ρ) (data : Option SensorData) (u : EssRun ρ) :
    EssRun ρ :=
  if u.ess.initialized && data.isSome then (essServiceUpdate ready data u).state else u

end EnvMonitor
