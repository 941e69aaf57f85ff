import EnvMonitor.Errno
import EnvMonitor.Ess.Encode
import EnvMonitor.SensorManager.Data
import Mathlib.Logic.Function.Basic

/-!
# The state of the Environmental Sensing Service

The five `ess_sensor` records of `ess_service.c` and what a snapshot means to each of them.
Of a record only `value`, `notify_enabled` and `value_known` are ever written; the trigger
condition and reference value of its static initialiser are constants here.

A snapshot offers a characteristic one of three things, a `Reading`: nothing, because the
valid bit is clear, a field out of the characteristic's range, or a value to store. The
update and the read handlers make the same three-way decision and differ in what they do
with it.
-/

namespace EnvMonitor

/-! ### Characteristics -/

/-- `enum ess_char_id`. -/
inductive EssCharId where
  | temperature
  | humidity
  | pressure
  | co2
  | tvoc
deriving DecidableEq, Repr

/-- The trigger condition of every `ess_sensor`, `ESS_TRIGGER_VALUE_CHANGED`. -/
def EssCharId.condition (_ : EssCharId) : EssTriggerCondition := .valueChanged

/-- The trigger reference value of every `ess_sensor`. -/
def EssCharId.refVal (_ : EssCharId) : ℤ := 0

/-- The fields of `struct ess_sensor` that change. -/
@[ext]
structure EssSensor where
  value : ℤ
  notifyEnabled : Bool := false
  valueKnown : Bool := false
deriving DecidableEq, Repr

/-- The static variables of `ess_service.c`. -/
@[ext]
structure EssState where
  initialized : Bool
  sensor : EssCharId → EssSensor

/-- The state the program starts with: sentinels, and `0` for pressure, nothing known. -/
def essStart : EssState where
  initialized := false
  sensor
    | .temperature => { value := ESS_UNKNOWN_S16 }
    | .humidity => { value := ESS_UNKNOWN_U16 }
    | .pressure => { value := 0 }
    | .co2 => { value := ESS_UNKNOWN_U16 }
    | .tvoc => { value := ESS_UNKNOWN_U16 }

namespace EssState

/-- Replace one record. -/
def set (s : EssState) (c : EssCharId) (x : EssSensor) : EssState :=
  { s with sensor := Function.update s.sensor c x }

@[simp]
theorem set_sensor_self (s : EssState) (c : EssCharId) (x : EssSensor) :
    (s.set c x).sensor c = x := by
  simp only [set, Function.update_self]

@[simp]
theorem set_sensor_of_ne (s : EssState) {c c' : EssCharId} (h : c' ≠ c) (x : EssSensor) :
    (s.set c x).sensor c' = s.sensor c' := by
  simp only [set, Function.update_of_ne h]

/-- `invalidate_sensor`. -/
def invalidateSensor (s : EssState) (c : EssCharId) : EssState :=
  s.set c { s.sensor c with valueKnown := false }

end EssState

/-! ### Ranges -/

/-- `ess_temperature_in_range`, from -273.15 °C to 327.67 °C. -/
def essTemperatureInRange (tempCelsius : CFloat) : Bool :=
  tempCelsius.within (ESS_TEMP_MIN_E_2C / 100) (ESS_TEMP_MAX_E_2C / 100)

/-- `ess_humidity_in_range`, from 0 % to 100 %. -/
def essHumidityInRange (humidityPercent : CFloat) : Bool :=
  humidityPercent.within 0 (ESS_HUM_MAX_E_2PCT / 100)

/-- `ess_pressure_in_range`, from 26 kPa to 126 kPa. -/
def essPressureInRange (pressureKpa : CFloat) : Bool := pressureKpa.within 26 126

/-- `ess_co2_in_range`, with `CO2_LOWER_LIMIT` and `CO2_UPPER_LIMIT`. -/
def essCo2InRange (co2Ppm : UInt16) : Bool := 400 ≤ co2Ppm && co2Ppm ≤ 5000

/-- `ess_tvoc_in_range`, with `TVOC_LOWER_LIMIT` and `TVOC_UPPER_LIMIT`. -/
def essTvocInRange (tvocPpb : UInt16) : Bool := 0 ≤ tvocPpb && tvocPpb ≤ 32767

/-! ### Readings -/

/-- What a snapshot offers a characteristic. -/
inductive Reading where
  | absent
  | outOfRange
  | value (v : ℤ)
deriving DecidableEq, Repr

/-- The reading of a field: absent unless its flag is set, and then its encoding if the
field is in range. -/
def fieldReading (valid inRange : Bool) (encoded : ℤ) : Reading :=
  if valid then if !inRange then .outOfRange else .value encoded else .absent

/-- The temperature of a snapshot. -/
def temperatureReading (data : SensorData) : Reading :=
  fieldReading (data.isValid .temperature) (essTemperatureInRange data.temperature)
    (essEncodeTemperature data.temperature)

/-- The humidity of a snapshot. -/
def humidityReading (data : SensorData) : Reading :=
  fieldReading (data.isValid .humidity) (essHumidityInRange data.humidity)
    (essEncodeHumidity data.humidity)

/-- The pressure of a snapshot. -/
def pressureReading (data : SensorData) : Reading :=
  fieldReading (data.isValid .pressure) (essPressureInRange data.pressure)
    (essEncodePressure data.pressure)

/-- The CO2 of a snapshot, as a read handler sees it. -/
def co2Reading (data : SensorData) : Reading :=
  fieldReading (data.isValid .airQuality) (essCo2InRange data.eco2) (essEncodeCo2 data.eco2)

/-- The TVOC of a snapshot, as a read handler sees it. -/
def tvocReading (data : SensorData) : Reading :=
  fieldReading (data.isValid .airQuality) (essTvocInRange data.tvoc)
    (essEncodeTvoc data.tvoc)

theorem fieldReading_eq_value {valid inRange : Bool} {encoded v : ℤ} :
    fieldReading valid inRange encoded = .value v ↔
      valid = true ∧ inRange = true ∧ encoded = v := by
  cases valid <;> cases inRange <;> simp [fieldReading]

theorem fieldReading_eq_outOfRange {valid inRange : Bool} {encoded : ℤ} :
    fieldReading valid inRange encoded = .outOfRange ↔ valid = true ∧ inRange = false := by
  cases valid <;> cases inRange <;> simp [fieldReading]

/-! ### What the service does to its state -/

/-- Who wrote a cached value: an update, which may notify, or a read handler, which never
does. -/
inductive EssWriter where
  | update
  | read
deriving DecidableEq, Repr

/-- One write of a cached value: the value it replaced, the value stored, and the payload
of the notification attempted with it, if any. -/
structure EssWrite where
  writer : EssWriter
  char : EssCharId
  old : ℤ
  value : ℤ
  attempt : Option (List UInt8)
deriving DecidableEq, Repr

/-- A run inside the service: its state, the writes so far, and the environment that
answers its calls into the sensor manager. -/
structure EssRun (ρ : Type*) where
  ess : EssState
  writes : List EssWrite
  env : ρ

variable {ρ : Type*}

namespace EssRun

/-- `invalidate_sensor` inside a run. -/
def invalidateSensor (c : EssCharId) (u : EssRun ρ) : EssRun ρ :=
  { u with ess := u.ess.invalidateSensor c }

/-- Store a value in one record and mark it known. -/
def store (writer : EssWriter) (c : EssCharId) (value : ℤ) (attempt : Option (List UInt8))
    (u : EssRun ρ) : EssRun ρ :=
  let sensor := u.ess.sensor c
  { u with
    ess := u.ess.set c { sensor with value := value, valueKnown := true }
    writes := u.writes ++ [⟨writer, c, sensor.value, value, attempt⟩] }

end EssRun

/-! ### CCC handlers -/

/-- `BT_GATT_CCC_NOTIFY`. -/
def BT_GATT_CCC_NOTIFY : ℕ := 1

/-- The five `*_ccc_cfg_changed` handlers, and `ess_service_local_ccc` with the value
`BT_GATT_CCC_NOTIFY` or `0`. -/
def cccCfgChanged (c : EssCharId) (value : ℕ) (s : EssState) : EssState :=
  s.set c { s.sensor c with notifyEnabled := value == BT_GATT_CCC_NOTIFY }

end EnvMonitor
