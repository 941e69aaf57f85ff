import EnvMonitor.Lib.CFloat
import EnvMonitor.Lib.Flags

/-!
# Sensor data

`sensor_manager.h`: the snapshot that the sensor manager keeps and hands out, with the flag
word that says which of its fields come from a successful read.
-/

namespace EnvMonitor

/-- `enum sensor_select`, a set of flags. -/
abbrev SensorSelect := BitVec 32

namespace SensorSelect

/-- `SENSOR_TEMPERATURE`. -/
def temperature : SensorSelect := 0x01

/-- `SENSOR_HUMIDITY`. -/
def humidity : SensorSelect := 0x02

/-- `SENSOR_PRESSURE`. -/
def pressure : SensorSelect := 0x04

/-- `SENSOR_AIR_QUALITY`: eCO2 and TVOC together. -/
def airQuality : SensorSelect := 0x08

/-- `SENSOR_BATTERY`. -/
def battery : SensorSelect := 0x10

/-- `SENSOR_TEMP_HUMIDITY`. -/
def tempHumidity : SensorSelect := temperature ||| humidity

/-- `SENSOR_ENV_BASIC`. -/
def envBasic : SensorSelect := temperature ||| humidity ||| pressure ||| battery

/-- `SENSOR_ENV_FULL`. -/
def envFull : SensorSelect := temperature ||| humidity ||| pressure ||| battery ||| airQuality

end SensorSelect

/-- `struct sensor_data`. -/
structure SensorData where
  temperature : CFloat
  humidity : CFloat
  pressure : CFloat
  eco2 : UInt16
  tvoc : UInt16
  batteryLevel : UInt8
  batteryCharging : Bool
  timestamp : ℤ
  validMask : SensorSelect
deriving DecidableEq

/-- `current_data` as the program starts with it. -/
def sensorDataZero : SensorData where
  temperature := .fin 0
  humidity := .fin 0
  pressure := .fin 0
  eco2 := 0
  tvoc := 0
  batteryLevel := 0
  batteryCharging := false
  timestamp := 0
  validMask := 0

/-- `SENSOR_DATA_IS_VALID`. -/
def SensorData.isValid (data : SensorData) (flag : SensorSelect) : Bool :=
  hasAny data.validMask flag

end EnvMonitor
