import EnvMonitor.Errno
import Mathlib.Data.Nat.Notation
import Mathlib.Tactic.SplitIfs

/-!
# The hardware battery service

`battery_service.c`: the level comes from an ADC sample of the divided cell voltage, the
charging flag from a GPIO pin. The service keeps the last level it measured, the last
charging flag it reported and a callback for changes of that flag.

The callback is the only way out of this module, so the two functions that run it,
`battery_service_is_charging` and the debounce work, take it as an argument: they report
here whether it has to run, and the battery application of `Battery/Ble.lean` runs it.
-/

namespace EnvMonitor

/-- The answers of the voltage sensor to one `battery_sample`: the two return codes and the
cell voltage in millivolts after the divider correction. -/
structure AdcSample where
  fetchRet : ℤ
  channelRet : ℤ
  voltageMv : ℕ
deriving DecidableEq, Repr

/-- `struct battery_data`. The callback pointer is either null or the charging callback of
the BLE battery service, the only one the firmware registers. -/
structure BatteryData where
  lastLevel : UInt8 := 0
  initialized : Bool := false
  hasValidReading : Bool := false
  lastChargingState : Bool := false
  chargingChangedCb : Bool := false
deriving DecidableEq, Repr

/-- `voltage_to_percentage`: linear between the empty cell at 3000 mV and the full one at
4200 mV, and clamped outside. -/
def voltageToPercentage (voltageMv : ℕ) : UInt8 :=
  if voltageMv ≥ 4200 then 100
  else if voltageMv ≤ 3000 then 0
  else UInt8.ofNat ((voltageMv - 3000) * 100 / (4200 - 3000))

/-- `battery_sample`: measure the cell and remember the level. The charging pin it reads for
its log line changes nothing. -/
def batterySample (adc : AdcSample) (bat : BatteryData) : ℤ × BatteryData :=
  if !bat.initialized then (-EINVAL, bat)
  else if adc.fetchRet ≠ 0 then (adc.fetchRet, bat)
  else if adc.channelRet ≠ 0 then (adc.channelRet, bat)
  else (0, { bat with lastLevel := voltageToPercentage adc.voltageMv, hasValidReading := true })

/-- `battery_service_get_level`: the level just measured, `-ENODATA` while no measurement
has ever succeeded, and the error of the measurement otherwise. -/
def batteryServiceGetLevel (adc : AdcSample) (bat : BatteryData) : ℤ × BatteryData :=
  let (err, bat) := batterySample adc bat
  if err ≠ 0 then
    if !bat.hasValidReading then (-ENODATA, bat) else (err, bat)
  else (bat.lastLevel.toNat, bat)

/-- A level fits `uint8_t`, as its caller in the sensor manager assumes; an error is not a
positive number. -/
theorem batteryServiceGetLevel_le {adc : AdcSample} (hfetch : adc.fetchRet ≤ 0)
    (hchannel : adc.channelRet ≤ 0) (bat : BatteryData) :
    (batteryServiceGetLevel adc bat).1 ≤ 255 := by
  have hlevel : ∀ level : UInt8, (level.toNat : ℤ) ≤ 255 := by
    intro level
    have hlt := level.toNat_lt
    omega
  have hneg : (-EINVAL : ℤ) ≤ 255 := by decide
  have hsample : (batterySample adc bat).1 ≤ 255 := by
    rw [batterySample]
    split_ifs <;> dsimp only
    · exact hneg
    · omega
    · omega
    · omega
  have hnodata : (-ENODATA : ℤ) ≤ 255 := by decide
  rw [batteryServiceGetLevel]
  rcases hcall : batterySample adc bat with ⟨err, bat'⟩
  rw [hcall] at hsample
  dsimp only
  split_ifs
  · exact hnodata
  · exact hsample
  · exact hlevel _

/-- The level after a measurement that succeeds. -/
theorem batteryServiceGetLevel_of_ok {adc : AdcSample} (hfetch : adc.fetchRet = 0)
    (hchannel : adc.channelRet = 0) {bat : BatteryData} (hinit : bat.initialized = true) :
    batteryServiceGetLevel adc bat =
      (((voltageToPercentage adc.voltageMv).toNat : ℤ),
        { bat with lastLevel := voltageToPercentage adc.voltageMv, hasValidReading := true }) := by
  simp [batteryServiceGetLevel, batterySample, hinit, hfetch, hchannel]

/-- The answers of the devices to one `battery_service_init`: whether the voltage sensor and the
GPIO port are ready, the return codes of the three GPIO calls, the charge pin
(`gpio_pin_get_dt`) and the first measurement. -/
structure BatteryInitAnswers where
  voltageReady : Bool
  gpioReady : Bool
  configureRet : ℤ
  interruptRet : ℤ
  addCallbackRet : ℤ
  pin : ℤ
  adc : AdcSample
deriving DecidableEq, Repr

/-- `battery_sensor_init`. A failed calibration is only logged. -/
def batterySensorInit (voltageReady : Bool) : ℤ := if !voltageReady then -ENODEV else 0

/-- `battery_service_init`. The pin is read before the service counts as initialised; a failed
first measurement is only logged. -/
def batteryServiceInit (answers : BatteryInitAnswers) (bat : BatteryData) : ℤ × BatteryData :=
  let ret := batterySensorInit answers.voltageReady
  if ret ≠ 0 then (ret, bat)
  else if !answers.gpioReady then (-ENODEV, bat)
  else if answers.configureRet ≠ 0 then (answers.configureRet, bat)
  else if answers.interruptRet ≠ 0 then (answers.interruptRet, bat)
  else if answers.addCallbackRet ≠ 0 then (answers.addCallbackRet, bat)
  else
    let bat := { bat with lastChargingState := answers.pin == 0, initialized := true }
    (0, (batterySample answers.adc bat).2)

/-- `battery_service_register_charging_callback`, with a callback and not `NULL`. -/
def batteryServiceRegisterChargingCallback (bat : BatteryData) : BatteryData :=
  { bat with chargingChangedCb := true }

/-- A measurement leaves the charge detection alone. -/
theorem batterySample_frame (adc : AdcSample) (bat : BatteryData) :
    let bat' := (batterySample adc bat).2
    bat'.initialized = bat.initialized ∧ bat'.lastChargingState = bat.lastChargingState ∧
      bat'.chargingChangedCb = bat.chargingChangedCb := by
  intro bat'
  simp only [bat', batterySample]
  split_ifs <;> exact ⟨rfl, rfl, rfl⟩

/-- **What an initialisation that succeeds leaves behind**: the first reading of the pin is the
flag remembered. -/
theorem batteryServiceInit_of_ok {answers : BatteryInitAnswers} {bat bat' : BatteryData}
    (h : batteryServiceInit answers bat = (0, bat')) :
    bat'.initialized = true ∧ bat'.lastChargingState = (answers.pin == 0) := by
  have hnodev : (-ENODEV : ℤ) ≠ 0 := by decide
  rw [batteryServiceInit] at h
  dsimp only at h
  split_ifs at h with h₁ h₂ h₃ h₄ h₅
  · exact absurd (Prod.mk.inj h).1 h₁
  · exact absurd (Prod.mk.inj h).1 hnodev
  · exact absurd (Prod.mk.inj h).1 h₃
  · exact absurd (Prod.mk.inj h).1 h₄
  · exact absurd (Prod.mk.inj h).1 h₅
  · obtain ⟨hinit, hlast, -⟩ := batterySample_frame answers.adc
      { bat with lastChargingState := answers.pin == 0, initialized := true }
    rw [← (Prod.mk.inj h).2]
    exact ⟨hinit, hlast⟩

/-- The edge detection that `battery_service_is_charging` and `charge_status_debounce_work`
share: a level that differs from the last one reported is remembered, and the registered
callback has to run. The flag of the result says whether it does. -/
def reportCharging (isCharging : Bool) (bat : BatteryData) : Bool × BatteryData :=
  if isCharging ≠ bat.lastChargingState then
    (bat.chargingChangedCb, { bat with lastChargingState := isCharging })
  else (false, bat)

end EnvMonitor
