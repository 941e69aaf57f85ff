import EnvMonitor.Lib.Machine
import EnvMonitor.Battery.Hardware

/-!
# The BLE battery service

`ble_battery_service.c` on top of `battery_service.c`. The cache `ble_battery_state` has
three writers: `ble_battery_service_update_manual`, `ble_battery_service_update`, which ends
in it, and `charging_status_changed`, which `battery_service` calls back when its charging
flag changes. Only the first hands values to Zephyr's Battery Service (BAS), and only when
the level or the flag it is given differs from the cached one.

The callback is re-entered from inside the update: the update asks
`battery_service_is_charging`, which may call `charging_status_changed`, which updates
again. Every nested update takes one reading of its own from the hardware, so the recursion
is structural on the list of readings; a list that ends before the recursion does gives
`none`, which no run of the program shows.
-/

namespace EnvMonitor

/-! ### The cached state -/

/-- `enum bt_bas_bls_battery_charge_state`. -/
inductive ChargeState where
  | unknown
  | charging
  | dischargingActive
  | dischargingInactive
deriving DecidableEq, Repr

/-- `enum bt_bas_bls_battery_charge_level`. -/
inductive ChargeLevel where
  | unknown
  | good
  | low
  | critical
deriving DecidableEq, Repr

/-- `enum bt_bas_bls_wired_power_source`, the two values the service uses. -/
inductive WiredPower where
  | notConnected
  | connected
deriving DecidableEq, Repr

/-- `ble_battery_state`, with its static initialisers. -/
structure BleBatteryState where
  level : UInt8 := 0
  charging : Bool := false
  wiredPower : WiredPower := .notConnected
  chargeState : ChargeState := .unknown
  chargeLevel : ChargeLevel := .unknown
  initialized : Bool := false
deriving DecidableEq, Repr

/-- What Zephyr's Battery Service was last handed through each `bt_bas_*` setter, `none`
before the first call. The service is taken only to store it. -/
structure Bas where
  level : Option UInt8 := none
  wiredPower : Option WiredPower := none
  chargeState : Option ChargeState := none
  chargeLevel : Option ChargeLevel := none
deriving DecidableEq, Repr

/-- The battery application: both services, the connection count of the BLE service and the
Battery Service. `published` is history, not program state: the level and flag of the last
`ble_battery_service_update_manual` that handed its values over. -/
structure BatteryApp where
  bat : BatteryData := {}
  ble : BleBatteryState := {}
  connectedCount : UInt32 := 0
  bas : Bas := {}
  published : Option (UInt8 × Bool) := none
deriving DecidableEq, Repr

/-- The charge level of `update_charge_level`. -/
def chargeLevelOf (level : UInt8) : ChargeLevel :=
  if level > 75 then .good else if level > 25 then .low else .critical

/-- The charge state of `update_charge_state`, from the cached level and the flag. -/
def chargeStateOf (level : UInt8) (charging : Bool) : ChargeState :=
  if charging then .charging
  else if level > 10 then .dischargingActive
  else .dischargingInactive

/-- The power source of `update_charge_state`. -/
def wiredPowerOf (charging : Bool) : WiredPower :=
  if charging then .connected else .notConnected

/-- `update_charge_level`. -/
def updateChargeLevel (level : UInt8) (ble : BleBatteryState) : BleBatteryState :=
  { ble with chargeLevel := chargeLevelOf level }

/-- `update_charge_state`. -/
def updateChargeState (charging : Bool) (ble : BleBatteryState) : BleBatteryState :=
  { ble with
    chargeState := chargeStateOf ble.level charging
    wiredPower := wiredPowerOf charging }

/-! ### The functions of the service -/

/-- `ble_battery_service_get_level`. -/
def bleBatteryServiceGetLevel (ble : BleBatteryState) : UInt8 :=
  if !ble.initialized then 0 else ble.level

/-- `ble_battery_service_is_charging`. -/
def bleBatteryServiceIsCharging (ble : BleBatteryState) : Bool := ble.charging

/-- One call of `ble_battery_service_update_manual` past its initialisation check, as a run
records it: the clamped level and the flag it asked for, its return code, and the
application before and after. -/
structure ManualCall where
  level : UInt8
  charging : Bool
  ret : ℤ
  before : BatteryApp
  after : BatteryApp

/-- The level after the clamping of `ble_battery_service_update_manual`. -/
def clampLevel (level : UInt8) : UInt8 := if level > 100 then 100 else level

/-- `ble_battery_service_update_manual` on an initialised service, with a level already
clamped. `setLevelRet` is the answer of `bt_bas_set_battery_level`; the other setters
cannot fail. -/
def updateManualClamped (setLevelRet : ℤ) (level : UInt8) (charging : Bool)
    (app : BatteryApp) : ℤ × BatteryApp :=
  -- compared with the cache, which the callback may have written just before
  if app.ble.level = level ∧ app.ble.charging = charging then (0, app)
  else
    let ble := { app.ble with level := level, charging := charging }
    let ble := updateChargeState charging (updateChargeLevel level ble)
    let app := { app with ble := ble }
    -- a failed setter leaves the cache ahead
    if setLevelRet ≠ 0 then (setLevelRet, app)
    else
      (0, { app with
        bas := {
          level := some level
          chargeState := some ble.chargeState
          chargeLevel := some ble.chargeLevel
          wiredPower := some ble.wiredPower }
        published := some (level, charging) })

/-- `ble_battery_service_update_manual`, with the record of its call. -/
def bleBatteryServiceUpdateManual (setLevelRet : ℤ) (level : UInt8) (charging : Bool)
    (app : BatteryApp) : ℤ × BatteryApp × List ManualCall :=
  if !app.ble.initialized then (-ENODEV, app, [])
  else
    let level := clampLevel level
    let (ret, app') := updateManualClamped setLevelRet level charging app
    (ret, app', [⟨level, charging, ret, app, app'⟩])

/-- What one `ble_battery_service_update` reads: the level sample, the charge pin
(`gpio_pin_get_dt`), and the answer of `bt_bas_set_battery_level` should it publish. -/
structure HwReading where
  adc : AdcSample
  pin : ℤ
  setLevelRet : ℤ
deriving DecidableEq, Repr

/-- `charging_status_changed`; `update` is the nested `ble_battery_service_update`, whose
return code is ignored. -/
def chargingStatusChanged
    (update : BatteryApp → Option (ℤ × BatteryApp × List ManualCall)) (charging : Bool)
    (app : BatteryApp) : Option (BatteryApp × List ManualCall) :=
  if !app.ble.initialized ∨ app.connectedCount = 0 then some (app, [])
  else
    -- written ahead of the update, which compares with it
    let ble := updateChargeState charging { app.ble with charging := charging }
    (update { app with ble := ble }).map fun r => r.2

/-- The charging flag `isCharging` was read from the pin: remember it, and run the callback
if it changed and one is registered. -/
def noteCharging
    (update : BatteryApp → Option (ℤ × BatteryApp × List ManualCall)) (isCharging : Bool)
    (app : BatteryApp) : Option (BatteryApp × List ManualCall) :=
  let (notify, bat) := reportCharging isCharging app.bat
  let app := { app with bat := bat }
  if notify then chargingStatusChanged update isCharging app else some (app, [])

/-- `battery_service_is_charging`. An answer `0` of `gpio_pin_get_dt` counts as charging. -/
def batteryServiceIsCharging
    (update : BatteryApp → Option (ℤ × BatteryApp × List ManualCall)) (pin : ℤ)
    (app : BatteryApp) : Option (Bool × BatteryApp × List ManualCall) :=
  if !app.bat.initialized then some (false, app, [])
  else (noteCharging update (pin == 0) app).map fun r => (pin == 0, r)

/-- `ble_battery_service_update`, over the readings that it and the updates nested in it
take, the outermost first. -/
def bleBatteryServiceUpdate :
    List HwReading → BatteryApp → Option (ℤ × BatteryApp × List ManualCall)
  | [], app => if !app.ble.initialized then some (-ENODEV, app, []) else none
  | r :: rs, app =>
    if !app.ble.initialized then some (-ENODEV, app, [])
    else
      let (batLevel, bat) := batteryServiceGetLevel r.adc app.bat
      let app := { app with bat := bat }
      if batLevel < 0 then some (batLevel, app, [])
      else
        -- an update nested in the poll takes the readings that follow
        (batteryServiceIsCharging (bleBatteryServiceUpdate rs) r.pin app).map
          fun (charging, app', nested) =>
            let (ret, app'', own) := bleBatteryServiceUpdateManual r.setLevelRet
              (UInt8.ofNat batLevel.toNat) charging app'
            (ret, app'', nested ++ own)

/-- The application after a measurement of the cell. -/
def BatteryApp.measured (level : UInt8) (app : BatteryApp) : BatteryApp :=
  { app with bat := { app.bat with lastLevel := level, hasValidReading := true } }

/-- **An update whose measurement succeeds.** -/
theorem bleBatteryServiceUpdate_cons {r : HwReading} (hfetch : r.adc.fetchRet = 0)
    (hchannel : r.adc.channelRet = 0) (rs : List HwReading) {app : BatteryApp}
    (hinit : app.ble.initialized = true) (hbat : app.bat.initialized = true) :
    bleBatteryServiceUpdate (r :: rs) app =
      (noteCharging (bleBatteryServiceUpdate rs) (r.pin == 0)
        (app.measured (voltageToPercentage r.adc.voltageMv))).map fun (app', nested) =>
          let (ret, app'', own) := bleBatteryServiceUpdateManual r.setLevelRet
            (voltageToPercentage r.adc.voltageMv) (r.pin == 0) app'
          (ret, app'', nested ++ own) := by
  have hlevel := batteryServiceGetLevel_of_ok hfetch hchannel hbat
  have hnonneg : ¬ ((voltageToPercentage r.adc.voltageMv).toNat : ℤ) < 0 := by omega
  rw [bleBatteryServiceUpdate]
  simp only [hinit, hlevel, hnonneg, batteryServiceIsCharging, hbat, Bool.not_true,
    Bool.false_eq_true, if_false, Option.map_map, Int.toNat_natCast, UInt8.ofNat_toNat,
    BatteryApp.measured]
  rfl

/-- The application with a new charging flag remembered. -/
def BatteryApp.noted (charging : Bool) (app : BatteryApp) : BatteryApp :=
  { app with bat := { app.bat with lastChargingState := charging } }

/-- The writes of `charging_status_changed`, ahead of its update. -/
def BatteryApp.prewritten (charging : Bool) (app : BatteryApp) : BatteryApp :=
  { app with ble := updateChargeState charging { app.ble with charging := charging } }

/-- The callback gets to its update. -/
def BatteryApp.Listening (app : BatteryApp) : Prop :=
  app.bat.chargingChangedCb = true ∧ app.ble.initialized = true ∧ app.connectedCount ≠ 0

/-- **What noting a charging flag does.** A flag that is not new is only compared; a new one is
remembered, and the callback updates if it gets so far. -/
theorem noteCharging_cases {nested : BatteryApp → Option (ℤ × BatteryApp × List ManualCall)}
    {charging : Bool} {app app' : BatteryApp} {calls : List ManualCall}
    (h : noteCharging nested charging app = some (app', calls)) :
    (charging = app.bat.lastChargingState ∧ app' = app) ∨
      (charging ≠ app.bat.lastChargingState ∧ ¬ app.Listening ∧ app' = app.noted charging) ∨
      (charging ≠ app.bat.lastChargingState ∧ app.Listening ∧
        ∃ ret, nested ((app.noted charging).prewritten charging) = some (ret, app', calls)) := by
  by_cases hflag : charging = app.bat.lastChargingState
  · have hnote : noteCharging nested charging app = some (app, []) := by
      simp [noteCharging, reportCharging, hflag]
    obtain ⟨rfl, -⟩ := Prod.mk.inj (Option.some.inj (hnote.symm.trans h))
    exact Or.inl ⟨hflag, rfl⟩
  · simp only [noteCharging, reportCharging, if_pos hflag, chargingStatusChanged] at h
    refine Or.inr ?_
    split_ifs at h with hcb hguard
    · obtain ⟨rfl, -⟩ := Prod.mk.inj (Option.some.inj h)
      refine Or.inl ⟨hflag, ?_, rfl⟩
      rintro ⟨-, hinit, hcount⟩
      exact hguard.elim (by simp [hinit]) hcount
    · obtain ⟨⟨ret, r⟩, hnested, rfl⟩ := Option.map_eq_some_iff.mp h
      rw [not_or, Bool.not_eq_true', Bool.not_eq_false] at hguard
      exact Or.inr ⟨hflag, ⟨hcb, hguard⟩, ret, hnested⟩
    · obtain ⟨rfl, -⟩ := Prod.mk.inj (Option.some.inj h)
      exact Or.inl ⟨hflag, fun hreach => hcb hreach.1, rfl⟩

/-- `ble_battery_service_init`. -/
def bleBatteryServiceInit (app : BatteryApp) : BatteryApp :=
  { app with
    bas := { app.bas with
      wiredPower := some app.ble.wiredPower
      chargeState := some app.ble.chargeState
      chargeLevel := some app.ble.chargeLevel }
    bat := { app.bat with chargingChangedCb := true }
    ble := { app.ble with initialized := true } }

/-- `ble_battery_service_on_connected`; the result of the update is only logged. -/
def bleBatteryServiceOnConnected (readings : List HwReading) (app : BatteryApp) :
    Option (ℤ × BatteryApp × List ManualCall) :=
  if !app.ble.initialized then some (-ENODEV, app, [])
  else
    (bleBatteryServiceUpdate readings
      { app with connectedCount := app.connectedCount + 1 }).map fun r => (0, r.2)

/-- `ble_battery_service_on_disconnected`. -/
def bleBatteryServiceOnDisconnected (app : BatteryApp) : BatteryApp :=
  if app.connectedCount = 0 then app
  else { app with connectedCount := app.connectedCount - 1 }

/-- `battery_poll_work_handler`, without the rescheduling of the work item. -/
def batteryPollWorkHandler (readings : List HwReading) (app : BatteryApp) :
    Option (BatteryApp × List ManualCall) :=
  if !app.ble.initialized ∨ app.connectedCount = 0 then some (app, [])
  else (bleBatteryServiceUpdate readings app).map fun r => r.2

/-! ### Runs -/

/-- What can happen to the battery application after `ble_battery_service_init`, with the
hardware readings that the step takes. `isCharging` is a poll of
`battery_service_is_charging` from elsewhere, `debounceWork` the debounced pin interrupt. -/
inductive BatteryEvent where
  | update (readings : List HwReading)
  | updateManual (level : UInt8) (charging : Bool) (setLevelRet : ℤ)
  | isCharging (pin : ℤ) (readings : List HwReading)
  | debounceWork (pin : ℤ) (readings : List HwReading)
  | pollWork (readings : List HwReading)
  | connected (readings : List HwReading)
  | disconnected

/-- One step of the battery application; the observations are the calls of
`ble_battery_service_update_manual` in the order in which they return. -/
def batteryStep : BatteryEvent → BatteryApp → Option (BatteryApp × List ManualCall)
  | .update rs, app => (bleBatteryServiceUpdate rs app).map fun r => r.2
  | .updateManual level charging ret, app =>
    some (bleBatteryServiceUpdateManual ret level charging app).2
  | .isCharging pin rs, app =>
    (batteryServiceIsCharging (bleBatteryServiceUpdate rs) pin app).map fun r => r.2
  | .debounceWork pin rs, app => noteCharging (bleBatteryServiceUpdate rs) (pin == 0) app
  | .pollWork rs, app => batteryPollWorkHandler rs app
  | .connected rs, app => (bleBatteryServiceOnConnected rs app).map fun r => r.2
  | .disconnected, app => some (bleBatteryServiceOnDisconnected app, [])

/-- The battery application as a machine. -/
def batteryMachine : Machine BatteryApp BatteryEvent ManualCall := ⟨batteryStep⟩

/-- The answers of `bt_bas_set_battery_level` that a step may use. -/
def BatteryEvent.setLevelRets : BatteryEvent → List ℤ
  | .update rs | .isCharging _ rs | .debounceWork _ rs | .pollWork rs | .connected rs =>
    rs.map HwReading.setLevelRet
  | .updateManual _ _ ret => [ret]
  | .disconnected => []

/-- Every setter the step calls succeeds. -/
def BatteryEvent.SettersSucceed (e : BatteryEvent) : Prop := ∀ ret ∈ e.setLevelRets, ret = 0

/-- The application as `ble_battery_service_init` leaves it after power-on, with the
hardware service in any state. -/
def batteryAppStart (bat : BatteryData) : BatteryApp := bleBatteryServiceInit { bat := bat }

/-! ### What an update keeps -/

/-- The step leaves the bookkeeping of connections alone. -/
def BatteryEvent.quiet : BatteryEvent → Bool
  | .connected _ | .disconnected => false
  | _ => true

/-- Every result of a function on the application satisfies `P` and every call it made `Q`,
given that it starts from `P`. -/
def KeepsCalls {α : Type} (P : BatteryApp → Prop) (Q : ManualCall → Prop)
    (f : BatteryApp → Option (α × BatteryApp × List ManualCall)) : Prop :=
  ∀ {app a app' calls}, P app → f app = some (a, app', calls) → P app' ∧ ∀ c ∈ calls, Q c

/-- `P` survives what the service does to the application between two calls of
`ble_battery_service_update_manual`, and these calls, which all satisfy `Q`, if the setter
answers what `A` admits. -/
structure BatteryKeeps (A : ℤ → Prop) (P : BatteryApp → Prop) (Q : ManualCall → Prop) :
    Prop where
  hardware : ∀ {app} (bat : BatteryData), P app → P { app with bat := bat }
  prewrite : ∀ {app} (charging : Bool), P app →
    P { app with ble := updateChargeState charging { app.ble with charging := charging } }
  manual : ∀ {app ret} (level : UInt8) (charging : Bool), A ret → P app →
    P (bleBatteryServiceUpdateManual ret level charging app).2.1 ∧
      ∀ c ∈ (bleBatteryServiceUpdateManual ret level charging app).2.2, Q c

namespace BatteryKeeps

variable {A : ℤ → Prop} {P : BatteryApp → Prop} {Q : ManualCall → Prop}
  {nested : BatteryApp → Option (ℤ × BatteryApp × List ManualCall)}

/-- The callback, if the update nested in it keeps `P`. -/
theorem chargingStatusChanged (h : BatteryKeeps A P Q) (hnested : KeepsCalls P Q nested)
    {charging : Bool} {app app' : BatteryApp} {calls : List ManualCall} (happ : P app)
    (hrun : chargingStatusChanged nested charging app = some (app', calls)) :
    P app' ∧ ∀ c ∈ calls, Q c := by
  rw [EnvMonitor.chargingStatusChanged] at hrun
  split_ifs at hrun with hguard
  · obtain ⟨rfl, rfl⟩ := Prod.mk.inj (Option.some.inj hrun)
    exact ⟨happ, fun c hc => absurd hc List.not_mem_nil⟩
  · obtain ⟨⟨ret, r⟩, hr, hr'⟩ := Option.map_eq_some_iff.mp hrun
    exact hnested (h.prewrite charging happ) (hr.trans (by rw [← hr']))

/-- Noting a charging flag. -/
theorem noteCharging (h : BatteryKeeps A P Q) (hnested : KeepsCalls P Q nested)
    {isCharging : Bool} {app app' : BatteryApp} {calls : List ManualCall} (happ : P app)
    (hrun : noteCharging nested isCharging app = some (app', calls)) :
    P app' ∧ ∀ c ∈ calls, Q c := by
  have hbat : P { app with bat := (reportCharging isCharging app.bat).2 } :=
    h.hardware _ happ
  simp only [EnvMonitor.noteCharging] at hrun
  split_ifs at hrun with hnotify
  · exact h.chargingStatusChanged hnested hbat hrun
  · obtain ⟨rfl, rfl⟩ := Prod.mk.inj (Option.some.inj hrun)
    exact ⟨hbat, fun c hc => absurd hc List.not_mem_nil⟩

/-- Polling the charge pin. -/
theorem isCharging (h : BatteryKeeps A P Q) (hnested : KeepsCalls P Q nested) (pin : ℤ) :
    KeepsCalls P Q (batteryServiceIsCharging nested pin) := by
  intro app charging app' calls happ hrun
  rw [batteryServiceIsCharging] at hrun
  split_ifs at hrun with hguard
  · simp only [Option.some.injEq, Prod.mk.injEq] at hrun
    obtain ⟨-, rfl, rfl⟩ := hrun
    exact ⟨happ, fun c hc => absurd hc List.not_mem_nil⟩
  · obtain ⟨⟨app₁, calls₁⟩, hr, hr'⟩ := Option.map_eq_some_iff.mp hrun
    simp only [Prod.mk.injEq] at hr'
    obtain ⟨-, rfl, rfl⟩ := hr'
    exact h.noteCharging hnested happ hr

/-- **Nested updates.** An update keeps `P` at any depth of re-entry: the induction is on the
readings, of which every nested update takes one. -/
theorem update (h : BatteryKeeps A P Q) :
    ∀ {rs : List HwReading}, (∀ r ∈ rs, A r.setLevelRet) →
      KeepsCalls P Q (bleBatteryServiceUpdate rs) := by
  intro rs
  induction rs with
  | nil =>
    intro _ app ret app' calls happ hrun
    rw [bleBatteryServiceUpdate] at hrun
    split_ifs at hrun
    simp only [Option.some.injEq, Prod.mk.injEq] at hrun
    obtain ⟨-, rfl, rfl⟩ := hrun
    exact ⟨happ, fun c hc => absurd hc List.not_mem_nil⟩
  | cons r rs ih =>
    intro hset app ret app' calls happ hrun
    have hnested : KeepsCalls P Q (bleBatteryServiceUpdate rs) :=
      ih fun r' hr' => hset r' (List.mem_cons_of_mem r hr')
    have hbat : P { app with bat := (batteryServiceGetLevel r.adc app.bat).2 } :=
      h.hardware _ happ
    rw [bleBatteryServiceUpdate] at hrun
    dsimp only at hrun
    split_ifs at hrun with hinit hneg
    · simp only [Option.some.injEq, Prod.mk.injEq] at hrun
      obtain ⟨-, rfl, rfl⟩ := hrun
      exact ⟨happ, fun c hc => absurd hc List.not_mem_nil⟩
    · simp only [Option.some.injEq, Prod.mk.injEq] at hrun
      obtain ⟨-, rfl, rfl⟩ := hrun
      exact ⟨hbat, fun c hc => absurd hc List.not_mem_nil⟩
    · -- first the poll with what is nested in it, then the own call
      obtain ⟨⟨charging, app₁, nested⟩, hr, hr'⟩ := Option.map_eq_some_iff.mp hrun
      obtain ⟨h₁, hcalls₁⟩ := h.isCharging hnested r.pin hbat hr
      obtain ⟨h₂, hcalls₂⟩ := h.manual
        (UInt8.ofNat (batteryServiceGetLevel r.adc app.bat).1.toNat) charging
        (hset r List.mem_cons_self) h₁
      simp only [Prod.mk.injEq] at hr'
      obtain ⟨-, rfl, rfl⟩ := hr'
      exact ⟨h₂, fun c hc => (List.mem_append.mp hc).elim (hcalls₁ c) (hcalls₂ c)⟩

/-- **One step** that is no connection and no disconnect. -/
theorem step (h : BatteryKeeps A P Q) {e : BatteryEvent} (he : e.quiet = true)
    (hset : ∀ ret ∈ e.setLevelRets, A ret) {app app' : BatteryApp} {calls : List ManualCall}
    (happ : P app) (hstep : batteryStep e app = some (app', calls)) :
    P app' ∧ ∀ c ∈ calls, Q c := by
  have hreadings : ∀ {rs : List HwReading}, (∀ ret ∈ rs.map HwReading.setLevelRet, A ret) →
      KeepsCalls P Q (bleBatteryServiceUpdate rs) :=
    fun hrs => h.update fun r hr => hrs _ (List.mem_map_of_mem hr)
  cases e with
  | update rs =>
    obtain ⟨⟨ret, r⟩, hr, rfl⟩ := Option.map_eq_some_iff.mp hstep
    exact hreadings hset happ hr
  | updateManual level charging ret =>
    have hcall := h.manual level charging (hset ret (List.mem_singleton_self ret)) happ
    rwa [Option.some.inj hstep] at hcall
  | isCharging pin rs =>
    obtain ⟨⟨charging, r⟩, hr, rfl⟩ := Option.map_eq_some_iff.mp hstep
    exact h.isCharging (hreadings hset) pin happ hr
  | debounceWork pin rs => exact h.noteCharging (hreadings hset) happ hstep
  | pollWork rs =>
    rw [batteryStep, batteryPollWorkHandler] at hstep
    split_ifs at hstep with hguard
    · obtain ⟨rfl, rfl⟩ := Prod.mk.inj (Option.some.inj hstep)
      exact ⟨happ, fun c hc => absurd hc List.not_mem_nil⟩
    · obtain ⟨⟨ret, r⟩, hr, rfl⟩ := Option.map_eq_some_iff.mp hstep
      exact hreadings hset happ hr
  | connected rs => exact absurd he Bool.false_ne_true
  | disconnected => exact absurd he Bool.false_ne_true

/-- **One step of any kind**, if `P` does not look at the number of connections. -/
theorem anyStep (h : BatteryKeeps A P Q)
    (hcount : ∀ {app : BatteryApp} (n : UInt32), P app → P { app with connectedCount := n })
    {e : BatteryEvent} (hset : ∀ ret ∈ e.setLevelRets, A ret) {app app' : BatteryApp}
    {calls : List ManualCall} (happ : P app) (hstep : batteryStep e app = some (app', calls)) :
    P app' ∧ ∀ c ∈ calls, Q c := by
  cases e with
  | connected rs =>
    rw [batteryStep, bleBatteryServiceOnConnected] at hstep
    split_ifs at hstep with hinit
    · obtain ⟨rfl, rfl⟩ := Prod.mk.inj (Option.some.inj hstep)
      exact ⟨happ, fun c hc => absurd hc List.not_mem_nil⟩
    · rw [Option.map_map] at hstep
      obtain ⟨⟨ret, r⟩, hr, rfl⟩ := Option.map_eq_some_iff.mp hstep
      exact h.update (fun r hr => hset _ (List.mem_map_of_mem hr)) (hcount _ happ) hr
  | disconnected =>
    obtain ⟨rfl, rfl⟩ := Prod.mk.inj (Option.some.inj hstep)
    refine ⟨?_, fun c hc => absurd hc List.not_mem_nil⟩
    rw [bleBatteryServiceOnDisconnected]
    split_ifs
    · exact happ
    · exact hcount _ happ
  | _ => exact h.step rfl hset happ hstep

end BatteryKeeps

end EnvMonitor
