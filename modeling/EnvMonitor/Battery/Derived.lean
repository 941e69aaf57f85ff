import EnvMonitor.Battery.FailedWrite

/-!
# What is derived from the level and the flag

The cache of the BLE battery service holds a level, a charging flag and three fields derived from
them. `ble_battery_service_update_manual` writes all five, the charging callback only the flag and
the two fields that follow it, and an update may fail after the callback's writes and before its
own. `BleBatteryState.Derived` is what holds after each of these partial paths, and
`battery_derived` that it holds in every state of every run, from power-on and with no assumption
about the hardware or the Battery Service, the states inside nested updates included.
-/

namespace EnvMonitor

/-! ### The property -/

/-- A charge level is the one of a level: `GOOD` above 75, `LOW` above 25, `CRITICAL`
otherwise. -/
def IsChargeLevelOf (level : UInt8) (chargeLevel : ChargeLevel) : Prop :=
  (chargeLevel = .good ↔ level > 75) ∧
    (chargeLevel = .low ↔ ¬ level > 75 ∧ level > 25) ∧
    (chargeLevel = .critical ↔ ¬ level > 75 ∧ ¬ level > 25)

/-- A charge state is the one of a level and a flag: `CHARGING` under the flag, and otherwise
`DISCHARGING_ACTIVE` above 10 and `DISCHARGING_INACTIVE` below. -/
def IsChargeStateOf (level : UInt8) (charging : Bool) (chargeState : ChargeState) : Prop :=
  (chargeState = .charging ↔ charging = true) ∧
    (charging = false → (chargeState = .dischargingActive ↔ level > 10) ∧
      (chargeState = .dischargingInactive ↔ ¬ level > 10))

/-- The cache is coherent. -/
structure BleBatteryState.Derived (ble : BleBatteryState) : Prop where
  level_le : ble.level ≤ 100
  chargeLevel : ble.chargeLevel = .unknown ∨ IsChargeLevelOf ble.level ble.chargeLevel
  chargeState : ble.chargeState = .unknown ∨
    IsChargeStateOf ble.level ble.charging ble.chargeState
  wiredPower : ble.wiredPower = .connected ↔ ble.chargeState = .charging

/-- The four values of the Battery Service all come from one level and one flag. -/
structure Bas.HandedFrom (level : UInt8) (charging : Bool) (bas : Bas) : Prop where
  level_eq : bas.level = some level
  chargeLevel : ∃ value ∈ bas.chargeLevel, IsChargeLevelOf level value
  chargeState : ∃ value ∈ bas.chargeState, IsChargeStateOf level charging value
  wiredPower : ∃ value ∈ bas.wiredPower, (value = .connected ↔ charging = true)

/-- A call of `ble_battery_service_update_manual` starts and ends with a coherent cache, and what
it publishes comes from its own level and flag. -/
structure ManualCall.Derived (c : ManualCall) : Prop where
  before : c.before.ble.Derived
  after : c.after.ble.Derived
  handed : c.ret = 0 → ¬ c.Skipped → c.after.bas.HandedFrom c.level c.charging

/-! ### The functions that derive -/

theorem isChargeLevelOf (level : UInt8) : IsChargeLevelOf level (chargeLevelOf level) := by
  rw [chargeLevelOf]
  split_ifs with hgood hlow
  · simp [IsChargeLevelOf, hgood]
  · simp [IsChargeLevelOf, hgood, hlow]
  · simp [IsChargeLevelOf, hgood, hlow]

theorem isChargeStateOf (level : UInt8) (charging : Bool) :
    IsChargeStateOf level charging (chargeStateOf level charging) := by
  rw [chargeStateOf]
  split_ifs with hcharging hactive
  · simp [IsChargeStateOf, hcharging]
  · simp [IsChargeStateOf, hcharging, hactive]
  · simp [IsChargeStateOf, hcharging, hactive]

theorem wiredPowerOf_eq_connected {charging : Bool} :
    wiredPowerOf charging = .connected ↔ charging = true := by
  cases charging <;> decide

theorem clampLevel_le (level : UInt8) : clampLevel level ≤ 100 := by
  rw [clampLevel]
  split_ifs with h
  · exact UInt8.le_refl 100
  · exact UInt8.not_lt.mp h

namespace BleBatteryState.Derived

variable {ble : BleBatteryState}

/-- What the charging callback and the update write last: the fields that follow the flag. -/
theorem updateChargeState {charging : Bool} (hflag : ble.charging = charging)
    (hle : ble.level ≤ 100)
    (hlevel : ble.chargeLevel = .unknown ∨ IsChargeLevelOf ble.level ble.chargeLevel) :
    (updateChargeState charging ble).Derived where
  level_le := hle
  chargeLevel := hlevel
  chargeState := by
    have hstate := isChargeStateOf ble.level charging
    rw [← hflag] at hstate ⊢
    exact Or.inr hstate
  wiredPower := wiredPowerOf_eq_connected.trans (isChargeStateOf ble.level charging).1.symm

/-- The writes of the charging callback. -/
theorem prewritten (h : ble.Derived) (charging : Bool) :
    (EnvMonitor.updateChargeState charging { ble with charging := charging }).Derived :=
  updateChargeState rfl h.level_le h.chargeLevel

/-- The writes of an update. -/
theorem updated (level : UInt8) (charging : Bool) (hle : level ≤ 100) :
    (EnvMonitor.updateChargeState charging (updateChargeLevel level
      { ble with level := level, charging := charging })).Derived :=
  updateChargeState rfl hle (Or.inr (isChargeLevelOf level))

end BleBatteryState.Derived

/-! ### Runs -/

/-- What a call that is not skipped and succeeds hands over. -/
theorem handedFrom_of_updateManualClamped {level : UInt8} {charging : Bool} {app : BatteryApp}
    (hnew : ¬ (app.ble.level = level ∧ app.ble.charging = charging)) {ret : ℤ}
    (hok : (updateManualClamped ret level charging app).1 = 0) :
    (updateManualClamped ret level charging app).2.bas.HandedFrom level charging := by
  rw [updateManualClamped, if_neg hnew] at hok ⊢
  dsimp only at hok ⊢
  split_ifs at hok ⊢ with hret
  · exact absurd hok hret
  · exact ⟨rfl, ⟨_, rfl, isChargeLevelOf level⟩, ⟨_, rfl, isChargeStateOf level charging⟩,
      ⟨_, rfl, wiredPowerOf_eq_connected⟩⟩

/-- **One call.** Whatever the setter answers, `ble_battery_service_update_manual` keeps the cache
coherent. -/
theorem derived_keeps : BatteryKeeps (fun _ => True) (fun app => app.ble.Derived)
    ManualCall.Derived where
  hardware _ h := h
  prewrite charging h := h.prewritten charging
  manual {app ret} level charging _ h := by
    have hafter : (updateManualClamped ret (clampLevel level) charging app).2.ble.Derived := by
      rw [updateManualClamped]
      split_ifs with hskip hret
      · exact h
      · exact BleBatteryState.Derived.updated _ _ (clampLevel_le level)
      · exact BleBatteryState.Derived.updated _ _ (clampLevel_le level)
    rw [bleBatteryServiceUpdateManual]
    split_ifs with hinit
    · exact ⟨h, fun c hc => absurd hc List.not_mem_nil⟩
    · refine ⟨hafter, fun c hc => ?_⟩
      obtain rfl := List.mem_singleton.mp hc
      exact ⟨h, hafter, fun hret hnew => handedFrom_of_updateManualClamped hnew hret⟩

/-- What can happen to the battery application from power-on: the initialisations, in any order
and any number of times, the charging callback, called by anyone with any flag, and the events
of the initialised service. -/
inductive BatteryLifeEvent where
  | hardwareInit (answers : BatteryInitAnswers)
  | init
  | chargingCallback (charging : Bool) (readings : List HwReading)
  | event (e : BatteryEvent)

/-- One step of the battery application from power-on. -/
def batteryLifeStep : BatteryLifeEvent → BatteryApp → Option (BatteryApp × List ManualCall)
  | .hardwareInit answers, app =>
    some ({ app with bat := (batteryServiceInit answers app.bat).2 }, [])
  | .init, app => some (bleBatteryServiceInit app, [])
  | .chargingCallback charging rs, app =>
    chargingStatusChanged (bleBatteryServiceUpdate rs) charging app
  | .event e, app => batteryStep e app

/-- The battery application from power-on as a machine. -/
def batteryLife : Machine BatteryApp BatteryLifeEvent ManualCall := ⟨batteryLifeStep⟩

/-- **One step.** -/
theorem BleBatteryState.Derived.lifeStep {e : BatteryLifeEvent} {app app' : BatteryApp}
    {calls : List ManualCall} (h : app.ble.Derived)
    (hstep : batteryLifeStep e app = some (app', calls)) :
    app'.ble.Derived ∧ ∀ c ∈ calls, c.Derived := by
  cases e with
  | hardwareInit answers =>
    obtain ⟨rfl, rfl⟩ := Prod.mk.inj (Option.some.inj hstep)
    exact ⟨h, fun c hc => absurd hc List.not_mem_nil⟩
  | init =>
    obtain ⟨rfl, rfl⟩ := Prod.mk.inj (Option.some.inj hstep)
    exact ⟨⟨h.1, h.2, h.3, h.4⟩, fun c hc => absurd hc List.not_mem_nil⟩
  | chargingCallback charging rs =>
    exact derived_keeps.chargingStatusChanged (derived_keeps.update fun _ _ => trivial) h hstep
  | event e => exact derived_keeps.anyStep (fun _ hderived => hderived) (fun _ _ => trivial) h hstep

/-- The cache of the static initialisers is coherent. -/
theorem derived_start : ({} : BleBatteryState).Derived where
  level_le := by decide
  chargeLevel := Or.inl rfl
  chargeState := Or.inl rfl
  wiredPower := by decide

/-- **Coherence.** In every run from power-on, whatever the level reads and the setters answer,
the cache ends coherent, so it was before and after every call of
`ble_battery_service_update_manual`, nested ones included, and a call that publishes hands the
Battery Service four values that come from its own level and flag. -/
theorem battery_derived {bat : BatteryData} {es : List BatteryLifeEvent} {app : BatteryApp}
    {calls : List ManualCall} (hrun : batteryLife.run es { bat := bat } = some (app, calls)) :
    app.ble.Derived ∧ ∀ c ∈ calls, c.Derived := by
  have hpreserves : batteryLife.Preserves Machine.anyEvent fun app => app.ble.Derived :=
    fun _ h hstep => (h.lifeStep hstep).1
  have hemits : batteryLife.Emits Machine.anyEvent (fun app => app.ble.Derived)
      ManualCall.Derived := fun _ h hstep => (h.lifeStep hstep).2
  exact ⟨hpreserves.run (fun _ _ => trivial) derived_start hrun,
    hpreserves.run_emits hemits (fun _ _ => trivial) derived_start hrun⟩

/-- A boot, a client, and a charger plugged in while the level read of its update fails: the flag
moves and no level is reached. -/
def failedPlugIn : List BatteryLifeEvent :=
  [.init, .event (.connected [halfFullReading 1]),
    .event (.debounceWork 0 [⟨⟨- EIO, 0, 0⟩, 0, 0⟩])]

/-- `battery_derived` when the update of a callback fails. -/
theorem battery_derived_failedPlugIn : ∃ app calls,
    batteryLife.run failedPlugIn { bat := batteryDataIdle } = some (app, calls) ∧
      app.ble.Derived ∧ ∀ c ∈ calls, c.Derived := by
  obtain ⟨r, hr⟩ : ∃ r, batteryLife.run failedPlugIn { bat := batteryDataIdle } = some r :=
    ⟨_, rfl⟩
  exact ⟨r.1, r.2, hr, battery_derived hr⟩

end EnvMonitor
