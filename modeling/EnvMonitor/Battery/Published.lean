import EnvMonitor.Battery.Ble

/-!
# When the published battery state lags the cached one

`charging_status_changed` writes the charging flag, the charge state and the power source
into the cache before it updates. If the update then finds the level unchanged, the flag it
reads equals the flag just written, `ble_battery_service_update_manual` takes the call for a
repetition and returns `0` without handing anything over: the Battery Service keeps the
charge state and power source of before.

`battery_published_iff` says exactly when that happens in a run in which every setter
succeeds. A call that is not skipped always leaves the cache published. A skipped one does
so exactly when the level and flag it was given are those of the last call that published,
or when the cached charge state is still the initial one. The proof is one invariant,
`Coherent`: the cached level and charge level are always those last handed over, while the
charge state and power source follow the cached flag, which the callback moves alone.
-/

namespace EnvMonitor

/-! ### The property and its condition -/

/-- The Battery Service was last handed exactly the cached charge state, charge level and
power source, and the cached level if it was handed any level at all. -/
def Published (app : BatteryApp) : Prop :=
  app.bas.chargeState = some app.ble.chargeState ∧
    app.bas.chargeLevel = some app.ble.chargeLevel ∧
    app.bas.wiredPower = some app.ble.wiredPower ∧
    (app.bas.level = none ∨ app.bas.level = some app.ble.level)

instance (app : BatteryApp) : Decidable (Published app) :=
  inferInstanceAs (Decidable (_ ∧ _ ∧ _ ∧ (_ ∨ _)))

/-- The call is taken for a repetition: the level and flag are the cached ones. -/
def ManualCall.Skipped (c : ManualCall) : Prop :=
  c.before.ble.level = c.level ∧ c.before.ble.charging = c.charging

/-- The level and flag of the call are those of the last call that published, or no call
has published and no callback has run: the cached charge state is still `UNKNOWN`. -/
def ManualCall.RepeatsPublished (c : ManualCall) : Prop :=
  c.before.ble.chargeState = .unknown ∨ c.before.published = some (c.level, c.charging)

/-! ### The invariant -/

@[simp]
theorem chargeStateOf_ne_unknown (level : UInt8) (charging : Bool) :
    chargeStateOf level charging ≠ .unknown := by
  rw [chargeStateOf]
  split_ifs <;> simp

/-- The charge state determines the flag it was derived from. -/
theorem chargeStateOf_inj {level : UInt8} {c c' : Bool} :
    chargeStateOf level c = chargeStateOf level c' ↔ c = c' := by
  cases c <;> cases c' <;> simp [chargeStateOf] <;> split_ifs <;> simp

/-- The cached charge state and power source are those derived from the cached level and
flag. -/
def FollowsFlag (ble : BleBatteryState) : Prop :=
  ble.chargeState = chargeStateOf ble.level ble.charging ∧
    ble.wiredPower = wiredPowerOf ble.charging

/-- Nothing but `ble_battery_service_init` has written the cache. -/
def Untouched (ble : BleBatteryState) : Prop :=
  ble.charging = false ∧ ble.chargeState = .unknown ∧ ble.wiredPower = .notConnected

/-- What the cache and the Battery Service have in common, by what was last published:
before the first publication only callbacks have written the cache, and after it the level
and charge level are still the published ones. -/
def InStep (app : BatteryApp) : Option (UInt8 × Bool) → Prop
  | none =>
    app.bas = ⟨none, some .notConnected, some .unknown, some .unknown⟩ ∧
      app.ble.level = 0 ∧ app.ble.chargeLevel = .unknown ∧
      (Untouched app.ble ∨ FollowsFlag app.ble)
  | some (level, charging) =>
    app.bas = ⟨some level, some (wiredPowerOf charging), some (chargeStateOf level charging),
        some (chargeLevelOf level)⟩ ∧
      app.ble.level = level ∧ app.ble.chargeLevel = chargeLevelOf level ∧
      FollowsFlag app.ble

/-- The invariant of every run in which the setters succeed. -/
def Coherent (app : BatteryApp) : Prop :=
  app.ble.initialized = true ∧ InStep app app.published

theorem coherent_batteryAppStart (bat : BatteryData) : Coherent (batteryAppStart bat) :=
  ⟨rfl, rfl, rfl, rfl, Or.inl ⟨rfl, rfl, rfl⟩⟩

/-- The hardware side of the application plays no part in the invariant. -/
theorem Coherent.of_ble_bas_published {app app' : BatteryApp} (h : Coherent app)
    (hble : app'.ble = app.ble) (hbas : app'.bas = app.bas)
    (hpub : app'.published = app.published) : Coherent app' := by
  rw [Coherent] at h ⊢
  rw [hpub, hble]
  refine ⟨h.1, ?_⟩
  have hin := h.2
  cases hp : app.published with
  | none => simpa only [hp, InStep, hble, hbas] using hin
  | some p => simpa only [hp, InStep, hble, hbas] using hin

/-- The writes of `charging_status_changed` keep the invariant. -/
theorem Coherent.prewrite {app : BatteryApp} (h : Coherent app) (charging : Bool) :
    Coherent { app with
      ble := updateChargeState charging { app.ble with charging := charging } } := by
  obtain ⟨hinit, hin⟩ := h
  refine ⟨hinit, ?_⟩
  cases hp : app.published with
  | none =>
    rw [hp] at hin
    obtain ⟨hbas, hlevel, hcl, -⟩ := hin
    simp only [InStep]
    exact ⟨hbas, hlevel, hcl, Or.inr ⟨rfl, rfl⟩⟩
  | some p =>
    rw [hp] at hin
    obtain ⟨hbas, hlevel, hcl, -⟩ := hin
    simp only [InStep]
    exact ⟨hbas, hlevel, hcl, rfl, rfl⟩

/-! ### One call -/

/-- From a coherent state, the cache is published exactly when its charge state is the
initial one or its flag is the one last published. -/
theorem Coherent.published_iff {app : BatteryApp} (h : Coherent app) :
    Published app ↔
      app.ble.chargeState = .unknown ∨
        app.published = some (app.ble.level, app.ble.charging) := by
  obtain ⟨-, hin⟩ := h
  cases hp : app.published with
  | none =>
    rw [hp] at hin
    obtain ⟨hbas, hlevel, hcl, ⟨hc, hcs, hw⟩ | ⟨hcs, hw⟩⟩ := hin
    · -- both still hold the initial values
      simp [Published, hbas, hcl, hcs, hw]
    · -- a callback has moved the cache away from them
      simp [Published, hbas, hcs, (chargeStateOf_ne_unknown _ _).symm]
  | some p =>
    obtain ⟨level, charging⟩ := p
    rw [hp] at hin
    obtain ⟨hbas, hlevel, hcl, hcs, hw⟩ := hin
    -- the level is the published one, so the charge state gives away the flag
    have hflag : Published app ↔ charging = app.ble.charging := by
      simp only [Published, hbas, hcl, hcs, hw, hlevel, Option.some.injEq,
        chargeStateOf_inj, true_and, or_true, and_true, and_iff_left_iff_imp]
      rintro rfl
      rfl
    rw [hflag, hcs, hlevel]
    simp

/-- What the run lemma needs of one call: it returns `0`, and it leaves the cache published
exactly when it was not skipped or repeats what was last published. -/
def ManualCall.Faithful (c : ManualCall) : Prop :=
  c.ret = 0 ∧ (Published c.after ↔ (c.Skipped → c.RepeatsPublished))

/-- **One call.** `ble_battery_service_update_manual` keeps the invariant, and its call is
faithful. -/
theorem Coherent.updateManual {app : BatteryApp} (h : Coherent app) (level : UInt8)
    (charging : Bool) :
    Coherent (bleBatteryServiceUpdateManual 0 level charging app).2.1 ∧
      ∀ c ∈ (bleBatteryServiceUpdateManual 0 level charging app).2.2, c.Faithful := by
  have hinit := h.1
  simp only [bleBatteryServiceUpdateManual, hinit, Bool.not_true, Bool.false_eq_true,
    if_false, updateManualClamped]
  by_cases hskip : app.ble.level = clampLevel level ∧ app.ble.charging = charging
  · -- skipped: nothing moves, and the cache is published as far as it was
    rw [if_pos hskip]
    refine ⟨h, fun c hc => ?_⟩
    obtain rfl := List.mem_singleton.mp hc
    refine ⟨rfl, ?_⟩
    rw [Coherent.published_iff h, hskip.1, hskip.2]
    exact ⟨fun hp _ => hp, fun hp => hp hskip⟩
  · -- handed over: cache and Battery Service are equal field by field
    rw [if_neg hskip]
    simp only [ne_eq, not_true_eq_false, if_false]
    refine ⟨⟨rfl, rfl, rfl, rfl, rfl, rfl⟩, fun c hc => ?_⟩
    obtain rfl := List.mem_singleton.mp hc
    refine ⟨rfl, iff_of_true ⟨rfl, rfl, rfl, Or.inr rfl⟩ fun hs => ?_⟩
    exact absurd hs hskip

/-! ### Updates -/

/-- The invariant as something that updates whose setters succeed keep. -/
theorem coherent_keeps : BatteryKeeps (· = 0) Coherent ManualCall.Faithful where
  hardware _ h := h.of_ble_bas_published rfl rfl rfl
  prewrite charging h := h.prewrite charging
  manual level charging hret h := by
    subst hret
    exact h.updateManual level charging

/-- Every result of a function on the application is coherent and every call it made is
faithful, given that it starts coherent. -/
def KeepsCoherent {α : Type} (f : BatteryApp → Option (α × BatteryApp × List ManualCall)) :
    Prop :=
  ∀ {app a app' calls}, Coherent app → f app = some (a, app', calls) →
    Coherent app' ∧ ∀ c ∈ calls, c.Faithful

/-- **Nested updates.** An update in which every setter succeeds keeps the invariant, at any
depth of re-entry. -/
theorem Coherent.update {rs : List HwReading} (hset : ∀ r ∈ rs, r.setLevelRet = 0) :
    KeepsCoherent (bleBatteryServiceUpdate rs) := coherent_keeps.update hset

/-! ### Runs -/

/-- **One step.** A step whose setters succeed keeps the invariant, and every call it makes
is faithful. -/
theorem Coherent.step {e : BatteryEvent} (he : e.SettersSucceed) {app app' : BatteryApp}
    {calls : List ManualCall} (h : Coherent app)
    (hstep : batteryStep e app = some (app', calls)) :
    Coherent app' ∧ ∀ c ∈ calls, c.Faithful :=
  coherent_keeps.anyStep (fun _ hcoherent => hcoherent.of_ble_bas_published rfl rfl rfl) he h hstep

/-- Every call of a run in which the setters succeed is faithful. -/
theorem battery_run_faithful {bat : BatteryData} {es : List BatteryEvent} {app : BatteryApp}
    {calls : List ManualCall} (hset : ∀ e ∈ es, e.SettersSucceed)
    (hrun : batteryMachine.run es (batteryAppStart bat) = some (app, calls)) :
    ∀ c ∈ calls, c.Faithful :=
  Machine.Preserves.run_emits (I := Coherent) (fun he h hs => (h.step he hs).1)
    (fun he h hs => (h.step he hs).2) hset (coherent_batteryAppStart bat) hrun

/-- **When the published state lags.** In a run after `ble_battery_service_init` in which
every setter succeeds, every update that returns `0` leaves the Battery Service with the
cached values if and only if every call that is skipped as a repetition has the level and
flag last published, or finds the cached charge state still `UNKNOWN`. -/
theorem battery_published_iff {bat : BatteryData} {es : List BatteryEvent}
    {app : BatteryApp} {calls : List ManualCall} (hset : ∀ e ∈ es, e.SettersSucceed)
    (hrun : batteryMachine.run es (batteryAppStart bat) = some (app, calls)) :
    (∀ c ∈ calls, c.ret = 0 → Published c.after) ↔
      ∀ c ∈ calls, c.Skipped → c.RepeatsPublished := by
  have hfaithful := battery_run_faithful hset hrun
  constructor
  · intro hpub c hc
    exact (hfaithful c hc).2.mp (hpub c hc (hfaithful c hc).1)
  · intro hrep c hc _
    exact (hfaithful c hc).2.mpr (hrep c hc)

/-- A reading of a cell at 3600 mV, which is 50 %, with the charge pin at `pin`. -/
def halfFullReading (pin : ℤ) : HwReading := ⟨⟨0, 0, 3600⟩, pin, 0⟩

/-- A charger is plugged in while a client is connected and the level stays at 50 %: the
debounced interrupt calls the callback, and its update reads level and flag again. -/
def plugInRun : List BatteryEvent :=
  [.connected [halfFullReading 1], .debounceWork 0 [halfFullReading 0]]

/-- The hardware service as `battery_service_init` leaves it with no charger attached. -/
def batteryDataIdle : BatteryData := { initialized := true }

theorem plugInRun_settersSucceed : ∀ e ∈ plugInRun, e.SettersSucceed := by
  simp [plugInRun, halfFullReading, BatteryEvent.SettersSucceed, BatteryEvent.setLevelRets]

/-- The plug-in run goes through, and it makes a call that returns `0` while the Battery
Service still shows a discharging battery: the cache says charging. -/
theorem plugInRun_lags :
    ∃ r ∈ batteryMachine.run plugInRun (batteryAppStart batteryDataIdle),
      ∃ c ∈ r.2, c.ret = 0 ∧ ¬ Published c.after ∧
        c.after.ble.chargeState = .charging ∧
        c.after.bas.chargeState = some .dischargingActive := by
  decide

/-- `battery_published_iff` at the plug-in run. -/
theorem battery_published_iff_plugIn :
    ∃ app calls, batteryMachine.run plugInRun (batteryAppStart batteryDataIdle)
        = some (app, calls) ∧
      ((∀ c ∈ calls, c.ret = 0 → Published c.after) ↔
        ∀ c ∈ calls, c.Skipped → c.RepeatsPublished) := by
  obtain ⟨⟨app, calls⟩, hrun, -⟩ := plugInRun_lags
  exact ⟨app, calls, hrun, battery_published_iff plugInRun_settersSucceed hrun⟩

/-- Published state can lag: it is not the case that every update of every such run leaves
the Battery Service with the cached values. -/
theorem battery_published_lags :
    ¬ ∀ (bat : BatteryData) (es : List BatteryEvent) (app : BatteryApp)
      (calls : List ManualCall), (∀ e ∈ es, e.SettersSucceed) →
      batteryMachine.run es (batteryAppStart bat) = some (app, calls) →
      ∀ c ∈ calls, c.ret = 0 → Published c.after := by
  intro hall
  obtain ⟨⟨app, calls⟩, hrun, c, hc, hret, hlag, -⟩ := plugInRun_lags
  exact hlag (hall _ _ app calls plugInRun_settersSucceed hrun c hc hret)

end EnvMonitor
