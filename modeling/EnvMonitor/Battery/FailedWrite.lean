import EnvMonitor.Battery.Published

/-!
# A failed BAS write

`ble_battery_service_update_manual` writes its cache before it calls `bt_bas_set_battery_level`
and compares with the cache before it does anything. A write that fails is therefore remembered
as if it had been done: the same level and flag are taken for a repetition from then on, and the
Battery Service never gets them.

`updateManual_retried_iff` says when the function does what its caller can expect of an error:
exactly if no write fails. `updateManual_forgotten` is the other side, for all later updates that
read the same level and flag, with everything nested in them.
-/

namespace EnvMonitor

/-! ### The property -/

/-- A call hands its values to `bt_bas_set_battery_level`: what it answers is what the setter
answers. -/
def AttemptsWrite (level : UInt8) (charging : Bool) (app : BatteryApp) : Prop :=
  ∀ ret, (bleBatteryServiceUpdateManual ret level charging app).1 = ret

/-- The values of a call are the cached ones. -/
def Repeats (level : UInt8) (charging : Bool) (ble : BleBatteryState) : Prop :=
  ble.level = clampLevel level ∧ ble.charging = charging

instance (level : UInt8) (charging : Bool) (ble : BleBatteryState) :
    Decidable (Repeats level charging ble) := inferInstanceAs (Decidable (_ ∧ _))

/-- If the call returns an error, the cache is as before and the same call attempts the write
again. -/
def Retried (setLevelRet : ℤ) (level : UInt8) (charging : Bool) (app : BatteryApp) : Prop :=
  let call := bleBatteryServiceUpdateManual setLevelRet level charging app
  call.1 ≠ 0 → call.2.1.ble = app.ble ∧ AttemptsWrite level charging call.2.1

/-! ### One call -/

/-- A repetition returns `0` and does nothing. -/
theorem updateManual_of_repeats {app : BatteryApp} (hinit : app.ble.initialized = true)
    {level : UInt8} {charging : Bool} (h : Repeats level charging app.ble) (ret : ℤ) :
    bleBatteryServiceUpdateManual ret level charging app =
      (0, app, [⟨clampLevel level, charging, 0, app, app⟩]) := by
  have hskip : updateManualClamped ret (clampLevel level) charging app = (0, app) := if_pos h
  simp [bleBatteryServiceUpdateManual, hinit, hskip]

/-- Any other call writes: it returns the setter's answer and has cached its values. -/
theorem updateManual_of_not_repeats {app : BatteryApp} (hinit : app.ble.initialized = true)
    {level : UInt8} {charging : Bool} (h : ¬ Repeats level charging app.ble) (ret : ℤ) :
    (bleBatteryServiceUpdateManual ret level charging app).1 = ret ∧
      (bleBatteryServiceUpdateManual ret level charging app).2.1.ble =
        updateChargeState charging (updateChargeLevel (clampLevel level)
          { app.ble with level := clampLevel level, charging := charging }) := by
  rw [Repeats] at h
  by_cases hret : ret = 0 <;>
    simp [bleBatteryServiceUpdateManual, updateManualClamped, hinit, h, hret]

/-- A call leaves the hardware service and the connections alone. -/
theorem updateManual_frame (ret : ℤ) (level : UInt8) (charging : Bool) (app : BatteryApp) :
    let after := (bleBatteryServiceUpdateManual ret level charging app).2.1
    after.bat = app.bat ∧ after.connectedCount = app.connectedCount := by
  simp only [bleBatteryServiceUpdateManual, updateManualClamped]
  split_ifs <;> exact ⟨rfl, rfl⟩

/-- A call that writes leaves its values in the cache, with what is derived from them. -/
theorem repeats_of_not_repeats {app : BatteryApp} (hinit : app.ble.initialized = true)
    {level : UInt8} {charging : Bool} (h : ¬ Repeats level charging app.ble) (ret : ℤ) :
    let after := (bleBatteryServiceUpdateManual ret level charging app).2.1
    after.ble.initialized = true ∧ Repeats level charging after.ble ∧ FollowsFlag after.ble := by
  intro after
  have hble := (updateManual_of_not_repeats hinit h ret).2
  rw [show after.ble = _ from hble]
  exact ⟨hinit, ⟨rfl, rfl⟩, rfl, rfl⟩

/-! ### Reachable states -/

/-- No update takes the initialisation back. -/
theorem bleInitialized_keeps :
    BatteryKeeps (fun _ => True) (fun app => app.ble.initialized = true) fun _ => True where
  hardware _ h := h
  prewrite _ h := h
  manual {app ret} level charging _ h := by
    refine ⟨?_, fun _ _ => trivial⟩
    by_cases hrepeats : Repeats level charging app.ble
    · rwa [updateManual_of_repeats h hrepeats]
    · exact (repeats_of_not_repeats h hrepeats ret).1

/-- The service is initialised in every state that is reached. -/
theorem bleInitialized_of_run {bat : BatteryData} {es : List BatteryEvent} {app : BatteryApp}
    {calls : List ManualCall}
    (hrun : batteryMachine.run es (batteryAppStart bat) = some (app, calls)) :
    app.ble.initialized = true := by
  refine Machine.Preserves.run (I := fun app => app.ble.initialized = true)
    (A := Machine.anyEvent) ?_ (fun _ _ => trivial) rfl hrun
  intro e app app' calls _ h hstep
  exact (bleInitialized_keeps.anyStep (fun _ hinit => hinit) (fun _ _ => trivial) h hstep).1

/-- **When a failed write is retried.** In every state that is reached, for every level, flag and
answer of the setter: an error leaves the cache as before, and the same call attempts the write
again, exactly if the call is a repetition or the setter succeeds, so that there is no error. -/
theorem updateManual_retried_iff {bat : BatteryData} {es : List BatteryEvent} {app : BatteryApp}
    {calls : List ManualCall}
    (hrun : batteryMachine.run es (batteryAppStart bat) = some (app, calls)) (ret : ℤ)
    (level : UInt8) (charging : Bool) :
    Retried ret level charging app ↔ Repeats level charging app.ble ∨ ret = 0 := by
  have hinit := bleInitialized_of_run hrun
  by_cases hrepeats : Repeats level charging app.ble
  · refine iff_of_true (fun herror => absurd ?_ herror) (Or.inl hrepeats)
    rw [updateManual_of_repeats hinit hrepeats]
  · obtain ⟨hret, -⟩ := updateManual_of_not_repeats hinit hrepeats ret
    rw [or_iff_right hrepeats]
    constructor
    · -- the cache has changed, so an error cannot have left it as before
      intro hretried
      by_contra hne
      obtain ⟨hsame, -⟩ := hretried (hret.symm ▸ hne)
      obtain ⟨-, hcached, -⟩ := repeats_of_not_repeats hinit hrepeats ret
      rw [hsame] at hcached
      exact hrepeats hcached
    · intro hzero herror
      exact absurd (hret.trans hzero) herror

/-! ### Forgotten for good -/

/-- A reading that shows the level and flag of a call. -/
structure HwReading.Shows (r : HwReading) (level : UInt8) (charging : Bool) : Prop where
  fetch : r.adc.fetchRet = 0
  channel : r.adc.channelRet = 0
  level : clampLevel (voltageToPercentage r.adc.voltageMv) = clampLevel level
  pin : (r.pin == 0) = charging

/-- The callback has nothing to write if its flag is the cached one. -/
theorem prewritten_of_followsFlag {app : BatteryApp} {charging : Bool}
    (hflag : app.ble.charging = charging) (hfollows : FollowsFlag app.ble) :
    app.prewritten charging = app := by
  obtain rfl := hflag
  obtain ⟨hstate, hpower⟩ := hfollows
  rw [BatteryApp.prewritten, updateChargeState]
  dsimp only
  rw [← hstate, ← hpower]

/-- Updates that read the cached level and flag, with everything nested in them, hand nothing
over. -/
theorem bleBatteryServiceUpdate_of_repeats {level : UInt8} {charging : Bool}
    {rs : List HwReading} (hshows : ∀ r ∈ rs, r.Shows level charging) {app app' : BatteryApp}
    {ret : ℤ} {calls : List ManualCall} (hinit : app.ble.initialized = true)
    (hbat : app.bat.initialized = true) (hrepeats : Repeats level charging app.ble)
    (hfollows : FollowsFlag app.ble)
    (hrun : bleBatteryServiceUpdate rs app = some (ret, app', calls)) :
    ret = 0 ∧ app'.ble = app.ble ∧ app'.bas = app.bas := by
  induction rs generalizing app app' ret calls with
  | nil => simp [bleBatteryServiceUpdate, hinit] at hrun
  | cons r rs ih =>
    obtain ⟨hfetch, hchannel, hlevel, hpin⟩ := hshows r List.mem_cons_self
    rw [bleBatteryServiceUpdate_cons hfetch hchannel rs hinit hbat, hpin] at hrun
    obtain ⟨⟨app₁, nested⟩, hnote, hown⟩ := Option.map_eq_some_iff.mp hrun
    -- the callback writes what is cached already, and its update is one of those to come
    have hkept : app₁.ble = app.ble ∧ app₁.bas = app.bas := by
      rcases noteCharging_cases hnote with ⟨-, rfl⟩ | ⟨-, -, rfl⟩ | ⟨-, -, ret₁, hnested⟩
      · exact ⟨rfl, rfl⟩
      · exact ⟨rfl, rfl⟩
      · have hsame : ((app.measured (voltageToPercentage r.adc.voltageMv)).noted
            charging).prewritten charging =
              (app.measured (voltageToPercentage r.adc.voltageMv)).noted charging :=
          prewritten_of_followsFlag hrepeats.2 hfollows
        rw [hsame] at hnested
        have hrest : ∀ r' ∈ rs, r'.Shows level charging :=
          fun r' hr' => hshows r' (List.mem_cons_of_mem r hr')
        refine (ih hrest ?_ ?_ ?_ ?_ hnested).2
        · exact hinit
        · exact hbat
        · exact hrepeats
        · exact hfollows
    obtain ⟨hble, hbas⟩ := hkept
    have hrepeats₁ : Repeats (voltageToPercentage r.adc.voltageMv) charging app₁.ble := by
      rw [hble]
      exact ⟨hrepeats.1.trans hlevel.symm, hrepeats.2⟩
    dsimp only at hown
    rw [updateManual_of_repeats (hble ▸ hinit) hrepeats₁] at hown
    simp only [Prod.mk.injEq] at hown
    obtain ⟨rfl, rfl, -⟩ := hown
    exact ⟨rfl, hble, hbas⟩

/-- **A failed write is forgotten.** If the setter answers with an error, later updates that
read the same level and flag return `0`, and what the Battery Service holds stays what it was. -/
theorem updateManual_forgotten {app : BatteryApp} (hinit : app.ble.initialized = true)
    {level : UInt8} {charging : Bool} (hnew : ¬ Repeats level charging app.ble) {ret : ℤ}
    (hret : ret ≠ 0) :
    let after := (bleBatteryServiceUpdateManual ret level charging app).2.1
    after.bas = app.bas ∧
      (∀ ret', (bleBatteryServiceUpdateManual ret' level charging after).1 = 0) ∧
      ∀ {rs : List HwReading} {ret' : ℤ} {later : BatteryApp} {calls : List ManualCall},
        app.bat.initialized = true → (∀ r ∈ rs, r.Shows level charging) →
          bleBatteryServiceUpdate rs after = some (ret', later, calls) →
            ret' = 0 ∧ later.bas = app.bas := by
  intro after
  obtain ⟨hinit', hrepeats, hfollows⟩ := repeats_of_not_repeats hinit hnew ret
  -- an error returns before the setters that follow
  have hbas : after.bas = app.bas := by
    rw [Repeats] at hnew
    simp [after, bleBatteryServiceUpdateManual, updateManualClamped, hinit, hnew, hret]
  refine ⟨hbas, fun ret' => ?_, fun hbat hshows hrun => ?_⟩
  · rw [updateManual_of_repeats hinit' hrepeats]
  · have hbat' : after.bat.initialized = true := by
      rwa [show after.bat = app.bat from (updateManual_frame ret level charging app).1]
    obtain ⟨hzero, -, hsame⟩ :=
      bleBatteryServiceUpdate_of_repeats hshows hinit' hbat' hrepeats hfollows hrun
    exact ⟨hzero, hsame.trans hbas⟩

/-- `updateManual_retried_iff` for the first update of a discharging battery. -/
theorem updateManual_retried_iff_first :
    Retried (-5) 50 false (batteryAppStart batteryDataIdle) ↔
      Repeats 50 false (batteryAppStart batteryDataIdle).ble ∨ (-5 : ℤ) = 0 :=
  have hrun : batteryMachine.run [] (batteryAppStart batteryDataIdle) = some (_, []) := rfl
  updateManual_retried_iff hrun (-5) 50 false

/-- A setter that fails once: the update is not done, and not tried again either. -/
theorem updateManual_not_retried :
    ¬ ∀ (bat : BatteryData) (es : List BatteryEvent) (app : BatteryApp) (calls : List ManualCall),
      batteryMachine.run es (batteryAppStart bat) = some (app, calls) →
        ∀ (ret : ℤ) (level : UInt8) (charging : Bool), Retried ret level charging app := by
  intro hall
  obtain ⟨hsame, -⟩ := hall batteryDataIdle [] _ _ rfl (-5) 50 false (by decide)
  exact absurd hsame (by decide)

end EnvMonitor
