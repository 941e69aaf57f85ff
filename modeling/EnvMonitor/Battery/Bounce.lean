import EnvMonitor.Battery.FailedWrite

/-!
# Updates nested in an update

`ble_battery_service_update` reads the charge pin, runs everything that a change of the pin sets
off, and only then writes the flag it has read. A bouncing contact nests several updates: the
innermost has the newest reading and writes first, the outermost has the oldest and writes last.

`bleBatteryServiceUpdate_flags` is what an update leaves behind, at any depth of nesting: the
flag of its own reading in the cache, the newest reading in `last_charging_state`.
`bleBatteryServiceUpdate_newest_iff` follows: the two agree exactly if the pin has come back to
what the outermost update read.
-/

namespace EnvMonitor

/-- The newest charge-pin reading that an update takes, `last` being the one reported before: each
reading that differs from the one before nests an update, which takes the next. -/
def newestPin : Bool → List Bool → Bool
  | last, [] => last
  | last, pin :: pins => if pin = last then pin else newestPin pin pins

/-- The charging flag of a reading: the pin is active low. -/
def HwReading.charging (r : HwReading) : Bool := r.pin == 0

/-- The measurement and the setter of a reading's update succeed. -/
structure HwReading.Succeeds (r : HwReading) : Prop where
  fetch : r.adc.fetchRet = 0
  channel : r.adc.channelRet = 0
  setLevel : r.setLevelRet = 0

/-- Both services are initialised, the callback is registered and a client is connected. -/
structure BatteryApp.Live (app : BatteryApp) : Prop where
  hardware : app.bat.initialized = true
  listening : app.Listening

namespace BatteryApp.Live

variable {app : BatteryApp}

theorem measured (h : app.Live) (level : UInt8) : (app.measured level).Live := ⟨h.1, h.2⟩

theorem noted (h : app.Live) (charging : Bool) : (app.noted charging).Live := ⟨h.1, h.2⟩

theorem prewritten (h : app.Live) (charging : Bool) : (app.prewritten charging).Live := ⟨h.1, h.2⟩

end BatteryApp.Live

/-- A call whose setter succeeds returns `0` with its flag in the cache. -/
theorem updateManual_charging {app : BatteryApp} (hlive : app.Live) (level : UInt8)
    (charging : Bool) :
    let call := bleBatteryServiceUpdateManual 0 level charging app
    call.1 = 0 ∧ call.2.1.ble.charging = charging ∧ call.2.1.Live := by
  intro call
  obtain ⟨hbat, hcb, hinit, hcount⟩ := hlive
  obtain ⟨hbat', hcount'⟩ := updateManual_frame 0 level charging app
  have hlive' : call.2.1.ble.initialized = true → call.2.1.Live := by
    intro hinit'
    refine ⟨?_, ?_, hinit', ?_⟩
    · rwa [hbat']
    · rwa [hbat']
    · rwa [hcount']
  by_cases hrepeats : Repeats level charging app.ble
  · have hcall : call = (0, app, _) := updateManual_of_repeats hinit hrepeats 0
    refine ⟨?_, ?_, hlive' ?_⟩
    · rw [hcall]
    · rw [hcall]
      exact hrepeats.2
    · rwa [hcall]
  · obtain ⟨hret, -⟩ := updateManual_of_not_repeats hinit hrepeats 0
    obtain ⟨hinit', hcached, -⟩ := repeats_of_not_repeats hinit hrepeats 0
    exact ⟨hret, hcached.2, hlive' hinit'⟩

/-- **What an update leaves behind.** The induction is on the readings: the nested update leaves
the newest one remembered, and the outer one writes its own into the cache after it. -/
theorem bleBatteryServiceUpdate_flags {rs : List HwReading} (hok : ∀ r ∈ rs, r.Succeeds)
    {app app' : BatteryApp} {ret : ℤ} {calls : List ManualCall} (hlive : app.Live)
    (hrun : bleBatteryServiceUpdate rs app = some (ret, app', calls)) :
    ret = 0 ∧ (rs.map HwReading.charging).head? = some app'.ble.charging ∧ app'.Live ∧
      app'.bat.lastChargingState =
        newestPin app.bat.lastChargingState (rs.map HwReading.charging) := by
  induction rs generalizing app app' ret calls with
  | nil => simp [bleBatteryServiceUpdate, hlive.listening.2.1] at hrun
  | cons r rs ih =>
    obtain ⟨hfetch, hchannel, hset⟩ := hok r List.mem_cons_self
    rw [bleBatteryServiceUpdate_cons hfetch hchannel rs hlive.listening.2.1 hlive.hardware] at hrun
    obtain ⟨⟨app₁, nested⟩, hnote, hown⟩ := Option.map_eq_some_iff.mp hrun
    have hmeasured := hlive.measured (voltageToPercentage r.adc.voltageMv)
    have hnested : app₁.Live ∧ app₁.bat.lastChargingState =
        newestPin app.bat.lastChargingState ((r :: rs).map HwReading.charging) := by
      rw [List.map_cons, newestPin]
      rcases noteCharging_cases hnote with ⟨hsame, rfl⟩ | ⟨-, hdeaf, -⟩ | ⟨hnew, -, ret₁, hrec⟩
      · have hsame : r.charging = app.bat.lastChargingState := hsame
        rw [if_pos hsame]
        exact ⟨hmeasured, hsame.symm⟩
      · exact absurd hmeasured.listening hdeaf
      · have hnew : r.charging ≠ app.bat.lastChargingState := hnew
        rw [if_neg hnew]
        have hrest : ∀ r' ∈ rs, r'.Succeeds := fun r' hr' => hok r' (List.mem_cons_of_mem r hr')
        obtain ⟨-, -, hlive₁, hlast⟩ := ih hrest ((hmeasured.noted _).prewritten _) hrec
        exact ⟨hlive₁, hlast⟩
    obtain ⟨hlive₁, hlast⟩ := hnested
    -- the own call writes the flag read before all this, and does not touch the remembered one
    obtain ⟨hzero, hcharging, hlive'⟩ :=
      updateManual_charging hlive₁ (voltageToPercentage r.adc.voltageMv) (r.pin == 0)
    obtain ⟨hbat, -⟩ := updateManual_frame 0 (voltageToPercentage r.adc.voltageMv)
      (r.pin == 0) app₁
    dsimp only at hown
    rw [hset] at hown
    simp only [Prod.mk.injEq] at hown
    obtain ⟨rfl, rfl, -⟩ := hown
    refine ⟨hzero, ?_, hlive', ?_⟩
    · rw [hcharging]
      rfl
    · rw [hbat, hlast]

/-- **When an update ends on the newest reading.** With both services initialised and a client
connected, an update whose recursion ends and whose measurements and setters succeed returns `0`
with the newest reading remembered, and its cached flag is that reading exactly if the newest
reading is the one that the outermost update took itself. -/
theorem bleBatteryServiceUpdate_newest_iff {app app' : BatteryApp} (hlive : app.Live)
    {r : HwReading} {rs : List HwReading} (hok : ∀ r' ∈ r :: rs, r'.Succeeds) {ret : ℤ}
    {calls : List ManualCall}
    (hrun : bleBatteryServiceUpdate (r :: rs) app = some (ret, app', calls)) :
    let newest := newestPin app.bat.lastChargingState ((r :: rs).map HwReading.charging)
    ret = 0 ∧ app'.bat.lastChargingState = newest ∧
      (app'.ble.charging = app'.bat.lastChargingState ↔ newest = r.charging) := by
  intro newest
  obtain ⟨hzero, hown, -, hlast⟩ := bleBatteryServiceUpdate_flags hok hlive hrun
  have hcharging : app'.ble.charging = r.charging := (Option.some.inj hown).symm
  refine ⟨hzero, hlast, ?_⟩
  rw [hcharging, hlast]
  exact eq_comm

/-- After both initialisations, with one client connected and no charger attached. -/
def connectedApp : BatteryApp := { batteryAppStart batteryDataIdle with connectedCount := 1 }

theorem connectedApp_live : connectedApp.Live := ⟨rfl, rfl, rfl, by decide⟩

/-- A charger whose contact opens again at once: charging, then twice not charging. -/
def bounceReadings : List HwReading := [halfFullReading 0, halfFullReading 1, halfFullReading 1]

theorem bounceReadings_succeed : ∀ r ∈ bounceReadings, r.Succeeds := by
  have hhalf : ∀ pin, (halfFullReading pin).Succeeds := fun _ => ⟨rfl, rfl, rfl⟩
  simp [bounceReadings, hhalf]

/-- The recursion of the bounce ends, with a charging battery in the cache and a discharging one
remembered. -/
theorem bounceReadings_run :
    ∃ u ∈ bleBatteryServiceUpdate bounceReadings connectedApp,
      u.1 = 0 ∧ u.2.1.ble.charging = true ∧ u.2.1.bat.lastChargingState = false := by
  decide

/-- `bleBatteryServiceUpdate_newest_iff` at the bouncing contact. -/
theorem bleBatteryServiceUpdate_newest_iff_bounce :
    ∃ app' calls, bleBatteryServiceUpdate bounceReadings connectedApp = some (0, app', calls) ∧
      let newest := newestPin connectedApp.bat.lastChargingState
        (bounceReadings.map HwReading.charging)
      (0 : ℤ) = 0 ∧ app'.bat.lastChargingState = newest ∧
        (app'.ble.charging = app'.bat.lastChargingState ↔
          newest = (halfFullReading 0).charging) := by
  obtain ⟨⟨ret, app', calls⟩, hrun, rfl, -⟩ := bounceReadings_run
  exact ⟨app', calls, hrun,
    bleBatteryServiceUpdate_newest_iff connectedApp_live bounceReadings_succeed hrun⟩

/-- An older reading can stay in the cache. -/
theorem bleBatteryServiceUpdate_not_newest :
    ¬ ∀ (app app' : BatteryApp) (rs : List HwReading) (calls : List ManualCall), app.Live →
      (∀ r ∈ rs, r.Succeeds) → bleBatteryServiceUpdate rs app = some (0, app', calls) →
        app'.ble.charging = app'.bat.lastChargingState := by
  intro hall
  obtain ⟨⟨ret, app', calls⟩, hrun, rfl, hcached, hlast⟩ := bounceReadings_run
  have hsame := hall connectedApp app' bounceReadings calls connectedApp_live
    bounceReadings_succeed hrun
  exact Bool.false_ne_true ((hlast.symm.trans hsame.symm).trans hcached)

end EnvMonitor
