import EnvMonitor.Battery.Ble
import EnvMonitor.Lib.Counter
import EnvMonitor.Lib.DelayableWork
import EnvMonitor.System.Composed
import Mathlib.Logic.Function.Basic

/-!
# Timed sampling

With `CONFIG_SENSOR_PERIODIC_SAMPLING`, `env_work`, `aq_work` and `battery_poll_work` are work
items that reschedule themselves while there is a client. The callbacks of connections and the
handlers run in several threads and give way to each other at their blocking calls only, so each
of them comes in segments, from one such call to the next; any number of callbacks and all three
handlers may be under way at once.

A connection that the sensor manager has counted stays counted until its `ble_disconnected`, and
the count falls to zero only together with the cancellation of both items, while each item is
rescheduled only where the count is not zero: by a callback of a connection that is counted, or
by a handler that has just looked. So `env_work` and `aq_work` are never pending without a client,
`Sampling.Tracked`. The battery's item may be; its handler looks before it samples.
-/

namespace EnvMonitor

variable {ρ : Type*}

/-! ### State -/

/-- The periods of `Kconfig`, `CONFIG_SENSOR_ENV_INTERVAL_SEC` and
`CONFIG_SENSOR_AIR_QUALITY_DIVISOR`. -/
structure SamplingConfig where
  envIntervalSec : ℕ
  airQualityDivisor : ℕ

/-- The period of `env_work` and `battery_poll_work`, in milliseconds. -/
def SamplingConfig.envInterval (c : SamplingConfig) : ℕ := c.envIntervalSec * 1000

/-- The period of `aq_work`, in milliseconds. -/
def SamplingConfig.aqInterval (c : SamplingConfig) : ℕ :=
  c.envIntervalSec * c.airQualityDivisor * 1000

/-- The blocking call that the callbacks of a connection are in, if they are in one. -/
inductive ConnPhase where
  /-- There is no connection. -/
  | idle
  /-- `ble_connected` is in `bt_le_adv_stop`. -/
  | stopping
  /-- `sensor_manager_on_connected` is in `ccs811_driver_on_connected`. -/
  | linking
  /-- It is in its first update. -/
  | envSample
  /-- It is in its second update. -/
  | aqSample
  /-- `ble_battery_service_on_connected` is in its update. -/
  | batteryUpdate
  /-- `ble_connected` has returned. -/
  | connected
  /-- `sensor_manager_on_disconnected` is in `ccs811_driver_on_disconnected`. -/
  | unlinking
deriving DecidableEq, Repr

/-- The blocking call that a handler is in. -/
inductive HandlerPhase where
  /-- Its update. -/
  | updating
  /-- `ccs811_driver_save_baseline`. -/
  | saving
deriving DecidableEq, Repr

/-- The sensor manager with the ESS, over any drivers, and the battery application, with their
work items and the callbacks of each connection, which is known by its address. -/
structure Sampling (ρ : Type*) where
  sys : EssRun (ManagerRun ρ)
  app : BatteryApp
  now : ℕ := 0
  envWork : DelayableWork HandlerPhase := {}
  aqWork : DelayableWork HandlerPhase := {}
  batteryPollWork : DelayableWork HandlerPhase := {}
  conns : UInt32 → ConnPhase := fun _ => .idle

namespace Sampling

/-- The count of the sensor manager. -/
def managerCount (s : Sampling ρ) : UInt32 := s.sys.env.mgr.connectedCount

/-- Whether the sensor manager is armed. -/
def armed (s : Sampling ρ) : Bool := s.sys.env.mgr.armed

/-- Go on to the next blocking call of a connection's callbacks. -/
def setPhase (conn : UInt32) (phase : ConnPhase) (s : Sampling ρ) : Sampling ρ :=
  { s with conns := Function.update s.conns conn phase }

/-- `sensor_manager_update_selective` with its callback. -/
def update (D : Drivers ρ) (sensors : SensorSelect) (s : Sampling ρ) : Sampling ρ :=
  { s with sys := runWithCallback D (sensorManagerUpdateSelective D sensors) s.sys }

end Sampling

/-- Any state of the two modules in which nobody is connected yet. `main` arms the sensor manager
and initialises the battery service before it starts advertising, so a run does neither. -/
def samplingStart (sys : EssRun (ManagerRun ρ)) (app : BatteryApp) : Sampling ρ where
  sys := { sys with env := { sys.env with mgr := { sys.env.mgr with connectedCount := 0 } } }
  app := { app with connectedCount := 0 }

/-! ### Callbacks -/

namespace Sampling

/-- `ble_battery_service_on_connected` up to its update. -/
def enterBattery (conn : UInt32) (s : Sampling ρ) : Sampling ρ :=
  if !s.app.ble.initialized then s.setPhase conn .connected
  else
    { s with app := { s.app with connectedCount := s.app.connectedCount + 1 } }.setPhase conn
      .batteryUpdate

/-- `sensor_manager_on_connected` up to its first blocking call; its return code is ignored. -/
def enterManager (D : Drivers ρ) (conn : UInt32) (s : Sampling ρ) : Sampling ρ :=
  let (ret, x) := sensorManagerTrackConnected D s.sys.env
  let s := { s with sys := { s.sys with env := x } }
  if ret ≠ 0 then s.enterBattery conn else s.setPhase conn .linking

/-- `ble_connected` up to its first blocking call. It stops the advertising if the flag of the
advertiser says that there is any. -/
def bleConnected (D : Drivers ρ) (conn : UInt32) (err : ℤ) (advertisingEnabled : Bool)
    (s : Sampling ρ) : Sampling ρ :=
  if err ≠ 0 then s
  else if advertisingEnabled then s.setPhase conn .stopping
  else s.enterManager D conn

/-- `ble_battery_service_on_disconnected`. -/
def leaveBattery (conn : UInt32) (s : Sampling ρ) : Sampling ρ :=
  let app := bleBatteryServiceOnDisconnected s.app
  let s' := { s with app := app }.setPhase conn .idle
  -- the last one cancels the poll
  if s.app.connectedCount ≠ 0 ∧ app.connectedCount = 0 then
    { s' with batteryPollWork := s'.batteryPollWork.cancel }
  else s'

/-- `ble_disconnected` up to its blocking call, which is made for the last connection, after the
two items have been cancelled. -/
def bleDisconnected (D : Drivers ρ) (conn : UInt32) (s : Sampling ρ) : Sampling ρ :=
  let x := sensorManagerOnDisconnected D s.sys.env
  let s' := { s with sys := { s.sys with env := x } }
  if s.managerCount ≠ 0 ∧ s'.managerCount = 0 then
    { s' with envWork := s'.envWork.cancel, aqWork := s'.aqWork.cancel }.setPhase conn .unlinking
  else s'.leaveBattery conn

/-- The blocking call of a connection's callback returns, and the callback goes on to the next
one or to its end. `readings` are those of an update of the battery service. -/
def resume (D : Drivers ρ) (c : SamplingConfig) (conn : UInt32) (readings : List HwReading)
    (s : Sampling ρ) : Option (Sampling ρ) :=
  match s.conns conn with
  | .idle | .connected => none
  | .stopping => some (s.enterManager D conn)
  | .linking => some (s.setPhase conn .envSample)
  | .envSample => some ((s.update D .envBasic).setPhase conn .aqSample)
  | .aqSample =>
    let s := s.update D .airQuality
    let s := { s with
      envWork := s.envWork.reschedule s.now c.envInterval
      aqWork := s.aqWork.reschedule s.now c.aqInterval }
    some (s.enterBattery conn)
  | .batteryUpdate =>
    (bleBatteryServiceUpdate readings s.app).map fun (_, app, _) =>
      { s with
        app := app
        batteryPollWork := s.batteryPollWork.reschedule s.now c.envInterval }.setPhase conn
          .connected
  | .unlinking => some (s.leaveBattery conn)

/-! ### Handlers -/

/-- The test of both handlers of the sensor manager before they reschedule their item. -/
def hasClient (s : Sampling ρ) : Bool := s.armed && s.managerCount > 0

end Sampling

/-- The three work items. -/
inductive SamplingWork where
  | env
  | aq
  | batteryPoll
deriving DecidableEq, Repr

/-- A handler that starts, or for the battery an update that its handler starts, with the count
of connections of its own module at that moment. -/
structure HandlerStart where
  work : SamplingWork
  count : UInt32
deriving DecidableEq, Repr

namespace Sampling

/-- A handler starts, and runs up to its update. That of the battery returns where there is no
client. -/
def startHandler (w : SamplingWork) (s : Sampling ρ) :
    Option (Sampling ρ × List HandlerStart) :=
  match w with
  | .env =>
    (s.envWork.start s.now .updating).map fun work =>
      ({ s with envWork := work }, [⟨.env, s.managerCount⟩])
  | .aq =>
    (s.aqWork.start s.now .updating).map fun work =>
      ({ s with aqWork := work }, [⟨.aq, s.managerCount⟩])
  | .batteryPoll =>
    (s.batteryPollWork.start s.now .updating).map fun work =>
      if !s.app.ble.initialized ∨ s.app.connectedCount = 0 then
        ({ s with batteryPollWork := work.finish }, [])
      else ({ s with batteryPollWork := work }, [⟨.batteryPoll, s.app.connectedCount⟩])

/-- The blocking call of a handler returns. -/
def resumeHandler (D : Drivers ρ) (c : SamplingConfig) (w : SamplingWork)
    (readings : List HwReading) (s : Sampling ρ) : Option (Sampling ρ) :=
  match w with
  | .env =>
    s.envWork.running.map fun _ =>
      let s := s.update D .envBasic
      let work := if s.hasClient then s.envWork.reschedule s.now c.envInterval else s.envWork
      { s with envWork := work.finish }
  | .aq =>
    s.aqWork.running.map fun
      -- where no baseline is due, the handler goes on at once
      | .updating => { s.update D .airQuality with
          aqWork := { s.aqWork with running := some .saving } }
      | .saving =>
        let work := if s.hasClient then s.aqWork.reschedule s.now c.aqInterval else s.aqWork
        { s with aqWork := work.finish }
  | .batteryPoll =>
    s.batteryPollWork.running.bind fun _ =>
      (bleBatteryServiceUpdate readings s.app).map fun (_, app, _) =>
        -- whether there is a client or not
        { s with
          app := app
          batteryPollWork := (s.batteryPollWork.reschedule s.now c.envInterval).finish }

end Sampling

/-! ### Runs -/

/-- What happens: time passes, the environment changes, a connection is called back, or a work
item is worked on. -/
inductive SamplingEvent (ρ : Type*) where
  | tick (ms : ℕ)
  | environment (env : ρ)
  | connected (conn : UInt32) (err : ℤ) (advertisingEnabled : Bool)
  | resume (conn : UInt32) (readings : List HwReading)
  | disconnected (conn : UInt32)
  | start (w : SamplingWork)
  | resumeHandler (w : SamplingWork) (readings : List HwReading)

/-- One segment. A connection has an address that is not null and not taken, and its end is called
back after its `ble_connected` has returned. -/
def samplingStep (D : Drivers ρ) (c : SamplingConfig) (e : SamplingEvent ρ) (s : Sampling ρ) :
    Option (Sampling ρ × List HandlerStart) :=
  match e with
  | .tick ms => some ({ s with now := s.now + ms }, [])
  | .environment env =>
    some ({ s with sys := { s.sys with env := { s.sys.env with env := env } } }, [])
  | .connected conn err advertisingEnabled =>
    if conn ≠ 0 ∧ s.conns conn = .idle then
      some (s.bleConnected D conn err advertisingEnabled, [])
    else none
  | .resume conn readings => (s.resume D c conn readings).map fun s => (s, [])
  | .disconnected conn =>
    if s.conns conn = .connected then some (s.bleDisconnected D conn, []) else none
  | .start w => s.startHandler w
  | .resumeHandler w readings => (s.resumeHandler D c w readings).map fun s => (s, [])

/-- Timed sampling as a machine, over the drivers `D`. -/
def samplingMachine (D : Drivers ρ) (c : SamplingConfig) :
    Machine (Sampling ρ) (SamplingEvent ρ) HandlerStart := ⟨samplingStep D c⟩

/-! ### Who is counted -/

namespace ConnPhase

/-- An armed sensor manager counts the connection. -/
def tracked : ConnPhase → Bool
  | .linking | .envSample | .aqSample | .batteryUpdate | .connected => true
  | .idle | .stopping | .unlinking => false

/-- `sensor_manager_on_connected` is under way, past its test of `armed`. -/
def sampling : ConnPhase → Bool
  | .linking | .envSample | .aqSample => true
  | _ => false

end ConnPhase

/-- The count `n` of an armed sensor manager is the number of the connections that it counts, and
an unarmed one counts none; an item that is pending has a client. -/
structure Tracking (n : UInt32) (armed : Bool) (conns : UInt32 → ConnPhase) (pending : Bool) :
    Prop where
  null : conns 0 = .idle
  counts : ∃ live, Counts n live ∧
    ∀ conn, conn ∈ live ↔ armed = true ∧ (conns conn).tracked = true
  sampling : ∀ conn, (conns conn).sampling = true → armed = true
  pending : pending = true → n ≠ 0

namespace Tracking

variable {n : UInt32} {armed pending pending' : Bool} {conns : UInt32 → ConnPhase}
  {conn : UInt32} {phase : ConnPhase}

/-- A connection that is counted keeps the count from zero. -/
theorem ne_zero (h : Tracking n armed conns pending) (harmed : armed = true)
    (htracked : (conns conn).tracked = true) : n ≠ 0 := by
  obtain ⟨live, hcounts, hlive⟩ := h.counts
  exact hcounts.ne_zero ((hlive conn).mpr ⟨harmed, htracked⟩)

theorem unarmed (h : Tracking n armed conns pending) (harmed : armed = false) : n = 0 := by
  obtain ⟨live, hcounts, hlive⟩ := h.counts
  have hempty : live = ∅ := by
    refine Finset.eq_empty_of_forall_notMem fun conn hconn => ?_
    exact Bool.false_ne_true (harmed.symm.trans ((hlive conn).mp hconn).1)
  exact hcounts.eq_zero_iff.mpr (by rw [hempty, Finset.card_empty])

/-- Items may be scheduled while there is a client, and removed. -/
theorem repend (h : Tracking n armed conns pending) (hpending : pending' = true → n ≠ 0) :
    Tracking n armed conns pending' := ⟨h.null, h.counts, h.sampling, hpending⟩

/-- A phase of an armed manager may be left for another that is counted like it. -/
theorem setPhase (h : Tracking n armed conns pending) (hnull : conn ≠ 0)
    (htracked : armed = true → phase.tracked = (conns conn).tracked)
    (hsampling : phase.sampling = true → armed = true) :
    Tracking n armed (Function.update conns conn phase) pending where
  null := (Function.update_of_ne hnull.symm ..).trans h.null
  counts := by
    obtain ⟨live, hcounts, hlive⟩ := h.counts
    refine ⟨live, hcounts, fun conn' => (hlive conn').trans (and_congr_right fun harmed => ?_)⟩
    by_cases hconn : conn' = conn
    · subst hconn
      rw [Function.update_self, htracked harmed]
    · rw [Function.update_of_ne hconn]
  sampling conn' hconn' := by
    by_cases hconn : conn' = conn
    · subst hconn
      rw [Function.update_self] at hconn'
      exact hsampling hconn'
    · rw [Function.update_of_ne hconn] at hconn'
      exact h.sampling conn' hconn'
  pending := h.pending

/-- **A connection** is counted. -/
theorem connect (h : Tracking n armed conns pending) (harmed : armed = true)
    (hnull : conn ≠ 0) (hnew : (conns conn).tracked = false) :
    Tracking (n + 1) armed (Function.update conns conn .linking) pending := by
  obtain ⟨live, hcounts, hlive⟩ := h.counts
  have hmem : conn ∉ live := by
    rw [hlive conn, hnew]
    exact fun hconn => Bool.false_ne_true hconn.2
  have hcounts' := hcounts.insert hnull hmem
  refine ⟨(Function.update_of_ne hnull.symm ..).trans h.null,
    ⟨insert conn live, hcounts', fun conn' => ?_⟩, fun _ _ => harmed,
    fun _ => hcounts'.ne_zero (Finset.mem_insert_self conn live)⟩
  by_cases hconn : conn' = conn
  · subst hconn
    rw [Function.update_self]
    exact iff_of_true (Finset.mem_insert_self ..) ⟨harmed, rfl⟩
  · rw [Function.update_of_ne hconn, Finset.mem_insert, or_iff_right hconn]
    exact hlive conn'

/-- **The end of a connection** is counted. -/
theorem disconnect (h : Tracking n armed conns pending) (harmed : armed = true)
    (hconn : (conns conn).tracked = true) (hphase : phase.tracked = false)
    (hpending : pending' = true → n - 1 ≠ 0) :
    Tracking (n - 1) armed (Function.update conns conn phase) pending' := by
  obtain ⟨live, hcounts, hlive⟩ := h.counts
  have hmem : conn ∈ live := (hlive conn).mpr ⟨harmed, hconn⟩
  have hnull : conn ≠ 0 := fun hzero => hcounts.absent (hzero ▸ hmem)
  refine ⟨(Function.update_of_ne hnull.symm ..).trans h.null,
    ⟨live.erase conn, hcounts.erase hmem, fun conn' => ?_⟩, fun _ _ => harmed, hpending⟩
  by_cases hconn' : conn' = conn
  · subst hconn'
    rw [Function.update_self, hphase]
    exact iff_of_false (Finset.notMem_erase _ _) fun hmem' => Bool.false_ne_true hmem'.2
  · rw [Function.update_of_ne hconn', Finset.mem_erase, and_iff_right hconn']
    exact hlive conn'

end Tracking

/-! ### Every segment -/

/-- The invariant of all runs. -/
def Sampling.Tracked (s : Sampling ρ) : Prop :=
  Tracking s.managerCount s.armed s.conns (s.envWork.pending || s.aqWork.pending)

theorem samplingStart_tracked (sys : EssRun (ManagerRun ρ)) (app : BatteryApp) :
    (samplingStart sys app).Tracked where
  null := rfl
  counts := ⟨∅, Counts.zero, fun _ => iff_of_false (Finset.notMem_empty _)
    fun hconn => Bool.false_ne_true hconn.2⟩
  sampling _ hconn := absurd hconn Bool.false_ne_true
  pending hpending := absurd hpending Bool.false_ne_true

/-- An update changes neither the count nor whether the manager is armed. -/
theorem countAndArmed_keeps (D : Drivers ρ) (n : UInt32) (armed : Bool) :
    SampleKeeps D fun x => x.mgr.connectedCount = n ∧ x.mgr.armed = armed where
  lock hx := hx
  stampTime hx := hx
  temperatureHumidity hx := hx
  pressure hx := hx
  airQuality hx := hx
  battery hx := hx

namespace Sampling

variable {D : Drivers ρ} {c : SamplingConfig} {s s' : Sampling ρ} {conn : UInt32}

/-- The callback of the update only polls the readiness. -/
private theorem update_frame (D : Drivers ρ) (sensors : SensorSelect) (s : Sampling ρ) :
    (s.update D sensors).managerCount = s.managerCount ∧
      (s.update D sensors).armed = s.armed :=
  runWithCallback_keeps
    (I := fun x => x.mgr.connectedCount = s.managerCount ∧ x.mgr.armed = s.armed)
    (fun hx => hx) ((countAndArmed_keeps D s.managerCount s.armed).updateSelective sensors
      ⟨rfl, rfl⟩)

private theorem Tracked.update (h : s.Tracked) (D : Drivers ρ) (sensors : SensorSelect) :
    (s.update D sensors).Tracked := by
  obtain ⟨hcount, harmed⟩ := update_frame D sensors s
  rw [Tracked, hcount, harmed]
  exact h

/-- An address in use is not null. -/
private theorem Tracked.ne_null (h : s.Tracked) (hconn : s.conns conn ≠ .idle) : conn ≠ 0 :=
  fun hzero => hconn (hzero ▸ h.null)

/-- A callback that enters the battery service has been counted by an armed manager. -/
private theorem Tracked.enterBattery (h : s.Tracked) (hnull : conn ≠ 0)
    (htracked : s.armed = true → (s.conns conn).tracked = true) :
    (s.enterBattery conn).Tracked := by
  rw [Sampling.enterBattery]
  split_ifs
  · exact h.setPhase hnull (fun harmed => (htracked harmed).symm)
      fun hsampling => absurd hsampling Bool.false_ne_true
  · exact h.setPhase hnull (fun harmed => (htracked harmed).symm)
      fun hsampling => absurd hsampling Bool.false_ne_true

private theorem Tracked.enterManager (h : s.Tracked) (D : Drivers ρ) (hnull : conn ≠ 0)
    (hnew : (s.conns conn).tracked = false) : (s.enterManager D conn).Tracked := by
  cases harmed : s.armed with
  | false =>
    have hcode : (-EINVAL : ℤ) ≠ 0 := by decide
    rw [Sampling.enterManager, sensorManagerTrackConnected_of_not_armed D harmed]
    dsimp only
    rw [if_pos hcode]
    refine h.enterBattery hnull fun harmed' => ?_
    exact absurd (harmed.symm.trans harmed') Bool.false_ne_true
  | true =>
    rw [Sampling.enterManager, sensorManagerTrackConnected_of_armed D harmed]
    exact h.connect harmed hnull hnew

/-- The end of the callbacks forgets the connection, whatever becomes of the poll. -/
private theorem leaveBattery_tracked :
    (s.leaveBattery conn).Tracked ↔
      Tracking s.managerCount s.armed (Function.update s.conns conn .idle)
        (s.envWork.pending || s.aqWork.pending) := by
  rw [leaveBattery]
  split_ifs <;> exact Iff.rfl

private theorem Tracked.leaveBattery (h : s.Tracked) (hnull : conn ≠ 0)
    (hgone : s.armed = true → (s.conns conn).tracked = false) :
    (s.leaveBattery conn).Tracked :=
  leaveBattery_tracked.mpr (h.setPhase hnull (fun harmed => (hgone harmed).symm)
    fun hsampling => absurd hsampling Bool.false_ne_true)

private theorem Tracked.bleDisconnected (h : s.Tracked) (D : Drivers ρ)
    (hconn : s.conns conn = .connected) : (s.bleDisconnected D conn).Tracked := by
  have hphase : (s.conns conn).tracked = true := congrArg ConnPhase.tracked hconn
  rw [Sampling.bleDisconnected]
  dsimp only
  cases harmed : s.armed with
  | false =>
    -- nobody was counted, so nobody leaves
    have hzero : s.managerCount = 0 := h.unarmed harmed
    have hleave : sensorManagerOnDisconnected D s.sys.env = s.sys.env := if_pos hzero
    rw [hleave, if_neg fun hlast => hlast.1 hzero]
    refine Tracked.leaveBattery h (h.ne_null (by simp [hconn])) fun harmed' => ?_
    exact absurd (harmed.symm.trans harmed') Bool.false_ne_true
  | true =>
    have hne : s.managerCount ≠ 0 := h.ne_zero harmed hphase
    have hleave : (sensorManagerOnDisconnected D s.sys.env).mgr =
        { s.sys.env.mgr with connectedCount := s.managerCount - 1 } :=
      congrArg ManagerRun.mgr (if_neg hne)
    have hcount : (sensorManagerOnDisconnected D s.sys.env).mgr.connectedCount =
        s.managerCount - 1 := by rw [hleave]
    have harmed' : (sensorManagerOnDisconnected D s.sys.env).mgr.armed = s.armed := by
      rw [hleave]
      rfl
    split_ifs with hlast
    · -- the last one: both items are cancelled
      have hgone : Tracking (s.managerCount - 1) s.armed
          (Function.update s.conns conn .unlinking) false :=
        h.disconnect harmed hphase rfl fun hpending => absurd hpending Bool.false_ne_true
      rw [← hcount, ← harmed'] at hgone
      exact hgone
    · -- another one is left
      have hleft : s.managerCount - 1 ≠ 0 := fun hzero => hlast ⟨hne, hcount.trans hzero⟩
      have hgone : Tracking (s.managerCount - 1) s.armed (Function.update s.conns conn .idle)
          (s.envWork.pending || s.aqWork.pending) :=
        h.disconnect harmed hphase rfl fun _ => hleft
      rw [← hcount, ← harmed'] at hgone
      exact leaveBattery_tracked.mpr hgone

private theorem Tracked.resume (h : s.Tracked) {readings : List HwReading}
    (hstep : s.resume D c conn readings = some s') : s'.Tracked := by
  rw [Sampling.resume] at hstep
  cases hphase : s.conns conn <;> rw [hphase] at hstep
  case idle => cases hstep
  case connected => cases hstep
  all_goals have hnull : conn ≠ 0 := h.ne_null (by simp [hphase])
  case stopping =>
    obtain rfl := Option.some.inj hstep
    exact h.enterManager D hnull (congrArg ConnPhase.tracked hphase)
  case linking =>
    obtain rfl := Option.some.inj hstep
    have harmed : s.armed = true := h.sampling conn (congrArg ConnPhase.sampling hphase)
    exact h.setPhase hnull (fun _ => (congrArg ConnPhase.tracked hphase).symm) fun _ => harmed
  case envSample =>
    obtain rfl := Option.some.inj hstep
    have hupdate := h.update D .envBasic
    have harmed : (s.update D .envBasic).armed = true :=
      hupdate.sampling conn (congrArg ConnPhase.sampling hphase)
    exact hupdate.setPhase hnull (fun _ => (congrArg ConnPhase.tracked hphase).symm)
      fun _ => harmed
  case aqSample =>
    obtain rfl := Option.some.inj hstep
    have hupdate := h.update D .airQuality
    have harmed : (s.update D .airQuality).armed = true :=
      hupdate.sampling conn (congrArg ConnPhase.sampling hphase)
    have htracked : (s.conns conn).tracked = true := congrArg ConnPhase.tracked hphase
    -- its own connection is counted, so both items may be scheduled
    have hclient : (s.update D .airQuality).managerCount ≠ 0 := hupdate.ne_zero harmed htracked
    have hscheduled : Tracked { s.update D .airQuality with
        envWork := s.envWork.reschedule s.now c.envInterval
        aqWork := s.aqWork.reschedule s.now c.aqInterval } :=
      hupdate.repend fun _ => hclient
    exact hscheduled.enterBattery hnull fun _ => htracked
  case batteryUpdate =>
    obtain ⟨⟨ret, app, calls⟩, -, rfl⟩ := Option.map_eq_some_iff.mp hstep
    exact h.setPhase hnull (fun _ => (congrArg ConnPhase.tracked hphase).symm)
      fun hsampling => absurd hsampling Bool.false_ne_true
  case unlinking =>
    obtain rfl := Option.some.inj hstep
    exact h.leaveBattery hnull fun _ => congrArg ConnPhase.tracked hphase

/-- A handler that starts has been pending, so it has a client; that of the battery looks for
one. -/
private theorem Tracked.startHandler (h : s.Tracked) {w : SamplingWork}
    {starts : List HandlerStart} (hstep : s.startHandler w = some (s', starts)) :
    s'.Tracked ∧ ∀ o ∈ starts, o.count ≠ 0 := by
  cases w with
  | env =>
    obtain ⟨work, hstart, hout⟩ := Option.map_eq_some_iff.mp hstep
    obtain ⟨rfl, rfl⟩ := Prod.mk.inj hout
    have hclient : s.managerCount ≠ 0 := by
      refine h.pending ?_
      rw [(DelayableWork.pending_of_start hstart).1, Bool.true_or]
    exact ⟨h.repend fun _ => hclient, List.forall_mem_singleton.mpr hclient⟩
  | aq =>
    obtain ⟨work, hstart, hout⟩ := Option.map_eq_some_iff.mp hstep
    obtain ⟨rfl, rfl⟩ := Prod.mk.inj hout
    have hclient : s.managerCount ≠ 0 := by
      refine h.pending ?_
      rw [(DelayableWork.pending_of_start hstart).1, Bool.or_true]
    exact ⟨h.repend fun _ => hclient, List.forall_mem_singleton.mpr hclient⟩
  | batteryPoll =>
    obtain ⟨work, -, hout⟩ := Option.map_eq_some_iff.mp hstep
    split_ifs at hout with hguard
    · obtain ⟨rfl, rfl⟩ := Prod.mk.inj hout
      exact ⟨h, fun o ho => absurd ho List.not_mem_nil⟩
    · obtain ⟨rfl, rfl⟩ := Prod.mk.inj hout
      exact ⟨h, List.forall_mem_singleton.mpr fun hzero => hguard (Or.inr hzero)⟩

/-- The test of a handler finds a client. -/
private theorem ne_zero_of_hasClient (hclient : s.hasClient = true) : s.managerCount ≠ 0 := by
  intro hzero
  rw [hasClient, hzero, Bool.and_eq_true] at hclient
  exact absurd hclient.2 (by decide)

private theorem Tracked.resumeHandler (h : s.Tracked) {w : SamplingWork}
    {readings : List HwReading} (hstep : s.resumeHandler D c w readings = some s') :
    s'.Tracked := by
  cases w with
  | env =>
    obtain ⟨phase, -, rfl⟩ := Option.map_eq_some_iff.mp hstep
    have hupdate := h.update D .envBasic
    dsimp only
    split_ifs with hclient
    · exact hupdate.repend fun _ => ne_zero_of_hasClient hclient
    · exact hupdate
  | aq =>
    obtain ⟨phase, hphase, rfl⟩ := Option.map_eq_some_iff.mp hstep
    cases phase with
    | updating => exact h.update D .airQuality
    | saving =>
      dsimp only
      split_ifs with hclient
      · exact h.repend fun _ => ne_zero_of_hasClient hclient
      · exact h
  | batteryPoll =>
    obtain ⟨phase, -, hrest⟩ := Option.bind_eq_some_iff.mp hstep
    obtain ⟨⟨ret, app, calls⟩, -, rfl⟩ := Option.map_eq_some_iff.mp hrest
    exact h

/-- **One segment** keeps the invariant, and a handler starts only where there is a client. -/
theorem Tracked.step (h : s.Tracked) {e : SamplingEvent ρ} {starts : List HandlerStart}
    (hstep : samplingStep D c e s = some (s', starts)) :
    s'.Tracked ∧ ∀ o ∈ starts, o.count ≠ 0 := by
  have hquiet : ∀ {t : Sampling ρ}, some (t, []) = some (s', starts) → t.Tracked →
      s'.Tracked ∧ ∀ o ∈ starts, o.count ≠ 0 := by
    intro t hout ht
    obtain ⟨rfl, rfl⟩ := Prod.mk.inj (Option.some.inj hout)
    exact ⟨ht, fun o ho => absurd ho List.not_mem_nil⟩
  cases e with
  | tick ms => exact hquiet hstep h
  | environment env => exact hquiet hstep h
  | connected conn err advertisingEnabled =>
    rw [samplingStep] at hstep
    split_ifs at hstep with hnew
    have hun : (s.conns conn).tracked = false := congrArg ConnPhase.tracked hnew.2
    refine hquiet hstep ?_
    rw [bleConnected]
    split_ifs
    · exact h
    · exact h.setPhase hnew.1 (fun _ => hun.symm)
        fun hsampling => absurd hsampling Bool.false_ne_true
    · exact h.enterManager D hnew.1 hun
  | resume conn readings =>
    obtain ⟨t, hresume, hout⟩ := Option.map_eq_some_iff.mp hstep
    exact hquiet (congrArg some hout) (h.resume hresume)
  | disconnected conn =>
    rw [samplingStep] at hstep
    split_ifs at hstep with hconn
    exact hquiet hstep (h.bleDisconnected D hconn)
  | start w => exact h.startHandler hstep
  | resumeHandler w readings =>
    obtain ⟨t, hresume, hout⟩ := Option.map_eq_some_iff.mp hstep
    exact hquiet (congrArg some hout) (h.resumeHandler hresume)

end Sampling

/-- **No timed sampling without a client.** In every run of the callbacks of any number of
connections and of the three handlers, over any drivers and from any state in which nobody is
connected yet, `env_work_handler` and `aq_work_handler` start only while the sensor manager's count
is not zero, and `battery_poll_work_handler` starts an update only while the battery service's is
not. -/
theorem no_sampling_without_client {D : Drivers ρ} {c : SamplingConfig}
    {sys : EssRun (ManagerRun ρ)} {app : BatteryApp} {es : List (SamplingEvent ρ)}
    {s : Sampling ρ} {starts : List HandlerStart}
    (hrun : (samplingMachine D c).run es (samplingStart sys app) = some (s, starts)) :
    ∀ o ∈ starts, o.count ≠ 0 := by
  have hsteps : (samplingMachine D c).Preserves Machine.anyEvent Sampling.Tracked :=
    fun _ h hs => (h.step hs).1
  have hstarts : (samplingMachine D c).Emits Machine.anyEvent Sampling.Tracked
      (fun o => o.count ≠ 0) := fun _ h hs => (h.step hs).2
  exact hsteps.run_emits hstarts (fun _ _ => trivial) (samplingStart_tracked sys app) hrun

/-- A client stays for one period and leaves while two handlers are in their updates. The battery
poll schedules itself once more. -/
def leaveDuringUpdate : List (SamplingEvent Unit) :=
  [.connected 1 0 true, .resume 1 [], .resume 1 [], .resume 1 [], .resume 1 [],
    .resume 1 [⟨⟨0, 0, 3600⟩, 1, 0⟩], .tick 900000, .start .env, .start .batteryPoll,
    .disconnected 1, .resume 1 [], .resumeHandler .env [],
    .resumeHandler .batteryPoll [⟨⟨0, 0, 3600⟩, 1, 0⟩], .tick 900000, .start .batteryPoll]

/-- The sensor manager armed, the service not yet initialised. -/
def armedSystem : EssRun (ManagerRun Unit) where
  ess := essStart
  writes := []
  env := {
    mgr := { managerStart with updateCallback := true, initialized := true, armed := true }
    env := () }

/-- Both handlers start with one client, and the poll that is left over samples nothing. -/
theorem leaveDuringUpdate_run :
    ∃ r ∈ (samplingMachine (steadyDrivers 800 10) ⟨900, 2⟩).run leaveDuringUpdate
      (samplingStart armedSystem (batteryAppStart { initialized := true })),
      r.2 = [⟨.env, 1⟩, ⟨.batteryPoll, 1⟩] := by
  decide +kernel

/-- `no_sampling_without_client` for it. -/
theorem no_sampling_without_client_leaveDuringUpdate :
    ∃ s starts, (samplingMachine (steadyDrivers 800 10) ⟨900, 2⟩).run leaveDuringUpdate
        (samplingStart armedSystem (batteryAppStart { initialized := true })) =
          some (s, starts) ∧
      starts.length = 2 ∧ ∀ o ∈ starts, o.count ≠ 0 := by
  obtain ⟨⟨s, starts⟩, hrun, hstarts⟩ := leaveDuringUpdate_run
  exact ⟨s, starts, hrun, congrArg List.length hstarts, no_sampling_without_client hrun⟩

end EnvMonitor
