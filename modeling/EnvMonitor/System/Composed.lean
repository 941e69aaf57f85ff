import EnvMonitor.Ccs811.Cache
import EnvMonitor.System.Interleaving

/-!
# The composed system

The CCS811 driver, the sensor manager and the service as one machine. The sensor manager's
environment is now the CCS811 driver itself, with a script of what everything else answers:
each call into a driver or the kernel takes a `Turn`, which also says what happens to the
CCS811 driver just before, so that time may pass and the readiness may change between any two
calls.

An invariant about the gases need only look at the gas group of the snapshot, at the driver,
and at whether the service shows a gas value; `GasInvariant.preserves` is the rule for it.
-/

namespace EnvMonitor

/-! ### The environment -/

/-- What one call is answered, and what happens to the CCS811 driver before it and in the wait
of its read. A call uses what it asks for. -/
structure Turn where
  before : List Ccs811Event := []
  during : List Ccs811Event := []
  lockRet : ℤ := 0
  modeRet : ℤ := 0
  hts : HtsAnswer := ⟨0, .fin 20, .fin 50⟩
  lps : LpsAnswer := ⟨0, .fin 100⟩
  read : ReadAirQualityAnswers := {}
  /-- What the output variables of a CCS811 read hold before it. -/
  out : UInt16 × UInt16 := (0, 0)
  i2cReady : Bool := true
  ccs811Ready : Bool := true
  init : InitAnswers := {}
  batteryLevel : ℤ := 50
  batteryCharging : Bool := false

/-- A CCS811 read that returned `0`: when, and whether it assigned both outputs. -/
structure GasSuccess where
  time : ℤ
  assigned : Bool
deriving DecidableEq, Repr

/-- The environment of the sensor manager. The last three fields are history: the latest
CCS811 read that returned `0`, when the last read handler was entered, and what the last
`ccs811_driver_read_for_ble` since then returned. -/
structure SystemEnv where
  ccs : Ccs811Run
  script : List Turn := []
  lastSuccess : Option GasSuccess := none
  handlerStart : ℤ
  refreshRet : Option ℤ := none

namespace SystemEnv

/-- Take the next turn; without a script every call succeeds at once. -/
def turn (s : SystemEnv) : Turn × SystemEnv :=
  match s.script with
  | [] => ({}, s)
  | t :: script => (t, { s with script := script, ccs := ccs811Steps t.before s.ccs })

/-- Note a CCS811 read that returned `0`. -/
def noteSuccess (ret : ℤ) (assigned : Bool) (s : SystemEnv) : SystemEnv :=
  if ret = 0 then { s with lastSuccess := some ⟨s.ccs.now, assigned⟩ } else s

/-- `ccs811_driver_read_air_quality`. -/
def readAirQuality (t : Turn) (s : SystemEnv) : GasAnswer × SystemEnv :=
  let (answer, ccs) := ccs811DriverReadAirQuality t.read (ccs811Steps t.during) t.out s.ccs
  (answer, { s with ccs := ccs }.noteSuccess answer.ret true)

/-- `ccs811_driver_read_for_ble`. -/
def readForBle (t : Turn) (s : SystemEnv) : GasAnswer × SystemEnv :=
  let read := ccs811DriverReadAirQuality t.read (ccs811Steps t.during) t.out s.ccs
  let (answer, ccs) := ccs811DriverReadForBle t.read (ccs811Steps t.during) t.out s.ccs
  (answer, { s with ccs := ccs, refreshRet := some answer.ret }.noteSuccess answer.ret
    (readForBleAssigns read))

end SystemEnv

/-- The CCS811 driver and the script as the drivers of the sensor manager. -/
def systemDrivers : Drivers SystemEnv where
  uptime s := (s.turn.2.ccs.now, s.turn.2)
  lock s := (s.turn.1.lockRet, s.turn.2)
  hts221ReadBoth s := (s.turn.1.hts, s.turn.2)
  lps22hbReadPressure s := (s.turn.1.lps, s.turn.2)
  ccs811ReadAirQuality _ _ s := s.turn.2.readAirQuality s.turn.1
  ccs811ReadForBle _ _ s := s.turn.2.readForBle s.turn.1
  ccs811IsReady s :=
    let (isReady, ccs) := ccs811DriverIsReady s.turn.2.ccs
    (isReady, { s.turn.2 with ccs := ccs })
  ccs811OnConnected s :=
    let (t, s) := s.turn
    { s with ccs := ccs811DriverOnConnected t.lockRet t.modeRet s.ccs }
  ccs811OnDisconnected s :=
    let (t, s) := s.turn
    { s with ccs := ccs811DriverOnDisconnected t.lockRet t.modeRet s.ccs }
  i2cReady s := (s.turn.1.i2cReady, s.turn.2)
  initDrivers s :=
    let (t, s) := s.turn
    if t.ccs811Ready then { s with ccs := (ccs811DriverInit t.init s.ccs).2 } else s
  batteryGetLevel s := (s.turn.1.batteryLevel, s.turn.2)
  batteryIsCharging s := (s.turn.1.batteryCharging, s.turn.2)

/-! ### The machine -/

/-- The whole system. -/
abbrev SystemRun := EssRun (ManagerRun SystemEnv)

/-- The system at program start, at a given uptime. -/
def systemStart (now : ℤ) : SystemRun where
  ess := essStart
  writes := []
  env := { mgr := managerStart, env := { ccs := { now := now }, handlerStart := now } }

/-- A call of the sensor manager, with the callback run on the snapshot it hands to it. -/
def runWithCallback {ρ : Type*} (D : Drivers ρ)
    (call : ManagerRun ρ → ℤ × Option SensorData × ManagerRun ρ) (u : EssRun (ManagerRun ρ)) :
    EssRun (ManagerRun ρ) :=
  -- the call has released the mutex
  let (_, snapshot, x) := call u.env
  sensorDataCallback (sensorManagerIsCcs811Ready D) snapshot { u with env := x }

/-- An entry point of the sensor manager with its callback. -/
def managerCall {ρ : Type*} (D : Drivers ρ) (e : ManagerEvent) (u : EssRun (ManagerRun ρ)) :
    EssRun (ManagerRun ρ) :=
  match e with
  | .init => runWithCallback D (sensorManagerInit D) u
  | .update => runWithCallback D (sensorManagerUpdate D) u
  | .updateSelective sensors => runWithCallback D (sensorManagerUpdateSelective D sensors) u
  | e => { u with env := (managerStep D e u.env).1 }

/-- A call with its callback polls the readiness beside what the call does. -/
theorem runWithCallback_keeps {ρ : Type*} {D : Drivers ρ} {I : ManagerRun ρ → Prop}
    (hready : ∀ {x : ManagerRun ρ}, I x → I (x.call D.ccs811IsReady).2)
    {call : ManagerRun ρ → ℤ × Option SensorData × ManagerRun ρ}
    {u : EssRun (ManagerRun ρ)} (hcall : I (call u.env).2.2) :
    I (runWithCallback D call u).env := by
  rcases hout : call u.env with ⟨ret, snapshot, x⟩
  rw [hout] at hcall
  rw [runWithCallback, hout]
  exact sensorDataCallback_keeps (P := fun u => I u.env) (u := { u with env := x })
    (fun d _ => updateKeeps_env hready d) hcall

/-- What is kept survives an entry point that leaves the bookkeeping of connections alone. -/
theorem Kept.managerCall {ρ : Type*} {D : Drivers ρ} {I : ManagerRun ρ → Prop} (hI : Kept D I)
    {e : ManagerEvent} (he : e.quiet = true) {u : EssRun (ManagerRun ρ)} (hu : I u.env) :
    I (managerCall D e u).env := by
  cases e with
  | init => exact runWithCallback_keeps hI.isReady (hI.init hu)
  | update => exact runWithCallback_keeps hI.isReady (hI.update hu)
  | updateSelective sensors =>
    exact runWithCallback_keeps hI.isReady (hI.updateSelective sensors hu)
  | trackConnected => exact absurd he Bool.false_ne_true
  | onDisconnected => exact absurd he Bool.false_ne_true
  | _ => exact hI.step rfl hu

/-- `sensor_manager_on_connected`. -/
def sensorManagerOnConnected {ρ : Type*} (D : Drivers ρ) (i : Interleaving)
    (u : EssRun (ManagerRun ρ)) : ℤ × EssRun (ManagerRun ρ) :=
  let (ret, x) := sensorManagerTrackConnected D u.env
  let u := { u with env := x }
  if ret ≠ 0 then (ret, u)
  else
    -- the environment first: the air-quality read takes its compensation from it
    let (_, u) := (interleavedOps D i).updateSelective .envBasic u
    let (_, u) := (interleavedOps D i).updateSelective .airQuality u
    (0, u)

/-- `ess_service_init`. -/
def essServiceInit {ρ : Type*} (D : Drivers ρ) (u : EssRun (ManagerRun ρ)) :
    EssRun (ManagerRun ρ) :=
  { u with
    ess := { u.ess with initialized := true }
    env := (sensorManagerRegisterCallback D u.env).2 }

/-- What happens to the system. -/
inductive SystemCall where
  /-- Boot, arming, disconnects, periodic and on-demand updates. -/
  | manager (e : ManagerEvent)
  | connected (i : Interleaving)
  | essInit
  /-- `ess_service_update` on any snapshot, such as an old one of the sensor manager. -/
  | essUpdate (data : Option SensorData)
  | cccWrite (c : EssCharId) (value : ℕ)
  /-- A read over GATT or `ess_service_local_read`. -/
  | read (c : EssCharId) (len offset : ℕ) (i : Interleaving)
  /-- Time passes, or the conditioning work runs. -/
  | driver (e : Ccs811Event)

/-- A call with the turns of the calls it makes. -/
structure SystemEvent where
  turns : List Turn := []
  call : SystemCall

/-- A read of a gas as its client sees it, with the environment at its end. -/
structure GasRead where
  gas : Gas
  len : ℕ
  offset : ℕ
  result : Except AttError (List UInt8)
  env : SystemEnv

/-- The characteristic of a gas. -/
def Gas.char : Gas → EssCharId
  | co2 => .co2
  | tvoc => .tvoc

/-- The gas of a characteristic. -/
def EssCharId.gas? : EssCharId → Option Gas
  | .co2 => some .co2
  | .tvoc => some .tvoc
  | _ => none

/-- Change what the sensor manager runs on. -/
def SystemRun.mapEnv (f : SystemEnv → SystemEnv) (u : SystemRun) : SystemRun :=
  { u with env := { u.env with env := f u.env.env } }

/-- A read handler. What others do after its `sensor_manager_get_data` is left to the events
that follow. -/
def systemRead (c : EssCharId) (len offset : ℕ) (i : Interleaving) (u : SystemRun) :
    SystemRun × List GasRead :=
  let u := SystemRun.mapEnv
    (fun s => { s with handlerStart := s.ccs.now, refreshRet := none }) u
  let (result, u) :=
    essRead (interleavedOps systemDrivers { i with afterGetData := [] }) c len offset u
  (u, (c.gas?.map fun gas => ⟨gas, len, offset, result, u.env.env⟩).toList)

/-- One event, with the read of a gas that it may be. -/
def systemStep (e : SystemEvent) (u : SystemRun) : SystemRun × List GasRead :=
  let u := SystemRun.mapEnv (fun s => { s with script := e.turns }) u
  match e.call with
  | .manager e => (managerCall systemDrivers e u, [])
  | .connected i => ((sensorManagerOnConnected systemDrivers i u).2, [])
  | .essInit => (essServiceInit systemDrivers u, [])
  | .essUpdate data =>
    ((essServiceUpdate (sensorManagerIsCcs811Ready systemDrivers) data u).state, [])
  | .cccWrite c value => ({ u with ess := cccCfgChanged c value u.ess }, [])
  | .read c len offset i => systemRead c len offset i u
  | .driver e => (SystemRun.mapEnv (fun s => { s with ccs := ccs811Step s.ccs e }) u, [])

/-- The composed system as a machine. -/
def systemMachine : Machine SystemRun SystemEvent GasRead where
  step e u := some (systemStep e u)

end EnvMonitor
