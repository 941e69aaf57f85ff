import EnvMonitor.Naming.DeviceNaming
import EnvMonitor.System.Connections
import EnvMonitor.Uptime

/-!
# Boot

`main` among everything else that runs. Its calls are the steps of a thread with a program
counter, between which the Bluetooth stack, the work queues, clients and the shell do what they
do; `main` returns at the first call whose failure it does not tolerate. The callbacks of
connections, and the commands by which the shell simulates connections, come in pieces as well,
from one blocking call to the next, so that a callback and a command may be under way together.

`boot_safe` says that nobody can connect before every service is up, and that the callback of a
connection therefore never finds one that is not; `boot_failed` that a boot that fails before
`bt_le_adv_start` leaves a device that is never seen.
-/

namespace EnvMonitor

variable {ρ : Type*}

/-! ### `main` -/

/-- Where `main` is: the call that comes next, with the local variable `sensor_data` as long as
it is used. -/
inductive MainPc where
  | namingInit
  | advertiserInit
  | settingsInit
  | managerInit
  | batteryInit
  | essInit
  | arm
  | uptimeInit
  | getData
  | seedBattery (data : SensorData)
  | seedEss (data : SensorData)
  | advertiserStart
  | returned (ret : ℤ)
deriving DecidableEq

/-- Return a return code that is not `0`, or go on. -/
def MainPc.unless (ret : ℤ) (next : MainPc) : MainPc := if ret ≠ 0 then .returned ret else next

/-- Who tells the modules of connections: the Bluetooth host, which runs the callbacks of
connections one after the other, and the shell, which simulates connections. -/
inductive LinkCaller where
  | host
  | shell
deriving DecidableEq, Repr

/-- What comes next in a callback or a command that is under way. Both tell first the sensor
manager and then the battery service. -/
inductive LinkPhase where
  /-- `sensor_manager_on_connected` is entered. -/
  | track
  /-- It has counted the connection, and is at its first update. -/
  | envSample
  /-- It is at its second. -/
  | aqSample
  /-- It has returned `ret`, and `ble_battery_service_on_connected` is entered. -/
  | batteryTrack (ret : ℤ)
  /-- That has counted the connection, and is at its update. -/
  | batteryUpdate (ret : ℤ)
  /-- `sensor_manager_on_disconnected` is entered. -/
  | untrack
  /-- `ble_battery_service_on_disconnected` is entered. -/
  | batteryUntrack
deriving DecidableEq, Repr

/-- The device with its `main` thread, the two services that only `main` initialises, and what
the callers of the link are in the middle of. `advCalled` is history: `bt_le_adv_start` has been
called. -/
structure Firmware where
  pc : MainPc := .namingInit
  naming : DeviceNaming := {}
  uptime : UptimeService := {}
  dev : Device
  link : LinkCaller → Option LinkPhase := fun _ => none
  advCalled : Bool := false

/-- The answers that one step of `main` may use. -/
structure MainAnswers where
  turns : List Turn := []
  nameBuffer : Fin DEVICE_NAME_MAX_LEN → Char := fun _ => nul
  hw : Option DeviceId := none
  enableRet : ℤ := 0
  settingsRet : ℤ := 0
  uptime : ℤ := 0
  setLevelRet : ℤ := 0
  stopRet : ℤ := 0
  startRet : ℕ → ℤ := fun _ => 0

/-- One step of `main`. -/
def mainStep (a : MainAnswers) (f : Firmware) : Option Firmware :=
  let d := f.dev.begin a.turns
  match f.pc with
  | .namingInit =>
    -- a failure is only logged
    let (_, naming) := deviceNamingInit a.nameBuffer a.hw f.naming
    some { f with pc := .advertiserInit, naming := naming }
  | .advertiserInit =>
    let (ret, adv) := bleAdvertiserInit a.enableRet f.dev.adv
    some { f with pc := .unless ret .settingsInit, dev := { f.dev with adv := adv } }
  | .settingsInit => some { f with pc := .unless a.settingsRet .managerInit }
  | .managerInit =>
    let (ret, _, _) := sensorManagerInit linkedDrivers d.sys.env
    some { f with
      pc := .unless ret .batteryInit
      dev := { d with sys := managerCall linkedDrivers .init d.sys } }
  | .batteryInit =>
    some { f with pc := .essInit, dev := { f.dev with app := bleBatteryServiceInit f.dev.app } }
  | .essInit =>
    some { f with pc := .arm, dev := { d with sys := essServiceInit linkedDrivers d.sys } }
  | .arm =>
    let (ret, x) := sensorManagerArm f.dev.sys.env
    some { f with
      pc := .unless ret .uptimeInit
      dev := { f.dev with sys := { f.dev.sys with env := x } } }
  | .uptimeInit =>
    let (ret, uptime) := uptimeServiceInit a.uptime f.uptime
    some { f with pc := .unless ret .getData, uptime := uptime }
  | .getData =>
    -- the data of a failed call is set to zero, which is how it is returned here
    let (_, data, x) := sensorManagerGetData linkedDrivers d.sys.env
    some { f with pc := .seedBattery data, dev := { d with sys := { d.sys with env := x } } }
  | .seedBattery data =>
    -- both seeds may fail
    let app :=
      if data.isValid .battery then
        (bleBatteryServiceUpdateManual a.setLevelRet data.batteryLevel data.batteryCharging
          f.dev.app).2.1
      else f.dev.app
    some { f with pc := .seedEss data, dev := { f.dev with app := app } }
  | .seedEss data =>
    let sys := (essServiceUpdate (sensorManagerIsCcs811Ready linkedDrivers) (some data)
      d.sys).state
    some { f with pc := .advertiserStart, dev := { d with sys := sys } }
  | .advertiserStart =>
    let (ret, adv) := bleAdvertiserStart true a.stopRet a.startRet f.dev.adv
    some { f with
      pc := .returned ret
      dev := { f.dev with adv := adv }
      advCalled := f.advCalled || f.dev.adv.btReadySem != 0 }
  | .returned _ => none

/-! ### The callbacks and the shell -/

/-- What the two calls return that tell the modules of a connection. -/
structure ConnectRets where
  manager : ℤ
  battery : ℤ
deriving DecidableEq, Repr

/-- What a piece of a callback or a command comes to. -/
inductive LinkNext where
  | goOn (phase : LinkPhase)
  /-- `cmd_gatt_connect` has given up, with the return code of the sensor manager. -/
  | refused (ret : ℤ)
  /-- Both modules have been told of a connection. -/
  | connected (rets : ConnectRets)
  /-- Both have been told of its end. -/
  | disconnected
deriving DecidableEq, Repr

/-- The phase that it comes to, if it is not the end. -/
def LinkNext.phase : LinkNext → Option LinkPhase
  | goOn phase => some phase
  | _ => none

/-- One piece of `ble_connected`, once advertising has been stopped, of `ble_disconnected`, of
`cmd_gatt_connect` or of `cmd_gatt_disconnect`. The callback ignores the return codes, and the
command gives up at the first that is not `0`. -/
def linkPiece (caller : LinkCaller) (i : Interleaving) (readings : List HwReading)
    (phase : LinkPhase) (d : Device) : Option (Device × LinkNext) :=
  match phase with
  | .track =>
    let (ret, x) := sensorManagerTrackConnected linkedDrivers d.sys.env
    some ({ d with sys := { d.sys with env := x } },
      if ret = 0 then .goOn .envSample
      else if caller = .shell then .refused ret
      else .goOn (.batteryTrack ret))
  | .envSample =>
    let (_, sys) := (interleavedOps linkedDrivers i).updateSelective .envBasic d.sys
    some ({ d with sys := sys }, .goOn .aqSample)
  | .aqSample =>
    let (_, sys) := (interleavedOps linkedDrivers i).updateSelective .airQuality d.sys
    some ({ d with sys := sys }, .goOn (.batteryTrack 0))
  | .batteryTrack ret =>
    if !d.app.ble.initialized then some (d, .connected ⟨ret, -ENODEV⟩)
    else
      some ({ d with app := { d.app with connectedCount := d.app.connectedCount + 1 } },
        .goOn (.batteryUpdate ret))
  | .batteryUpdate ret =>
    -- the result of the update is only logged
    (bleBatteryServiceUpdate readings d.app).map fun (_, app, _) =>
      ({ d with app := app }, .connected ⟨ret, 0⟩)
  | .untrack =>
    let x := sensorManagerOnDisconnected linkedDrivers d.sys.env
    some ({ d with sys := { d.sys with env := x } }, .goOn .batteryUntrack)
  | .batteryUntrack =>
    some ({ d with app := bleBatteryServiceOnDisconnected d.app }, .disconnected)

/-! ### The machine -/

/-- What others do with the sensor manager once it is up: nobody but `main` initialises it, and
connections are events of their own. -/
def ManagerEvent.runtime : ManagerEvent → Bool
  | .init | .registerCallback | .arm | .trackConnected | .onDisconnected => false
  | _ => true

/-- Another thread does nothing else. -/
def ForeignEvent.runtime : ForeignEvent → Bool
  | .manager e => e.runtime
  | .callback _ => true

/-- What runs beside `main` and the callbacks of the Bluetooth stack. -/
def Background.runtime : Background → Bool
  | .manager e => e.runtime
  | .read _ _ _ i => i.events.all ForeignEvent.runtime
  | .driver e => e.quiet
  | .battery e => e.quiet
  | .essUpdate _ | .cccWrite _ _ => true
  | .essInit | .batteryInit | .advertiser _ => false

/-- What happens to the firmware. -/
inductive FirmwareEvent where
  | main (a : MainAnswers)
  /-- `bt_ready_cb`. -/
  | btReady (err : ℤ)
  /-- `ble_connected` is entered, and stops advertising. -/
  | connected (conn : UInt32) (err stopRet : ℤ)
  /-- `ble_disconnected` is entered. -/
  | disconnected (conn : UInt32)
  | recycled (startRet : ℤ)
  /-- The shell is to simulate a connection or the end of one. -/
  | gattConnect
  | gattDisconnect
  /-- The callback or the command goes on. -/
  | resume (caller : LinkCaller) (turns : List Turn) (i : Interleaving)
    (readings : List HwReading)
  | background (turns : List Turn) (b : Background)

/-- What the callback of a connection has been returned, when it returns. -/
def LinkNext.rets (caller : LinkCaller) : LinkNext → List ConnectRets
  | connected rets => if caller = .host then [rets] else []
  | _ => []

/-- The caller, which has nothing under way, enters a callback or a command. -/
def Firmware.enter (caller : LinkCaller) (phase : LinkPhase) (f : Firmware) : Firmware :=
  { f with link := Function.update f.link caller (some phase) }

/-- One event. The stack calls back once it has been enabled; it establishes connections, at
addresses that are not null and not taken, and frees connection objects, only after
`bt_le_adv_start` has been called. -/
def firmwareStep (e : FirmwareEvent) (f : Firmware) : Option (Firmware × List ConnectRets) :=
  match e with
  | .main a => (mainStep a f).map fun f' => (f', [])
  | .btReady err =>
    if f.dev.adv.connCallbacks then
      some ({ f with dev := { f.dev with adv := btReadyCb err f.dev.adv } }, [])
    else none
  | .connected conn err stopRet =>
    if !f.dev.adv.connCallbacks then none
    else if err ≠ 0 then some (f, [])
    else if f.advCalled ∧ conn ≠ 0 ∧ conn ∉ f.dev.live ∧ f.link .host = none then
      let adv := bleConnected 0 stopRet (connectionEstablished f.dev.adv)
      let d := { f.dev with adv := adv, live := insert conn f.dev.live }
      some (({ f with dev := d } : Firmware).enter .host .track, [])
    else none
  | .disconnected conn =>
    if conn ∈ f.dev.live ∧ f.link .host = none then
      let d := { f.dev with live := f.dev.live.erase conn }
      some (({ f with dev := d } : Firmware).enter .host .untrack, [])
    else none
  | .recycled startRet =>
    if f.dev.adv.connCallbacks ∧ f.advCalled then
      some ({ f with dev := { f.dev with adv := bleRecycled startRet f.dev.adv } }, [])
    else none
  | .gattConnect => if f.link .shell = none then some (f.enter .shell .track, []) else none
  | .gattDisconnect => if f.link .shell = none then some (f.enter .shell .untrack, []) else none
  | .resume caller turns i readings =>
    if i.events.all ForeignEvent.runtime then
      (f.link caller).bind fun phase =>
        (linkPiece caller i readings phase (f.dev.begin turns)).map fun (d, next) =>
          ({ f with dev := d, link := Function.update f.link caller next.phase },
            next.rets caller)
    else none
  | .background turns b =>
    if b.runtime then
      (backgroundStep b (f.dev.begin turns)).map fun d' => ({ f with dev := d' }, [])
    else none

/-- The firmware as a machine. -/
def firmwareMachine : Machine Firmware FirmwareEvent ConnectRets := ⟨firmwareStep⟩

/-- The firmware at power-on. -/
def firmwareStart (now : ℤ) (bat : BatteryData) : Firmware where
  dev := { deviceStart now bat with adv := {} }

/-- `connected_count - 1`, unless the count is zero. -/
def countDown (n : UInt32) : UInt32 := if n = 0 then 0 else n - 1

namespace Firmware

@[simp]
theorem link_enter (caller : LinkCaller) (phase : LinkPhase) (f : Firmware) :
    (f.enter caller phase).link = Function.update f.link caller (some phase) := rfl

/-- What one caller does is not under way at the other. -/
theorem update_shell_host (link : LinkCaller → Option LinkPhase) (phase : Option LinkPhase) :
    Function.update link .shell phase .host = link .host :=
  Function.update_of_ne (show LinkCaller.host ≠ .shell by decide) phase link

theorem update_host_shell (link : LinkCaller → Option LinkPhase) (phase : Option LinkPhase) :
    Function.update link .host phase .shell = link .shell :=
  Function.update_of_ne (show LinkCaller.shell ≠ .host by decide) phase link

theorem host_enter_shell (phase : LinkPhase) (f : Firmware) :
    (f.enter .shell phase).link .host = f.link .host := update_shell_host f.link (some phase)

end Firmware

/-- What one event does, case by case. -/
inductive FirmwareStepped (f : Firmware) :
    FirmwareEvent → Firmware → List ConnectRets → Prop where
  | main {a : MainAnswers} {f' : Firmware} (step : mainStep a f = some f') :
    FirmwareStepped f (.main a) f' []
  | btReady {err : ℤ} :
    FirmwareStepped f (.btReady err) { f with dev := { f.dev with
      adv := btReadyCb err f.dev.adv } } []
  /-- The connection could not be set up. -/
  | failed {conn : UInt32} {err stopRet : ℤ} (err_ne : err ≠ 0) :
    FirmwareStepped f (.connected conn err stopRet) f []
  | connected {conn : UInt32} {stopRet : ℤ} (called : f.advCalled = true) (conn_ne : conn ≠ 0)
    (new : conn ∉ f.dev.live) (idle : f.link .host = none) :
    FirmwareStepped f (.connected conn 0 stopRet)
      (({ f with dev := { f.dev with
        adv := bleConnected 0 stopRet (connectionEstablished f.dev.adv)
        live := insert conn f.dev.live } } : Firmware).enter .host .track) []
  | disconnected {conn : UInt32} (live : conn ∈ f.dev.live) (idle : f.link .host = none) :
    FirmwareStepped f (.disconnected conn)
      (({ f with dev := { f.dev with live := f.dev.live.erase conn } } : Firmware).enter
        .host .untrack) []
  | recycled {startRet : ℤ} (called : f.advCalled = true) :
    FirmwareStepped f (.recycled startRet) { f with dev := { f.dev with
      adv := bleRecycled startRet f.dev.adv } } []
  | gattConnect (idle : f.link .shell = none) :
    FirmwareStepped f .gattConnect (f.enter .shell .track) []
  | gattDisconnect (idle : f.link .shell = none) :
    FirmwareStepped f .gattDisconnect (f.enter .shell .untrack) []
  /-- A callback or a command goes on with its next piece. -/
  | resume {caller : LinkCaller} {turns : List Turn} {i : Interleaving}
    {readings : List HwReading} (runtime : ∀ e ∈ i.events, e.runtime = true) {phase : LinkPhase}
    {d : Device} {next : LinkNext} (under_way : f.link caller = some phase)
    (piece : linkPiece caller i readings phase (f.dev.begin turns) = some (d, next)) :
    FirmwareStepped f (.resume caller turns i readings)
      { f with dev := d, link := Function.update f.link caller next.phase } (next.rets caller)
  | background {turns : List Turn} {b : Background} (runtime : b.runtime = true) {d : Device}
    (step : backgroundStep b (f.dev.begin turns) = some d) :
    FirmwareStepped f (.background turns b) { f with dev := d } []

/-- **One event** does nothing else. -/
theorem firmwareStep_cases {e : FirmwareEvent} {f f' : Firmware} {os : List ConnectRets}
    (hstep : firmwareStep e f = some (f', os)) : FirmwareStepped f e f' os := by
  cases e with
  | main a =>
    obtain ⟨f₁, hmain, hf₁⟩ := Option.map_eq_some_iff.mp hstep
    obtain ⟨rfl, rfl⟩ := Prod.mk.inj hf₁
    exact .main hmain
  | connected conn err stopRet =>
    simp only [firmwareStep] at hstep
    split_ifs at hstep with hoff herr hnew
    · obtain ⟨rfl, rfl⟩ := Prod.mk.inj (Option.some.inj hstep)
      exact .failed herr
    · obtain ⟨rfl, rfl⟩ := Prod.mk.inj (Option.some.inj hstep)
      obtain rfl : err = 0 := not_not.mp herr
      exact .connected hnew.1 hnew.2.1 hnew.2.2.1 hnew.2.2.2
  | resume caller turns i readings =>
    simp only [firmwareStep] at hstep
    split_ifs at hstep with hruntime
    obtain ⟨phase, hphase, hmap⟩ := Option.bind_eq_some_iff.mp hstep
    obtain ⟨⟨d, next⟩, hpiece, hf'⟩ := Option.map_eq_some_iff.mp hmap
    obtain ⟨rfl, rfl⟩ := Prod.mk.inj hf'
    exact .resume (List.all_eq_true.mp hruntime) hphase hpiece
  | background turns b =>
    simp only [firmwareStep] at hstep
    split_ifs at hstep with hruntime
    obtain ⟨d, hd, hf'⟩ := Option.map_eq_some_iff.mp hstep
    obtain ⟨rfl, rfl⟩ := Prod.mk.inj hf'
    exact .background hruntime hd
  | _ =>
    simp only [firmwareStep] at hstep
    split_ifs at hstep with hcan
    obtain ⟨rfl, rfl⟩ := Prod.mk.inj (Option.some.inj hstep)
    first
      | exact .btReady
      | exact .disconnected hcan.1 hcan.2
      | exact .recycled hcan.2
      | exact .gattConnect hcan
      | exact .gattDisconnect hcan

/-! ### What runs beside `main` leaves alone -/

/-- The static variables of the sensor manager but for the snapshot. -/
def ManagerState.control (mgr : ManagerState) : Bool × Bool × Bool × UInt32 :=
  (mgr.updateCallback, mgr.initialized, mgr.armed, mgr.connectedCount)

/-- Whether the service is initialised, and those variables. -/
def Settled (initialized : Bool) (control : Bool × Bool × Bool × UInt32)
    (u : EssRun (ManagerRun ρ)) : Prop :=
  u.ess.initialized = initialized ∧ u.env.mgr.control = control

namespace Settled

variable {initialized : Bool} {mgr : ManagerState} {u : EssRun (ManagerRun ρ)}

theorem updateCallback (h : Settled initialized mgr.control u) :
    u.env.mgr.updateCallback = mgr.updateCallback := (Prod.mk.inj h.2).1

theorem manager (h : Settled initialized mgr.control u) :
    u.env.mgr.initialized = mgr.initialized := (Prod.mk.inj (Prod.mk.inj h.2).2).1

theorem armed (h : Settled initialized mgr.control u) : u.env.mgr.armed = mgr.armed :=
  (Prod.mk.inj (Prod.mk.inj (Prod.mk.inj h.2).2).2).1

theorem connectedCount (h : Settled initialized mgr.control u) :
    u.env.mgr.connectedCount = mgr.connectedCount :=
  (Prod.mk.inj (Prod.mk.inj (Prod.mk.inj h.2).2).2).2

end Settled

section Settled

variable {D : Drivers ρ} {initialized : Bool} {control : Bool × Bool × Bool × UInt32}

/-- A sample writes the snapshot. -/
theorem control_sampleKeeps (D : Drivers ρ) (control : Bool × Bool × Bool × UInt32) :
    SampleKeeps D fun x => x.mgr.control = control where
  lock hx := hx
  stampTime hx := hx
  temperatureHumidity hx := hx
  pressure hx := hx
  airQuality hx := hx
  battery hx := hx

/-- So does everything that others do with the sensor manager. -/
theorem control_managerStep (D : Drivers ρ) {e : ManagerEvent} (he : e.runtime = true)
    (x : ManagerRun ρ) : (managerStep D e x).1.mgr.control = x.mgr.control := by
  have hsample := control_sampleKeeps D x.mgr.control
  cases e with
  | update => exact hsample.update rfl
  | updateSelective sensors => exact hsample.updateSelective sensors rfl
  | getData =>
    rcases hcall : x.call D.lock with ⟨ret, x'⟩
    have hlock : x'.mgr.control = x.mgr.control := by
      rw [← (Prod.mk.inj hcall).2]
    simp only [managerStep, sensorManagerGetData, hcall]
    split_ifs
    · rfl
    · exact hlock
    · exact hlock
  | updateAirQualityForBle =>
    simp only [managerStep, sensorManagerUpdateAirQualityForBle]
    split_ifs <;> rfl
  | isReady => rfl
  | _ => exact absurd he Bool.false_ne_true

/-- An update of the service writes its records. -/
theorem settled_updateKeeps (ready : ManagerRun ρ → Bool × ManagerRun ρ)
    (hready : ∀ x, (ready x).2.mgr.control = x.mgr.control) (data : SensorData) :
    UpdateKeeps ready data (Settled initialized control) where
  asked {u} hu := ⟨hu.1, (hready u.env).trans hu.2⟩
  invalidate _ _ hu := hu
  environment {c u} _ _ hu := by
    cases c <;> exact hu
  sentinel {c u} _ hu := by
    cases c <;> exact hu
  gas {c u} _ _ _ hu := by
    cases c <;> exact ⟨hu.1, (hready u.env).trans hu.2⟩

theorem settled_callback (data : Option SensorData) {u : EssRun (ManagerRun ρ)}
    (hu : Settled initialized control u) :
    Settled initialized control (sensorDataCallback (sensorManagerIsCcs811Ready D) data u) :=
  sensorDataCallback_keeps (fun d _ => settled_updateKeeps _ (fun _ => rfl) d) hu

theorem settled_foreignKeeps (D : Drivers ρ) (initialized : Bool)
    (control : Bool × Bool × Bool × UInt32) :
    ForeignKeeps D (fun e => e.runtime = true) (Settled initialized control) where
  step {e u} he hu := by
    cases e with
    | manager e => exact ⟨hu.1, (control_managerStep D he u.env).trans hu.2⟩
    | callback data => exact settled_callback (some data) hu

/-- The calls that a handler makes of the sensor manager. -/
theorem settled_updateSelective {i : Interleaving} (hi : ∀ e ∈ i.events, e.runtime = true)
    (sensors : SensorSelect) {u : EssRun (ManagerRun ρ)} (hu : Settled initialized control u) :
    Settled initialized control ((interleavedOps D i).updateSelective sensors u).2 := by
  have hforeign := settled_foreignKeeps D initialized control
  simp only [Interleaving.events, List.mem_append, or_imp, forall_and] at hi
  obtain ⟨⟨⟨⟨hupdate, hcallback⟩, hafter⟩, -⟩, -⟩ := hi
  have hbefore := hforeign.runOthers hupdate hu
  have hown := hforeign.step (e := .manager (.updateSelective sensors)) rfl hbefore
  exact hforeign.runOthers hafter (settled_callback _ (hforeign.runOthers hcallback hown))

theorem settled_getData {i : Interleaving} (hi : ∀ e ∈ i.events, e.runtime = true)
    {u : EssRun (ManagerRun ρ)} (hu : Settled initialized control u) :
    Settled initialized control ((interleavedOps D i).getData u).2.2 := by
  have hforeign := settled_foreignKeeps D initialized control
  simp only [Interleaving.events, List.mem_append, or_imp, forall_and] at hi
  obtain ⟨⟨-, hget⟩, hafter⟩ := hi
  have hbefore := hforeign.runOthers hget hu
  have hown := hforeign.step (e := .manager .getData) rfl hbefore
  exact hforeign.runOthers hafter hown

/-- A read handler. -/
theorem settled_essRead {i : Interleaving} (hi : ∀ e ∈ i.events, e.runtime = true)
    (c : EssCharId) (len offset : ℕ) {u : EssRun (ManagerRun ρ)}
    (hu : Settled initialized control u) :
    Settled initialized control (essRead (interleavedOps D i) c len offset u).2 := by
  have hservice : CacheKeeps (interleavedOps D i) fun u => u.ess.initialized = initialized :=
    { updateSelective := fun sensors _ hu => (settled_updateSelective hi sensors ⟨hu, rfl⟩).1
      getData := fun hu => (settled_getData hi ⟨hu, rfl⟩).1
      updateAirQualityForBle := fun hu => hu
      withEnv := fun _ _ hu => hu
      invalidate := fun _ _ hu => hu
      store := fun _ hu => hu }
  have hble : ∀ x : ManagerRun ρ,
      (sensorManagerUpdateAirQualityForBle D x).mgr.control = x.mgr.control :=
    control_managerStep D (e := .updateAirQualityForBle) rfl
  have hmanager : ReadKeeps (interleavedOps D i) (fun u => u.env.mgr.control = control)
      fun x => x.mgr.control = control :=
    { updateSelective := fun sensors _ hu => (settled_updateSelective hi sensors ⟨rfl, hu⟩).2
      getData := fun hu => (settled_getData hi ⟨rfl, hu⟩).2
      asked := fun hu => hu
      invalidate := fun _ _ hu => hu
      environment := fun _ _ _ _ hu => hu
      sentinel := fun _ hu => hu
      ready := fun hu _ => hu
      updateForBle := fun {u} hu => (hble u.env).trans hu
      getDataReady := fun hu => (settled_getData hi ⟨rfl, hu⟩).2
      of_ready := fun hu => hu }
  exact ⟨hservice.essRead c len offset hu.1, hmanager.essRead c len offset hu.2⟩

/-- The end of a connection changes the count alone. -/
theorem control_onDisconnected (D : Drivers ρ) (x : ManagerRun ρ) :
    (sensorManagerOnDisconnected D x).mgr.control =
      ({ x.mgr with connectedCount := countDown x.mgr.connectedCount } : ManagerState).control := by
  rw [sensorManagerOnDisconnected, countDown]
  split_ifs with hzero
  · rw [← hzero]
  · rfl

end Settled

/-- The battery application keeps its flag and its count, but for the callbacks of
connections. -/
theorem batterySettled_keeps (initialized : Bool) (n : UInt32) :
    BatteryKeeps (fun _ => True)
      (fun app => app.ble.initialized = initialized ∧ app.connectedCount = n) fun _ => True where
  hardware _ h := h
  prewrite _ h := h
  manual {app ret} level charging _ h := by
    refine ⟨?_, fun _ _ => trivial⟩
    simp only [bleBatteryServiceUpdateManual, updateManualClamped]
    split_ifs <;> exact h

/-- The same services, counts and connections. -/
structure Device.Same (d d' : Device) : Prop where
  sys : Settled d.sys.ess.initialized d.sys.env.mgr.control d'.sys
  battery : d'.app.ble.initialized = d.app.ble.initialized
  count : d'.app.connectedCount = d.app.connectedCount
  adv : d'.adv = d.adv
  live : d'.live = d.live

/-- **Background.** Nothing that runs beside `main` and the callbacks touches them. -/
theorem Device.same_backgroundStep {b : Background} (hb : b.runtime = true) {d d' : Device}
    (hstep : backgroundStep b d = some d') : d.Same d' := by
  have hsettled : Settled d.sys.ess.initialized d.sys.env.mgr.control d.sys := ⟨rfl, rfl⟩
  cases b with
  | manager e =>
    obtain rfl := Option.some.inj hstep
    refine ⟨?_, rfl, rfl, rfl, rfl⟩
    have hsample := control_sampleKeeps linkedDrivers d.sys.env.mgr.control
    cases e with
    | update => exact settled_callback _ ⟨rfl, hsample.update rfl⟩
    | updateSelective sensors => exact settled_callback _ ⟨rfl, hsample.updateSelective sensors rfl⟩
    | getData => exact ⟨rfl, control_managerStep _ rfl _⟩
    | updateAirQualityForBle => exact ⟨rfl, control_managerStep _ rfl _⟩
    | isReady => exact hsettled
    | _ => exact absurd hb Bool.false_ne_true
  | essUpdate data =>
    obtain rfl := Option.some.inj hstep
    refine ⟨?_, rfl, rfl, rfl, rfl⟩
    cases data with
    | none => rwa [essServiceUpdate_state_of_idle (Or.inr rfl)]
    | some data => exact (settled_updateKeeps _ (fun _ => rfl) data).essServiceUpdate hsettled
  | cccWrite c value =>
    obtain rfl := Option.some.inj hstep
    exact ⟨hsettled, rfl, rfl, rfl, rfl⟩
  | read c len offset i =>
    obtain rfl := Option.some.inj hstep
    exact ⟨settled_essRead (List.all_eq_true.mp hb) c len offset hsettled, rfl, rfl, rfl, rfl⟩
  | driver e =>
    obtain rfl := Option.some.inj hstep
    exact ⟨hsettled, rfl, rfl, rfl, rfl⟩
  | battery e =>
    obtain ⟨⟨app, calls⟩, hr, rfl⟩ := Option.map_eq_some_iff.mp hstep
    obtain ⟨hinit, hcount⟩ := ((batterySettled_keeps _ _).step hb (fun _ _ => trivial)
      ⟨rfl, rfl⟩ hr).1
    exact ⟨hsettled, hinit, hcount, rfl, rfl⟩
  | _ => exact absurd hb Bool.false_ne_true

/-! ### Services -/

/-- What `main` brings up. -/
inductive BootService where
  /-- The connection callbacks are registered. -/
  | callbacks
  | manager
  | battery
  | ess
  /-- The sensor manager has the callback of the ESS. -/
  | essCallback
  | armed
  | uptime
deriving DecidableEq, Repr

namespace Device

/-- The service is up; that of the uptime is not part of the device. -/
def isUp (d : Device) : BootService → Bool
  | .callbacks => d.adv.connCallbacks
  | .manager => d.sys.env.mgr.initialized
  | .battery => d.app.ble.initialized
  | .ess => d.sys.ess.initialized
  | .essCallback => d.sys.env.mgr.updateCallback
  | .armed => d.sys.env.mgr.armed
  | .uptime => false

variable {d d' : Device}

/-- What is up is a matter of the flags. -/
theorem isUp_of_control (hadv : d'.adv.connCallbacks = d.adv.connCallbacks) {n : UInt32}
    (hsys : Settled d.sys.ess.initialized
      ({ d.sys.env.mgr with connectedCount := n } : ManagerState).control d'.sys)
    (hbattery : d'.app.ble.initialized = d.app.ble.initialized) (v : BootService) :
    d'.isUp v = d.isUp v := by
  cases v <;> simp [isUp, hadv, hsys.1, hbattery, hsys.updateCallback, hsys.manager, hsys.armed]

/-- The connections do not matter. -/
theorem isUp_live (d : Device) (live : Finset UInt32) (v : BootService) :
    ({ d with live := live } : Device).isUp v = d.isUp v := by
  cases v <;> rfl

theorem Same.isUp (h : d.Same d') (v : BootService) : d'.isUp v = d.isUp v :=
  isUp_of_control (by rw [h.adv]) (n := d.sys.env.mgr.connectedCount) h.sys h.battery v

end Device

/-! ### The pieces -/

namespace LinkPhase

/-- The count that the piece leaves the sensor manager. -/
def managerCount (armed : Bool) (n : UInt32) : LinkPhase → UInt32
  | track => if armed then n + 1 else n
  | untrack => countDown n
  | _ => n

/-- The count that it leaves the battery service. -/
def batteryCount (initialized : Bool) (n : UInt32) : LinkPhase → UInt32
  | batteryTrack _ => if initialized then n + 1 else n
  | batteryUntrack => countDown n
  | _ => n

/-- What it comes to. -/
def next (caller : LinkCaller) (armed initialized : Bool) : LinkPhase → LinkNext
  | track =>
    if armed then .goOn envSample
    else if caller = .shell then .refused (-EINVAL)
    else .goOn (batteryTrack (-EINVAL))
  | envSample => .goOn aqSample
  | aqSample => .goOn (batteryTrack 0)
  | batteryTrack ret =>
    if initialized then .goOn (batteryUpdate ret) else .connected ⟨ret, -ENODEV⟩
  | batteryUpdate ret => .connected ⟨ret, 0⟩
  | untrack => .goOn batteryUntrack
  | batteryUntrack => .disconnected

end LinkPhase

/-- What one piece does: it changes no service, and the counts as is said above. -/
structure LinkPieced (caller : LinkCaller) (phase : LinkPhase) (d d' : Device) (next : LinkNext) :
    Prop where
  adv : d'.adv = d.adv
  live : d'.live = d.live
  up : ∀ v, d'.isUp v = d.isUp v
  next_eq : next = phase.next caller d.sys.env.mgr.armed d.app.ble.initialized
  manager : d'.sys.env.mgr.connectedCount =
    phase.managerCount d.sys.env.mgr.armed d.sys.env.mgr.connectedCount
  battery : d'.app.connectedCount = phase.batteryCount d.app.ble.initialized d.app.connectedCount

/-- **One piece** of a callback or a command. -/
theorem linkPiece_spec {caller : LinkCaller} {i : Interleaving}
    (hi : ∀ e ∈ i.events, e.runtime = true) {readings : List HwReading} {phase : LinkPhase}
    {d d' : Device} {next : LinkNext}
    (h : linkPiece caller i readings phase d = some (d', next)) :
    LinkPieced caller phase d d' next := by
  have hinval : (-EINVAL : ℤ) ≠ 0 := by decide
  have hsample : ∀ sensors, Settled d.sys.ess.initialized d.sys.env.mgr.control
      ((interleavedOps linkedDrivers i).updateSelective sensors d.sys).2 :=
    fun sensors => settled_updateSelective hi sensors ⟨rfl, rfl⟩
  cases phase with
  | track =>
    cases harmed : d.sys.env.mgr.armed with
    | true =>
      have htrack := sensorManagerTrackConnected_of_armed linkedDrivers harmed
      simp only [linkPiece, htrack, if_true, Option.some.injEq, Prod.mk.injEq] at h
      obtain ⟨rfl, rfl⟩ := h
      refine ⟨rfl, rfl, fun v => by cases v <;> rfl, ?_, ?_, rfl⟩
      · rw [LinkPhase.next, if_pos harmed]
      · rw [LinkPhase.managerCount, if_pos harmed]
    | false =>
      have hdown : ¬ d.sys.env.mgr.armed = true := by simp [harmed]
      have htrack := sensorManagerTrackConnected_of_not_armed linkedDrivers harmed
      simp only [linkPiece, htrack, if_neg hinval, Option.some.injEq, Prod.mk.injEq] at h
      obtain ⟨rfl, rfl⟩ := h
      refine ⟨rfl, rfl, fun v => by cases v <;> rfl, ?_, ?_, rfl⟩
      · rw [LinkPhase.next, if_neg hdown]
      · rw [LinkPhase.managerCount, if_neg hdown]
  | envSample =>
    obtain ⟨rfl, rfl⟩ := Prod.mk.inj (Option.some.inj h)
    exact ⟨rfl, rfl, Device.isUp_of_control rfl (n := d.sys.env.mgr.connectedCount)
      (hsample .envBasic) rfl, rfl, (hsample .envBasic).connectedCount, rfl⟩
  | aqSample =>
    obtain ⟨rfl, rfl⟩ := Prod.mk.inj (Option.some.inj h)
    exact ⟨rfl, rfl, Device.isUp_of_control rfl (n := d.sys.env.mgr.connectedCount)
      (hsample .airQuality) rfl, rfl, (hsample .airQuality).connectedCount, rfl⟩
  | batteryTrack ret =>
    simp only [linkPiece] at h
    split_ifs at h with hdown
    · obtain ⟨rfl, rfl⟩ := Prod.mk.inj (Option.some.inj h)
      rw [Bool.not_eq_true'] at hdown
      refine ⟨rfl, rfl, fun v => by cases v <;> rfl, ?_, rfl, ?_⟩
      · simp [LinkPhase.next, hdown]
      · simp [LinkPhase.batteryCount, hdown]
    · obtain ⟨rfl, rfl⟩ := Prod.mk.inj (Option.some.inj h)
      rw [Bool.not_eq_true', Bool.not_eq_false] at hdown
      refine ⟨rfl, rfl, fun v => by cases v <;> rfl, ?_, rfl, ?_⟩
      · simp [LinkPhase.next, hdown]
      · simp [LinkPhase.batteryCount, hdown]
  | batteryUpdate ret =>
    obtain ⟨⟨updateRet, app, calls⟩, hupdate, hd'⟩ := Option.map_eq_some_iff.mp h
    obtain ⟨rfl, rfl⟩ := Prod.mk.inj hd'
    obtain ⟨hinit, hcount⟩ :=
      ((batterySettled_keeps d.app.ble.initialized d.app.connectedCount).update
        (fun _ _ => trivial) ⟨rfl, rfl⟩ hupdate).1
    exact ⟨rfl, rfl, Device.isUp_of_control rfl (n := d.sys.env.mgr.connectedCount) ⟨rfl, rfl⟩
      hinit, rfl, rfl, hcount⟩
  | untrack =>
    obtain ⟨rfl, rfl⟩ := Prod.mk.inj (Option.some.inj h)
    have hsys : Settled d.sys.ess.initialized _ { d.sys with
        env := sensorManagerOnDisconnected linkedDrivers d.sys.env } :=
      ⟨rfl, control_onDisconnected linkedDrivers d.sys.env⟩
    exact ⟨rfl, rfl, Device.isUp_of_control rfl hsys rfl, rfl, hsys.connectedCount, rfl⟩
  | batteryUntrack =>
    obtain ⟨rfl, rfl⟩ := Prod.mk.inj (Option.some.inj h)
    have happ : (bleBatteryServiceOnDisconnected d.app).ble.initialized =
        d.app.ble.initialized ∧ (bleBatteryServiceOnDisconnected d.app).connectedCount =
          countDown d.app.connectedCount := by
      rw [bleBatteryServiceOnDisconnected, countDown]
      split_ifs with hzero
      · exact ⟨rfl, hzero⟩
      · exact ⟨rfl, rfl⟩
    exact ⟨rfl, rfl, Device.isUp_of_control rfl (n := d.sys.env.mgr.connectedCount) ⟨rfl, rfl⟩
      happ.1, rfl, rfl, happ.2⟩

/-- The service is up. -/
def Firmware.isUp (f : Firmware) : BootService → Bool
  | .uptime => f.uptime.initialized
  | v => f.dev.isUp v

theorem Firmware.isUp_of_dev {f f' : Firmware} (huptime : f'.uptime = f.uptime)
    (hdev : ∀ v, f'.dev.isUp v = f.dev.isUp v) (v : BootService) : f'.isUp v = f.isUp v := by
  cases v with
  | callbacks => exact hdev .callbacks
  | manager => exact hdev .manager
  | battery => exact hdev .battery
  | ess => exact hdev .ess
  | essCallback => exact hdev .essCallback
  | armed => exact hdev .armed
  | uptime => exact congrArg UptimeService.initialized huptime

/-! ### The advertiser -/

@[simp]
theorem connCallbacks_btReadyCb (err : ℤ) (s : Advertiser) :
    (btReadyCb err s).connCallbacks = s.connCallbacks := by
  rw [btReadyCb, semGive]
  split_ifs <;> rfl

@[simp]
theorem connCallbacks_stopExisting (stopRet : ℤ) (s : Advertiser) :
    (stopExisting stopRet s).2.connCallbacks = s.connCallbacks := by
  rw [stopExisting, btLeAdvStop]
  dsimp only
  split_ifs <;> rfl

@[simp]
theorem connCallbacks_bleConnected (err stopRet : ℤ) (s : Advertiser) :
    (bleConnected err stopRet s).connCallbacks = s.connCallbacks := by
  rw [bleConnected, btLeAdvStop]
  dsimp only
  split_ifs <;> rfl

@[simp]
theorem connCallbacks_bleRecycled (startRet : ℤ) (s : Advertiser) :
    (bleRecycled startRet s).connCallbacks = s.connCallbacks := by
  rw [bleRecycled, btLeAdvStart]
  dsimp only
  split_ifs <;> rfl

@[simp]
theorem connCallbacks_bleAdvertiserStart (stopRet : ℤ) (startRet : ℕ → ℤ) (s : Advertiser) :
    (bleAdvertiserStart true stopRet startRet s).2.connCallbacks = s.connCallbacks := by
  rw [bleAdvertiserStart_eq, if_neg (by decide)]
  split_ifs
  · rfl
  · rcases advStartRetries_cases startRet BLE_ADV_RETRY_MAX 0 0
      (stopExisting stopRet { s with btReadySem := s.btReadySem - 1 }).2 with hsame | hstarted
    · rw [hsame, connCallbacks_stopExisting]
    · rw [hstarted]
      exact connCallbacks_stopExisting ..

/-- A start that finds the semaphore taken is refused, and asks nothing of the controller. -/
theorem bleAdvertiserStart_of_taken {s : Advertiser} (h : s.btReadySem = 0) (stopRet : ℤ)
    (startRet : ℕ → ℤ) : bleAdvertiserStart true stopRet startRet s = (-EAGAIN, s) := by
  rw [bleAdvertiserStart_eq, if_neg (by decide), if_pos h]

/-! ### The invariant -/

/-- How many calls of `main` that can fail for good, or initialise something, are behind it. -/
def MainPc.stage : MainPc → ℕ
  | namingInit => 0
  | advertiserInit => 1
  | settingsInit => 2
  | managerInit => 3
  | batteryInit => 4
  | essInit => 5
  | arm => 6
  | uptimeInit => 7
  | getData | seedBattery _ | seedEss _ | advertiserStart => 8
  | returned _ => 0

/-- The call after which the service is up. -/
def BootService.stage : BootService → ℕ
  | callbacks => 2
  | manager => 4
  | battery => 5
  | ess => 6
  | essCallback | armed => 7
  | uptime => 8

theorem BootService.stage_pos (v : BootService) : 0 < v.stage := by
  cases v <;> decide

theorem BootService.stage_le (v : BootService) : v.stage ≤ 8 := by
  cases v <;> decide

/-- Past the sensor manager, which is armed and has returned `0`. -/
def LinkPhase.Accepted (armed : Bool) : LinkPhase → Prop
  | envSample | aqSample => armed = true
  | batteryTrack ret | batteryUpdate ret => armed = true ∧ ret = 0
  | track | untrack | batteryUntrack => True

/-- What holds from power-on: the services come up in the order of `main`, the sensor manager
is armed only with a battery service, nothing gets past it before, and nobody hears of the device
before they are all up. -/
structure Firmware.Safe (f : Firmware) : Prop where
  up : ∀ v : BootService, v.stage ≤ f.pc.stage → f.isUp v = true
  armed : f.isUp .armed = true → f.isUp .battery = true
  accepted : ∀ caller phase, f.link caller = some phase → phase.Accepted (f.isUp .armed)
  called : f.advCalled = true → ∀ v, f.isUp v = true
  returned : f.pc = .returned 0 → f.advCalled = true
  silent : f.advCalled = false →
    f.dev.adv.advertising = false ∧ f.dev.adv.advertisingEnabled = false ∧ f.dev.live = ∅ ∧
      f.link .host = none

namespace LinkPhase

variable {armed initialized : Bool} {caller : LinkCaller} {phase phase' : LinkPhase}

/-- The sensor manager is not disarmed. -/
theorem Accepted.mono {armed' : Bool} (h : phase.Accepted armed)
    (harmed : armed = true → armed' = true) : phase.Accepted armed' := by
  cases phase with
  | envSample => exact harmed h
  | aqSample => exact harmed h
  | batteryTrack ret => exact ⟨harmed h.1, h.2⟩
  | batteryUpdate ret => exact ⟨harmed h.1, h.2⟩
  | _ => trivial

/-- **One piece** goes on past the sensor manager only if that is armed. -/
theorem Accepted.next (h : phase.Accepted armed) (hhost : caller = .host → armed = true)
    (hnext : (phase.next caller armed initialized).phase = some phase') :
    phase'.Accepted armed := by
  cases phase with
  | track =>
    rw [LinkPhase.next] at hnext
    split_ifs at hnext with harmed hshell
    · obtain rfl := Option.some.inj hnext
      exact harmed
    · cases hnext
    · have hcaller : caller = .host := by
        cases caller with
        | host => rfl
        | shell => exact absurd rfl hshell
      exact absurd (hhost hcaller) harmed
  | envSample =>
    obtain rfl := Option.some.inj hnext
    exact h
  | aqSample =>
    obtain rfl := Option.some.inj hnext
    exact ⟨h, rfl⟩
  | batteryTrack ret =>
    rw [LinkPhase.next] at hnext
    split_ifs at hnext
    · obtain rfl := Option.some.inj hnext
      exact h
    · cases hnext
  | batteryUpdate ret => cases hnext
  | untrack =>
    obtain rfl := Option.some.inj hnext
    trivial
  | batteryUntrack => cases hnext

/-- Both calls have returned `0` when the connection has been passed on. -/
theorem Accepted.rets (h : phase.Accepted armed) (hinit : armed = true → initialized = true)
    {rets : ConnectRets} (hnext : phase.next caller armed initialized = .connected rets) :
    rets = ⟨0, 0⟩ := by
  cases phase with
  | track =>
    rw [LinkPhase.next] at hnext
    split_ifs at hnext
  | batteryTrack ret =>
    rw [LinkPhase.next, if_pos (hinit h.1)] at hnext
    cases hnext
  | batteryUpdate ret =>
    obtain rfl : ret = 0 := h.2
    exact (LinkNext.connected.inj hnext).symm
  | _ => cases hnext

end LinkPhase

/-- The initialisation succeeds with the flag up, or changes no flag. -/
theorem control_sensorManagerInit (D : Drivers ρ) (x : ManagerRun ρ) :
    let r := sensorManagerInit D x
    (r.1 = 0 ∧ r.2.2.mgr.control = ({ x.mgr with initialized := true } : ManagerState).control) ∨
      (r.1 ≠ 0 ∧ r.2.2.mgr.control = x.mgr.control) := by
  have hnodev : (-ENODEV : ℤ) ≠ 0 := by decide
  rcases hcall : x.call D.i2cReady with ⟨i2cReady, x'⟩
  have hx' : x'.mgr = x.mgr := by
    rw [← (Prod.mk.inj hcall).2]
  simp only [sensorManagerInit, hcall]
  split_ifs with hinit
  · exact Or.inl ⟨rfl, by rw [ManagerState.control, ManagerState.control, hinit]⟩
  · exact Or.inr ⟨hnodev, by rw [hx']⟩
  · refine Or.inl ⟨rfl, ?_⟩
    exact (control_sampleKeeps D _).update (by rw [hx'])

/-- The service of the environment is initialised, and registers its callback or not. -/
theorem settled_essServiceInit (D : Drivers ρ) (u : EssRun (ManagerRun ρ)) :
    ∃ updateCallback, (u.env.mgr.updateCallback = true → updateCallback = true) ∧
      Settled true ({ u.env.mgr with updateCallback := updateCallback } : ManagerState).control
        (essServiceInit D u) := by
  simp only [essServiceInit, sensorManagerRegisterCallback]
  split_ifs
  · exact ⟨u.env.mgr.updateCallback, id, rfl, rfl⟩
  · exact ⟨true, fun _ => rfl, rfl, rfl⟩

namespace Firmware

variable {f f' : Firmware}

/-- A step that takes no service down keeps the order, if it brings up the one that it is to
bring up before it goes on. -/
private theorem Safe.advance (h : f.Safe) (ret : ℤ) (next : MainPc)
    (hpc : f'.pc = .unless ret next) (hnext : next.stage ≤ f.pc.stage + 1)
    (hpos : 0 < next.stage) (hmono : ∀ v, f.isUp v = true → f'.isUp v = true)
    (hnew : ret = 0 → ∀ v : BootService, v.stage = f.pc.stage + 1 → f'.isUp v = true)
    (harmed : f'.isUp .armed = true → f.isUp .armed = true ∨ f.isUp .battery = true)
    (hlink : f'.link = f.link) (hcalled : f'.advCalled = f.advCalled)
    (hadvertising : f'.dev.adv.advertising = f.dev.adv.advertising)
    (henabled : f'.dev.adv.advertisingEnabled = f.dev.adv.advertisingEnabled)
    (hlive : f'.dev.live = f.dev.live) : f'.Safe where
  up v hv := by
    by_cases hret : ret = 0
    · rw [hpc, MainPc.unless, if_neg (not_not.mpr hret)] at hv
      rcases Nat.lt_or_ge f.pc.stage v.stage with hlt | hge
      · exact hnew hret v (by omega)
      · exact hmono v (h.up v hge)
    · -- nothing is to be up once `main` has given up
      rw [hpc, MainPc.unless, if_pos hret] at hv
      exact absurd v.stage_pos (Nat.not_lt.mpr hv)
  armed hup := hmono .battery ((harmed hup).elim h.armed id)
  accepted caller phase hphase := (h.accepted caller phase (hlink ▸ hphase)).mono (hmono .armed)
  called hup v := hmono v (h.called (hcalled ▸ hup) v)
  returned heq := by
    rw [hpc, MainPc.unless] at heq
    split_ifs at heq with hret
    · exact absurd (MainPc.returned.inj heq) hret
    · rw [heq] at hpos
      exact absurd hpos (lt_irrefl 0)
  silent hnot := by
    obtain ⟨hoff, hdown, hnone, hidle⟩ := h.silent (hcalled ▸ hnot)
    exact ⟨hadvertising.trans hoff, henabled.trans hdown, hlive.trans hnone, hlink ▸ hidle⟩

/-- A step that only raises flags of the sensor manager and the service takes none down. -/
private theorem isUp_of_raised {mgr : ManagerState} {ess : Bool}
    (hsys : Settled ess mgr.control f'.dev.sys)
    (hess : f.dev.sys.ess.initialized = true → ess = true)
    (hcallback : f.dev.sys.env.mgr.updateCallback = true → mgr.updateCallback = true)
    (hmanager : f.dev.sys.env.mgr.initialized = true → mgr.initialized = true)
    (harmed : f.dev.sys.env.mgr.armed = true → mgr.armed = true)
    (hadv : f'.dev.adv = f.dev.adv) (happ : f'.dev.app = f.dev.app)
    (huptime : f'.uptime = f.uptime) (v : BootService) (hv : f.isUp v = true) :
    f'.isUp v = true := by
  cases v with
  | callbacks => exact (congrArg Advertiser.connCallbacks hadv).trans hv
  | manager => exact hsys.manager.trans (hmanager hv)
  | battery => exact (congrArg (fun app => app.ble.initialized) happ).trans hv
  | ess => exact hsys.1.trans (hess hv)
  | essCallback => exact hsys.updateCallback.trans (hcallback hv)
  | armed => exact hsys.armed.trans (harmed hv)
  | uptime => exact (congrArg UptimeService.initialized huptime).trans hv

/-- Nothing comes up after the uptime service. -/
private theorem isUp_of_late (hlate : f.pc.stage = 8) (v : BootService)
    (hv : v.stage = f.pc.stage + 1) : f'.isUp v = true := by
  have hle := v.stage_le
  omega

/-- **One step of `main`.** -/
theorem Safe.main (h : f.Safe) {a : MainAnswers} (hstep : mainStep a f = some f') : f'.Safe := by
  cases hpc : f.pc with
  | namingInit =>
    simp only [mainStep, hpc, Option.some.injEq] at hstep
    subst hstep
    refine h.advance 0 .advertiserInit rfl (by rw [hpc]; decide) (by decide) (fun v hv => hv)
      (fun _ v hv => ?_) Or.inl rfl rfl rfl rfl rfl
    rw [hpc] at hv
    cases v <;> exact absurd hv (by decide)
  | advertiserInit =>
    simp only [mainStep, hpc, bleAdvertiserInit, Option.some.injEq] at hstep
    by_cases henable : a.enableRet = 0
    · simp only [henable, ne_eq, not_true, if_false] at hstep
      subst hstep
      refine h.advance 0 .settingsInit rfl (by rw [hpc]; decide) (by decide) (fun v hv => ?_)
        (fun _ v hv => ?_) Or.inl rfl rfl rfl rfl rfl
      · cases v <;> first | rfl | exact hv
      · rw [hpc] at hv
        cases v <;> first | rfl | exact absurd hv (by decide)
    · simp only [henable, ne_eq, not_false_eq_true, if_true] at hstep
      subst hstep
      exact h.advance a.enableRet .settingsInit rfl (by rw [hpc]; decide) (by decide)
        (fun v hv => hv) (fun hret => absurd hret henable) Or.inl rfl rfl rfl rfl rfl
  | settingsInit =>
    simp only [mainStep, hpc, Option.some.injEq] at hstep
    subst hstep
    refine h.advance a.settingsRet .managerInit rfl (by rw [hpc]; decide) (by decide)
      (fun v hv => hv) (fun _ v hv => ?_) Or.inl rfl rfl rfl rfl rfl
    rw [hpc] at hv
    cases v <;> exact absurd hv (by decide)
  | managerInit =>
    simp only [mainStep, hpc, Option.some.injEq] at hstep
    subst hstep
    rcases control_sensorManagerInit linkedDrivers (f.dev.begin a.turns).sys.env with
      ⟨hret, hcontrol⟩ | ⟨hret, hcontrol⟩
    · have hsys : Settled _ _ (managerCall linkedDrivers .init (f.dev.begin a.turns).sys) :=
        settled_callback _ ⟨rfl, hcontrol⟩
      refine h.advance _ .batteryInit rfl (by rw [hpc]; decide) (by decide)
        (isUp_of_raised hsys id id (fun _ => rfl) id rfl rfl rfl) (fun _ v hv => ?_)
        (fun hup => Or.inl (hsys.armed.symm.trans hup)) rfl rfl rfl rfl rfl
      rw [hpc] at hv
      cases v <;> first | exact hsys.manager | exact absurd hv (by decide)
    · have hsys : Settled _ _ (managerCall linkedDrivers .init (f.dev.begin a.turns).sys) :=
        settled_callback _ ⟨rfl, hcontrol⟩
      exact h.advance _ .batteryInit rfl (by rw [hpc]; decide) (by decide)
        (isUp_of_raised hsys id id id id rfl rfl rfl) (fun hzero => absurd hzero hret)
        (fun hup => Or.inl (hsys.armed.symm.trans hup)) rfl rfl rfl rfl rfl
  | batteryInit =>
    simp only [mainStep, hpc, Option.some.injEq] at hstep
    subst hstep
    refine h.advance 0 .essInit rfl (by rw [hpc]; decide) (by decide) (fun v hv => ?_)
      (fun _ v hv => ?_) Or.inl rfl rfl rfl rfl rfl
    · cases v <;> first | rfl | exact hv
    · rw [hpc] at hv
      cases v <;> first | rfl | exact absurd hv (by decide)
  | essInit =>
    simp only [mainStep, hpc, Option.some.injEq] at hstep
    subst hstep
    obtain ⟨updateCallback, hcallback, hsys⟩ :=
      settled_essServiceInit linkedDrivers (f.dev.begin a.turns).sys
    refine h.advance 0 .arm rfl (by rw [hpc]; decide) (by decide)
      (isUp_of_raised hsys (fun _ => rfl) hcallback id id rfl rfl rfl) (fun _ v hv => ?_)
      (fun hup => Or.inl (hsys.armed.symm.trans hup)) rfl rfl rfl rfl rfl
    rw [hpc] at hv
    cases v <;> first | exact hsys.1 | exact absurd hv (by decide)
  | arm =>
    have hbattery : f.isUp .battery = true := h.up .battery (by rw [hpc]; decide)
    have hinval : (-EINVAL : ℤ) ≠ 0 := by decide
    simp only [mainStep, hpc, sensorManagerArm, Option.some.injEq] at hstep
    split_ifs at hstep with hmanager hcallback
    · subst hstep
      exact h.advance (-EINVAL) .uptimeInit rfl (by rw [hpc]; decide) (by decide)
        (fun v hv => hv) (fun hzero => absurd hzero hinval) Or.inl rfl rfl rfl rfl rfl
    · subst hstep
      exact h.advance (-EINVAL) .uptimeInit rfl (by rw [hpc]; decide) (by decide)
        (fun v hv => hv) (fun hzero => absurd hzero hinval) Or.inl rfl rfl rfl rfl rfl
    · -- armed, with the battery service behind it
      subst hstep
      rw [Bool.not_eq_true', Bool.not_eq_false] at hcallback
      have hsys : Settled f.dev.sys.ess.initialized
          ({ f.dev.sys.env.mgr with armed := true } : ManagerState).control
          { f.dev.sys with env :=
            { f.dev.sys.env with mgr := { f.dev.sys.env.mgr with armed := true } } } :=
        ⟨rfl, rfl⟩
      refine h.advance 0 .uptimeInit rfl (by rw [hpc]; decide) (by decide)
        (isUp_of_raised hsys id id id (fun _ => rfl) rfl rfl rfl) (fun _ v hv => ?_)
        (fun _ => Or.inr hbattery) rfl rfl rfl rfl rfl
      rw [hpc] at hv
      cases v <;> first | exact hcallback | rfl | exact absurd hv (by decide)
  | uptimeInit =>
    simp only [mainStep, hpc, Option.some.injEq] at hstep
    subst hstep
    have huptime := uptimeServiceInit_initialized a.uptime f.uptime
    refine h.advance _ .getData rfl (by rw [hpc]; decide) (by decide) (fun v hv => ?_)
      (fun _ v hv => ?_) Or.inl rfl rfl rfl rfl rfl
    · cases v <;> first | exact huptime | exact hv
    · rw [hpc] at hv
      cases v <;> first | exact huptime | exact absurd hv (by decide)
  | getData =>
    have hlate : f.pc.stage = 8 := by rw [hpc]; rfl
    simp only [mainStep, hpc, Option.some.injEq] at hstep
    subst hstep
    have hcontrol := control_managerStep linkedDrivers (e := .getData) rfl
      (f.dev.begin a.turns).sys.env
    have hsys : Settled f.dev.sys.ess.initialized f.dev.sys.env.mgr.control
        { (f.dev.begin a.turns).sys with
          env := (sensorManagerGetData linkedDrivers (f.dev.begin a.turns).sys.env).2.2 } :=
      ⟨rfl, hcontrol⟩
    exact h.advance 0 (.seedBattery _) rfl (by simp [hpc, MainPc.stage]) (by simp [MainPc.stage])
      (isUp_of_raised hsys id id id id rfl rfl rfl) (fun _ => isUp_of_late hlate)
      (fun hup => Or.inl (hsys.armed.symm.trans hup)) rfl rfl rfl rfl rfl
  | seedBattery data =>
    have hlate : f.pc.stage = 8 := by rw [hpc]; rfl
    simp only [mainStep, hpc, Option.some.injEq] at hstep
    subst hstep
    have hmanual : (bleBatteryServiceUpdateManual a.setLevelRet data.batteryLevel
        data.batteryCharging f.dev.app).2.1.ble.initialized = f.dev.app.ble.initialized :=
      ((batterySettled_keeps _ _).manual _ _ trivial ⟨rfl, rfl⟩).1.1
    refine h.advance 0 (.seedEss data) rfl (by simp [hpc, MainPc.stage]) (by simp [MainPc.stage])
      (fun v hv => ?_) (fun _ => isUp_of_late hlate) Or.inl rfl rfl rfl rfl rfl
    cases v with
    | battery =>
      dsimp only [isUp, Device.isUp]
      split_ifs
      · exact hmanual.trans hv
      · exact hv
    | _ => exact hv
  | seedEss data =>
    have hlate : f.pc.stage = 8 := by rw [hpc]; rfl
    simp only [mainStep, hpc, Option.some.injEq] at hstep
    subst hstep
    have hsys : Settled f.dev.sys.ess.initialized f.dev.sys.env.mgr.control
        (essServiceUpdate (sensorManagerIsCcs811Ready linkedDrivers) (some data)
          (f.dev.begin a.turns).sys).state :=
      (settled_updateKeeps _ (fun _ => rfl) data).essServiceUpdate ⟨rfl, rfl⟩
    exact h.advance 0 .advertiserStart rfl (by simp [hpc, MainPc.stage]) (by decide)
      (isUp_of_raised hsys id id id id rfl rfl rfl) (fun _ => isUp_of_late hlate)
      (fun hup => Or.inl (hsys.armed.symm.trans hup)) rfl rfl rfl rfl rfl
  | advertiserStart =>
    simp only [mainStep, hpc, Option.some.injEq] at hstep
    subst hstep
    have hup : ∀ v, f.isUp v = true := fun v => h.up v (by rw [hpc]; exact v.stage_le)
    have hagain : (-EAGAIN : ℤ) ≠ 0 := by decide
    refine ⟨fun v hv => ?_, h.armed, h.accepted, fun _ v => ?_, fun hret => ?_, fun hnot => ?_⟩
    · exact absurd v.stage_pos (Nat.not_lt.mpr hv)
    · cases v with
      | callbacks => exact (connCallbacks_bleAdvertiserStart ..).trans (hup .callbacks)
      | manager => exact hup .manager
      | battery => exact hup .battery
      | ess => exact hup .ess
      | essCallback => exact hup .essCallback
      | armed => exact hup .armed
      | uptime => exact hup .uptime
    · by_cases hsem : f.dev.adv.btReadySem = 0
      · rw [bleAdvertiserStart_of_taken hsem] at hret
        exact absurd (MainPc.returned.inj hret) hagain
      · simp [hsem]
    · obtain ⟨hcalled, hsem⟩ := Bool.or_eq_false_iff.mp hnot
      have hsem : f.dev.adv.btReadySem = 0 := by simpa using hsem
      rw [bleAdvertiserStart_of_taken hsem]
      exact h.silent hcalled
  | returned ret =>
    rw [mainStep, hpc] at hstep
    exact absurd hstep (by simp)

/-- A step beside `main` that changes no service and starts nothing. -/
private theorem Safe.beside (h : f.Safe) (hpc : f'.pc = f.pc) (hcalled : f'.advCalled = f.advCalled)
    (hup : ∀ v, f'.isUp v = f.isUp v)
    (haccepted : ∀ caller phase, f'.link caller = some phase →
      f.link caller = some phase ∨ phase.Accepted (f.isUp .armed))
    (hsilent : f.advCalled = false → f'.dev.adv.advertising = f.dev.adv.advertising ∧
      f'.dev.adv.advertisingEnabled = f.dev.adv.advertisingEnabled ∧
        f'.dev.live = f.dev.live ∧ f'.link .host = f.link .host) : f'.Safe where
  up v hv := (hup v).trans (h.up v (hpc ▸ hv))
  armed harmed := (hup .battery).trans (h.armed ((hup .armed).symm.trans harmed))
  accepted caller phase hphase := by
    rw [hup .armed]
    exact (haccepted caller phase hphase).elim (h.accepted caller phase) id
  called hyes v := (hup v).trans (h.called (hcalled ▸ hyes) v)
  returned hret := hcalled.trans (h.returned (hpc ▸ hret))
  silent hnot := by
    have hnot : f.advCalled = false := hcalled ▸ hnot
    obtain ⟨hadvertising, henabled, hlive, hlink⟩ := hsilent hnot
    obtain ⟨hoff, hdown, hnone, hidle⟩ := h.silent hnot
    exact ⟨hadvertising.trans hoff, henabled.trans hdown, hlive.trans hnone, hlink.trans hidle⟩

/-- Entering a callback or a command. -/
private theorem Safe.enter (h : f.Safe) {caller : LinkCaller} {phase : LinkPhase}
    (hphase : ∀ armed, phase.Accepted armed)
    (hcaller : f.advCalled = true ∨ caller = .shell) : (f.enter caller phase).Safe := by
  refine h.beside rfl rfl (isUp_of_dev rfl fun _ => rfl) (fun caller' phase' hphase' => ?_)
    fun hnot => ⟨rfl, rfl, rfl, ?_⟩
  · by_cases hsame : caller' = caller
    · subst hsame
      rw [link_enter, Function.update_self] at hphase'
      obtain rfl := Option.some.inj hphase'
      exact Or.inr (hphase _)
    · rw [link_enter, Function.update_of_ne hsame] at hphase'
      exact Or.inl hphase'
  · rcases hcaller with hcalled | rfl
    · exact absurd (hcalled.symm.trans hnot) (by decide)
    · exact host_enter_shell phase f

/-- A callback that is under way is that of a device that has been heard of. -/
theorem Safe.host_called (h : f.Safe) {phase : LinkPhase} (hphase : f.link .host = some phase) :
    f.advCalled = true := by
  by_contra hnot
  obtain ⟨-, -, -, hidle⟩ := h.silent (Bool.not_eq_true _ ▸ hnot)
  exact absurd (hidle.symm.trans hphase) (by simp)

/-- **One event.** -/
theorem Safe.step (h : f.Safe) {e : FirmwareEvent} {os : List ConnectRets}
    (hstep : firmwareStep e f = some (f', os)) : f'.Safe ∧ ∀ o ∈ os, o = ⟨0, 0⟩ := by
  have hnone : ∀ o ∈ ([] : List ConnectRets), o = ⟨0, 0⟩ := fun _ ho => absurd ho List.not_mem_nil
  cases firmwareStep_cases hstep with
  | main hmain => exact ⟨h.main hmain, hnone⟩
  | btReady =>
    refine ⟨h.beside rfl rfl (isUp_of_dev rfl fun v => ?_) (fun _ _ => Or.inl) fun _ => ?_, hnone⟩
    · cases v <;> first | exact connCallbacks_btReadyCb .. | rfl
    · rw [btReadyCb, semGive]
      dsimp only
      split_ifs <;> exact ⟨rfl, rfl, rfl, rfl⟩
  | failed _ => exact ⟨h, hnone⟩
  | @connected conn stopRet hcalled _ _ _ =>
    have hstopped : Safe { f with dev := { f.dev with
        adv := bleConnected 0 stopRet (connectionEstablished f.dev.adv)
        live := insert conn f.dev.live } } := by
      refine h.beside rfl rfl (isUp_of_dev rfl fun v => ?_) (fun _ _ => Or.inl) fun hnot => ?_
      · cases v <;> first | exact connCallbacks_bleConnected .. | rfl
      · exact absurd (hcalled.symm.trans hnot) (by decide)
    exact ⟨hstopped.enter (fun _ => trivial) (Or.inl hcalled), hnone⟩
  | @disconnected conn hlive _ =>
    have hcalled : f.advCalled = true := by
      by_contra hnot
      rw [(h.silent (Bool.not_eq_true _ ▸ hnot)).2.2.1] at hlive
      exact absurd hlive (Finset.notMem_empty conn)
    have hended : Safe { f with dev := { f.dev with live := f.dev.live.erase conn } } :=
      h.beside rfl rfl (isUp_of_dev rfl fun v => Device.isUp_live f.dev _ v) (fun _ _ => Or.inl)
        fun hnot => absurd (hcalled.symm.trans hnot) (by decide)
    exact ⟨hended.enter (fun _ => trivial) (Or.inl hcalled), hnone⟩
  | recycled hcalled =>
    refine ⟨h.beside rfl rfl (isUp_of_dev rfl fun v => ?_) (fun _ _ => Or.inl) fun hnot => ?_,
      hnone⟩
    · cases v <;> first | exact connCallbacks_bleRecycled .. | rfl
    · exact absurd (hcalled.symm.trans hnot) (by decide)
  | gattConnect _ => exact ⟨h.enter (fun _ => trivial) (Or.inr rfl), hnone⟩
  | gattDisconnect _ => exact ⟨h.enter (fun _ => trivial) (Or.inr rfl), hnone⟩
  | @resume caller _ _ _ hruntime phase d next hphase hpiece =>
    have hspec := linkPiece_spec hruntime hpiece
    have haccepted := h.accepted caller phase hphase
    have hhost : caller = .host → f.isUp .armed = true := by
      rintro rfl
      exact h.called (h.host_called hphase) .armed
    refine ⟨h.beside rfl rfl (isUp_of_dev rfl hspec.up) (fun caller' phase' hphase' => ?_)
      fun hnot => ⟨by rw [hspec.adv]; rfl, by rw [hspec.adv]; rfl, hspec.live, ?_⟩, ?_⟩
    · change Function.update f.link caller next.phase caller' = some phase' at hphase'
      by_cases hsame : caller' = caller
      · subst hsame
        rw [Function.update_self, hspec.next_eq] at hphase'
        exact Or.inr (haccepted.next hhost hphase')
      · rw [Function.update_of_ne hsame] at hphase'
        exact Or.inl hphase'
    · -- the shell may simulate a connection before the device is heard of
      cases caller with
      | host => exact absurd (hnot.symm.trans (h.host_called hphase)) (by decide)
      | shell => exact update_shell_host f.link next.phase
    · intro o ho
      cases next with
      | connected rets =>
        rw [LinkNext.rets] at ho
        split_ifs at ho
        · obtain rfl := List.mem_singleton.mp ho
          exact haccepted.rets h.armed hspec.next_eq.symm
        · exact absurd ho List.not_mem_nil
      | _ => exact absurd ho List.not_mem_nil
  | background hb hd =>
    have hsame := Device.same_backgroundStep hb hd
    exact ⟨h.beside rfl rfl (isUp_of_dev rfl hsame.isUp) (fun _ _ => Or.inl) fun _ =>
      ⟨by rw [hsame.adv]; rfl, by rw [hsame.adv]; rfl, hsame.live, rfl⟩, hnone⟩

end Firmware

/-! ### A failed boot -/

namespace Firmware

variable {f f' : Firmware}

/-- `main` has returned, and `bt_le_adv_start` has not been called. -/
def Dead (ret : ℤ) (f : Firmware) : Prop :=
  f.pc = .returned ret ∧ f.advCalled = false ∧ f.link .host = none

/-- **One event** does not revive the device: no connection is called back. -/
theorem Dead.step {ret : ℤ} (h : f.Dead ret) {e : FirmwareEvent} {os : List ConnectRets}
    (hlive : f.dev.live = ∅) (hstep : firmwareStep e f = some (f', os)) :
    f'.Dead ret ∧ os = [] := by
  obtain ⟨hpc, hcalled, hidle⟩ := h
  cases firmwareStep_cases hstep with
  | main hmain =>
    rw [mainStep, hpc] at hmain
    exact absurd hmain (by simp)
  | connected hyes _ _ _ => exact absurd (hyes.symm.trans hcalled) (by decide)
  | @disconnected conn hconn _ =>
    rw [hlive] at hconn
    exact absurd hconn (Finset.notMem_empty conn)
  | recycled hyes => exact absurd (hyes.symm.trans hcalled) (by decide)
  | gattConnect _ => exact ⟨⟨hpc, hcalled, (host_enter_shell _ f).trans hidle⟩, rfl⟩
  | gattDisconnect _ => exact ⟨⟨hpc, hcalled, (host_enter_shell _ f).trans hidle⟩, rfl⟩
  | @resume caller _ _ _ _ _ _ next hphase _ =>
    cases caller with
    | host => exact absurd (hidle.symm.trans hphase) (by simp)
    | shell =>
      refine ⟨⟨hpc, hcalled, (update_shell_host f.link next.phase).trans hidle⟩, ?_⟩
      cases next <;> rfl
  | _ => exact ⟨⟨hpc, hcalled, hidle⟩, rfl⟩

end Firmware

/-! ### Every run from power-on -/

theorem firmwareStart_safe (now : ℤ) (bat : BatteryData) : (firmwareStart now bat).Safe where
  up v hv := absurd v.stage_pos (Nat.not_lt.mpr hv)
  armed h := absurd h Bool.false_ne_true
  accepted _ _ h := absurd h (by simp [firmwareStart])
  called h := absurd h Bool.false_ne_true
  returned h := absurd h (by simp [firmwareStart])
  silent _ := ⟨rfl, rfl, rfl, rfl⟩

theorem firmware_preserves_safe : firmwareMachine.Preserves Machine.anyEvent Firmware.Safe :=
  fun _ h hstep => (h.step hstep).1

/-- **Nobody connects too early.** In every run from power-on, whatever runs between the calls of
`main`: while the controller advertises, while the advertiser believes so, while a client is
connected, and once `main` has returned `0`, every service is up; and both calls that the callback
of a connection makes return `0`. -/
theorem boot_safe {now : ℤ} {bat : BatteryData} {es : List FirmwareEvent} {f : Firmware}
    {os : List ConnectRets} (hrun : firmwareMachine.run es (firmwareStart now bat) = some (f, os)) :
    (f.dev.adv.advertising = true ∨ f.dev.adv.advertisingEnabled = true ∨ f.dev.live.Nonempty ∨
        f.pc = .returned 0 → ∀ v, f.isUp v = true) ∧
      ∀ o ∈ os, o = ⟨0, 0⟩ := by
  have hsafe := firmware_preserves_safe.run (fun _ _ => trivial) (firmwareStart_safe now bat) hrun
  have hemits : firmwareMachine.Emits Machine.anyEvent Firmware.Safe (· = ⟨0, 0⟩) :=
    fun _ h hstep => (h.step hstep).2
  refine ⟨fun hheard => hsafe.called ?_, firmware_preserves_safe.run_emits hemits
    (fun _ _ => trivial) (firmwareStart_safe now bat) hrun⟩
  by_contra hnot
  obtain ⟨hoff, hdown, hnone, -⟩ := hsafe.silent (Bool.not_eq_true _ ▸ hnot)
  rcases hheard with hon | hup | hsome | hret
  · exact absurd (hon.symm.trans hoff) (by decide)
  · exact absurd (hup.symm.trans hdown) (by decide)
  · exact hsome.ne_empty hnone
  · exact hnot (hsafe.returned hret)

/-- The pieces of the callback of a connection, or of the command that simulates one. -/
def connectPieces (caller : LinkCaller) : List FirmwareEvent :=
  List.replicate 5 (.resume caller [] {} [⟨⟨0, 0, 3600⟩, 1, 0⟩])

/-- Those of the callback of its end, or of the command. -/
def disconnectPieces (caller : LinkCaller) : List FirmwareEvent :=
  List.replicate 2 (.resume caller [] {} [])

/-- Boot with the stack ready early. -/
def bootEarly : List FirmwareEvent :=
  List.replicate 2 (.main {}) ++ [.btReady 0] ++ List.replicate 10 (.main {})

/-- Boot, two clients, and the first of them leaves. -/
def bootWithClients : List FirmwareEvent :=
  bootEarly ++ .connected 1 0 0 :: connectPieces .host ++ .recycled 0 ::
    .connected 2 0 0 :: connectPieces .host ++ .disconnected 1 :: disconnectPieces .host

theorem bootWithClients_run :
    ∃ r ∈ firmwareMachine.run bootWithClients (firmwareStart 1 { initialized := true }),
      r.1.pc = .returned 0 ∧ r.1.dev.live = {2} ∧ r.2 = [⟨0, 0⟩, ⟨0, 0⟩] := by
  decide +kernel

/-- `boot_safe` for it. -/
theorem boot_safe_bootWithClients :
    ∃ f os, firmwareMachine.run bootWithClients (firmwareStart 1 { initialized := true }) =
        some (f, os) ∧ f.dev.live.Nonempty ∧ os.length = 2 ∧
      (f.dev.adv.advertising = true ∨ f.dev.adv.advertisingEnabled = true ∨
        f.dev.live.Nonempty ∨ f.pc = .returned 0 → ∀ v, f.isUp v = true) ∧
      ∀ o ∈ os, o = ⟨0, 0⟩ := by
  obtain ⟨⟨f, os⟩, hrun, hret, hlive, hos⟩ := bootWithClients_run
  have hlive : f.dev.live = {2} := hlive
  have hlength : os.length = 2 := congrArg List.length hos
  have hsome : f.dev.live.Nonempty := by
    rw [hlive]
    exact Finset.singleton_nonempty 2
  exact ⟨f, os, hrun, hsome, hlength, boot_safe hrun⟩

/-- **A failed boot stays silent.** Once `main` has returned without `bt_le_adv_start` having been
called, which it has if any service is not up, the return code is an error, and in every
continuation of the run `main` has returned it, the controller does not advertise, nobody is
connected, and no connection is ever called back. -/
theorem boot_failed {now : ℤ} {bat : BatteryData} {es₁ es₂ : List FirmwareEvent}
    {f₁ f₂ : Firmware} {os₁ os₂ : List ConnectRets} {ret : ℤ}
    (hboot : firmwareMachine.run es₁ (firmwareStart now bat) = some (f₁, os₁))
    (hret : f₁.pc = .returned ret) (hfailed : f₁.advCalled = false ∨ ∃ v, f₁.isUp v = false)
    (hlater : firmwareMachine.run es₂ f₁ = some (f₂, os₂)) :
    ret ≠ 0 ∧ f₂.pc = .returned ret ∧ f₂.dev.adv.advertising = false ∧ f₂.dev.live = ∅ ∧
      os₂ = [] := by
  have hsafe₁ := firmware_preserves_safe.run (fun _ _ => trivial) (firmwareStart_safe now bat) hboot
  have hsafe₂ := firmware_preserves_safe.run (fun _ _ => trivial) hsafe₁ hlater
  have hcalled : f₁.advCalled = false := by
    rcases hfailed with hcalled | ⟨v, hdown⟩
    · exact hcalled
    · by_contra hyes
      exact absurd ((hsafe₁.called (Bool.not_eq_false _ ▸ hyes) v).symm.trans hdown) (by decide)
  have hlive : ∀ {f : Firmware}, f.Safe ∧ f.Dead ret → f.dev.live = ∅ :=
    fun h => (h.1.silent h.2.2.1).2.2.1
  have hdead : firmwareMachine.Preserves Machine.anyEvent fun f => f.Safe ∧ f.Dead ret :=
    fun _ h hstep => ⟨(h.1.step hstep).1, (h.2.step (hlive h) hstep).1⟩
  have hquiet : firmwareMachine.Emits Machine.anyEvent (fun f => f.Safe ∧ f.Dead ret)
      fun _ => False := fun _ h hstep o ho => by
    rw [(h.2.step (hlive h) hstep).2] at ho
    exact List.not_mem_nil ho
  have hstart : f₁.Safe ∧ f₁.Dead ret :=
    ⟨hsafe₁, hret, hcalled, (hsafe₁.silent hcalled).2.2.2⟩
  obtain ⟨-, hpc, hnot, -⟩ := hdead.run (fun _ _ => trivial) hstart hlater
  obtain ⟨hoff, -, hnone, -⟩ := hsafe₂.silent hnot
  refine ⟨fun hzero => ?_, hpc, hoff, hnone, ?_⟩
  · have hyes := hsafe₁.returned (hzero ▸ hret)
    exact absurd (hyes.symm.trans hcalled) (by decide)
  · exact List.eq_nil_iff_forall_not_mem.mpr
      (hdead.run_emits hquiet (fun _ _ => trivial) hstart hlater)

/-- The bus of the sensors is not ready. -/
def bootWithoutBus : List FirmwareEvent :=
  List.replicate 3 (.main {}) ++ [.main { turns := [{ i2cReady := false }] }]

/-- What may happen to it later. -/
def lateEvents : List FirmwareEvent :=
  [.btReady 0, .connected 1 62 0, .gattConnect, .resume .shell [] {} [],
    .background [] (.driver (.tick 5))]

/-- `boot_failed` for it. -/
theorem boot_failed_bootWithoutBus :
    ∃ f₁ os₁ f₂ os₂, firmwareMachine.run bootWithoutBus (firmwareStart 1 {}) = some (f₁, os₁) ∧
      firmwareMachine.run lateEvents f₁ = some (f₂, os₂) ∧
      -ENODEV ≠ 0 ∧ f₂.pc = .returned (-ENODEV) ∧ f₂.dev.adv.advertising = false ∧
        f₂.dev.live = ∅ ∧ os₂ = [] := by
  have hboth : ∃ r ∈ firmwareMachine.run bootWithoutBus (firmwareStart 1 {}),
      (r.1.pc = .returned (-ENODEV) ∧ r.1.advCalled = false) ∧
        ∃ r' ∈ firmwareMachine.run lateEvents r.1, r'.2 = [] := by
    decide +kernel
  obtain ⟨⟨f₁, os₁⟩, hboot, ⟨hret, hcalled⟩, ⟨f₂, os₂⟩, hlater, -⟩ := hboth
  exact ⟨f₁, os₁, f₂, os₂, hboot, hlater, boot_failed hboot hret (Or.inl hcalled) hlater⟩

end EnvMonitor
