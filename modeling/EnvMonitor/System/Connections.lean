import EnvMonitor.Battery.Ble
import EnvMonitor.Ble.Advertiser
import EnvMonitor.Ccs811.Link
import EnvMonitor.Lib.Counter
import EnvMonitor.System.Composed

/-!
# Connections across the modules

`ble_connected` and `ble_disconnected` tell the sensor manager and the battery service of every
connection, each of which keeps a count of its own, and the sensor manager tells the CCS811
driver of the first and the last. A `Device` is the three modules with the connections that
there are; the callbacks run one after the other, and between and inside them runs everything
else that the firmware does.

`connections_exact` says that both counts are the number of connections and that the driver's
flag is up exactly while there is one: the callbacks count what they are told (`Counts`), and
nothing else touches the counts or the flag, which is what `Kept` and `BatteryKeeps` are about.
-/

namespace EnvMonitor

variable {ρ : Type*}

/-! ### The calls of the link functions -/

/-- The calls by which the sensor manager tells the CCS811 driver of the link. -/
inductive LinkCall where
  | onConnected
  | onDisconnected
deriving DecidableEq, Repr

/-- The same drivers with a log of these calls, latest first. -/
def Drivers.linked (D : Drivers ρ) : Drivers (ρ × List LinkCall) where
  uptime := unnoted D.uptime
  lock := unnoted D.lock
  hts221ReadBoth := unnoted D.hts221ReadBoth
  lps22hbReadPressure := unnoted D.lps22hbReadPressure
  ccs811ReadAirQuality temp humidity := unnoted (D.ccs811ReadAirQuality temp humidity)
  ccs811ReadForBle temp humidity := unnoted (D.ccs811ReadForBle temp humidity)
  ccs811IsReady := unnoted D.ccs811IsReady
  ccs811OnConnected s := (D.ccs811OnConnected s.1, .onConnected :: s.2)
  ccs811OnDisconnected s := (D.ccs811OnDisconnected s.1, .onDisconnected :: s.2)
  i2cReady := unnoted D.i2cReady
  initDrivers s := (D.initDrivers s.1, s.2)
  batteryGetLevel := unnoted D.batteryGetLevel
  batteryIsCharging := unnoted D.batteryIsCharging

/-- The environment of the composed system with that log. -/
abbrev LinkedEnv := SystemEnv × List LinkCall

/-- Its drivers. -/
abbrev linkedDrivers : Drivers LinkedEnv := systemDrivers.linked

/-! ### The device -/

/-- The advertiser, the sensor manager with the ESS and the CCS811 driver, and the battery
application. `live` are the addresses of the connections that are established, and whose end has
not been called back. -/
structure Device where
  adv : Advertiser := advertiserReady
  sys : EssRun (ManagerRun LinkedEnv)
  app : BatteryApp
  live : Finset UInt32 := ∅

namespace Device

/-- The driver of the CCS811. -/
def ccs (d : Device) : Ccs811Run := d.sys.env.env.1.ccs

/-- `sensor_manager_arm`, `ble_battery_service_init` and the initialisation of the CCS811 driver
have succeeded. -/
def ready (d : Device) : Bool :=
  d.sys.env.mgr.armed && d.app.ble.initialized && d.ccs.drv.dev

/-- Hand the turns of its calls to a step, and start its log. -/
def begin (turns : List Turn) (d : Device) : Device :=
  { d with sys := { d.sys with env := { d.sys.env with
      env := ({ d.sys.env.env.1 with script := turns }, []) } } }

/-- `ble_connected`, of which `EnvMonitor.bleConnected` is the part in the advertiser. -/
def bleConnected (err stopRet : ℤ) (i : Interleaving) (readings : List HwReading)
    (d : Device) : Option Device :=
  let d := { d with adv := EnvMonitor.bleConnected err stopRet d.adv }
  if err ≠ 0 then some d
  else
    -- both results are ignored
    let (_, sys) := sensorManagerOnConnected linkedDrivers i d.sys
    (bleBatteryServiceOnConnected readings d.app).map fun (_, app, _) =>
      { d with sys := sys, app := app }

/-- `ble_disconnected`. -/
def bleDisconnected (d : Device) : Device :=
  { d with
    sys := { d.sys with env := sensorManagerOnDisconnected linkedDrivers d.sys.env }
    app := bleBatteryServiceOnDisconnected d.app }

end Device

/-- The device at program start, at a given uptime and with the hardware battery service in any
state. -/
def deviceStart (now : ℤ) (bat : BatteryData) : Device where
  sys := {
    ess := essStart
    writes := []
    env := {
      mgr := managerStart
      env := ({ ccs := { now := now }, handlerStart := now }, []) } }
  app := { bat := bat }

/-! ### What happens to it -/

/-- What the firmware does beside the two callbacks: boot, arming, the work items, the reads and
writes of clients, the battery, advertising. -/
inductive Background where
  | manager (e : ManagerEvent)
  | essInit
  | essUpdate (data : Option SensorData)
  | cccWrite (c : EssCharId) (value : ℕ)
  | read (c : EssCharId) (len offset : ℕ) (i : Interleaving)
  | driver (e : Ccs811Event)
  | batteryInit
  | battery (e : BatteryEvent)
  | advertiser (e : AdvEvent)

/-- One step of it. -/
def backgroundStep (b : Background) (d : Device) : Option Device :=
  match b with
  | .manager e => some { d with sys := managerCall linkedDrivers e d.sys }
  | .essInit => some { d with sys := essServiceInit linkedDrivers d.sys }
  | .essUpdate data =>
    some { d with
      sys := (essServiceUpdate (sensorManagerIsCcs811Ready linkedDrivers) data d.sys).state }
  | .cccWrite c value =>
    some { d with sys := { d.sys with ess := cccCfgChanged c value d.sys.ess } }
  | .read c len offset i =>
    some { d with sys := (essRead (interleavedOps linkedDrivers i) c len offset d.sys).2 }
  | .driver e =>
    some { d with sys := { d.sys with env := { d.sys.env with
      env := ({ d.sys.env.env.1 with ccs := ccs811Step d.ccs e }, d.sys.env.env.2) } } }
  | .batteryInit => some { d with app := bleBatteryServiceInit d.app }
  | .battery e => (batteryStep e d.app).map fun r => { d with app := r.1 }
  | .advertiser e => (advStep e d.adv).map fun r => { d with adv := r.1 }

/-- What happens to the device, with the turns of the calls that it makes. -/
inductive DeviceEvent where
  | connected (conn : UInt32) (err stopRet : ℤ) (turns : List Turn) (i : Interleaving)
    (readings : List HwReading)
  | disconnected (conn : UInt32) (turns : List Turn)
  | background (turns : List Turn) (b : Background)

/-- The calls of the link functions in one step, and the numbers of connections before it and
after it. -/
structure LinkCalls where
  calls : List LinkCall
  before : ℕ
  after : ℕ
deriving DecidableEq, Repr

/-- One event. A connection is established once the modules are ready for it, at an address that
is not null and not taken; a failure to establish one may be called back at any time. A connection
that has been established ends at most once. -/
def deviceStep (e : DeviceEvent) (d : Device) : Option (Device × List LinkCalls) :=
  let stepped : Option Device :=
    match e with
    | .connected conn err stopRet turns i readings =>
      if err ≠ 0 then (d.begin turns).bleConnected err stopRet i readings
      else if d.ready ∧ conn ≠ 0 ∧ conn ∉ d.live then
        (({ d.begin turns with adv := connectionEstablished d.adv } : Device).bleConnected err
          stopRet i readings).map fun d' => { d' with live := insert conn d.live }
      else none
    | .disconnected conn turns =>
      if conn ∈ d.live then
        some { (d.begin turns).bleDisconnected with live := d.live.erase conn }
      else none
    | .background turns b => backgroundStep b (d.begin turns)
  stepped.map fun d' => (d', [⟨d'.sys.env.env.2, d.live.card, d'.live.card⟩])

/-- The device as a machine. -/
def deviceMachine : Machine Device DeviceEvent LinkCalls := ⟨deviceStep⟩

/-! ### What the other steps leave alone -/

/-- Nothing that happens before or during the call is a call of the link functions. -/
def Turn.quiet (t : Turn) : Bool :=
  t.before.all Ccs811Event.quiet && t.during.all Ccs811Event.quiet

/-- The event is no callback of a connection. -/
def AdvEvent.quiet : AdvEvent → Bool
  | .connected .. | .disconnected => false
  | _ => true

/-- No callback of a connection, and no part of one, is among it. -/
def Background.quiet : Background → Bool
  | .manager e => e.quiet
  | .read _ _ _ i => i.events.all ForeignEvent.quiet
  | .driver e => e.quiet
  | .battery e => e.quiet
  | .advertiser e => e.quiet
  | _ => true

/-- The callbacks are called one at a time, and the link function that one calls first acquires
`ccs811_mutex`. -/
def DeviceEvent.Admitted : DeviceEvent → Prop
  | .connected _ _ _ turns i _ =>
    (∀ t ∈ turns, t.quiet = true) ∧ (∀ t ∈ turns.head?, t.lockRet = 0) ∧
      ∀ e ∈ i.events, e.quiet = true
  | .disconnected _ turns =>
    (∀ t ∈ turns, t.quiet = true) ∧ ∀ t ∈ turns.head?, t.lockRet = 0
  | .background turns b => (∀ t ∈ turns, t.quiet = true) ∧ b.quiet = true

/-- The driver's flag is `connected`, and stays so as far as the script goes. -/
structure SystemEnv.Linked (connected : Bool) (s : SystemEnv) : Prop where
  script : ∀ t ∈ s.script, t.quiet = true
  ccs : s.ccs.Linked connected

namespace SystemEnv.Linked

variable {connected : Bool} {s : SystemEnv}

/-- Only the script and the link matter. -/
theorem congr (h : s.Linked connected) {s' : SystemEnv} (hscript : s'.script = s.script)
    (hlink : s'.ccs.link = s.ccs.link) : s'.Linked connected :=
  ⟨fun t ht => h.script t (hscript ▸ ht), h.ccs.congr hlink⟩

/-- The turn of a call changes neither the device nor the flag. -/
theorem turn_link (h : s.Linked connected) : s.turn.2.ccs.link = s.ccs.link := by
  rw [SystemEnv.turn]
  cases hs : s.script with
  | nil => rfl
  | cons t script =>
    have hquiet : t.quiet = true := h.script t (hs ▸ List.mem_cons_self)
    exact link_ccs811Steps (Bool.and_eq_true_iff.mp hquiet).1 s.ccs

theorem turn (h : s.Linked connected) :
    s.turn.1.quiet = true ∧ s.turn.2.Linked connected := by
  rw [SystemEnv.turn]
  cases hs : s.script with
  | nil => exact ⟨rfl, h⟩
  | cons t script =>
    have hquiet : t.quiet = true := h.script t (hs ▸ List.mem_cons_self)
    have hlink : s.turn.2.ccs.link = s.ccs.link := h.turn_link
    rw [SystemEnv.turn, hs] at hlink
    exact ⟨hquiet, fun t' ht' => h.script t' (hs ▸ List.mem_cons_of_mem t ht'),
      h.ccs.congr hlink⟩

theorem noteSuccess (h : s.Linked connected) (ret : ℤ) (assigned : Bool) :
    (s.noteSuccess ret assigned).Linked connected := by
  rw [SystemEnv.noteSuccess]
  split_ifs
  · exact h.congr rfl rfl
  · exact h

theorem readAirQuality (h : s.Linked connected) {t : Turn} (ht : t.quiet = true) :
    (s.readAirQuality t).2.Linked connected := by
  have hduring : t.during.all Ccs811Event.quiet = true := (Bool.and_eq_true_iff.mp ht).2
  have hread : ({ s with ccs := (ccs811DriverReadAirQuality t.read (ccs811Steps t.during) t.out
      s.ccs).2 } : SystemEnv).Linked connected :=
    h.congr rfl (link_ccs811DriverReadAirQuality t.read hduring t.out s.ccs)
  exact hread.noteSuccess ..

theorem readForBle (h : s.Linked connected) {t : Turn} (ht : t.quiet = true) :
    (s.readForBle t).2.Linked connected := by
  have hduring : t.during.all Ccs811Event.quiet = true := (Bool.and_eq_true_iff.mp ht).2
  have hlink := link_ccs811DriverReadAirQuality t.read hduring t.out s.ccs
  rw [← ccs811DriverReadForBle_run] at hlink
  rcases hcall : ccs811DriverReadForBle t.read (ccs811Steps t.during) t.out s.ccs with
    ⟨answer, ccs⟩
  rw [hcall] at hlink
  have hread : ({ s with ccs := ccs, refreshRet := some answer.ret } : SystemEnv).Linked
      connected := h.congr rfl hlink
  simp only [SystemEnv.readForBle, hcall]
  exact hread.noteSuccess ..

/-- The mutex is acquired by the next call. -/
private theorem turn_lockRet (hlock : ∀ t ∈ s.script.head?, t.lockRet = 0) :
    s.turn.1.lockRet = 0 := by
  rw [SystemEnv.turn]
  cases hs : s.script with
  | nil => rfl
  | cons t script => exact hlock t (by rw [hs]; rfl)

theorem onConnected (h : s.Linked connected) (hlock : ∀ t ∈ s.script.head?, t.lockRet = 0)
    (hdev : s.ccs.drv.dev = true) : (systemDrivers.ccs811OnConnected s).Linked true := by
  have hdev' : s.turn.2.ccs.drv.dev = true := (Prod.mk.inj h.turn_link).1.trans hdev
  have hup := Ccs811Run.Linked.onConnected hdev' s.turn.1.modeRet
  rw [← turn_lockRet hlock] at hup
  exact ⟨h.turn.2.script, hup⟩

theorem onDisconnected (h : s.Linked connected)
    (hlock : ∀ t ∈ s.script.head?, t.lockRet = 0) :
    (systemDrivers.ccs811OnDisconnected s).Linked false := by
  have hdown := h.turn.2.ccs.onDisconnected s.turn.1.modeRet
  rw [← turn_lockRet hlock] at hdown
  exact ⟨h.turn.2.script, hdown⟩

end SystemEnv.Linked

/-- The sensor manager counts `n`, the driver's flag is `connected`, and the calls of the link
functions are `calls`. -/
structure LinkFrame (n : UInt32) (connected : Bool) (calls : List LinkCall)
    (x : ManagerRun LinkedEnv) : Prop where
  count : x.mgr.connectedCount = n
  env : x.env.1.Linked connected
  calls_eq : x.env.2 = calls

namespace LinkFrame

variable {n : UInt32} {connected : Bool} {calls : List LinkCall}

/-- A call that takes a turn and changes nothing else. -/
private theorem turn {x : ManagerRun LinkedEnv} (hx : LinkFrame n connected calls x)
    {mgr : ManagerState} (hmgr : mgr.connectedCount = x.mgr.connectedCount) :
    LinkFrame n connected calls { mgr := mgr, env := (x.env.1.turn.2, x.env.2) } :=
  ⟨hmgr.trans hx.count, hx.env.turn.2, hx.calls_eq⟩

/-- **Frame.** Nothing but the bookkeeping of connections touches the count, the flag or the
log. -/
theorem kept (n : UInt32) (connected : Bool) (calls : List LinkCall) :
    Kept linkedDrivers (LinkFrame n connected calls) where
  flags _ _ _ hx := ⟨hx.count, hx.env, hx.calls_eq⟩
  lock hx := hx.turn rfl
  stampTime hx := hx.turn rfl
  temperatureHumidity hx := hx.turn rfl
  pressure hx := hx.turn rfl
  airQuality hx := ⟨hx.count, hx.env.turn.2.readAirQuality hx.env.turn.1, hx.calls_eq⟩
  battery hx := (hx.turn rfl).turn rfl
  airQualityForBle {x} hx := by
    rw [sensorManagerUpdateAirQualityForBle]
    split_ifs
    · exact hx
    · exact ⟨hx.count, hx.env.turn.2.readForBle hx.env.turn.1, hx.calls_eq⟩
  isReady hx :=
    ⟨hx.count, hx.env.turn.2.congr rfl (link_ccs811DriverIsReady _), hx.calls_eq⟩
  i2cReady hx := hx.turn rfl
  initDrivers {x} hx := by
    refine ⟨hx.count, ?_, hx.calls_eq⟩
    change (systemDrivers.initDrivers x.env.1).Linked connected
    rw [systemDrivers]
    dsimp only
    split_ifs
    · exact ⟨hx.env.turn.2.script, hx.env.turn.2.ccs.init _⟩
    · exact hx.env.turn.2

/-- A connection is counted, and the driver is told of it. -/
theorem trackConnected {x : ManagerRun LinkedEnv} (hx : LinkFrame n connected calls x)
    (harmed : x.mgr.armed = true) (hdev : x.env.1.ccs.drv.dev = true)
    (hlock : ∀ t ∈ x.env.1.script.head?, t.lockRet = 0) :
    LinkFrame (n + 1) true (.onConnected :: calls)
      (sensorManagerTrackConnected linkedDrivers x).2 := by
  rw [sensorManagerTrackConnected_of_armed linkedDrivers harmed]
  exact ⟨congrArg (· + 1) hx.count, hx.env.onConnected hlock hdev,
    congrArg (LinkCall.onConnected :: ·) hx.calls_eq⟩

/-- **A connection** with its sample. -/
theorem onConnected {u : EssRun (ManagerRun LinkedEnv)}
    (hu : LinkFrame n connected calls u.env) (harmed : u.env.mgr.armed = true)
    (hdev : u.env.env.1.ccs.drv.dev = true)
    (hlock : ∀ t ∈ u.env.env.1.script.head?, t.lockRet = 0) {i : Interleaving}
    (hi : ∀ e ∈ i.events, e.quiet = true) :
    LinkFrame (n + 1) true (.onConnected :: calls)
      (sensorManagerOnConnected linkedDrivers i u).2.env := by
  have hforeign := (kept (n + 1) true (.onConnected :: calls)).foreignKeeps
  have htrack := hu.trackConnected harmed hdev hlock
  rcases hout : sensorManagerTrackConnected linkedDrivers u.env with ⟨ret, x⟩
  rw [hout] at htrack
  simp only [sensorManagerOnConnected, hout]
  split_ifs
  · exact htrack
  · -- the two updates of the connect sample
    exact hforeign.updateSelective (fun _ he => he) hi .airQuality
      (hforeign.updateSelective (u := { u with env := x }) (fun _ he => he) hi .envBasic
        htrack)

/-- **The end of a connection** is counted, and the driver is told of the last one. -/
theorem onDisconnected {x : ManagerRun LinkedEnv} (hx : LinkFrame n connected calls x)
    (hn : n ≠ 0) (hlock : ∀ t ∈ x.env.1.script.head?, t.lockRet = 0) :
    LinkFrame (n - 1) (if n - 1 = 0 then false else connected)
      (if n - 1 = 0 then .onDisconnected :: calls else calls)
      (sensorManagerOnDisconnected linkedDrivers x) := by
  obtain rfl := hx.count
  rw [sensorManagerOnDisconnected, if_neg hn]
  dsimp only
  split_ifs
  · exact ⟨rfl, hx.env.onDisconnected hlock, congrArg (LinkCall.onDisconnected :: ·) hx.calls_eq⟩
  · exact ⟨rfl, hx.env, hx.calls_eq⟩

end LinkFrame

/-- The battery application leaves its count alone, but for the callbacks of connections. -/
theorem batteryCount_keeps (n : UInt32) :
    BatteryKeeps (fun _ => True) (fun app => app.connectedCount = n) fun _ => True where
  hardware _ h := h
  prewrite _ h := h
  manual {app ret} level charging _ h := by
    refine ⟨?_, fun _ _ => trivial⟩
    simp only [bleBatteryServiceUpdateManual, updateManualClamped]
    split_ifs <;> exact h

/-- The callback of a connection counts it, once the service is initialised. -/
theorem bleBatteryServiceOnConnected_count {readings : List HwReading} {app app' : BatteryApp}
    {ret : ℤ} {calls : List ManualCall} (hinit : app.ble.initialized = true)
    (h : bleBatteryServiceOnConnected readings app = some (ret, app', calls)) :
    app'.connectedCount = app.connectedCount + 1 := by
  rw [bleBatteryServiceOnConnected, hinit] at h
  obtain ⟨⟨ret', r⟩, hr, hr'⟩ := Option.map_eq_some_iff.mp h
  obtain ⟨-, rfl⟩ := Prod.mk.inj hr'
  exact ((batteryCount_keeps (app.connectedCount + 1)).update (fun _ _ => trivial) rfl hr).1

/-- **Background.** What runs beside the callbacks changes no count, no flag and no
connection, and calls no link function. -/
theorem backgroundStep_frame {b : Background} (hb : b.quiet = true) {d d' : Device}
    {n : UInt32} {connected : Bool} {calls : List LinkCall}
    (h : LinkFrame n connected calls d.sys.env) (hstep : backgroundStep b d = some d') :
    LinkFrame n connected calls d'.sys.env ∧ d'.app.connectedCount = d.app.connectedCount ∧
      d'.live = d.live := by
  have hkept := LinkFrame.kept n connected calls
  cases b with
  | manager e =>
    obtain rfl := Option.some.inj hstep
    exact ⟨hkept.managerCall hb h, rfl, rfl⟩
  | essInit =>
    obtain rfl := Option.some.inj hstep
    exact ⟨hkept.registerCallback h, rfl, rfl⟩
  | essUpdate data =>
    obtain rfl := Option.some.inj hstep
    refine ⟨?_, rfl, rfl⟩
    cases data with
    | none =>
      simp only [essServiceUpdate]
      split_ifs <;> exact h
    | some data => exact (updateKeeps_env hkept.isReady data).essServiceUpdate h
  | cccWrite c value =>
    obtain rfl := Option.some.inj hstep
    exact ⟨h, rfl, rfl⟩
  | read c len offset i =>
    obtain rfl := Option.some.inj hstep
    have hi : ∀ e ∈ i.events, e.quiet = true := List.all_eq_true.mp hb
    exact ⟨(hkept.readKeeps hi).essRead c len offset h, rfl, rfl⟩
  | driver e =>
    obtain rfl := Option.some.inj hstep
    exact ⟨⟨h.count, h.env.congr rfl (link_ccs811Step hb d.ccs), h.calls_eq⟩, rfl, rfl⟩
  | batteryInit =>
    obtain rfl := Option.some.inj hstep
    exact ⟨h, rfl, rfl⟩
  | battery e =>
    obtain ⟨⟨app, manual⟩, hr, rfl⟩ := Option.map_eq_some_iff.mp hstep
    exact ⟨h, ((batteryCount_keeps _).step hb (fun _ _ => trivial) rfl hr).1, rfl⟩
  | advertiser e =>
    obtain ⟨r, -, rfl⟩ := Option.map_eq_some_iff.mp hstep
    exact ⟨h, rfl, rfl⟩

/-! ### Exact bookkeeping -/

/-- Both modules count the connections, and the driver's flag is up while there is one. -/
structure Device.Exact (d : Device) : Prop where
  manager : Counts d.sys.env.mgr.connectedCount d.live
  battery : Counts d.app.connectedCount d.live
  link : d.ccs.Linked (decide (0 < d.live.card))

/-- The step tells the driver of the end of the link exactly if it ends the last connection. -/
def LinkCalls.Exact (o : LinkCalls) : Prop :=
  .onDisconnected ∈ o.calls ↔ 0 < o.before ∧ o.after = 0

theorem deviceStart_exact (now : ℤ) (bat : BatteryData) : (deviceStart now bat).Exact where
  manager := Counts.zero
  battery := Counts.zero
  link := ⟨rfl, fun hup => absurd hup Bool.false_ne_true⟩

namespace Device

variable {d d' : Device}

/-- The state in which a step is taken. -/
private theorem Exact.begin (h : d.Exact) {turns : List Turn}
    (hturns : ∀ t ∈ turns, t.quiet = true) :
    LinkFrame d.sys.env.mgr.connectedCount (decide (0 < d.live.card)) []
      (d.begin turns).sys.env :=
  ⟨rfl, ⟨hturns, h.link⟩, rfl⟩

/-- A connection that is established is passed on to both modules. -/
private theorem bleConnected_zero {stopRet : ℤ} {i : Interleaving} {readings : List HwReading}
    (h : d.bleConnected 0 stopRet i readings = some d') :
    d'.sys = (sensorManagerOnConnected linkedDrivers i d.sys).2 ∧
      ∃ ret calls, bleBatteryServiceOnConnected readings d.app = some (ret, d'.app, calls) := by
  rcases hsys : sensorManagerOnConnected linkedDrivers i d.sys with ⟨ret, sys⟩
  simp only [bleConnected, hsys, ne_eq, not_true, if_false] at h
  obtain ⟨⟨ret', app, calls⟩, hbattery, rfl⟩ := Option.map_eq_some_iff.mp h
  exact ⟨rfl, ret', calls, hbattery⟩

/-- A connection that fails changes nothing here. -/
private theorem Exact.failed (h : d.Exact) {err stopRet : ℤ} (herr : err ≠ 0) {turns : List Turn}
    {i : Interleaving} {readings : List HwReading}
    (hstep : (d.begin turns).bleConnected err stopRet i readings = some d') :
    d'.Exact ∧ d'.live = d.live ∧ d'.sys.env.env.2 = [] := by
  rw [bleConnected, if_pos herr] at hstep
  obtain rfl := Option.some.inj hstep
  exact ⟨⟨h.manager, h.battery, h.link⟩, rfl, rfl⟩

/-- One that is established is counted twice. -/
private theorem Exact.connected (h : d.Exact) (hready : d.ready = true) {conn : UInt32}
    (hnull : conn ≠ 0) (hnew : conn ∉ d.live) {stopRet : ℤ} {turns : List Turn}
    (hturns : ∀ t ∈ turns, t.quiet = true) (hlock : ∀ t ∈ turns.head?, t.lockRet = 0)
    {i : Interleaving} (hi : ∀ e ∈ i.events, e.quiet = true) {readings : List HwReading}
    (hstep : ({ d.begin turns with adv := connectionEstablished d.adv } : Device).bleConnected 0
      stopRet i readings = some d') :
    ({ d' with live := insert conn d.live } : Device).Exact ∧
      d'.sys.env.env.2 = [.onConnected] := by
  obtain ⟨⟨harmed, hinit⟩, hdev⟩ := by simpa only [ready, Bool.and_eq_true] using hready
  have hpos : 0 < (insert conn d.live).card := Finset.card_pos.mpr (Finset.insert_nonempty ..)
  have hsys := (h.begin hturns).onConnected harmed hdev hlock hi
  obtain ⟨hsys', ret, calls, hbattery⟩ := bleConnected_zero hstep
  have happ : d'.app.connectedCount = d.app.connectedCount + 1 :=
    bleBatteryServiceOnConnected_count hinit hbattery
  rw [← hsys'] at hsys
  refine ⟨⟨?_, ?_, ?_⟩, hsys.calls_eq⟩
  · rw [hsys.count]
    exact h.manager.insert hnull hnew
  · rw [happ]
    exact h.battery.insert hnull hnew
  · rw [decide_eq_true hpos]
    exact hsys.env.ccs

/-- Its end is counted twice, and the driver is told of the last one. -/
private theorem Exact.disconnected (h : d.Exact) {conn : UInt32} (hlive : conn ∈ d.live)
    {turns : List Turn} (hturns : ∀ t ∈ turns, t.quiet = true)
    (hlock : ∀ t ∈ turns.head?, t.lockRet = 0) :
    let d' : Device := { (d.begin turns).bleDisconnected with live := d.live.erase conn }
    d'.Exact ∧ (.onDisconnected ∈ d'.sys.env.env.2 ↔ (d.live.erase conn).card = 0) := by
  intro d'
  have hpos : 0 < d.live.card := Finset.card_pos.mpr ⟨conn, hlive⟩
  have hmanager := h.manager.erase hlive
  have hsys : LinkFrame _ _ _ d'.sys.env :=
    (h.begin hturns).onDisconnected (h.manager.ne_zero hlive) hlock
  have happ : d'.app.connectedCount = d.app.connectedCount - 1 := by
    change (bleBatteryServiceOnDisconnected d.app).connectedCount = _
    rw [bleBatteryServiceOnDisconnected, if_neg (h.battery.ne_zero hlive)]
  have hcounts : Counts d'.sys.env.mgr.connectedCount d'.live ∧
      Counts d'.app.connectedCount d'.live := by
    rw [happ]
    exact ⟨hsys.count ▸ hmanager, h.battery.erase hlive⟩
  by_cases hlast : (d.live.erase conn).card = 0
  · -- the last one: the flag goes down
    rw [if_pos (hmanager.eq_zero_iff.mpr hlast), if_pos (hmanager.eq_zero_iff.mpr hlast)]
      at hsys
    have hnone : ¬ 0 < d'.live.card := Nat.not_lt.mpr hlast.le
    refine ⟨⟨hcounts.1, hcounts.2, ?_⟩, ?_⟩
    · rw [decide_eq_false hnone]
      exact hsys.env.ccs
    · rw [hsys.calls_eq]
      exact iff_of_true List.mem_cons_self hlast
  · -- another one is left: the flag stays up
    have hleft : 0 < (d.live.erase conn).card := Nat.pos_of_ne_zero hlast
    rw [if_neg (hlast ∘ hmanager.eq_zero_iff.mp), if_neg (hlast ∘ hmanager.eq_zero_iff.mp)]
      at hsys
    refine ⟨⟨hcounts.1, hcounts.2, ?_⟩, ?_⟩
    · rw [decide_eq_true hleft, ← decide_eq_true hpos]
      exact hsys.env.ccs
    · rw [hsys.calls_eq]
      exact iff_of_false List.not_mem_nil hlast

/-- **One event.** -/
theorem Exact.step {e : DeviceEvent} (he : e.Admitted) (h : d.Exact) {os : List LinkCalls}
    (hstep : deviceStep e d = some (d', os)) : d'.Exact ∧ ∀ o ∈ os, o.Exact := by
  obtain ⟨d₁, hd₁, hout⟩ := Option.map_eq_some_iff.mp hstep
  obtain ⟨rfl, rfl⟩ := Prod.mk.inj hout
  have hquiet : ∀ n : ℕ, (LinkCall.onDisconnected ∈ ([] : List LinkCall) ↔ 0 < n ∧ n = 0) := by
    intro n
    exact iff_of_false List.not_mem_nil fun hn => by omega
  refine (and_congr_right fun _ => List.forall_mem_singleton).mpr ?_
  cases e with
  | connected conn err stopRet turns i readings =>
    dsimp only at hd₁
    split_ifs at hd₁ with herr hnew
    · obtain ⟨hexact, hlive, hcalls⟩ := h.failed herr hd₁
      refine ⟨hexact, ?_⟩
      rw [LinkCalls.Exact, hcalls, hlive]
      exact hquiet _
    · obtain ⟨d₂, hd₂, rfl⟩ := Option.map_eq_some_iff.mp hd₁
      obtain rfl : err = 0 := not_not.mp herr
      obtain ⟨hexact, hcalls⟩ := h.connected hnew.1 hnew.2.1 hnew.2.2 he.1 he.2.1 he.2.2 hd₂
      refine ⟨hexact, ?_⟩
      have hpos : 0 < (insert conn d.live).card :=
        Finset.card_pos.mpr (Finset.insert_nonempty ..)
      have hother : LinkCall.onDisconnected ∉ [LinkCall.onConnected] := by decide
      rw [LinkCalls.Exact, hcalls]
      exact iff_of_false hother fun hlast => hpos.ne' hlast.2
  | disconnected conn turns =>
    dsimp only at hd₁
    split_ifs at hd₁ with hlive
    obtain rfl := Option.some.inj hd₁
    obtain ⟨hexact, hcalls⟩ := h.disconnected hlive he.1 he.2
    refine ⟨hexact, hcalls.trans (and_iff_right ?_).symm⟩
    exact Finset.card_pos.mpr ⟨conn, hlive⟩
  | background turns b =>
    obtain ⟨hframe, happ, hlive⟩ := backgroundStep_frame he.2 (h.begin he.1) hd₁
    have hlive : d₁.live = d.live := hlive
    refine ⟨⟨?_, ?_, ?_⟩, ?_⟩
    · rw [hframe.count, hlive]
      exact h.manager
    · rw [happ, hlive]
      exact h.battery
    · rw [hlive]
      exact hframe.env.ccs
    · rw [LinkCalls.Exact, hframe.calls_eq, hlive]
      exact hquiet _

end Device

/-- **Connection bookkeeping is exact.** In every run of the device in which the callbacks are
called one at a time, every connection is established at a fresh address once the modules are
ready and ends at most once, and the driver's mutex is acquired, whatever else the firmware does
meanwhile: both modules count the connections that there are, the driver's flag is up exactly
while there is one, and `ccs811_driver_on_disconnected` is called exactly by the steps that end
the last one. -/
theorem connections_exact {now : ℤ} {bat : BatteryData} {es : List DeviceEvent} {d : Device}
    {steps : List LinkCalls} (hes : ∀ e ∈ es, e.Admitted)
    (hrun : deviceMachine.run es (deviceStart now bat) = some (d, steps)) :
    d.sys.env.mgr.connectedCount.toNat = d.live.card ∧
      d.app.connectedCount.toNat = d.live.card ∧
      (d.ccs.drv.bleConnected = true ↔ 0 < d.live.card) ∧
      ∀ o ∈ steps, .onDisconnected ∈ o.calls ↔ 0 < o.before ∧ o.after = 0 := by
  have hsteps : deviceMachine.Preserves DeviceEvent.Admitted Device.Exact :=
    fun he h hs => (h.step he hs).1
  have hcalls : deviceMachine.Emits DeviceEvent.Admitted Device.Exact LinkCalls.Exact :=
    fun he h hs => (h.step he hs).2
  have hexact := hsteps.run hes (deviceStart_exact now bat) hrun
  refine ⟨hexact.manager.count, hexact.battery.count, ?_,
    hsteps.run_emits hcalls hes (deviceStart_exact now bat) hrun⟩
  rw [hexact.link.1, decide_eq_true_iff]

/-- Boot, two clients, an attempt that fails while they are connected, and both leave. -/
def twoClients : List DeviceEvent :=
  [.background [] (.manager .init), .background [] .batteryInit, .background [] .essInit,
    .background [] (.manager .arm), .connected 1 0 0 [] {} [⟨⟨0, 0, 3600⟩, 1, 0⟩],
    .connected 2 0 0 [] {} [⟨⟨0, 0, 3600⟩, 1, 0⟩], .connected 3 62 0 [] {} [],
    .disconnected 1 [], .disconnected 2 []]

/-- The driver is told of the first connection, of the second, and of the end of both. -/
theorem twoClients_run :
    ∃ r ∈ deviceMachine.run twoClients (deviceStart 1 { initialized := true }),
      r.2.map (fun o => (o.calls, o.after)) =
        [([], 0), ([], 0), ([], 0), ([], 0), ([.onConnected], 1), ([.onConnected], 2), ([], 2),
          ([], 1), ([.onDisconnected], 0)] := by
  decide +kernel

/-- `connections_exact` for them. -/
theorem connections_exact_twoClients :
    ∃ d steps, deviceMachine.run twoClients (deviceStart 1 { initialized := true }) =
        some (d, steps) ∧ steps.length = 9 ∧
      d.sys.env.mgr.connectedCount.toNat = d.live.card ∧
      d.app.connectedCount.toNat = d.live.card ∧
      (d.ccs.drv.bleConnected = true ↔ 0 < d.live.card) ∧
      ∀ o ∈ steps, .onDisconnected ∈ o.calls ↔ 0 < o.before ∧ o.after = 0 := by
  obtain ⟨⟨d, steps⟩, hrun, hsteps⟩ := twoClients_run
  have hadmitted : ∀ e ∈ twoClients, e.Admitted := by
    simp [twoClients, DeviceEvent.Admitted, Background.quiet, ManagerEvent.quiet,
      Interleaving.events]
  have hlength : steps.length = 9 := by
    have h := congrArg List.length hsteps
    rwa [List.length_map] at h
  exact ⟨d, steps, hrun, hlength, connections_exact hadmitted hrun⟩

end EnvMonitor
