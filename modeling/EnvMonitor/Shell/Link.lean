import EnvMonitor.Shell.Report
import EnvMonitor.Shell.Session

/-!
# The link as the shell shows it

Connections of clients and those that the shell simulates are counted alike, and the CCS811 driver
is told of them alike. `session_link` says that `app ccs811 status` and `app sm status` then agree,
as long as no callback and no command overlap: the driver's flag is up exactly while a connection
is counted, whatever is nested in what.

`reset_ends` is about the loop with which the tests begin, which disconnects until no connection is
counted. It is a machine of its own, one look or one command at a time, with the firmware going on
in between.
-/

namespace EnvMonitor

open Reader

/-! ### What is heard of the link -/

/-- What else runs beside `main` calls no link function. -/
theorem ManagerEvent.quiet_of_runtime {e : ManagerEvent} (h : e.runtime = true) :
    e.quiet = true := by
  cases e <;> first | rfl | exact absurd h Bool.false_ne_true

theorem ForeignEvent.quiet_of_runtime {e : ForeignEvent} (h : e.runtime = true) :
    e.quiet = true := by
  cases e with
  | manager e => exact ManagerEvent.quiet_of_runtime h
  | callback data => rfl

theorem Background.quiet_of_runtime {b : Background} (h : b.runtime = true) :
    b.quiet = true := by
  cases b with
  | manager e => exact ManagerEvent.quiet_of_runtime h
  | read c len offset i =>
    exact List.all_eq_true.mpr fun e he =>
      ForeignEvent.quiet_of_runtime (List.all_eq_true.mp h e he)
  | driver e => exact h
  | battery e => exact h
  | advertiser e => exact absurd h Bool.false_ne_true
  | _ => rfl

/-- The first call acquires its mutex. -/
def LocksFirst (turns : List Turn) : Prop := ∀ t ∈ turns.head?, t.lockRet = 0

/-- A connection finds the CCS811 with its driver initialised, and a count that can be raised. -/
def Firmware.CanConnect (f : Firmware) : Prop :=
  f.dev.sys.env.mgr.armed = true →
    f.dev.ccs.drv.dev = true ∧ f.dev.sys.env.mgr.connectedCount + 1 ≠ 0

/-- The driver hears of the link what the sensor manager has to tell it in the event: nothing else
tells it of the link, and it acquires `ccs811_mutex` when it is told. -/
def LinkHeard (e : FirmwareEvent) (f : Firmware) : Prop :=
  match e with
  | .main a => ∀ t ∈ a.turns, t.quiet = true
  | .resume caller turns _ _ =>
    (∀ t ∈ turns, t.quiet = true) ∧
      (f.link caller = some .track → LocksFirst turns ∧ f.CanConnect) ∧
      (f.link caller = some .untrack → LocksFirst turns)
  | .background turns _ => ∀ t ∈ turns, t.quiet = true
  | _ => True

instance (turns : List Turn) : Decidable (LocksFirst turns) :=
  inferInstanceAs (Decidable (∀ t ∈ turns.head?, _))

instance (f : Firmware) : Decidable f.CanConnect := inferInstanceAs (Decidable (_ → _))

instance decidableLinkHeard : (e : FirmwareEvent) → (f : Firmware) → Decidable (LinkHeard e f)
  | .main a, _ => inferInstanceAs (Decidable (∀ t ∈ a.turns, t.quiet = true))
  | .resume caller turns _ _, f =>
    inferInstanceAs (Decidable ((∀ t ∈ turns, t.quiet = true) ∧
      (f.link caller = some .track → LocksFirst turns ∧ f.CanConnect) ∧
      (f.link caller = some .untrack → LocksFirst turns)))
  | .background turns _, _ => inferInstanceAs (Decidable (∀ t ∈ turns, t.quiet = true))
  | .btReady _, _ => isTrue trivial
  | .connected .., _ => isTrue trivial
  | .disconnected _, _ => isTrue trivial
  | .recycled _, _ => isTrue trivial
  | .gattConnect, _ => isTrue trivial
  | .gattDisconnect, _ => isTrue trivial

namespace Firmware

variable {f f' : Firmware}

/-- The driver's flag is up exactly while a connection is counted. -/
def Told (f : Firmware) : Prop :=
  f.dev.ccs.Linked (decide (f.dev.sys.env.mgr.connectedCount ≠ 0))

theorem Told.of_frame {n : UInt32} {calls : List LinkCall}
    (h : LinkFrame n (decide (n ≠ 0)) calls f.dev.sys.env) : f.Told := by
  rw [Told, h.count]
  exact h.env.ccs

/-- The state in which a step is taken. -/
theorem Told.begin (h : f.Told) {turns : List Turn} (hturns : ∀ t ∈ turns, t.quiet = true) :
    LinkFrame f.dev.sys.env.mgr.connectedCount
      (decide (f.dev.sys.env.mgr.connectedCount ≠ 0)) [] (f.dev.begin turns).sys.env :=
  ⟨rfl, ⟨hturns, h⟩, rfl⟩

/-- A connection. -/
private theorem Told.track (h : f.Told) {turns : List Turn}
    (hturns : ∀ t ∈ turns, t.quiet = true) (hlocks : LocksFirst turns) (hcan : f.CanConnect) :
    ∃ n calls, LinkFrame n (decide (n ≠ 0)) calls
      (sensorManagerTrackConnected linkedDrivers (f.dev.begin turns).sys.env).2 := by
  have hbegin := h.begin hturns
  cases harmed : f.dev.sys.env.mgr.armed with
  | true =>
    obtain ⟨hdev, hroom⟩ := hcan harmed
    have hframe := hbegin.trackConnected harmed hdev hlocks
    exact ⟨_, _, decide_eq_true hroom ▸ hframe⟩
  | false =>
    have hrefused := sensorManagerTrackConnected_of_not_armed linkedDrivers
      (x := (f.dev.begin turns).sys.env) harmed
    exact ⟨_, _, by rw [hrefused]; exact hbegin⟩

/-- The end of one, or of none. -/
private theorem Told.untrack (h : f.Told) {turns : List Turn}
    (hturns : ∀ t ∈ turns, t.quiet = true) (hlocks : LocksFirst turns) :
    ∃ n calls, LinkFrame n (decide (n ≠ 0)) calls
      (sensorManagerOnDisconnected linkedDrivers (f.dev.begin turns).sys.env) := by
  have hbegin := h.begin hturns
  by_cases hzero : f.dev.sys.env.mgr.connectedCount = 0
  · have hnone : sensorManagerOnDisconnected linkedDrivers (f.dev.begin turns).sys.env =
        (f.dev.begin turns).sys.env := by
      rw [sensorManagerOnDisconnected]
      exact if_pos hzero
    exact ⟨_, _, hnone ▸ hbegin⟩
  · have hframe := hbegin.onDisconnected hzero hlocks
    have hflag : (if f.dev.sys.env.mgr.connectedCount - 1 = 0 then false
        else decide (f.dev.sys.env.mgr.connectedCount ≠ 0)) =
          decide (f.dev.sys.env.mgr.connectedCount - 1 ≠ 0) := by
      split_ifs with hlast
      · exact (decide_eq_false (not_not.mpr hlast)).symm
      · rw [decide_eq_true hlast, decide_eq_true hzero]
    exact ⟨_, _, hflag ▸ hframe⟩

/-- **One piece** of a callback or a command. -/
private theorem Told.resume (h : f.Told) {caller : LinkCaller} {turns : List Turn}
    {i : Interleaving} {readings : List HwReading}
    (he : LinkHeard (.resume caller turns i readings) f)
    (hi : ∀ e ∈ i.events, e.runtime = true)
    {phase : LinkPhase} (hphase : f.link caller = some phase) {d : Device} {next : LinkNext}
    (hpiece : linkPiece caller i readings phase (f.dev.begin turns) = some (d, next)) :
    ∃ n calls, LinkFrame n (decide (n ≠ 0)) calls d.sys.env := by
  obtain ⟨hturns, htrack, huntrack⟩ := he
  have hbegin := h.begin hturns
  have hsample := fun sensors => (LinkFrame.kept f.dev.sys.env.mgr.connectedCount
      (decide (f.dev.sys.env.mgr.connectedCount ≠ 0)) []).foreignKeeps.updateSelective
    (fun _ he => he) (fun e he => ForeignEvent.quiet_of_runtime (hi e he)) sensors
    (u := (f.dev.begin turns).sys) hbegin
  cases phase with
  | track =>
    obtain ⟨hlocks, hcan⟩ := htrack hphase
    obtain ⟨rfl, -⟩ := Prod.mk.inj (Option.some.inj hpiece)
    exact h.track hturns hlocks hcan
  | envSample =>
    obtain ⟨rfl, -⟩ := Prod.mk.inj (Option.some.inj hpiece)
    exact ⟨_, _, hsample .envBasic⟩
  | aqSample =>
    obtain ⟨rfl, -⟩ := Prod.mk.inj (Option.some.inj hpiece)
    exact ⟨_, _, hsample .airQuality⟩
  | batteryTrack ret =>
    simp only [linkPiece] at hpiece
    split_ifs at hpiece <;>
      · obtain ⟨rfl, -⟩ := Prod.mk.inj (Option.some.inj hpiece)
        exact ⟨_, _, hbegin⟩
  | batteryUpdate ret =>
    obtain ⟨r, -, hd⟩ := Option.map_eq_some_iff.mp hpiece
    obtain ⟨rfl, -⟩ := Prod.mk.inj hd
    exact ⟨_, _, hbegin⟩
  | untrack =>
    obtain ⟨rfl, -⟩ := Prod.mk.inj (Option.some.inj hpiece)
    exact h.untrack hturns (huntrack hphase)
  | batteryUntrack =>
    obtain ⟨rfl, -⟩ := Prod.mk.inj (Option.some.inj hpiece)
    exact ⟨_, _, hbegin⟩

/-- **One step of `main`.** -/
private theorem Told.main (h : f.Told) {a : MainAnswers} (ha : ∀ t ∈ a.turns, t.quiet = true)
    (hstep : mainStep a f = some f') : f'.Told := by
  have hbegin := h.begin ha
  have hkept := LinkFrame.kept f.dev.sys.env.mgr.connectedCount
    (decide (f.dev.sys.env.mgr.connectedCount ≠ 0)) []
  cases hpc : f.pc with
  | managerInit =>
    simp only [mainStep, hpc, Option.some.injEq] at hstep
    subst hstep
    exact Told.of_frame (hkept.managerCall (e := .init) rfl hbegin)
  | essInit =>
    simp only [mainStep, hpc, Option.some.injEq] at hstep
    subst hstep
    exact Told.of_frame (hkept.registerCallback hbegin)
  | arm =>
    simp only [mainStep, hpc, Option.some.injEq] at hstep
    subst hstep
    rw [Told, sensorManagerArm]
    split_ifs <;> exact h
  | getData =>
    simp only [mainStep, hpc, Option.some.injEq] at hstep
    subst hstep
    exact Told.of_frame (hkept.getData hbegin)
  | seedEss data =>
    simp only [mainStep, hpc, Option.some.injEq] at hstep
    subst hstep
    exact Told.of_frame ((updateKeeps_env hkept.isReady data).essServiceUpdate hbegin)
  | returned ret =>
    rw [mainStep, hpc] at hstep
    exact absurd hstep (by simp)
  | _ =>
    simp only [mainStep, hpc, Option.some.injEq] at hstep
    subst hstep
    exact h

/-- **One event.** -/
theorem Told.step (h : f.Told) {e : FirmwareEvent} (he : LinkHeard e f)
    {os : List ConnectRets} (hstep : firmwareStep e f = some (f', os)) : f'.Told := by
  cases firmwareStep_cases hstep with
  | main hmain => exact h.main he hmain
  | resume hruntime hphase hpiece =>
    obtain ⟨n, calls, hframe⟩ := h.resume he hruntime hphase hpiece
    exact Told.of_frame hframe
  | background hb hd =>
    exact Told.of_frame (backgroundStep_frame (Background.quiet_of_runtime hb) (h.begin he) hd).1
  | _ => exact h

end Firmware

theorem firmwareStart_told (now : ℤ) (bat : BatteryData) : (firmwareStart now bat).Told :=
  ⟨rfl, fun hup => absurd hup Bool.false_ne_true⟩

/-- The report of a driver whose flag is `connected` shows it. -/
theorem Ccs811Run.Linked.report {connected : Bool} {s : Ccs811Run} (h : s.Linked connected)
    {first second : List Ccs811Event} (hfirst : first.all Ccs811Event.quiet = true)
    (hsecond : second.all Ccs811Event.quiet = true) {a : DebugAnswers} (hlock : a.lockRet = 0) :
    let r := (ccs811DriverGetDebugState a first second s).2.1.report
    r.bleConnected = connected ∧ (connected = true → r.enabled = true) := by
  intro r
  have hpolled : (ccs811DriverIsReady s).2.Linked connected := h.congr (link_ccs811DriverIsReady s)
  have hlooked : (secondLook first s).Linked connected :=
    hpolled.congr (link_ccs811Steps hfirst _)
  have hlast : (ccs811Steps second (secondLook first s)).Linked connected :=
    hlooked.congr (link_ccs811Steps hsecond _)
  have hr : r = (ccs811DriverGetDebugState a first second s).2.1.report := rfl
  simp only [ccs811DriverGetDebugState, hlock, ne_eq, not_true, if_false] at hr
  rw [hr]
  exact ⟨hlast.1, hpolled.2⟩

/-- **The shell shows the link.** In every run from power-on, with clients that come and go and
connections that the shell simulates, nested in any way: if no callback and no command overlap, and
the driver hears of the link what the sensor manager has to tell it, then whenever none is under
way, `app sm status` reports the count that both services have, and `app ccs811 status`, unless the
mutex is not to be had, that the driver is enabled and connected exactly if that count is not
zero. -/
theorem session_link {now : ℤ} {bat : BatteryData} {es : List FirmwareEvent} {f : Firmware}
    {os : List ConnectRets} (hrun : firmwareMachine.run es (firmwareStart now bat) = some (f, os))
    (hserial : firmwareMachine.Along FirmwareEvent.Serial es (firmwareStart now bat))
    (hheard : firmwareMachine.Along LinkHeard es (firmwareStart now bat)) (hrest : f.AtRest)
    {first second : List Ccs811Event} (hfirst : first.all Ccs811Event.quiet = true)
    (hsecond : second.all Ccs811Event.quiet = true) (a : DebugAnswers) (fixed : FloatText) :
    ∃ status, parseSmStatus (cmdSmStatus fixed linkedDrivers f.dev.sys.env).2 = some status ∧
      status.count = f.dev.app.connectedCount.toNat ∧
      (parseCcs811Status (cmdCcs811Status a first second f.dev.ccs).2 = none ↔ a.lockRet ≠ 0) ∧
      ∀ r, parseCcs811Status (cmdCcs811Status a first second f.dev.ccs).2 = some r →
        (r.bleConnected = true ↔ 0 < status.count) ∧ (0 < status.count → r.enabled = true) := by
  have htold : f.Told :=
    hheard.invariant (fun he h hs => Firmware.Told.step h he hs) (firmwareStart_told now bat) hrun
  have hagreed : f.dev.sys.env.mgr.connectedCount = f.dev.app.connectedCount := by
    have hsettled := (firmware_agreed hrun hserial).2.2
    rwa [hrest.settled_eq] at hsettled
  have hcount : 0 < f.dev.sys.env.mgr.connectedCount.toNat ↔
      f.dev.sys.env.mgr.connectedCount ≠ 0 := by
    rw [Nat.pos_iff_ne_zero, ne_eq, ne_eq, ← UInt32.toNat_inj]
    rfl
  obtain ⟨-, hparsed⟩ := cmdCcs811Status_parsed a first second f.dev.ccs
  refine ⟨_, smStatus_parsed fixed linkedDrivers f.dev.sys.env, congrArg UInt32.toNat hagreed, ?_⟩
  rw [hparsed]
  split_ifs with hlock
  · refine ⟨iff_of_false (by simp) (not_not.mpr hlock), fun r hr => ?_⟩
    obtain rfl := Option.some.inj hr
    obtain ⟨hconnected, henabled⟩ := htold.report hfirst hsecond hlock
    rw [hconnected, decide_eq_true_iff, hcount]
    exact ⟨Iff.rfl, fun hsome => henabled (decide_eq_true hsome)⟩
  · exact ⟨iff_of_true rfl hlock, fun r hr => absurd hr (by simp)⟩

/-- `session_link` with nested connections, two of which are left. -/
theorem session_link_nestedConnections :
    ∃ f os, firmwareMachine.run (bootEarly ++ nestedConnections)
        (firmwareStart 1 { initialized := true }) = some (f, os) ∧
      ∀ fixed, ∃ status, parseSmStatus (cmdSmStatus fixed linkedDrivers f.dev.sys.env).2 =
          some status ∧ status.count = 2 ∧
        ∀ r, parseCcs811Status (cmdCcs811Status {} [] [] f.dev.ccs).2 = some r →
          r.bleConnected = true := by
  have hall : (∃ r ∈ firmwareMachine.run (bootEarly ++ nestedConnections)
      (firmwareStart 1 { initialized := true }), r.1.AtRest ∧ r.1.dev.app.connectedCount = 2) ∧
        firmwareMachine.Along FirmwareEvent.Serial (bootEarly ++ nestedConnections)
          (firmwareStart 1 { initialized := true }) ∧
        firmwareMachine.Along LinkHeard (bootEarly ++ nestedConnections)
          (firmwareStart 1 { initialized := true }) := by
    decide +kernel
  obtain ⟨⟨⟨f, os⟩, hrun, hrest, htwo⟩, hserial, hheard⟩ := hall
  have htwo : f.dev.app.connectedCount = 2 := htwo
  have hquiet : ([] : List Ccs811Event).all Ccs811Event.quiet = true := rfl
  refine ⟨f, os, hrun, fun fixed => ?_⟩
  obtain ⟨status, hstatus, hcount, -, hreport⟩ :=
    session_link hrun hserial hheard hrest hquiet hquiet {} fixed
  have hcount : status.count = 2 := by rw [hcount, htwo]; rfl
  exact ⟨status, hstatus, hcount, fun r hr => (hreport r hr).1.mpr (by omega)⟩

/-! ### The tests' reset -/

/-- The event makes a connection. -/
def FirmwareEvent.connects : FirmwareEvent → Bool
  | .connected _ err _ => err == 0
  | .gattConnect => true
  | _ => false

/-- A client leaves. -/
def FirmwareEvent.leaves : FirmwareEvent → Bool
  | .disconnected _ => true
  | _ => false

/-- Where the loop of `reset_simulated_connections` is. -/
inductive ResetPc where
  /-- It sends `app sm status`, once the shell has answered what was sent before. -/
  | look
  /-- That has reported a connection, and `app gatt disconnect` is sent. -/
  | send
  | done
deriving DecidableEq, Repr

/-- The loop and the firmware; how often it has gone round, and how many steps it and its commands
have taken, is history. -/
structure ResetRun where
  pc : ResetPc := .look
  f : Firmware
  rounds : ℕ := 0
  steps : ℕ := 0

inductive ResetEvent where
  | look
  | send
  /-- A command of the loop goes on, or something else happens to the firmware. -/
  | firmware (e : FirmwareEvent)

/-- The event is a step of the loop, or of its command. -/
def ResetEvent.ofLoop : ResetEvent → Bool
  | firmware (.resume .shell ..) => true
  | firmware _ => false
  | _ => true

/-- One step. -/
def resetStep (fixed : FloatText) (e : ResetEvent) (s : ResetRun) :
    Option (ResetRun × List ConnectRets) :=
  let steps := if e.ofLoop then s.steps + 1 else s.steps
  match e with
  | .look =>
    if s.pc = .look ∧ s.f.link .shell = none then
      (parseSmStatus (cmdSmStatus fixed linkedDrivers s.f.dev.sys.env).2).map fun status =>
        ({ s with pc := if status.count > 0 then .send else .done, steps := steps }, [])
    else none
  | .send =>
    if s.pc = .send then
      (firmwareStep .gattDisconnect s.f).map fun (f, os) =>
        ({ pc := .look, f := f, rounds := s.rounds + 1, steps := steps }, os)
    else none
  | .firmware e => (firmwareStep e s.f).map fun (f, os) => ({ s with f := f, steps := steps }, os)

/-- The loop as a machine. -/
def resetMachine (fixed : FloatText) : Machine ResetRun ResetEvent ConnectRets :=
  ⟨resetStep fixed⟩

/-- Meanwhile nobody connects, the shell is left to the loop, and no callback and no command
overlap. -/
def ResetEvent.Undisturbed (e : ResetEvent) (s : ResetRun) : Prop :=
  match e with
  | .look => True
  | .send => s.f.AtRest
  | .firmware e => e.connects = false ∧ e.noShell ∧ e.Serial s.f

namespace Firmware

variable {f f' : Firmware}

/-- What the sensor manager counts once it has been told what the command under way has to tell
it. -/
def left (f : Firmware) : UInt32 :=
  if f.link .shell = some .untrack then countDown f.dev.sys.env.mgr.connectedCount
  else f.dev.sys.env.mgr.connectedCount

/-- Whatever is under way is the end of a connection. -/
def Leaving (f : Firmware) : Prop :=
  ∀ caller phase, f.link caller = some phase → phase = .untrack ∨ phase = .batteryUntrack

theorem toNat_countDown (n : UInt32) : (countDown n).toNat = n.toNat - 1 := by
  rw [countDown]
  split_ifs with hzero
  · rw [hzero]
    rfl
  · have hpos : 1 ≤ n := UInt32.pos_iff_ne_zero.mpr hzero
    exact UInt32.toNat_sub_of_le n 1 hpos

/-- The steps that the command under way has still to take. -/
def stepsOf : Option LinkPhase → ℕ
  | some .untrack => 2
  | some .batteryUntrack => 1
  | _ => 0

/-- What an event does while connections only end. -/
inductive Ending (e : FirmwareEvent) (f f' : Firmware) : Prop where
  | kept (link : f'.link = f.link)
    (count : f'.dev.sys.env.mgr.connectedCount = f.dev.sys.env.mgr.connectedCount)
    (beside : (ResetEvent.firmware e).ofLoop = false)
  /-- A client leaves. -/
  | entered (leaves : e.leaves = true)
    (link : f'.link = Function.update f.link .host (some .untrack))
    (count : f'.dev.sys.env.mgr.connectedCount = f.dev.sys.env.mgr.connectedCount)
    (beside : (ResetEvent.firmware e).ofLoop = false)
  /-- The sensor manager is told. -/
  | told (caller : LinkCaller) (phase : f.link caller = some .untrack)
    (link : f'.link = Function.update f.link caller (some .batteryUntrack))
    (count : f'.dev.sys.env.mgr.connectedCount = countDown f.dev.sys.env.mgr.connectedCount)
    (who : (ResetEvent.firmware e).ofLoop = true ↔ caller = .shell)
  /-- The battery service is told. -/
  | ended (caller : LinkCaller) (phase : f.link caller = some .batteryUntrack)
    (link : f'.link = Function.update f.link caller none)
    (count : f'.dev.sys.env.mgr.connectedCount = f.dev.sys.env.mgr.connectedCount)
    (who : (ResetEvent.firmware e).ofLoop = true ↔ caller = .shell)

/-- **One event** that makes no connection. -/
theorem Leaving.step (h : f.Leaving) (hpc : f.pc = .returned 0) {e : FirmwareEvent}
    (he : e.connects = false) (hshell : e.noShell) {os : List ConnectRets}
    (hstep : firmwareStep e f = some (f', os)) : Ending e f f' := by
  cases firmwareStep_cases hstep with
  | main hmain =>
    rw [mainStep, hpc] at hmain
    exact absurd hmain (by simp)
  | connected _ _ _ _ => exact absurd he (by simp [FirmwareEvent.connects])
  | disconnected _ _ => exact .entered rfl rfl rfl rfl
  | gattConnect _ => exact hshell.elim
  | gattDisconnect _ => exact hshell.elim
  | @resume caller _ _ _ hruntime phase d next hphase hpiece =>
    have hspec := linkPiece_spec hruntime hpiece
    have hwho : ∀ {turns i readings},
        (ResetEvent.firmware (.resume caller turns i readings)).ofLoop = true ↔
          caller = .shell := by cases caller <;> simp [ResetEvent.ofLoop]
    rcases h caller phase hphase with rfl | rfl
    · refine .told caller hphase ?_ hspec.manager hwho
      rw [hspec.next_eq]
      rfl
    · refine .ended caller hphase ?_ hspec.manager hwho
      rw [hspec.next_eq]
      rfl
  | background hb hd =>
    exact .kept rfl (Device.same_backgroundStep hb hd).sys.connectedCount rfl
  | _ => exact .kept rfl rfl rfl

namespace Ending

variable {e : FirmwareEvent}

/-- Still, connections only end. -/
theorem leaving (h : Ending e f f') (hleaving : f.Leaving) : f'.Leaving := by
  have hupdate : ∀ {caller next}, f'.link = Function.update f.link caller next →
      (∀ phase, next = some phase → phase = .untrack ∨ phase = .batteryUntrack) → f'.Leaving := by
    intro caller next hlink hnext caller' phase hphase
    rw [hlink] at hphase
    by_cases hsame : caller' = caller
    · rw [hsame, Function.update_self] at hphase
      exact hnext phase hphase
    · rw [Function.update_of_ne hsame] at hphase
      exact hleaving caller' phase hphase
  cases h with
  | kept hlink _ _ => rwa [Leaving, hlink]
  | entered _ hlink _ _ => exact hupdate hlink fun _ hphase => Or.inl (Option.some.inj hphase).symm
  | told _ _ hlink _ _ => exact hupdate hlink fun _ hphase => Or.inr (Option.some.inj hphase).symm
  | ended _ _ hlink _ _ => exact hupdate hlink fun _ hphase => absurd hphase (by simp)

/-- The host counts down, or what is left stays; and only the command itself comes nearer to its
end. -/
theorem left (h : Ending e f f') (halone : f.Alone) :
    (f'.left = f.left ∨ f.link .host = some .untrack ∧ f'.left = countDown f.left) ∧
      (if (ResetEvent.firmware e).ofLoop then 1 else 0) + stepsOf (f'.link .shell) =
        stepsOf (f.link .shell) ∧
      (f.link .shell = none → f'.link .shell = none) ∧
      (e.leaves = false → f.link .host = none → f'.link .host = none) := by
  cases h with
  | kept hlink hcount hbeside =>
    rw [Firmware.left, Firmware.left, hlink, hcount, hbeside]
    exact ⟨Or.inl rfl, Nat.zero_add _, id, fun _ => id⟩
  | entered hleaves hlink hcount hbeside =>
    have hsame : f'.link .shell = f.link .shell := by rw [hlink]; exact update_host_shell ..
    rw [Firmware.left, Firmware.left, hsame, hcount, hbeside]
    exact ⟨Or.inl rfl, Nat.zero_add _, id,
      fun hnot => absurd (hleaves.symm.trans hnot) (by decide)⟩
  | told caller hphase hlink hcount hwho =>
    cases caller with
    | host =>
      have hshell : f.link .shell = none := by
        rcases halone with hhost | hshell
        · exact absurd (hhost.symm.trans hphase) (by simp)
        · exact hshell
      have hsame : f'.link .shell = f.link .shell := by rw [hlink]; exact update_host_shell ..
      have hbeside : (ResetEvent.firmware e).ofLoop = false :=
        Bool.eq_false_iff.mpr fun hloop => absurd (hwho.mp hloop) (by decide)
      rw [Firmware.left, Firmware.left, hsame, hshell, hcount, hbeside]
      exact ⟨Or.inr ⟨hphase, rfl⟩, rfl, id,
        fun _ hhost => absurd (hhost.symm.trans hphase) (by simp)⟩
    | shell =>
      have hafter : f'.link .shell = some .batteryUntrack := by rw [hlink, Function.update_self]
      have hhost : f'.link .host = f.link .host := by rw [hlink]; exact update_shell_host ..
      rw [Firmware.left, Firmware.left, hafter, hphase, hcount, hwho.mpr rfl, hhost]
      exact ⟨Or.inl rfl, rfl, fun hnone => absurd hnone (by simp), fun _ => id⟩
  | ended caller hphase hlink hcount hwho =>
    cases caller with
    | host =>
      have hsame : f'.link .shell = f.link .shell := by rw [hlink]; exact update_host_shell ..
      have hbeside : (ResetEvent.firmware e).ofLoop = false :=
        Bool.eq_false_iff.mpr fun hloop => absurd (hwho.mp hloop) (by decide)
      rw [Firmware.left, Firmware.left, hsame, hcount, hbeside]
      exact ⟨Or.inl rfl, Nat.zero_add _, id,
        fun _ hhost => absurd (hhost.symm.trans hphase) (by simp)⟩
    | shell =>
      have hafter : f'.link .shell = none := by rw [hlink, Function.update_self]
      have hhost : f'.link .host = f.link .host := by rw [hlink]; exact update_shell_host ..
      rw [Firmware.left, Firmware.left, hafter, hphase, hcount, hwho.mpr rfl, hhost]
      exact ⟨Or.inl rfl, rfl, fun hnone => absurd hnone (by simp), fun _ => id⟩

end Ending

end Firmware

/-- How often a loop goes round that finds `n` connections left. -/
def ResetPc.roundsToGo (n : ℕ) : ResetPc → ℕ
  | look => n
  | send => max n 1
  | done => 0

namespace ResetRun

variable {fixed : FloatText} {s s' : ResetRun}

/-- How often the loop has still to go round at most. -/
def roundsToGo (s : ResetRun) : ℕ := s.pc.roundsToGo s.f.left.toNat

/-- How many steps it has still to take at most. -/
def stepsToGo (s : ResetRun) : ℕ :=
  4 * s.roundsToGo + (if s.pc = .look then 1 else 0) + Firmware.stepsOf (s.f.link .shell)

/-- The reset of `n` connections on its way. -/
structure Resetting (n : ℕ) (s : ResetRun) : Prop where
  serving : ∃ m, s.f.Serving m
  leaving : s.f.Leaving
  answered : s.pc ≠ .look → s.f.link .shell = none
  done : s.pc = .done → s.f.left = 0
  rounds : s.rounds + s.roundsToGo ≤ n
  steps : s.steps + s.stepsToGo ≤ 4 * n + 1

/-- No client has left. -/
structure Exact (n : ℕ) (s : ResetRun) : Prop where
  host : s.f.link .host = none
  send : s.pc = .send → s.f.left ≠ 0
  rounds : s.rounds + s.roundsToGo = n

/-- What the loop sees, with the shell idle. -/
theorem look_eq_some (hidle : s.f.link .shell = none) (hpc : s.pc = .look) :
    resetStep fixed .look s = some ({ s with
      pc := if s.f.left.toNat > 0 then .send else .done, steps := s.steps + 1 }, []) := by
  have hleft : s.f.left = s.f.dev.sys.env.mgr.connectedCount := if_neg (by simp [hidle])
  rw [resetStep, hleft]
  simp only [hpc, hidle, smStatus_parsed, and_self, if_true, Option.map_some]
  rfl

/-- What is sent. -/
theorem send_eq_some (fixed : FloatText) (hrest : s.f.AtRest) (hpc : s.pc = .send) :
    resetStep fixed .send s = some
      ({ pc := .look, f := s.f.enter .shell .untrack, rounds := s.rounds + 1
         steps := s.steps + 1 }, []) := by
  simp only [resetStep, hpc, firmwareStep, hrest .shell, if_true, Option.map_some]
  rfl

/-- It is to take one off what is left. -/
theorem left_send (hrest : s.f.AtRest) :
    (s.f.enter .shell .untrack).left = countDown s.f.left := by
  have hleft : s.f.left = s.f.dev.sys.env.mgr.connectedCount := if_neg (by simp [hrest .shell])
  rw [hleft, Firmware.left, Firmware.link_enter, Function.update_self]
  rfl

/-- **One look** sends again, or ends the loop. -/
private theorem Resetting.look {n : ℕ} (h : Resetting n s) {os : List ConnectRets}
    (hstep : resetStep fixed .look s = some (s', os)) :
    Resetting n s' ∧ (Exact n s → Exact n s') := by
  obtain ⟨hpc, hidle⟩ : s.pc = .look ∧ s.f.link .shell = none := by
    by_contra hnot
    rw [resetStep] at hstep
    simp only [if_neg hnot] at hstep
    cases hstep
  rw [look_eq_some hidle hpc] at hstep
  obtain ⟨rfl, -⟩ := Prod.mk.inj (Option.some.inj hstep)
  have hrounds := h.rounds
  have hsteps := h.steps
  simp only [stepsToGo, roundsToGo, hpc, ResetPc.roundsToGo, hidle, Firmware.stepsOf, if_true]
    at hrounds hsteps
  by_cases hsome : s.f.left.toNat > 0
  · have hmax : max s.f.left.toNat 1 = s.f.left.toNat := max_eq_left hsome
    rw [if_pos hsome]
    refine ⟨⟨h.serving, h.leaving, fun _ => hidle, fun hdone => absurd hdone (by simp), ?_, ?_⟩,
      fun hexact => ⟨hexact.host, fun _ hzero => ?_, ?_⟩⟩
    · simpa only [roundsToGo, ResetPc.roundsToGo, hmax] using hrounds
    · simp only [stepsToGo, roundsToGo, ResetPc.roundsToGo, hmax, hidle, Firmware.stepsOf]
      simp only [reduceCtorEq, if_false]
      omega
    · exact absurd hsome (by simp [hzero])
    · simpa only [roundsToGo, hpc, ResetPc.roundsToGo, hmax] using hexact.rounds
  · have hnone : s.f.left.toNat = 0 := Nat.eq_zero_of_not_pos hsome
    rw [if_neg hsome]
    refine ⟨⟨h.serving, h.leaving, fun _ => hidle, fun _ => UInt32.toNat_inj.mp hnone, ?_, ?_⟩,
      fun hexact => ⟨hexact.host, fun hsend => absurd hsend (by simp), ?_⟩⟩
    · exact (Nat.le_add_right ..).trans hrounds
    · simp only [stepsToGo, roundsToGo, ResetPc.roundsToGo, hidle, Firmware.stepsOf]
      simp only [reduceCtorEq, if_false]
      omega
    · simpa only [roundsToGo, hpc, ResetPc.roundsToGo, hnone] using hexact.rounds

/-- **One command** takes one off what is left, if it is not zero already. -/
private theorem Resetting.send {n : ℕ} (h : Resetting n s) (hrest : s.f.AtRest)
    {os : List ConnectRets} (hstep : resetStep fixed .send s = some (s', os)) :
    Resetting n s' ∧ (Exact n s → Exact n s') := by
  have hpc : s.pc = .send := by
    by_contra hnot
    rw [resetStep] at hstep
    simp only [if_neg hnot] at hstep
    cases hstep
  have hgo := send_eq_some fixed hrest hpc
  obtain ⟨rfl, -⟩ := Prod.mk.inj (Option.some.inj (hgo.symm.trans hstep))
  have hcommand : firmwareStep .gattDisconnect s.f = some (s.f.enter .shell .untrack, []) :=
    if_pos (hrest .shell)
  obtain ⟨m, hserving⟩ := h.serving
  have hleft := left_send hrest
  have hdown := Firmware.toNat_countDown s.f.left
  have hrounds := h.rounds
  have hsteps := h.steps
  simp only [stepsToGo, roundsToGo, hpc, ResetPc.roundsToGo, hrest .shell, Firmware.stepsOf,
    reduceCtorEq, if_false] at hrounds hsteps
  have hphase : (s.f.enter .shell .untrack).link .shell = some .untrack := by
    rw [Firmware.link_enter, Function.update_self]
  refine ⟨⟨⟨_, hserving.step (e := .gattDisconnect) hrest hcommand⟩, ?_, ?_, ?_, ?_, ?_⟩,
    fun hexact => ⟨?_, ?_, ?_⟩⟩
  · intro caller phase hcaller
    cases caller with
    | host =>
      rw [Firmware.host_enter_shell, hrest .host] at hcaller
      cases hcaller
    | shell => exact Or.inl (Option.some.inj (hcaller.symm.trans hphase))
  · exact fun hlook => absurd rfl hlook
  · exact fun hdone => absurd hdone (by simp)
  · simp only [roundsToGo, ResetPc.roundsToGo, hleft, hdown]
    omega
  · simp only [stepsToGo, roundsToGo, ResetPc.roundsToGo, hleft, hdown, hphase, Firmware.stepsOf,
      if_true]
    omega
  · rw [Firmware.host_enter_shell]
    exact hexact.host
  · exact fun hsend => absurd hsend (by simp)
  · have hexactly := hexact.rounds
    have hpos : 0 < s.f.left.toNat := Nat.pos_of_ne_zero fun hzero =>
      hexact.send hpc (UInt32.toNat_inj.mp hzero)
    simp only [roundsToGo, hpc, ResetPc.roundsToGo, hleft, hdown] at hexactly ⊢
    omega

/-- **Anything else** does not raise what is left. -/
private theorem Resetting.firmware {n : ℕ} (h : Resetting n s) {e : FirmwareEvent}
    (he : (ResetEvent.firmware e).Undisturbed s) {os : List ConnectRets}
    (hstep : resetStep fixed (.firmware e) s = some (s', os)) :
    Resetting n s' ∧ (e.leaves = false → Exact n s → Exact n s') := by
  obtain ⟨hconnects, hshell, hserial⟩ := he
  obtain ⟨⟨f', os'⟩, hevent, heq⟩ := Option.map_eq_some_iff.mp hstep
  obtain ⟨rfl, -⟩ := Prod.mk.inj heq
  obtain ⟨m, hserving⟩ := h.serving
  have hending := h.leaving.step hserving.returned hconnects hshell hevent
  obtain ⟨hleft, hsteps, hidle, hhost⟩ := hending.left hserving.alone
  have hle : f'.left.toNat ≤ s.f.left.toNat := by
    rcases hleft with hsame | ⟨-, hdown⟩
    · exact hsame ▸ le_rfl
    · rw [hdown, Firmware.toNat_countDown]
      exact Nat.sub_le ..
  have hrounds : s.pc.roundsToGo f'.left.toNat ≤ s.pc.roundsToGo s.f.left.toNat := by
    cases s.pc <;> simp only [ResetPc.roundsToGo] <;> omega
  have hbefore := h.steps
  refine ⟨⟨⟨_, hserving.step hserial hevent⟩, hending.leaving h.leaving,
    fun hpc => hidle (h.answered hpc), fun hpc => ?_, ?_, ?_⟩, fun hstays hexact => ?_⟩
  · have hzero : s.f.left.toNat = 0 := congrArg UInt32.toNat (h.done hpc)
    exact UInt32.toNat_inj.mp (Nat.le_zero.mp (hzero ▸ hle))
  · exact (Nat.add_le_add_left hrounds _).trans h.rounds
  · simp only [stepsToGo, roundsToGo] at hbefore ⊢
    split_ifs at hsteps hbefore ⊢ <;> omega
  · have hsame : f'.left = s.f.left := by
      rcases hleft with hsame | ⟨hphase, -⟩
      · exact hsame
      · exact absurd (hexact.host.symm.trans hphase) (by simp)
    refine ⟨hhost hstays hexact.host, fun hpc => hsame ▸ hexact.send hpc, ?_⟩
    have hexactly := hexact.rounds
    rwa [roundsToGo, ← hsame] at hexactly

/-- **One step.** -/
theorem Resetting.step {n : ℕ} (h : Resetting n s) {e : ResetEvent} (he : e.Undisturbed s)
    {os : List ConnectRets} (hstep : resetStep fixed e s = some (s', os)) :
    Resetting n s' ∧ ((∀ e', e = .firmware e' → e'.leaves = false) → Exact n s → Exact n s') := by
  cases e with
  | look =>
    obtain ⟨hnext, hexact⟩ := h.look hstep
    exact ⟨hnext, fun _ => hexact⟩
  | send =>
    obtain ⟨hnext, hexact⟩ := h.send he hstep
    exact ⟨hnext, fun _ => hexact⟩
  | firmware e =>
    obtain ⟨hnext, hexact⟩ := h.firmware he hstep
    exact ⟨hnext, fun hstays => hexact (hstays e rfl)⟩

/-- **Progress.** While no callback of the host is under way, the loop or its command can go on. -/
theorem Resetting.progress {n : ℕ} (h : Resetting n s) (hpc : s.pc ≠ .done)
    (hhost : s.f.link .host = none) :
    ∃ e : ResetEvent, e.ofLoop = true ∧ e.Undisturbed s ∧ (resetStep fixed e s).isSome = true := by
  have hrest : s.f.link .shell = none → s.f.AtRest := fun hshell caller => by
    cases caller with
    | host => exact hhost
    | shell => exact hshell
  cases hat : s.pc with
  | look =>
    by_cases hidle : s.f.link .shell = none
    · exact ⟨.look, rfl, trivial, by rw [look_eq_some hidle hat]; rfl⟩
    · -- its command has not come to its end
      obtain ⟨phase, hphase⟩ := Option.ne_none_iff_exists'.mp hidle
      refine ⟨.firmware (.resume .shell [] {} []), rfl, ⟨rfl, trivial, trivial⟩, ?_⟩
      rcases h.leaving .shell phase hphase with rfl | rfl <;>
        simp [resetStep, firmwareStep, Interleaving.events, hphase, linkPiece]
  | send =>
    have hidle := hrest (h.answered (by simp [hat]))
    exact ⟨.send, rfl, hidle, by rw [send_eq_some fixed hidle hat]; rfl⟩
  | done => exact absurd hat hpc

end ResetRun

/-- **The tests can start afresh.** After a boot that has succeeded, and whatever connections
clients and the shell have made since without overlap, the tests' reset begins. If nobody connects
meanwhile, the shell is left to the loop, and nothing overlaps: the loop goes round no more often
than connections were counted, and takes no more than four steps a round and one; until it is done,
it can go on whenever no callback of the host is under way. When it is done the sensor manager is
armed and counts no connection, nor does the battery service once nothing is under way; and it has
gone round just as often as connections were counted if no client has left meanwhile. -/
theorem reset_ends {now : ℤ} {bat : BatteryData} {es : List FirmwareEvent} {f : Firmware}
    {os : List ConnectRets} (hrun : firmwareMachine.run es (firmwareStart now bat) = some (f, os))
    (hserial : firmwareMachine.Along FirmwareEvent.Serial es (firmwareStart now bat))
    (hret : f.pc = .returned 0) (hrest : f.AtRest) {fixed : FloatText} {es' : List ResetEvent}
    {s : ResetRun} {os' : List ConnectRets}
    (hreset : (resetMachine fixed).run es' { f := f } = some (s, os'))
    (halong : (resetMachine fixed).Along ResetEvent.Undisturbed es' { f := f }) :
    let n := f.dev.app.connectedCount.toNat
    s.rounds ≤ n ∧ s.steps ≤ 4 * n + 1 ∧
      (s.pc ≠ .done → s.f.link .host = none → ∃ e : ResetEvent, e.ofLoop = true ∧
        e.Undisturbed s ∧ ((resetMachine fixed).step e s).isSome = true) ∧
      (s.pc = .done →
        parseSmStatus (cmdSmStatus fixed linkedDrivers s.f.dev.sys.env).2 = some ⟨true, 0⟩ ∧
          (s.f.AtRest → s.f.dev.app.connectedCount = 0) ∧
          ((∀ e, .firmware e ∈ es' → e.leaves = false) → s.rounds = n)) := by
  intro n
  have hserving := firmware_serving hrun hserial hret hrest
  have hleft : f.left = f.dev.app.connectedCount :=
    (if_neg (by simp [hrest .shell])).trans (hserving.counts hrest).1
  have hstart : ResetRun.Resetting n { f := f } := by
    refine ⟨⟨_, hserving⟩, fun caller phase hphase => ?_, fun _ => hrest .shell,
      fun hdone => absurd hdone (by simp), ?_, ?_⟩
    · exact absurd ((hrest caller).symm.trans hphase) (by simp)
    · simp only [ResetRun.roundsToGo, ResetPc.roundsToGo, hleft]
      omega
    · simp only [ResetRun.stepsToGo, ResetRun.roundsToGo, ResetPc.roundsToGo, hleft, hrest .shell,
        Firmware.stepsOf, if_true]
      omega
  have hlast : s.Resetting n :=
    halong.invariant (fun he h hstep => (h.step he hstep).1) hstart hreset
  refine ⟨(Nat.le_add_right ..).trans hlast.rounds, ?_, hlast.progress, fun hdone => ?_⟩
  · exact (Nat.le_add_right ..).trans hlast.steps
  obtain ⟨m, hserves⟩ := hlast.serving
  have hidle : s.f.link .shell = none := hlast.answered (by simp [hdone])
  have hnone : s.f.dev.sys.env.mgr.connectedCount = 0 := by
    have hzero := hlast.done hdone
    rwa [Firmware.left, if_neg (by simp [hidle])] at hzero
  have harmed : s.f.dev.sys.env.mgr.armed = true := hserves.up .armed
  refine ⟨?_, fun hend => ?_, fun hstays => ?_⟩
  · rw [smStatus_parsed, harmed, hnone]
    rfl
  · obtain ⟨hmanager, hbattery⟩ := hserves.counts hend
    rw [hbattery, ← hmanager, hnone]
  · -- the rounds are exact on a run without clients that leave
    have hnobody : ∀ e ∈ es', ∀ _ : ResetRun, ∀ e', e = .firmware e' → e'.leaves = false := by
      rintro _ he _ e' rfl
      exact hstays e' he
    have hboth := (halong.and (.of_forall hnobody _)).invariant
      (I := fun s => s.Resetting n ∧ s.Exact n)
      (fun he h hstep => ⟨(h.1.step he.1 hstep).1, (h.1.step he.1 hstep).2 he.2 h.2⟩)
      ⟨hstart, hrest .host, fun hsend => absurd hsend (by simp), by
        simp only [ResetRun.roundsToGo, ResetPc.roundsToGo, hleft]
        omega⟩ hreset
    have hrounds := hboth.2.rounds
    simpa only [ResetRun.roundsToGo, hdone, ResetPc.roundsToGo, Nat.add_zero] using hrounds

/-- A client leaves as the loop has looked. -/
def resetWithClient : List ResetEvent :=
  .look :: .firmware (.disconnected 1) :: (disconnectPieces .host).map .firmware ++
    .send :: (disconnectPieces .shell).map .firmware ++ [.look]

instance decidableUndisturbed : (e : ResetEvent) → (s : ResetRun) → Decidable (e.Undisturbed s)
  | .look, _ => isTrue trivial
  | .send, s => inferInstanceAs (Decidable s.f.AtRest)
  | .firmware e, s =>
    inferInstanceAs (Decidable (e.connects = false ∧ e.noShell ∧ e.Serial s.f))

/-- `reset_ends` with two connections left, one of them that of this client. -/
theorem reset_ends_resetWithClient :
    ∃ f os s os', firmwareMachine.run (bootEarly ++ nestedConnections)
        (firmwareStart 1 { initialized := true }) = some (f, os) ∧
      (resetMachine fun _ _ => []).run resetWithClient { f := f } = some (s, os') ∧
      s.pc = .done ∧ s.rounds = 1 ∧ s.rounds ≤ f.dev.app.connectedCount.toNat ∧
      s.f.dev.app.connectedCount = 0 := by
  have hall : (∃ r ∈ firmwareMachine.run (bootEarly ++ nestedConnections)
      (firmwareStart 1 { initialized := true }), (r.1.pc = .returned 0 ∧ r.1.AtRest) ∧
        (resetMachine fun _ _ => []).Along ResetEvent.Undisturbed resetWithClient { f := r.1 } ∧
        ∃ r' ∈ (resetMachine fun _ _ => []).run resetWithClient { f := r.1 },
          r'.1.pc = .done ∧ r'.1.rounds = 1 ∧ r'.1.f.AtRest) ∧
      firmwareMachine.Along FirmwareEvent.Serial (bootEarly ++ nestedConnections)
        (firmwareStart 1 { initialized := true }) := by
    decide +kernel
  obtain ⟨⟨⟨f, os⟩, hrun, ⟨hret, hrest⟩, halong, ⟨s, os'⟩, hreset, hdone, hone, hend⟩, hserial⟩ :=
    hall
  obtain ⟨hrounds, -, -, hlast⟩ := reset_ends hrun hserial hret hrest hreset halong
  exact ⟨f, os, s, os', hrun, hreset, hdone, hone, hrounds, (hlast hdone).2.1 hend⟩

end EnvMonitor
