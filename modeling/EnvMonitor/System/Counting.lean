import EnvMonitor.System.Boot

/-!
# Counting connections

The sensor manager and the battery service count connections each for itself, and are told of them
one after the other, in pieces. What a count will be when all that is under way has been told is
its `settled` count; a piece moves a count to where it was going to be, and an event that starts a
callback or a command moves both goals alike. `boot_counts` follows: as long as callbacks and
commands do not overlap, the two counts agree whenever nothing is under way.

They need not agree if they overlap, because the battery service ignores the end of a connection
of which it has not been told yet.
-/

namespace EnvMonitor

/-! ### `main` -/

/-- `main` changes neither count, no connection, and nothing that is under way. -/
theorem mainStep_counts {a : MainAnswers} {f f' : Firmware} (hstep : mainStep a f = some f') :
    f'.dev.sys.env.mgr.connectedCount = f.dev.sys.env.mgr.connectedCount ∧
      f'.dev.app.connectedCount = f.dev.app.connectedCount ∧ f'.dev.live = f.dev.live ∧
        f'.link = f.link := by
  have hcount : ∀ {mgr : ManagerState} {b : Bool} {sys : EssRun (ManagerRun LinkedEnv)},
      Settled b mgr.control sys → mgr.connectedCount = f.dev.sys.env.mgr.connectedCount →
        sys.env.mgr.connectedCount = f.dev.sys.env.mgr.connectedCount :=
    fun hsys hmgr => hsys.connectedCount.trans hmgr
  cases hpc : f.pc with
  | managerInit =>
    simp only [mainStep, hpc, Option.some.injEq] at hstep
    subst hstep
    refine ⟨?_, rfl, rfl, rfl⟩
    rcases control_sensorManagerInit linkedDrivers (f.dev.begin a.turns).sys.env with
      ⟨-, hcontrol⟩ | ⟨-, hcontrol⟩
    · exact hcount (settled_callback _ ⟨rfl, hcontrol⟩) rfl
    · exact hcount (settled_callback _ ⟨rfl, hcontrol⟩) rfl
  | essInit =>
    simp only [mainStep, hpc, Option.some.injEq] at hstep
    subst hstep
    obtain ⟨updateCallback, -, hsys⟩ :=
      settled_essServiceInit linkedDrivers (f.dev.begin a.turns).sys
    exact ⟨hcount hsys rfl, rfl, rfl, rfl⟩
  | arm =>
    simp only [mainStep, hpc, sensorManagerArm, Option.some.injEq] at hstep
    subst hstep
    refine ⟨?_, rfl, rfl, rfl⟩
    dsimp only
    split_ifs <;> rfl
  | getData =>
    simp only [mainStep, hpc, Option.some.injEq] at hstep
    subst hstep
    have hcontrol := control_managerStep linkedDrivers (e := .getData) rfl
      (f.dev.begin a.turns).sys.env
    exact ⟨(Prod.mk.inj (Prod.mk.inj (Prod.mk.inj hcontrol).2).2).2, rfl, rfl, rfl⟩
  | seedBattery data =>
    simp only [mainStep, hpc, Option.some.injEq] at hstep
    subst hstep
    refine ⟨rfl, ?_, rfl, rfl⟩
    have hmanual : (bleBatteryServiceUpdateManual a.setLevelRet data.batteryLevel
        data.batteryCharging f.dev.app).2.1.connectedCount = f.dev.app.connectedCount :=
      ((batterySettled_keeps _ _).manual _ _ trivial ⟨rfl, rfl⟩).1.2
    dsimp only
    split_ifs
    · exact hmanual
    · rfl
  | seedEss data =>
    simp only [mainStep, hpc, Option.some.injEq] at hstep
    subst hstep
    exact ⟨hcount ((settled_updateKeeps _ (fun _ => rfl) data).essServiceUpdate ⟨rfl, rfl⟩) rfl,
      rfl, rfl, rfl⟩
  | returned ret =>
    rw [mainStep, hpc] at hstep
    exact absurd hstep (by simp)
  | _ =>
    simp only [mainStep, hpc, Option.some.injEq] at hstep
    subst hstep
    exact ⟨rfl, rfl, rfl, rfl⟩

/-! ### Settled counts -/

/-- Counting down at the end of a connection that there is. -/
theorem Counts.countDown {n : UInt32} {live : Finset UInt32} (h : Counts n live) {conn : UInt32}
    (hconn : conn ∈ live) : Counts (EnvMonitor.countDown n) (live.erase conn) := by
  rw [EnvMonitor.countDown, if_neg (h.ne_zero hconn)]
  exact h.erase hconn

namespace LinkPhase

/-- Where the count `n` of the sensor manager goes with what is under way. -/
def managerSettles (n : UInt32) : Option LinkPhase → UInt32
  | some track => n + 1
  | some untrack => countDown n
  | _ => n

/-- Where the count `n` of the battery service goes. -/
def batterySettles (n : UInt32) : Option LinkPhase → UInt32
  | some track | some envSample | some aqSample | some (batteryTrack _) => n + 1
  | some untrack | some batteryUntrack => countDown n
  | _ => n

variable {caller : LinkCaller} {armed initialized : Bool} {phase : LinkPhase}

/-- **One piece** moves both counts to where they go, or it is that of a connection that the
sensor manager refuses, and which neither counts. -/
theorem settles_next (h : phase.Accepted armed) (hinit : armed = true → initialized = true)
    (hhost : caller = .host → armed = true) (n m : UInt32) :
    let phase' := (phase.next caller armed initialized).phase
    let n' := phase.managerCount armed n
    let m' := phase.batteryCount initialized m
    (managerSettles n' phase' = managerSettles n (some phase) ∧
        batterySettles m' phase' = batterySettles m (some phase)) ∨
      (armed = false ∧ managerSettles n (some phase) = managerSettles n' phase' + 1 ∧
        batterySettles m (some phase) = batterySettles m' phase' + 1) := by
  intro phase' n' m'
  cases phase with
  | track =>
    cases armed with
    | true => exact Or.inl ⟨rfl, rfl⟩
    | false =>
      cases caller with
      | host => exact absurd (hhost rfl) (by decide)
      | shell => exact Or.inr ⟨rfl, rfl, rfl⟩
  | batteryTrack ret =>
    obtain rfl := hinit h.1
    exact Or.inl ⟨rfl, rfl⟩
  | _ => exact Or.inl ⟨rfl, rfl⟩

end LinkPhase

/-- The shell simulates no connection. -/
def FirmwareEvent.noShell : FirmwareEvent → Prop
  | .gattConnect | .gattDisconnect => False
  | _ => True

instance decidableNoShell : (e : FirmwareEvent) → Decidable e.noShell
  | .gattConnect => isFalse id
  | .gattDisconnect => isFalse id
  | .main _ => isTrue trivial
  | .btReady _ => isTrue trivial
  | .connected .. => isTrue trivial
  | .disconnected _ => isTrue trivial
  | .recycled _ => isTrue trivial
  | .resume .. => isTrue trivial
  | .background .. => isTrue trivial

namespace Firmware

variable {f f' : Firmware}

/-- No callback and no command is under way. -/
def AtRest (f : Firmware) : Prop := ∀ caller, f.link caller = none

/-- A callback and a command are not under way together. -/
def Alone (f : Firmware) : Prop := f.link .host = none ∨ f.link .shell = none

/-- What is under way then. -/
def phase (f : Firmware) : Option LinkPhase := (f.link .host).or (f.link .shell)

/-- Where both counts go. -/
def settled (f : Firmware) : UInt32 × UInt32 :=
  (LinkPhase.managerSettles f.dev.sys.env.mgr.connectedCount f.phase,
    LinkPhase.batterySettles f.dev.app.connectedCount f.phase)

instance (f : Firmware) : Decidable f.AtRest :=
  decidable_of_iff (f.link .host = none ∧ f.link .shell = none)
    ⟨fun h caller => by cases caller <;> simp [h], fun h => ⟨h _, h _⟩⟩

theorem AtRest.alone (h : f.AtRest) : f.Alone := Or.inl (h .host)

theorem AtRest.phase_eq (h : f.AtRest) : f.phase = none := by
  rw [phase, h .host, h .shell]
  rfl

/-- What is settled is counted. -/
theorem AtRest.settled_eq (h : f.AtRest) :
    f.settled = (f.dev.sys.env.mgr.connectedCount, f.dev.app.connectedCount) := by
  rw [settled, h.phase_eq]
  rfl

/-- The only caller is in the phase that it is in. -/
theorem Alone.phase_eq (h : f.Alone) {caller : LinkCaller} {p : LinkPhase}
    (hp : f.link caller = some p) : f.phase = some p := by
  cases caller with
  | host => rw [phase, hp]; rfl
  | shell =>
    rcases h with hhost | hshell
    · rw [phase, hhost, hp]; rfl
    · exact absurd (hshell.symm.trans hp) (by simp)

/-- It stays the only one. -/
theorem Alone.update (h : f.Alone) {caller : LinkCaller} {p : LinkPhase}
    (hp : f.link caller = some p) {next : Option LinkPhase}
    (hlink : f'.link = Function.update f.link caller next) : f'.Alone ∧ f'.phase = next := by
  cases caller with
  | host =>
    rcases h with hhost | hshell
    · exact absurd (hhost.symm.trans hp) (by simp)
    · have hother : f'.link .shell = none := by
        rw [hlink]
        exact (update_host_shell ..).trans hshell
      refine ⟨Or.inr hother, ?_⟩
      rw [phase, hother, hlink, Function.update_self, Option.or_none]
  | shell =>
    rcases h with hhost | hshell
    · have hother : f'.link .host = none := by
        rw [hlink]
        exact (update_shell_host ..).trans hhost
      refine ⟨Or.inl hother, ?_⟩
      rw [phase, hother, hlink, Function.update_self, Option.none_or]
    · exact absurd (hshell.symm.trans hp) (by simp)

/-- Whoever enters from rest is the only one. -/
theorem AtRest.enter (h : f.AtRest) (caller : LinkCaller) (p : LinkPhase) :
    (f.enter caller p).Alone ∧ (f.enter caller p).phase = some p := by
  cases caller with
  | host =>
    have hother : (f.enter .host p).link .shell = none :=
      (update_host_shell f.link (some p)).trans (h .shell)
    refine ⟨Or.inr hother, ?_⟩
    rw [phase, hother, link_enter, Function.update_self, Option.or_none]
  | shell =>
    have hother : (f.enter .shell p).link .host = none :=
      (host_enter_shell p f).trans (h .host)
    refine ⟨Or.inl hother, ?_⟩
    rw [phase, hother, link_enter, Function.update_self, Option.none_or]

end Firmware

/-- A callback or a command is entered only while no other is under way. -/
def FirmwareEvent.Serial (e : FirmwareEvent) (f : Firmware) : Prop :=
  match e with
  | .connected _ err _ => err = 0 → f.AtRest
  | .disconnected _ | .gattConnect | .gattDisconnect => f.AtRest
  | _ => True

instance decidableSerial : (e : FirmwareEvent) → (f : Firmware) → Decidable (e.Serial f)
  | .connected _ err _, f => inferInstanceAs (Decidable (err = 0 → f.AtRest))
  | .disconnected _, f => inferInstanceAs (Decidable f.AtRest)
  | .gattConnect, f => inferInstanceAs (Decidable f.AtRest)
  | .gattDisconnect, f => inferInstanceAs (Decidable f.AtRest)
  | .main _, _ => isTrue trivial
  | .btReady _, _ => isTrue trivial
  | .recycled _, _ => isTrue trivial
  | .resume .., _ => isTrue trivial
  | .background .., _ => isTrue trivial

/-! ### One event -/

/-- What an event makes of a count of connections, once `main` has returned. -/
def FirmwareEvent.counted (n : UInt32) : FirmwareEvent → UInt32
  | .connected _ err _ => if err ≠ 0 then n else n + 1
  | .gattConnect => n + 1
  | .disconnected _ | .gattDisconnect => countDown n
  | _ => n

/-- What an event makes of the settled counts and of the connections. -/
inductive FirmwareEvent.Effect (e : FirmwareEvent) (f f' : Firmware) : Prop where
  /-- Nothing. -/
  | kept (settled : f'.settled = f.settled) (live : f'.dev.live = f.dev.live)
    (entered : ∀ n, e.counted n = n)
  /-- A connection. -/
  | up (settled : f'.settled = (f.settled.1 + 1, f.settled.2 + 1))
    (entered : (∃ conn stopRet, e = .connected conn 0 stopRet ∧ conn ≠ 0 ∧ conn ∉ f.dev.live ∧
      f'.dev.live = insert conn f.dev.live) ∨ e = .gattConnect ∧ f'.dev.live = f.dev.live)
  /-- The end of one. -/
  | down (settled : f'.settled = (countDown f.settled.1, countDown f.settled.2))
    (entered : (∃ conn, e = .disconnected conn ∧ conn ∈ f.dev.live ∧
      f'.dev.live = f.dev.live.erase conn) ∨ e = .gattDisconnect ∧ f'.dev.live = f.dev.live)
  /-- A connection that the shell was about to simulate, on a sensor manager that is not armed. -/
  | refused (settled : f.settled = (f'.settled.1 + 1, f'.settled.2 + 1))
    (live : f'.dev.live = f.dev.live) (armed : f.isUp .armed = false)
    (shell : (f.link .shell).isSome = true)

namespace Firmware

variable {f f' : Firmware}

/-- Entering from rest. -/
private theorem AtRest.settled_enter (h : f.AtRest) (caller : LinkCaller) (p : LinkPhase) :
    (f.enter caller p).settled =
      (LinkPhase.managerSettles f.dev.sys.env.mgr.connectedCount (some p),
        LinkPhase.batterySettles f.dev.app.connectedCount (some p)) := by
  rw [settled, (h.enter caller p).2]
  rfl

/-- **One event** that overlaps nothing. -/
theorem Safe.counted (hsafe : f.Safe) (halone : f.Alone) {e : FirmwareEvent}
    (hserial : e.Serial f) {os : List ConnectRets} (hstep : firmwareStep e f = some (f', os)) :
    f'.Alone ∧ e.Effect f f' := by
  have hkept : ∀ {g : Firmware},
      g.dev.sys.env.mgr.connectedCount = f.dev.sys.env.mgr.connectedCount →
      g.dev.app.connectedCount = f.dev.app.connectedCount → g.dev.live = f.dev.live →
      g.link = f.link → (∀ n, e.counted n = n) → g.Alone ∧ e.Effect f g := by
    intro g hmanager hbattery hlive hlink hentered
    refine ⟨by rwa [Alone, hlink], .kept ?_ hlive hentered⟩
    rw [settled, settled, phase, phase, hmanager, hbattery, hlink]
  cases firmwareStep_cases hstep with
  | main hmain =>
    obtain ⟨hmanager, hbattery, hlive, hlink⟩ := mainStep_counts hmain
    exact hkept hmanager hbattery hlive hlink fun _ => rfl
  | btReady => exact hkept rfl rfl rfl rfl fun _ => rfl
  | failed herr => exact hkept rfl rfl rfl rfl fun _ => if_pos herr
  | @connected conn stopRet _ hnull hnew _ =>
    have hrest : f.AtRest := hserial rfl
    have hstopped : AtRest { f with dev := { f.dev with
        adv := bleConnected 0 stopRet (connectionEstablished f.dev.adv)
        live := insert conn f.dev.live } } := hrest
    refine ⟨(hstopped.enter .host .track).1, .up ?_
      (Or.inl ⟨conn, stopRet, rfl, hnull, hnew, rfl⟩)⟩
    rw [hstopped.settled_enter, hrest.settled_eq]
    rfl
  | @disconnected conn hlive _ =>
    have hrest : f.AtRest := hserial
    have hended : AtRest { f with dev := { f.dev with live := f.dev.live.erase conn } } := hrest
    refine ⟨(hended.enter .host .untrack).1, .down ?_ (Or.inl ⟨conn, rfl, hlive, rfl⟩)⟩
    rw [hended.settled_enter, hrest.settled_eq]
    rfl
  | recycled _ => exact hkept rfl rfl rfl rfl fun _ => rfl
  | gattConnect _ =>
    have hrest : f.AtRest := hserial
    refine ⟨(hrest.enter .shell .track).1, .up ?_ (Or.inr ⟨rfl, rfl⟩)⟩
    rw [hrest.settled_enter, hrest.settled_eq]
    rfl
  | gattDisconnect _ =>
    have hrest : f.AtRest := hserial
    refine ⟨(hrest.enter .shell .untrack).1, .down ?_ (Or.inr ⟨rfl, rfl⟩)⟩
    rw [hrest.settled_enter, hrest.settled_eq]
    rfl
  | @resume caller _ _ _ hruntime p d next hp hpiece =>
    have hspec := linkPiece_spec hruntime hpiece
    have hlink : ({ f with
        dev := d, link := Function.update f.link caller next.phase } : Firmware).link =
          Function.update f.link caller next.phase := rfl
    obtain ⟨halone', hphase'⟩ := halone.update hp hlink
    have hhost : caller = .host → f.isUp .armed = true := by
      rintro rfl
      exact hsafe.called (hsafe.host_called hp) .armed
    refine ⟨halone', ?_⟩
    rcases LinkPhase.settles_next (hsafe.accepted caller p hp) hsafe.armed hhost
      f.dev.sys.env.mgr.connectedCount f.dev.app.connectedCount with
      ⟨hmanager, hbattery⟩ | ⟨harmed, hmanager, hbattery⟩
    · refine .kept ?_ hspec.live fun _ => rfl
      rw [settled, settled, hphase', halone.phase_eq hp, hspec.manager, hspec.battery,
        hspec.next_eq]
      exact Prod.ext hmanager hbattery
    · have hcaller : caller = .shell := by
        cases caller with
        | host => exact absurd (harmed.symm.trans (hhost rfl)) (by decide)
        | shell => rfl
      refine .refused ?_ hspec.live harmed (by rw [← hcaller, hp]; rfl)
      rw [settled, settled, hphase', halone.phase_eq hp, hspec.manager, hspec.battery,
        hspec.next_eq]
      exact Prod.ext hmanager hbattery
  | background hb hd =>
    have hsame := Device.same_backgroundStep hb hd
    exact hkept hsame.sys.connectedCount hsame.count hsame.live rfl fun _ => rfl

/-- Both modules will have counted the same. -/
def Agreed (f : Firmware) : Prop := f.Alone ∧ f.settled.1 = f.settled.2

/-- Both will have counted the connections that there are, and the shell simulates none. -/
structure Tallied (f : Firmware) : Prop where
  shell : f.link .shell = none
  manager : Counts f.settled.1 f.dev.live
  battery : Counts f.settled.2 f.dev.live

theorem Agreed.step (h : f.Agreed) (hsafe : f.Safe) {e : FirmwareEvent} (hserial : e.Serial f)
    {os : List ConnectRets} (hstep : firmwareStep e f = some (f', os)) : f'.Agreed := by
  obtain ⟨halone, heffect⟩ := hsafe.counted h.1 hserial hstep
  refine ⟨halone, ?_⟩
  cases heffect with
  | kept hsettled _ _ => rw [hsettled, h.2]
  | up hsettled _ => rw [hsettled, h.2]
  | down hsettled _ => rw [hsettled, h.2]
  | refused hsettled _ _ _ =>
    obtain ⟨hmanager, hbattery⟩ := Prod.ext_iff.mp hsettled
    exact (UInt32.add_left_inj 1).mp (hmanager.symm.trans (h.2.trans hbattery))

/-- The host overlaps nothing if the shell does nothing. -/
theorem serial_of_noShell (hshell : f.link .shell = none) {e : FirmwareEvent} (he : e.noShell)
    {os : List ConnectRets} (hstep : firmwareStep e f = some (f', os)) : e.Serial f := by
  have hrest : f.link .host = none → f.AtRest := fun hhost caller => by
    cases caller with
    | host => exact hhost
    | shell => exact hshell
  cases firmwareStep_cases hstep with
  | failed herr => exact fun hzero => absurd hzero herr
  | connected _ _ _ hidle => exact fun _ => hrest hidle
  | disconnected _ hidle => exact hrest hidle
  | gattConnect _ => exact he.elim
  | gattDisconnect _ => exact he.elim
  | _ => trivial

/-- The shell does not start by itself. -/
private theorem shell_of_noShell (hshell : f.link .shell = none) {e : FirmwareEvent}
    (he : e.noShell) {os : List ConnectRets} (hstep : firmwareStep e f = some (f', os)) :
    f'.link .shell = none := by
  cases firmwareStep_cases hstep with
  | main hmain => rw [(mainStep_counts hmain).2.2.2, hshell]
  | connected _ _ _ _ => exact (update_host_shell f.link (some .track)).trans hshell
  | disconnected _ _ => exact (update_host_shell f.link (some .untrack)).trans hshell
  | gattConnect _ => exact he.elim
  | gattDisconnect _ => exact he.elim
  | @resume caller _ _ _ _ _ _ next hp _ =>
    cases caller with
    | host => exact (update_host_shell f.link next.phase).trans hshell
    | shell => exact absurd (hshell.symm.trans hp) (by simp)
  | _ => exact hshell

theorem Tallied.step (h : f.Tallied) (hsafe : f.Safe) {e : FirmwareEvent} (he : e.noShell)
    {os : List ConnectRets} (hstep : firmwareStep e f = some (f', os)) : f'.Tallied := by
  obtain ⟨-, heffect⟩ := hsafe.counted (Or.inr h.shell) (serial_of_noShell h.shell he hstep) hstep
  have hshell := shell_of_noShell h.shell he hstep
  cases heffect with
  | kept hsettled hlive _ =>
    constructor
    · exact hshell
    · rw [hsettled, hlive]
      exact h.manager
    · rw [hsettled, hlive]
      exact h.battery
  | up hsettled hentered =>
    rcases hentered with ⟨conn, stopRet, -, hnull, hnew, hlive⟩ | ⟨rfl, -⟩
    · constructor
      · exact hshell
      · rw [hsettled, hlive]
        exact h.manager.insert hnull hnew
      · rw [hsettled, hlive]
        exact h.battery.insert hnull hnew
    · exact he.elim
  | down hsettled hentered =>
    rcases hentered with ⟨conn, -, hconn, hlive⟩ | ⟨rfl, -⟩
    · constructor
      · exact hshell
      · rw [hsettled, hlive]
        exact h.manager.countDown hconn
      · rw [hsettled, hlive]
        exact h.battery.countDown hconn
    · exact he.elim
  | refused _ _ _ hsome =>
    rw [h.shell] at hsome
    exact absurd hsome Bool.false_ne_true

end Firmware

/-! ### Every run from power-on -/

theorem firmwareStart_atRest (now : ℤ) (bat : BatteryData) : (firmwareStart now bat).AtRest :=
  fun _ => rfl

theorem firmwareStart_agreed (now : ℤ) (bat : BatteryData) : (firmwareStart now bat).Agreed :=
  ⟨(firmwareStart_atRest now bat).alone, rfl⟩

/-- What holds in a run in which nothing overlaps. -/
theorem firmware_agreed {now : ℤ} {bat : BatteryData} {es : List FirmwareEvent} {f : Firmware}
    {os : List ConnectRets} (hrun : firmwareMachine.run es (firmwareStart now bat) = some (f, os))
    (hserial : firmwareMachine.Along FirmwareEvent.Serial es (firmwareStart now bat)) :
    f.Safe ∧ f.Agreed := by
  have hstep : ∀ {e : FirmwareEvent} {f f' : Firmware} {os : List ConnectRets}, e.Serial f →
      f.Safe ∧ f.Agreed → firmwareMachine.step e f = some (f', os) → f'.Safe ∧ f'.Agreed :=
    fun he h hs => ⟨(h.1.step hs).1, h.2.step h.1 he hs⟩
  exact hserial.invariant hstep ⟨firmwareStart_safe now bat, firmwareStart_agreed now bat⟩ hrun

/-- **The counts of connections agree.** In every run from power-on in which no callback of a
connection and no command that simulates one overlap, the sensor manager and the battery service
have counted the same number of connections whenever none of either is under way; and if the shell
simulates none at all, that is the number of connections that there are. -/
theorem boot_counts {now : ℤ} {bat : BatteryData} {es : List FirmwareEvent} {f : Firmware}
    {os : List ConnectRets} (hrun : firmwareMachine.run es (firmwareStart now bat) = some (f, os))
    (hrest : f.AtRest) :
    (firmwareMachine.Along FirmwareEvent.Serial es (firmwareStart now bat) →
        f.dev.sys.env.mgr.connectedCount = f.dev.app.connectedCount) ∧
      ((∀ e ∈ es, e.noShell) → f.dev.sys.env.mgr.connectedCount.toNat = f.dev.live.card ∧
        f.dev.app.connectedCount.toNat = f.dev.live.card) := by
  have hstart := firmwareStart_safe now bat
  have hsettled := hrest.settled_eq
  constructor
  · intro hserial
    obtain ⟨-, -, hagreed⟩ := firmware_agreed hrun hserial
    rwa [hsettled] at hagreed
  · intro hquiet
    have htallied : firmwareMachine.Preserves FirmwareEvent.noShell fun f => f.Safe ∧ f.Tallied :=
      fun he h hstep => ⟨(h.1.step hstep).1, h.2.step h.1 he hstep⟩
    obtain ⟨-, -, hmanager, hbattery⟩ :=
      htallied.run hquiet ⟨hstart, rfl, Counts.zero, Counts.zero⟩ hrun
    rw [hsettled] at hmanager hbattery
    exact ⟨hmanager.count, hbattery.count⟩

/-- `boot_counts` for a boot with two clients. -/
theorem boot_counts_bootWithClients :
    ∃ f os, firmwareMachine.run bootWithClients (firmwareStart 1 { initialized := true }) =
        some (f, os) ∧
      f.dev.sys.env.mgr.connectedCount = f.dev.app.connectedCount ∧
      f.dev.app.connectedCount.toNat = f.dev.live.card := by
  have hruns : (∃ r ∈ firmwareMachine.run bootWithClients
      (firmwareStart 1 { initialized := true }), r.1.AtRest) ∧
        firmwareMachine.Along FirmwareEvent.Serial bootWithClients
          (firmwareStart 1 { initialized := true }) := by
    decide +kernel
  obtain ⟨⟨⟨f, os⟩, hrun, hrest⟩, hserial⟩ := hruns
  have hquiet : ∀ e ∈ bootWithClients, e.noShell := by
    simp [bootWithClients, bootEarly, connectPieces, disconnectPieces, FirmwareEvent.noShell]
  obtain ⟨hagreed, hexact⟩ := boot_counts hrun hrest
  exact ⟨f, os, hrun, hagreed hserial, (hexact hquiet).2⟩

/-- The shell ends a connection while the callback of a client's is at its first update. -/
def endInConnect : List FirmwareEvent :=
  bootEarly ++ .connected 1 0 0 :: .resume .host [] {} [] :: .gattDisconnect ::
    disconnectPieces .shell ++ (connectPieces .host).tail

/-- The counts differ then, with nothing under way. -/
example : ∃ r ∈ firmwareMachine.run endInConnect (firmwareStart 1 { initialized := true }),
    r.1.AtRest ∧ r.1.dev.sys.env.mgr.connectedCount = 0 ∧ r.1.dev.app.connectedCount = 1 := by
  decide +kernel

end EnvMonitor
