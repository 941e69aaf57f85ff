import EnvMonitor.Lib.Exit
import EnvMonitor.Ccs811.Threads

/-!
# The flags of the CCS811 driver

`ccs811_in_idle_mode` and `ccs811_await_first_1s_sample` are what the driver remembers of the
mode of its sensor. Both are written where a mode change has just been answered, and the second
one also where a reader ends its wait, with or without the mutex.

`ccs811_driver_init` takes the mutex twice, once to set up the driver and once for boot
conditioning, and a connect or a readiness poll may come in between. So this machine starts
before the driver and has both critical sections as events. `ccs811_flags_coherent`: whatever
the mutex and the sensor answer, the first flag says whether the sensor is idle, and the second
one is up only while a client is connected to a conditioned sensor in its 1 s mode.
-/

namespace EnvMonitor

/-! ### Initialisation in two sections -/

/-- `ccs811_driver_init` up to where it gives the mutex back. -/
def ccs811InitSection (a : InitAnswers) (s : Ccs811Run) : Exit Ccs811Run :=
  if !a.deviceReady then .returned (-ENODEV) s
  else if a.lockRet ≠ 0 then .returned a.lockRet s
  else if s.drv.dev then .returned 0 s
  else .next { s with drv := { dev := true } }

/-- The rest of it, with boot conditioning if the mutex is acquired again. -/
def ccs811BootSection (relockRet modeRet : ℤ) (s : Ccs811Run) : Ccs811Run :=
  if relockRet = 0 then ccs811StartBootConditioning modeRet s else s

/-! ### The machine -/

/-- The threads of the driver and `ccs811_driver_init`; `starting` while the latter is between
its sections. -/
structure Ccs811Boot where
  threads : Ccs811Threads
  starting : Bool

/-- The critical sections. -/
inductive BootEvent where
  | init (a : InitAnswers)
  | bootConditioning (relockRet modeRet : ℤ)
  | thread (e : ThreadEvent)

/-- One critical section. Boot conditioning follows the section that has set up the driver. -/
def bootStep (e : BootEvent) (b : Ccs811Boot) : Option (Ccs811Boot × List Fetch) :=
  match e with
  | .init a =>
    match ccs811InitSection a b.threads.run with
    | .next s => some ({ threads := { b.threads with run := s }, starting := true }, [])
    | .returned _ s => some ({ b with threads := { b.threads with run := s } }, [])
  | .bootConditioning relockRet modeRet =>
    if b.starting then
      let s := ccs811BootSection relockRet modeRet b.threads.run
      some ({ threads := { b.threads with run := s }, starting := false }, [])
    else none
  | .thread e =>
    (threadStep e b.threads).map fun (threads, fetches) => ({ b with threads := threads }, fetches)

/-- The driver from program start on as a machine. -/
def ccs811BootMachine : Machine Ccs811Boot BootEvent Fetch := ⟨bootStep⟩

/-- The state the program starts with. -/
def ccs811BootStart (now : ℤ) : Ccs811Boot where
  threads := { run := { now := now }, reader := fun _ => .outside, latchedEarly := false }
  starting := false

/-! ### Coherence -/

namespace Ccs811Run

/-- What the flags say of the sensor. -/
structure Coherent (s : Ccs811Run) : Prop where
  idle_iff : s.drv.inIdleMode = true ↔ s.sensorMode = some .idle
  connected_of_await : s.drv.awaitFirst1sSample = true → s.drv.bleConnected = true
  complete_of_await : s.drv.awaitFirst1sSample = true → s.drv.conditioningComplete = true
  mode_of_await : s.drv.awaitFirst1sSample = true → s.sensorMode = some .measurement1Sec

/-- Conditioning has not been started: no readiness poll and no work completes it. -/
structure Unconditioned (s : Ccs811Run) : Prop where
  incomplete : s.drv.conditioningComplete = false
  initTime : s.drv.initTime = 0
  work : s.conditioningWork = none

variable {s : Ccs811Run}

/-- Without the awaited sample only idle mode is to be checked. -/
theorem Coherent.of_not_await (hidle : s.drv.inIdleMode = true ↔ s.sensorMode = some .idle)
    (hawait : s.drv.awaitFirst1sSample = false) : s.Coherent where
  idle_iff := hidle
  connected_of_await h := absurd (hawait.symm.trans h) Bool.false_ne_true
  complete_of_await h := absurd (hawait.symm.trans h) Bool.false_ne_true
  mode_of_await h := absurd (hawait.symm.trans h) Bool.false_ne_true

/-- An incomplete conditioning and a missing client both rule the awaited sample out. -/
theorem Coherent.not_await (h : s.Coherent)
    (hnot : s.drv.conditioningComplete = false ∨ s.drv.bleConnected = false) :
    s.drv.awaitFirst1sSample = false := by
  by_contra hawait
  have hawait : s.drv.awaitFirst1sSample = true := by simpa using hawait
  rcases hnot with hincomplete | hlink
  · exact absurd (hincomplete.symm.trans (h.complete_of_await hawait)) Bool.false_ne_true
  · exact absurd (hlink.symm.trans (h.connected_of_await hawait)) Bool.false_ne_true

/-! The mode changes set their flags as the sensor obeys. -/

theorem Coherent.enter1SecMode (h : s.Coherent) (hlink : s.drv.bleConnected = true)
    (hcomplete : s.drv.conditioningComplete = true) (modeRet : ℤ) :
    (ccs811Enter1SecMode modeRet s).2.Coherent := by
  rw [ccs811Enter1SecMode, ccs811ModeUpdate]
  dsimp only
  split_ifs
  · exact ⟨by simp, fun _ => hlink, fun _ => hcomplete, fun _ => rfl⟩
  · exact ⟨h.idle_iff, h.connected_of_await, h.complete_of_await, h.mode_of_await⟩

theorem Coherent.enterIdleMode (h : s.Coherent) (hawait : s.drv.awaitFirst1sSample = false)
    (modeRet : ℤ) : (ccs811EnterIdleMode modeRet s).2.Coherent := by
  rw [ccs811EnterIdleMode, ccs811ModeUpdate]
  dsimp only
  split_ifs
  · exact .of_not_await (by simp) hawait
  · exact .of_not_await h.idle_iff hawait

theorem Coherent.startBootConditioning (h : s.Coherent)
    (hawait : s.drv.awaitFirst1sSample = false) (modeRet : ℤ) :
    (ccs811StartBootConditioning modeRet s).Coherent := by
  rw [ccs811StartBootConditioning, ccs811ModeUpdate]
  dsimp only
  split_ifs
  · exact .of_not_await (by simp) hawait
  · exact .of_not_await h.idle_iff hawait

/-- Completing the conditioning takes nothing back. -/
theorem Coherent.complete (h : s.Coherent) :
    ({ s with drv := { s.drv with conditioningComplete := true } } : Ccs811Run).Coherent :=
  ⟨h.idle_iff, h.connected_of_await, fun _ => rfl, h.mode_of_await⟩

/-- The end of a read after its entry touches neither the flags nor the mode. -/
theorem Coherent.congr {s' : Ccs811Run} (h : s.Coherent) (hcontrol : s'.control = s.control) :
    s'.Coherent := by
  have hidle : s'.drv.inIdleMode = s.drv.inIdleMode := congrArg (·.drv.inIdleMode) hcontrol
  have hlink : s'.drv.bleConnected = s.drv.bleConnected :=
    congrArg (·.drv.bleConnected) hcontrol
  have hawait : s'.drv.awaitFirst1sSample = s.drv.awaitFirst1sSample :=
    congrArg (·.drv.awaitFirst1sSample) hcontrol
  have hcomplete : s'.drv.conditioningComplete = s.drv.conditioningComplete :=
    congrArg (·.drv.conditioningComplete) hcontrol
  have hmode : s'.sensorMode = s.sensorMode := congrArg (·.sensorMode) hcontrol
  constructor
  · rw [hidle, hmode]
    exact h.idle_iff
  · rw [hawait, hlink]
    exact h.connected_of_await
  · rw [hawait, hcomplete]
    exact h.complete_of_await
  · rw [hawait, hmode]
    exact h.mode_of_await

/-- The end of a wait clears the awaited sample, with or without the mutex. -/
theorem Coherent.readRelock (h : s.Coherent) (relockRet : ℤ) :
    (ccs811ReadRelock relockRet s).2.Coherent := .of_not_await h.idle_iff rfl

theorem Coherent.readEntry (h : s.Coherent) {a : ReadAirQualityAnswers} {entry : ReadEntry}
    {s' : Ccs811Run} (hread : ccs811ReadEntry a s = (entry, s')) : s'.Coherent := by
  have hs' := ccs811ReadEntry_run a s
  rw [hread] at hs'
  change s' = _ at hs'
  rw [hs']
  split_ifs
  · exact h.complete
  · exact h

/-- **Steps** keep the flags coherent, whatever the mutex and the sensor answer. -/
theorem Coherent.step (h : s.Coherent) (e : Ccs811Event) : (ccs811Step s e).Coherent := by
  cases e with
  | tick ms => exact ⟨h.idle_iff, h.connected_of_await, h.complete_of_await, h.mode_of_await⟩
  | connected lockRet modeRet =>
    rw [ccs811Step, ccs811DriverOnConnected]
    dsimp only
    have hlinked : ({ s with drv := { s.drv with bleConnected := true } } : Ccs811Run).Coherent :=
      ⟨h.idle_iff, fun _ => rfl, h.complete_of_await, h.mode_of_await⟩
    split_ifs with hdev hlock hcomplete
    · exact h
    · exact h
    · exact hlinked.enter1SecMode rfl hcomplete modeRet
    · exact hlinked
  | disconnected lockRet modeRet =>
    rw [ccs811Step, ccs811DriverOnDisconnected]
    dsimp only
    have hunlinked : ({ s with
        drv := { s.drv with bleConnected := false, awaitFirst1sSample := false } } :
          Ccs811Run).Coherent := .of_not_await h.idle_iff rfl
    split_ifs
    · exact h
    · exact h
    · exact hunlinked
    · exact hunlinked.enterIdleMode rfl modeRet
  | isReady =>
    rw [ccs811Step, ccs811DriverIsReady_eq]
    dsimp only
    split_ifs
    · exact h.complete
    · exact h
  | conditioningWork lockRet modeRet =>
    rw [ccs811Step]
    cases s.conditioningWork with
    | none => exact h
    | some due =>
      have hrun : ({ s with conditioningWork := none } : Ccs811Run).Coherent :=
        ⟨h.idle_iff, h.connected_of_await, h.complete_of_await, h.mode_of_await⟩
      dsimp only
      rw [ccs811ConditioningWorkHandler]
      dsimp only
      split_ifs with hdue hlock hdone hlink
      · exact hrun
      · exact hrun
      · exact hrun.complete.enter1SecMode hlink rfl modeRet
      · -- without a client no sample is awaited
        exact hrun.complete.enterIdleMode (h.not_await (Or.inr (by simpa using hlink))) modeRet
      · exact h

/-- **Pieces** keep them coherent, too. -/
theorem Coherent.thread {t t' : Ccs811Threads} (h : t.run.Coherent) {e : ThreadEvent}
    {os : List Fetch} (hstep : threadStep e t = some (t', os)) : t'.run.Coherent := by
  rcases threadStep_cases hstep with ⟨e', -, hrun, -⟩ | ⟨r, a, ret, -, hread, -⟩ |
    ⟨r, a, -, hread, -⟩ | ⟨r, a, s, -, hread, hrun, -⟩ | ⟨r, a, last, -, -, hrun, -⟩
  · rw [hrun]
    exact h.step e'
  · exact h.readEntry hread
  · exact h.readEntry hread
  · rw [hrun]
    exact (h.readEntry hread).congr (control_ccs811ReadSample ..)
  · rw [hrun]
    exact (h.readRelock a.relockRet).congr (control_ccs811ReadResume ..)

/-! ### Before boot conditioning -/

/-- Nothing completes a conditioning that has not been started. -/
theorem unconditioned_keeps : Ccs811Keeps Unconditioned where
  congr {s s'} hcore h := by
    have hcomplete : s'.drv.conditioningComplete = s.drv.conditioningComplete :=
      congrArg (·.drv.conditioningComplete) hcore
    have hinit : s'.drv.initTime = s.drv.initTime := congrArg (·.drv.initTime) hcore
    have hwork : s'.conditioningWork = s.conditioningWork :=
      congrArg (·.conditioningWork) hcore
    exact ⟨hcomplete.trans h.incomplete, hinit.trans h.initTime, hwork.trans h.work⟩
  tick _ _ h := ⟨h.incomplete, h.initTime, h.work⟩
  latch hlatches h := by
    simp [latches, h.initTime] at hlatches
  workRun h := ⟨h.incomplete, h.initTime, rfl⟩
  workDone hwork _ h := by
    rw [h.work] at hwork
    cases hwork
  sample _ _ _ hcomplete h :=
    absurd (h.incomplete.symm.trans hcomplete) Bool.false_ne_true

/-- Without a device the driver does nothing. -/
theorem Unconditioned.step_off {s : Ccs811Run} (h : s.Unconditioned) (hdev : s.drv.dev = false)
    (e : Ccs811Event) : ∃ now, ccs811Step s e = { s with now := now } := by
  cases e with
  | tick ms => exact ⟨_, rfl⟩
  | connected lockRet modeRet =>
    exact ⟨s.now, by simp [ccs811Step, ccs811DriverOnConnected, hdev]⟩
  | disconnected lockRet modeRet =>
    exact ⟨s.now, by simp [ccs811Step, ccs811DriverOnDisconnected, hdev]⟩
  | isReady =>
    exact ⟨s.now, by simp [ccs811Step, ccs811DriverIsReady, h.incomplete, h.initTime]⟩
  | conditioningWork lockRet modeRet =>
    have hidle : ccs811Step s (.conditioningWork lockRet modeRet) = s := by
      rw [ccs811Step, h.work]
    exact ⟨s.now, hidle⟩

end Ccs811Run

/-- Neither does a piece of it; no reader waits. -/
theorem threadStep_off {t t' : Ccs811Threads} {e : ThreadEvent} {os : List Fetch}
    (h : t.run.Unconditioned) (hwaits : t.WaitsComplete) (hdev : t.run.drv.dev = false)
    (hstep : threadStep e t = some (t', os)) : t'.run.sensorMode = t.run.sensorMode := by
  have hentry (a : ReadAirQualityAnswers) :
      ccs811ReadEntry a t.run = (.finished (-ENODEV), t.run) := by
    simp [ccs811ReadEntry, hdev]
  rcases threadStep_cases hstep with ⟨e', -, hrun, -⟩ | ⟨r, a, ret, -, hread, -⟩ |
    ⟨r, a, -, hread, -⟩ | ⟨r, a, s, -, hread, -⟩ | ⟨r, a, last, -, hphase, -⟩
  · obtain ⟨now, hnow⟩ := h.step_off hdev e'
    rw [hrun, hnow]
  · rw [← (Prod.mk.inj ((hentry a).symm.trans hread)).2]
  · cases (Prod.mk.inj ((hentry a).symm.trans hread)).1
  · cases (Prod.mk.inj ((hentry a).symm.trans hread)).1
  · exact absurd (h.incomplete.symm.trans (hwaits r last hphase)) Bool.false_ne_true

/-- The device is set by `ccs811_driver_init` only. -/
theorem dev_keeps (dev : Bool) : Ccs811Keeps fun s => s.drv.dev = dev where
  congr hcore h := (congrArg (·.drv.dev) hcore).trans h
  tick _ _ h := h
  latch _ h := h
  workRun h := h
  workDone _ _ h := h
  sample a out s _ h := (congrArg (·.drv.dev) (control_ccs811ReadSample a out s)).trans h

/-- A sensor that is conditioned, with a client, and read once, with the given values. -/
def sampledOnce (co2Val1 tvocVal1 : ℤ) : List BootEvent :=
  [.init {}, .bootConditioning 0 0, .thread (.step (.tick 1200000)),
    .thread (.step (.conditioningWork 0 0)), .thread (.step (.connected 0 0)),
    .thread (.readStart 0 {}), .thread (.step (.tick 1500)),
    .thread (.readResume 0 { sample := { co2Val1 := co2Val1, tvocVal1 := tvocVal1 } })]

/-! ### Every run -/

/-- The invariant of the machine. Boot conditioning, which takes the completion back, comes
before anything has been completed. -/
structure Ccs811Boot.Inv (b : Ccs811Boot) : Prop where
  coherent : b.threads.run.Coherent
  waits : b.threads.WaitsComplete
  dev_of_starting : b.starting = true → b.threads.run.drv.dev = true
  unconditioned : b.threads.run.drv.dev = false ∨ b.starting = true →
    b.threads.run.Unconditioned
  off : b.threads.run.drv.dev = false → b.threads.run.sensorMode = none

namespace Ccs811Boot.Inv

variable {b : Ccs811Boot}

theorem start (now : ℤ) : (ccs811BootStart now).Inv where
  coherent := .of_not_await (by simp [ccs811BootStart]) rfl
  waits _ _ h := by cases h
  dev_of_starting h := absurd h Bool.false_ne_true
  unconditioned _ := ⟨rfl, rfl, rfl⟩
  off _ := rfl

/-- An incomplete conditioning has no reader waiting. -/
theorem waits_of_incomplete (h : b.Inv)
    (hincomplete : b.threads.run.drv.conditioningComplete = false) (s : Ccs811Run) :
    ({ b.threads with run := s } : Ccs811Threads).WaitsComplete :=
  fun r last hr =>
    absurd (hincomplete.symm.trans (h.waits r last hr)) Bool.false_ne_true

theorem init (h : b.Inv) {a : InitAnswers} {b' : Ccs811Boot} {os : List Fetch}
    (hstep : bootStep (.init a) b = some (b', os)) : b'.Inv := by
  rw [bootStep, ccs811InitSection] at hstep
  split_ifs at hstep with hdevice hlock hdev
  · obtain ⟨rfl, -⟩ := Prod.mk.inj (Option.some.inj hstep)
    exact h
  · obtain ⟨rfl, -⟩ := Prod.mk.inj (Option.some.inj hstep)
    exact h
  · obtain ⟨rfl, -⟩ := Prod.mk.inj (Option.some.inj hstep)
    exact h
  · obtain ⟨rfl, -⟩ := Prod.mk.inj (Option.some.inj hstep)
    have hoff : b.threads.run.drv.dev = false := by simpa using hdev
    have hunconditioned := h.unconditioned (Or.inl hoff)
    refine ⟨.of_not_await ?_ rfl, h.waits_of_incomplete hunconditioned.incomplete _,
      fun _ => rfl, fun _ => ⟨rfl, rfl, hunconditioned.work⟩,
      fun h => absurd h.symm Bool.false_ne_true⟩
    -- the sensor has not been given any mode yet
    simp [h.off hoff]

theorem bootConditioning (h : b.Inv) {relockRet modeRet : ℤ} {b' : Ccs811Boot}
    {os : List Fetch} (hstep : bootStep (.bootConditioning relockRet modeRet) b = some (b', os)) :
    b'.Inv := by
  rw [bootStep] at hstep
  split_ifs at hstep with hstarting
  obtain ⟨rfl, -⟩ := Prod.mk.inj (Option.some.inj hstep)
  have hdev := h.dev_of_starting hstarting
  have hincomplete := (h.unconditioned (Or.inr hstarting)).incomplete
  have hawait := h.coherent.not_await (Or.inl hincomplete)
  have hbooted : (ccs811BootSection relockRet modeRet b.threads.run).Coherent ∧
      (ccs811BootSection relockRet modeRet b.threads.run).drv.dev = true := by
    rw [ccs811BootSection]
    split_ifs
    · refine ⟨h.coherent.startBootConditioning hawait _, ?_⟩
      rw [ccs811StartBootConditioning, ccs811ModeUpdate]
      dsimp only
      split_ifs <;> exact hdev
    · exact ⟨h.coherent, hdev⟩
  refine ⟨hbooted.1, h.waits_of_incomplete hincomplete _, fun h => absurd h Bool.false_ne_true,
    fun hor => ?_, fun hoff => absurd (hoff.symm.trans hbooted.2) Bool.false_ne_true⟩
  rcases hor with hoff | hstarting'
  · exact absurd (hoff.symm.trans hbooted.2) Bool.false_ne_true
  · exact absurd hstarting' Bool.false_ne_true

theorem thread (h : b.Inv) {e : ThreadEvent} {b' : Ccs811Boot} {os : List Fetch}
    (hstep : bootStep (.thread e) b = some (b', os)) : b'.Inv := by
  obtain ⟨⟨threads, fetches⟩, hthread, heq⟩ := Option.map_eq_some_iff.mp hstep
  obtain ⟨rfl, -⟩ := Prod.mk.inj heq
  have hdev : threads.run.drv.dev = b.threads.run.drv.dev :=
    (dev_keeps _).thread hthread h.waits rfl
  refine ⟨h.coherent.thread hthread, h.waits.step hthread, fun hstarting => ?_, fun hor => ?_,
    fun hoff => ?_⟩
  · exact hdev.trans (h.dev_of_starting hstarting)
  · rw [hdev] at hor
    exact Ccs811Run.unconditioned_keeps.thread hthread h.waits (h.unconditioned hor)
  · have hoff : b.threads.run.drv.dev = false := hdev.symm.trans hoff
    exact (threadStep_off (h.unconditioned (Or.inl hoff)) h.waits hoff hthread).trans (h.off hoff)

/-- **Invariant.** Every critical section keeps it. -/
theorem preserves : ccs811BootMachine.Preserves Machine.anyEvent Ccs811Boot.Inv := by
  intro e b b' os _ h hstep
  cases e with
  | init a => exact h.init hstep
  | bootConditioning relockRet modeRet => exact h.bootConditioning hstep
  | thread e => exact h.thread hstep

end Ccs811Boot.Inv

/-- **Runs.** What survives each change of the core, and both sections of `ccs811_driver_init`,
holds in every state that a run from program start reaches. -/
theorem Ccs811Keeps.bootRun {Q : Ccs811Run → Prop} (hQ : Ccs811Keeps Q)
    (hinit : ∀ {s}, s.Unconditioned → Q s → Q { s with drv := { dev := true } })
    (hboot : ∀ modeRet {s}, s.drv.dev = true → s.Unconditioned → Q s →
      Q (ccs811StartBootConditioning modeRet s))
    {now : ℤ}
    (hstart : Q { now := now }) {es : List BootEvent} {b : Ccs811Boot} {fetches : List Fetch}
    (hrun : ccs811BootMachine.run es (ccs811BootStart now) = some (b, fetches)) :
    Q b.threads.run := by
  have hI : ccs811BootMachine.Preserves Machine.anyEvent
      fun b => b.Inv ∧ Q b.threads.run := by
    intro e b b' os he h hstep
    refine ⟨Ccs811Boot.Inv.preserves he h.1 hstep, ?_⟩
    cases e with
    | init a =>
      simp only [ccs811BootMachine, bootStep, ccs811InitSection] at hstep
      split_ifs at hstep with hdevice hlock hdev <;>
        obtain ⟨rfl, -⟩ := Prod.mk.inj (Option.some.inj hstep)
      · exact h.2
      · exact h.2
      · exact h.2
      · exact hinit (h.1.unconditioned (Or.inl (by simpa using hdev))) h.2
    | bootConditioning relockRet modeRet =>
      simp only [ccs811BootMachine, bootStep, ccs811BootSection] at hstep
      split_ifs at hstep with hstarting <;>
        obtain ⟨rfl, -⟩ := Prod.mk.inj (Option.some.inj hstep)
      · exact hboot modeRet (h.1.dev_of_starting hstarting)
          (h.1.unconditioned (Or.inr hstarting)) h.2
      · exact h.2
    | thread e =>
      obtain ⟨⟨threads, fetches⟩, hthread, heq⟩ := Option.map_eq_some_iff.mp hstep
      obtain ⟨rfl, -⟩ := Prod.mk.inj heq
      exact hQ.thread hthread h.1.waits h.2
  exact (hI.run (fun _ _ => trivial) ⟨.start now, hstart⟩ hrun).2

/-- **Coherent flags.** In every interleaving of the critical sections of the driver from
program start on, whatever the mutex and the sensor answer: `ccs811_in_idle_mode` is up exactly
if the last mode change that succeeded was to idle, and `ccs811_await_first_1s_sample` only
while a client is connected, the conditioning is complete, the sensor is not idle and the last
mode change that succeeded was to the 1 s mode. -/
theorem ccs811_flags_coherent {now : ℤ} {es : List BootEvent} {b : Ccs811Boot}
    {fetches : List Fetch}
    (hrun : ccs811BootMachine.run es (ccs811BootStart now) = some (b, fetches)) :
    let s := b.threads.run
    (s.drv.inIdleMode = true ↔ s.sensorMode = some .idle) ∧
      (s.drv.awaitFirst1sSample = true →
        s.drv.bleConnected = true ∧ s.drv.conditioningComplete = true ∧
          s.drv.inIdleMode = false ∧ s.sensorMode = some .measurement1Sec) := by
  intro s
  have hs : s.Coherent :=
    (Ccs811Boot.Inv.preserves.run (fun _ _ => trivial) (.start now) hrun).coherent
  refine ⟨hs.idle_iff, fun hawait => ?_⟩
  have hmode := hs.mode_of_await hawait
  have hawake : s.drv.inIdleMode = false := by
    rw [Bool.eq_false_iff, ne_eq, hs.idle_iff, hmode]
    decide
  exact ⟨hs.connected_of_await hawait, hs.complete_of_await hawait, hawake, hmode⟩

/-- A client connects before boot conditioning; after it, the mode change to 1 s succeeds and
a read waits. The mode change at the disconnect fails, and the read cannot take the mutex
again. -/
def refusedIdle : List BootEvent :=
  [.init {}, .thread (.step (.connected 0 0)), .bootConditioning 0 0,
    .thread (.step (.tick 1200000)), .thread (.step (.conditioningWork 0 0)),
    .thread (.readStart 0 {}), .thread (.step (.disconnected 0 (-5))),
    .thread (.readResume 0 { relockRet := -11 }), .thread (.step (.connected 0 0))]

theorem refusedIdle_flags :
    ∃ r ∈ ccs811BootMachine.run refusedIdle (ccs811BootStart 1),
      r.1.threads.run.drv.inIdleMode = false ∧
        r.1.threads.run.drv.awaitFirst1sSample = true := by
  decide +kernel

/-- `ccs811_flags_coherent` where a mode change and an acquisition of the mutex fail. -/
theorem ccs811_flags_coherent_refusedIdle :
    ∃ b fetches, ccs811BootMachine.run refusedIdle (ccs811BootStart 1) = some (b, fetches) ∧
      let s := b.threads.run
      (s.drv.inIdleMode = true ↔ s.sensorMode = some .idle) ∧
        (s.drv.awaitFirst1sSample = true →
          s.drv.bleConnected = true ∧ s.drv.conditioningComplete = true ∧
            s.drv.inIdleMode = false ∧ s.sensorMode = some .measurement1Sec) := by
  obtain ⟨⟨b, fetches⟩, hrun, -⟩ := refusedIdle_flags
  exact ⟨b, fetches, hrun, ccs811_flags_coherent hrun⟩

end EnvMonitor
