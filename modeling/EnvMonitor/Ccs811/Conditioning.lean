import EnvMonitor.Ccs811.Pieces

/-!
# The conditioning of the CCS811

The driver counts the sensor as conditioned once a readiness poll finds the time over or the
conditioning work runs. `Conditioned` is what ties either to the clock; it holds whatever the
mutex, the sensor and the link do, and with it a read that returns `0`, be it from the cache,
has found the sensor conditioned.
-/

namespace EnvMonitor

/-- What holds of the conditioning in every reachable state of the driver. -/
structure Ccs811Run.Conditioned (s : Ccs811Run) : Prop where
  /-- It is complete only when its time is over. -/
  elapsed : s.drv.conditioningComplete = true →
    ∃ start, s.conditioningStart = some start ∧ start + CCS811_CONDITIONING_TIME_MS ≤ s.now
  /-- `ccs811_init_time` is when it started. -/
  initTime : s.drv.initTime ≠ 0 → s.conditioningStart = some s.drv.initTime
  /-- The work is due at its end. -/
  due : ∀ due, s.conditioningWork = some due →
    s.conditioningStart = some (due - CCS811_CONDITIONING_TIME_MS)
  /-- Without a device it has not started. -/
  dev : s.drv.dev = false → s.drv.conditioningComplete = false ∧ s.drv.initTime = 0 ∧
    s.conditioningWork = none
  /-- Nothing is cached before it is complete. -/
  sampled : s.drv.firstSampleObtained = true → s.drv.conditioningComplete = true

namespace Ccs811Run

/-- The state the program starts with. -/
theorem conditioned_start (now : ℤ) : ({ now := now } : Ccs811Run).Conditioned where
  elapsed := nofun
  initTime h := absurd rfl h
  due := nofun
  dev _ := ⟨rfl, rfl, rfl⟩
  sampled := nofun

theorem Conditioned.congr {s s' : Ccs811Run} (hcore : s'.core = s.core) (h : s.Conditioned) :
    s'.Conditioned := by
  have hdrv : s'.core.drv = s.core.drv := congrArg (·.drv) hcore
  have hcomplete : s'.drv.conditioningComplete = s.drv.conditioningComplete :=
    congrArg (·.conditioningComplete) hdrv
  have hinit : s'.drv.initTime = s.drv.initTime := congrArg (·.initTime) hdrv
  have hdev : s'.drv.dev = s.drv.dev := congrArg (·.dev) hdrv
  have hfirst : s'.drv.firstSampleObtained = s.drv.firstSampleObtained :=
    congrArg (·.firstSampleObtained) hdrv
  have hnow : s'.now = s.now := congrArg (·.now) hcore
  have hwork : s'.conditioningWork = s.conditioningWork := congrArg (·.conditioningWork) hcore
  have hstart : s'.conditioningStart = s.conditioningStart :=
    congrArg (·.conditioningStart) hcore
  constructor
  · rw [hcomplete, hstart, hnow]
    exact h.elapsed
  · rw [hinit, hstart]
    exact h.initTime
  · rw [hwork, hstart]
    exact h.due
  · rw [hdev, hcomplete, hinit, hwork]
    exact h.dev
  · rw [hfirst, hcomplete]
    exact h.sampled

/-- A readiness poll that completes the conditioning finds its time over. -/
theorem Conditioned.elapsed_of_latches {s : Ccs811Run} (h : s.Conditioned)
    (hlatches : s.latches = true) :
    s.drv.dev = true ∧
      ∃ start, s.conditioningStart = some start ∧
        start + CCS811_CONDITIONING_TIME_MS ≤ s.now := by
  simp only [latches, Bool.and_eq_true, bne_iff_ne, decide_eq_true_eq] at hlatches
  obtain ⟨⟨-, hinit⟩, htime⟩ := hlatches
  refine ⟨?_, s.drv.initTime, h.initTime hinit, by omega⟩
  by_contra hdev
  exact hinit (h.dev (by simpa using hdev)).2.1

/-- **Invariant.** Every step of the driver and every read keeps it. -/
theorem conditioned_keeps : Ccs811Keeps Conditioned where
  congr hcore h := h.congr hcore
  tick ms {s} h := by
    refine ⟨fun hcomplete => ?_, h.initTime, h.due, h.dev, h.sampled⟩
    obtain ⟨start, hstart, htime⟩ := h.elapsed hcomplete
    exact ⟨start, hstart, by dsimp only; omega⟩
  latch hlatches h := by
    obtain ⟨hdev, helapsed⟩ := h.elapsed_of_latches hlatches
    exact ⟨fun _ => helapsed, h.initTime, h.due,
      fun hoff => absurd (hdev.symm.trans hoff) (by decide), fun _ => rfl⟩
  workRun h :=
    ⟨h.elapsed, h.initTime, nofun,
      fun hdev => ⟨(h.dev hdev).1, (h.dev hdev).2.1, rfl⟩, h.sampled⟩
  workDone {s due} hwork hdue h := by
    -- the work is not run before it is due
    refine ⟨fun _ => ⟨due - CCS811_CONDITIONING_TIME_MS, h.due due hwork, ?_⟩, h.initTime,
      nofun, fun hdev => ?_, fun _ => rfl⟩
    · dsimp only
      omega
    · rw [(h.dev hdev).2.2] at hwork
      cases hwork
  sample a out {s} hcomplete h := by
    obtain ⟨start, hstart, htime⟩ := h.elapsed hcomplete
    rcases ccs811ReadSample_cases a out s with
      ⟨_, -, hsample⟩ | ⟨_, _, -, -, hsample⟩ | ⟨_, _, -, -, hsample⟩ <;> rw [hsample] <;>
      exact ⟨fun _ => ⟨start, hstart, by dsimp only; omega⟩, h.initTime, h.due, h.dev,
        fun _ => hcomplete⟩

/-! The two sections of `ccs811_driver_init` start from nothing. -/

theorem conditioned_fresh {s : Ccs811Run} (hwork : s.conditioningWork = none) :
    ({ s with drv := { dev := true } } : Ccs811Run).Conditioned where
  elapsed := nofun
  initTime h := absurd rfl h
  due due hdue := by
    rw [hwork] at hdue
    cases hdue
  dev := nofun
  sampled := nofun

theorem conditioned_startBootConditioning {s : Ccs811Run} (hdev : s.drv.dev = true)
    (hfirst : s.drv.firstSampleObtained = false) (modeRet : ℤ) :
    (ccs811StartBootConditioning modeRet s).Conditioned := by
  by_cases hmode : modeRet = 0 <;>
    simp only [ccs811StartBootConditioning, ccs811ModeUpdate, hmode, if_true, if_false] <;>
    refine ⟨fun h => absurd h Bool.false_ne_true, fun _ => rfl, fun due hdue => ?_,
      fun h => absurd (hdev.symm.trans h).symm Bool.false_ne_true,
      fun h => absurd (hfirst.symm.trans h) Bool.false_ne_true⟩ <;>
    obtain rfl := Option.some.inj hdue <;>
    exact congrArg some (by omega)

/-- `ccs811_driver_init` keeps it, and does not take the conditioning back. -/
theorem Conditioned.init {s : Ccs811Run} (h : s.Conditioned) (a : InitAnswers) :
    (ccs811DriverInit a s).2.Conditioned ∧
      (s.drv.conditioningComplete = true →
        (ccs811DriverInit a s).2.drv.conditioningComplete = true) := by
  rw [ccs811DriverInit]
  dsimp only
  split_ifs with hdevice hlock hdev hrelock
  · exact ⟨h, id⟩
  · exact ⟨h, id⟩
  · exact ⟨h, id⟩
  -- the first `ccs811_driver_init`: without a device nothing was complete
  all_goals
    obtain ⟨hincomplete, -, hnowork⟩ := h.dev (by simpa using hdev)
    refine ⟨?_, fun hcomplete => absurd (hincomplete.symm.trans hcomplete) (by decide)⟩
  · exact conditioned_startBootConditioning rfl rfl a.modeRet
  · exact conditioned_fresh hnowork

/-- A read for BLE that returns `0` has found the conditioning complete. -/
theorem Conditioned.complete_of_readForBle {a : ReadAirQualityAnswers}
    {during : List Ccs811Event} {out : UInt16 × UInt16} {s s' : Ccs811Run}
    {answer : GasAnswer} (h : s'.Conditioned)
    (hread : ccs811DriverReadForBle a (ccs811Steps during) out s = (answer, s'))
    (hret : answer.ret = 0) : s'.drv.conditioningComplete = true := by
  rcases ccs811DriverReadForBle_success hread hret with hfresh | ⟨-, hfirst, -⟩
  · exact (ccs811DriverReadAirQuality_success hfresh hret).1
  · exact h.sampled hfirst

end Ccs811Run

end EnvMonitor
