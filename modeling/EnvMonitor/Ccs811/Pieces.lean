import EnvMonitor.Ccs811.Driver

/-!
# What the pieces of the CCS811 driver do

A readiness poll completes the conditioning or does nothing; a read polls, may wait, and takes
a sample. `ccs811DriverReadAirQuality_cases` puts the pieces of a read together, and from it
come the rule for what a read keeps, `Ccs811Keeps`, and what a successful read means.
-/

namespace EnvMonitor

/-! ### Readiness -/

/-- The conditioning time is over and the conditioning not yet complete: the next readiness
poll completes it. -/
def Ccs811Run.latches (s : Ccs811Run) : Bool :=
  !s.drv.conditioningComplete && s.drv.initTime != 0 &&
    s.now - s.drv.initTime ≥ CCS811_CONDITIONING_TIME_MS

/-- A readiness poll does nothing but complete the conditioning when it is time. -/
theorem ccs811DriverIsReady_eq (s : Ccs811Run) :
    ccs811DriverIsReady s =
      (s.drv.conditioningComplete || s.latches,
        if s.latches then { s with drv := { s.drv with conditioningComplete := true } }
        else s) := by
  cases hcomplete : s.drv.conditioningComplete with
  | true => simp [ccs811DriverIsReady, Ccs811Run.latches, hcomplete]
  | false =>
    by_cases hinit : s.drv.initTime = 0
    · simp [ccs811DriverIsReady, Ccs811Run.latches, hcomplete, hinit]
    · by_cases htime : s.now - s.drv.initTime ≥ CCS811_CONDITIONING_TIME_MS <;>
        simp [ccs811DriverIsReady, Ccs811Run.latches, hcomplete, hinit, htime]

/-- The poll says whether the conditioning is complete after it. -/
theorem ccs811DriverIsReady_complete (s : Ccs811Run) :
    (ccs811DriverIsReady s).2.drv.conditioningComplete = (ccs811DriverIsReady s).1 := by
  rw [ccs811DriverIsReady_eq]
  cases s.latches <;> simp

/-! ### The entry of a read -/

/-- The read gets as far as its readiness poll. -/
def ReadAirQualityAnswers.polls (a : ReadAirQualityAnswers) (s : Ccs811Run) : Bool :=
  s.drv.dev && a.lockRet == 0 && a.deviceReady

/-- The entry of a read is a readiness poll or nothing. -/
theorem ccs811ReadEntry_step (a : ReadAirQualityAnswers) (s : Ccs811Run) :
    (ccs811ReadEntry a s).2 = if a.polls s then ccs811Step s .isReady else s := by
  rw [ccs811ReadEntry, ReadAirQualityAnswers.polls]
  cases hdev : s.drv.dev with
  | false => rfl
  | true =>
    by_cases hlock : a.lockRet = 0
    · cases hdevice : a.deviceReady with
      | false => simp [hlock]
      | true =>
        -- whatever the poll says, the driver is as it leaves it
        simp only [hlock, Bool.not_true, Bool.false_eq_true, if_false, ne_eq, not_true,
          beq_self_eq_true, Bool.and_self, if_true]
        split_ifs <;> rfl
    · simp [hlock]

/-- Of the driver it changes only whether the conditioning is complete. -/
theorem ccs811ReadEntry_run (a : ReadAirQualityAnswers) (s : Ccs811Run) :
    (ccs811ReadEntry a s).2 =
      if a.polls s ∧ s.latches then
        { s with drv := { s.drv with conditioningComplete := true } }
      else s := by
  rw [ccs811ReadEntry_step, ccs811Step, ccs811DriverIsReady_eq]
  cases a.polls s <;> simp

/-- A read that does not return at its entry has found the conditioning complete and the
sensor measuring or connected; it waits exactly if the first sample is awaited. -/
theorem ccs811ReadEntry_passed {a : ReadAirQualityAnswers} {s s' : Ccs811Run}
    {entry : ReadEntry} (h : ccs811ReadEntry a s = (entry, s'))
    (hentry : ∀ ret, entry ≠ .finished ret) :
    s'.drv.conditioningComplete = true ∧
      ¬ (s'.drv.inIdleMode = true ∧ s'.drv.bleConnected = false) ∧
      (entry = .waiting ↔ s'.drv.awaitFirst1sSample = true) := by
  rw [ccs811ReadEntry] at h
  split_ifs at h with hdev hlock hdevice
  · exact absurd (Prod.mk.inj h).1.symm (hentry _)
  · exact absurd (Prod.mk.inj h).1.symm (hentry _)
  · exact absurd (Prod.mk.inj h).1.symm (hentry _)
  have hcomplete := ccs811DriverIsReady_complete s
  rcases hready : ccs811DriverIsReady s with ⟨isReady, s₁⟩
  rw [hready] at h hcomplete
  dsimp only at h hcomplete
  split_ifs at h with hnot hidle hawait
  · exact absurd (Prod.mk.inj h).1.symm (hentry _)
  · exact absurd (Prod.mk.inj h).1.symm (hentry _)
  · obtain ⟨rfl, rfl⟩ := Prod.mk.inj h
    exact ⟨by simpa [hcomplete] using hnot, by simpa using hidle, by simpa using hawait⟩
  · obtain ⟨rfl, rfl⟩ := Prod.mk.inj h
    exact ⟨by simpa [hcomplete] using hnot, by simpa using hidle, by simpa using hawait⟩

/-- A read that returns at its entry fails. -/
theorem ccs811ReadEntry_finished {a : ReadAirQualityAnswers} {s s' : Ccs811Run} {ret : ℤ}
    (h : ccs811ReadEntry a s = (.finished ret, s')) : ret ≠ 0 := by
  have hnodev : (-ENODEV : ℤ) ≠ 0 := by decide
  have hagain : (-EAGAIN : ℤ) ≠ 0 := by decide
  rw [ccs811ReadEntry] at h
  dsimp only at h
  split_ifs at h with hdev hlock
  · exact ReadEntry.finished.inj (Prod.mk.inj h).1 ▸ hnodev
  · exact ReadEntry.finished.inj (Prod.mk.inj h).1 ▸ hlock
  · exact ReadEntry.finished.inj (Prod.mk.inj h).1 ▸ hnodev
  · exact ReadEntry.finished.inj (Prod.mk.inj h).1 ▸ hagain
  · exact ReadEntry.finished.inj (Prod.mk.inj h).1 ▸ hagain
  -- the other two ways out wait or fetch
  · cases (Prod.mk.inj h).1
  · cases (Prod.mk.inj h).1

/-! ### The end of a read -/

/-- What the pieces of a read after its entry leave alone: everything but the clock, the
cached sample and the history. -/
def Ccs811Run.control (s : Ccs811Run) : Ccs811Run :=
  { s with
    drv := { s.drv with
      firstSampleObtained := false, cachedCo2Ppm := 0, cachedTvocPpb := 0, lastSampleTime := 0 }
    now := 0
    obtained := [] }

@[simp]
theorem control_ccs811ReadSample (a : SampleAnswers) (out : UInt16 × UInt16) (s : Ccs811Run) :
    (ccs811ReadSample a out s).2.control = s.control := by
  rw [ccs811ReadSample]
  split_ifs
  · rfl
  · cases co2Channel a.co2Ret a.co2Val1 with
    | error ret => rfl
    | ok co2Ppm => cases tvocChannel a.tvocRet a.tvocVal1 <;> rfl

theorem control_ccs811ReadResume (a : ReadAirQualityAnswers) (out : UInt16 × UInt16)
    (s : Ccs811Run) :
    (ccs811ReadResume a out s).2.control = (ccs811ReadRelock a.relockRet s).2.control := by
  rw [ccs811ReadResume, ccs811ReadRelock]
  dsimp only
  split_ifs
  · rfl
  · exact control_ccs811ReadSample ..

/-! A channel that gives no value gives an error code. -/

theorem co2Channel_error {ret val1 e : ℤ} (h : co2Channel ret val1 = .error e) : e ≠ 0 := by
  rw [co2Channel] at h
  split_ifs at h with hret <;> obtain rfl := Except.error.inj h
  · decide
  · decide
  · exact hret

theorem tvocChannel_error {ret val1 e : ℤ} (h : tvocChannel ret val1 = .error e) : e ≠ 0 := by
  rw [tvocChannel] at h
  split_ifs at h with hret <;> obtain rfl := Except.error.inj h
  · decide
  · exact hret

/-- **One sample.** It fails before anything is assigned, or it assigns and caches the CO2 and
fails then, or it succeeds with both gases. -/
theorem ccs811ReadSample_cases (a : SampleAnswers) (out : UInt16 × UInt16) (s : Ccs811Run) :
    let later := s.now + a.fetchTime
    (∃ ret, ret ≠ 0 ∧
        ccs811ReadSample a out s = (⟨ret, out.1, out.2⟩, { s with now := later })) ∨
      (∃ ret co2Ppm, ret ≠ 0 ∧ co2Channel a.co2Ret a.co2Val1 = .ok co2Ppm ∧
        ccs811ReadSample a out s = (⟨ret, co2Ppm, out.2⟩,
          { s with
            drv := { s.drv with cachedCo2Ppm := co2Ppm }
            now := later
            obtained := ⟨co2Ppm, none, later⟩ :: s.obtained })) ∨
      ∃ co2Ppm tvocPpb, co2Channel a.co2Ret a.co2Val1 = .ok co2Ppm ∧
        tvocChannel a.tvocRet a.tvocVal1 = .ok tvocPpb ∧
        ccs811ReadSample a out s = (⟨0, co2Ppm, tvocPpb⟩,
          { s with
            drv := { s.drv with
              cachedCo2Ppm := co2Ppm, cachedTvocPpb := tvocPpb,
              lastSampleTime := later, firstSampleObtained := true }
            now := later
            obtained := ⟨co2Ppm, some tvocPpb, later⟩ :: s.obtained }) := by
  intro later
  by_cases hstatus : sampleStatus a = 0
  · rcases hco2 : co2Channel a.co2Ret a.co2Val1 with ret | co2Ppm
    · refine Or.inl ⟨ret, co2Channel_error hco2, ?_⟩
      simp [ccs811ReadSample, hstatus, hco2, later]
    · rcases htvoc : tvocChannel a.tvocRet a.tvocVal1 with ret | tvocPpb
      · refine Or.inr (Or.inl ⟨ret, co2Ppm, tvocChannel_error htvoc, rfl, ?_⟩)
        simp [ccs811ReadSample, hstatus, hco2, htvoc, later]
      · refine Or.inr (Or.inr ⟨co2Ppm, tvocPpb, rfl, rfl, ?_⟩)
        simp [ccs811ReadSample, hstatus, hco2, htvoc, later]
  · refine Or.inl ⟨sampleStatus a, hstatus, ?_⟩
    simp [ccs811ReadSample, hstatus, later]

/-! ### Steps -/

/-- What a mode change and the link leave alone: the conditioning, the cached sample, the clock
and the history. -/
def Ccs811Run.core (s : Ccs811Run) : Ccs811Run :=
  { s with
    drv := { s.drv with
      inIdleMode := false, bleConnected := false, awaitFirst1sSample := false }
    mode := none
    sensorMode := none }

@[simp]
theorem core_ccs811Enter1SecMode (modeRet : ℤ) (s : Ccs811Run) :
    (ccs811Enter1SecMode modeRet s).2.core = s.core := by
  rw [ccs811Enter1SecMode, ccs811ModeUpdate]
  dsimp only
  split_ifs <;> rfl

@[simp]
theorem core_ccs811EnterIdleMode (modeRet : ℤ) (s : Ccs811Run) :
    (ccs811EnterIdleMode modeRet s).2.core = s.core := by
  rw [ccs811EnterIdleMode, ccs811ModeUpdate]
  dsimp only
  split_ifs <;> rfl

@[simp]
theorem core_ccs811DriverOnConnected (lockRet modeRet : ℤ) (s : Ccs811Run) :
    (ccs811DriverOnConnected lockRet modeRet s).core = s.core := by
  rw [ccs811DriverOnConnected]
  dsimp only
  split_ifs
  · rfl
  · rfl
  · exact core_ccs811Enter1SecMode ..
  · rfl

@[simp]
theorem core_ccs811DriverOnDisconnected (lockRet modeRet : ℤ) (s : Ccs811Run) :
    (ccs811DriverOnDisconnected lockRet modeRet s).core = s.core := by
  rw [ccs811DriverOnDisconnected]
  dsimp only
  split_ifs
  · rfl
  · rfl
  · rfl
  · exact core_ccs811EnterIdleMode ..

/-- The conditioning work completes the conditioning, if it gets the mutex. -/
theorem core_ccs811ConditioningWorkHandler (lockRet modeRet : ℤ) (s : Ccs811Run) :
    (ccs811ConditioningWorkHandler lockRet modeRet s).core = s.core ∨
      (ccs811ConditioningWorkHandler lockRet modeRet s).core =
        { s with drv := { s.drv with conditioningComplete := true } }.core := by
  rw [ccs811ConditioningWorkHandler]
  dsimp only
  split_ifs
  · exact Or.inl rfl
  · exact Or.inl rfl
  · exact Or.inr (core_ccs811Enter1SecMode ..)
  · exact Or.inr (core_ccs811EnterIdleMode ..)

/-- `Q` is about the core of the driver, and survives everything that changes it: the clock, a
readiness poll that completes the conditioning, the conditioning work, with or without the
mutex, and a sample, which is taken after the conditioning. -/
structure Ccs811Keeps (Q : Ccs811Run → Prop) : Prop where
  congr : ∀ {s s' : Ccs811Run}, s'.core = s.core → Q s → Q s'
  tick : ∀ (ms : ℕ) {s : Ccs811Run}, Q s → Q { s with now := s.now + ms }
  latch : ∀ {s : Ccs811Run}, s.latches = true → Q s →
    Q { s with drv := { s.drv with conditioningComplete := true } }
  workRun : ∀ {s : Ccs811Run}, Q s → Q { s with conditioningWork := none }
  workDone : ∀ {s : Ccs811Run} {due : ℤ}, s.conditioningWork = some due → due ≤ s.now → Q s →
    Q { s with
      drv := { s.drv with conditioningComplete := true }
      conditioningWork := none }
  sample : ∀ a out {s : Ccs811Run}, s.drv.conditioningComplete = true → Q s →
    Q (ccs811ReadSample a out s).2

namespace Ccs811Keeps

variable {Q : Ccs811Run → Prop} {s : Ccs811Run}

theorem isReady (h : Ccs811Keeps Q) (hs : Q s) : Q (ccs811DriverIsReady s).2 := by
  rw [ccs811DriverIsReady_eq]
  dsimp only
  split_ifs with hlatches
  · exact h.latch hlatches hs
  · exact hs

/-- **Steps.** What survives each change of the core survives every step. -/
theorem step (h : Ccs811Keeps Q) (e : Ccs811Event) (hs : Q s) : Q (ccs811Step s e) := by
  cases e with
  | tick ms => exact h.tick ms hs
  | connected lockRet modeRet => exact h.congr (core_ccs811DriverOnConnected ..) hs
  | disconnected lockRet modeRet => exact h.congr (core_ccs811DriverOnDisconnected ..) hs
  | isReady => exact h.isReady hs
  | conditioningWork lockRet modeRet =>
    rw [ccs811Step]
    cases hwork : s.conditioningWork with
    | none => exact hs
    | some due =>
      dsimp only
      split_ifs with hdue
      · -- the work is gone from the queue whether or not its handler gets the mutex
        rcases core_ccs811ConditioningWorkHandler lockRet modeRet
          { s with conditioningWork := none } with hcore | hcore
        · exact h.congr hcore (h.workRun hs)
        · have hdone := h.workDone hwork hdue hs
          exact h.congr hcore hdone
      · exact hs

theorem steps (h : Ccs811Keeps Q) (es : List Ccs811Event) (hs : Q s) :
    Q (ccs811Steps es s) := by
  induction es generalizing s with
  | nil => exact hs
  | cons e es ih => exact ih (h.step e hs)

end Ccs811Keeps

/-- Once complete, the conditioning stays so. -/
theorem conditioningComplete_keeps :
    Ccs811Keeps fun s => s.drv.conditioningComplete = true where
  congr hcore hs := (congrArg (·.drv.conditioningComplete) hcore).trans hs
  tick _ _ hs := hs
  latch _ _ := rfl
  workRun hs := hs
  workDone _ _ _ := rfl
  sample a out s _ hs :=
    (congrArg (·.drv.conditioningComplete) (control_ccs811ReadSample a out s)).trans hs

/-! ### Whole reads -/

/-- **One read.** It returns an error at its entry, or an error at the end of its wait, or it
takes a sample, and then the conditioning is complete. -/
theorem ccs811DriverReadAirQuality_cases (a : ReadAirQualityAnswers)
    (during : List Ccs811Event) (out : UInt16 × UInt16) (s : Ccs811Run) :
    let s₁ := (ccs811ReadEntry a s).2
    let s₂ := (ccs811ReadRelock a.relockRet (ccs811Steps during s₁)).2
    (∃ ret s', ret ≠ 0 ∧ (s' = s₁ ∨ s' = s₂) ∧
        ccs811DriverReadAirQuality a (ccs811Steps during) out s = (⟨ret, out.1, out.2⟩, s')) ∨
      ∃ s', s'.drv.conditioningComplete = true ∧ (s' = s₁ ∨ s' = s₂) ∧
        ccs811DriverReadAirQuality a (ccs811Steps during) out s =
          ccs811ReadSample a.sample out s' := by
  intro s₁ s₂
  rcases hentry : ccs811ReadEntry a s with ⟨entry, s'⟩
  obtain rfl : s' = s₁ := (congrArg Prod.snd hentry).symm
  cases entry with
  | finished ret =>
    refine Or.inl ⟨ret, s₁, ccs811ReadEntry_finished hentry, Or.inl rfl, ?_⟩
    simp only [ccs811DriverReadAirQuality, hentry]
  | waiting =>
    obtain ⟨hcomplete, -⟩ := ccs811ReadEntry_passed hentry (by simp)
    by_cases hrelock : a.relockRet = 0
    · refine Or.inr ⟨s₂, conditioningComplete_keeps.steps during hcomplete, Or.inr rfl, ?_⟩
      simp [ccs811DriverReadAirQuality, hentry, ccs811ReadResume, ccs811ReadRelock, hrelock, s₂]
    · refine Or.inl ⟨a.relockRet, s₂, hrelock, Or.inr rfl, ?_⟩
      simp [ccs811DriverReadAirQuality, hentry, ccs811ReadResume, ccs811ReadRelock, hrelock, s₂]
  | fetching =>
    obtain ⟨hcomplete, -⟩ := ccs811ReadEntry_passed hentry (by simp)
    refine Or.inr ⟨s₁, hcomplete, Or.inl rfl, ?_⟩
    simp only [ccs811DriverReadAirQuality, hentry]

/-- A successful read has found the conditioning complete and has just obtained what it
returns. -/
theorem ccs811DriverReadAirQuality_success {a : ReadAirQualityAnswers}
    {during : List Ccs811Event} {out : UInt16 × UInt16} {s s' : Ccs811Run}
    {answer : GasAnswer}
    (h : ccs811DriverReadAirQuality a (ccs811Steps during) out s = (answer, s'))
    (hret : answer.ret = 0) :
    s'.drv.conditioningComplete = true ∧
      ⟨answer.co2Ppm, some answer.tvocPpb, s'.now⟩ ∈ s'.obtained := by
  rcases ccs811DriverReadAirQuality_cases a during out s with
    ⟨ret, s₁, hne, -, hread⟩ | ⟨s₁, hcomplete, -, hread⟩
  · obtain ⟨rfl, -⟩ := Prod.mk.inj (h.symm.trans hread)
    exact absurd hret hne
  · rw [hread] at h
    rcases ccs811ReadSample_cases a.sample out s₁ with
      ⟨ret, hne, hsample⟩ | ⟨ret, co2Ppm, hne, -, hsample⟩ | ⟨co2Ppm, tvocPpb, -, -, hsample⟩
    · obtain ⟨rfl, -⟩ := Prod.mk.inj (h.symm.trans hsample)
      exact absurd hret hne
    · obtain ⟨rfl, -⟩ := Prod.mk.inj (h.symm.trans hsample)
      exact absurd hret hne
    · obtain ⟨rfl, rfl⟩ := Prod.mk.inj (h.symm.trans hsample)
      exact ⟨hcomplete, List.mem_cons_self⟩

namespace Ccs811Keeps

variable {Q : Ccs811Run → Prop} {s : Ccs811Run}

/-- The entry of a read polls or does nothing. -/
theorem readEntry (h : Ccs811Keeps Q) (a : ReadAirQualityAnswers) (hs : Q s) :
    Q (ccs811ReadEntry a s).2 := by
  rw [ccs811ReadEntry_step]
  split_ifs
  · exact h.isReady hs
  · exact hs

/-- The end of a wait drops the awaited sample, and takes one if it gets the mutex. -/
theorem readResume (h : Ccs811Keeps Q) (a : ReadAirQualityAnswers) (out : UInt16 × UInt16)
    (hcomplete : s.drv.conditioningComplete = true) (hs : Q s) :
    Q (ccs811ReadResume a out s).2 := by
  have hrelock : Q (ccs811ReadRelock a.relockRet s).2 := h.congr (s := s) rfl hs
  rw [ccs811ReadResume]
  dsimp only
  split_ifs
  · exact hrelock
  · exact h.sample a.sample out hcomplete hrelock

/-- A read, given what happens in its wait. -/
theorem readAirQuality_during (h : Ccs811Keeps Q) (a : ReadAirQualityAnswers)
    {during : Ccs811Run → Ccs811Run}
    (hduring : ∀ {s}, s.drv.conditioningComplete = true → Q s →
      (during s).drv.conditioningComplete = true ∧ Q (during s))
    (out : UInt16 × UInt16) (hs : Q s) :
    Q (ccs811DriverReadAirQuality a during out s).2 := by
  have hentry := h.readEntry a hs
  rcases hread : ccs811ReadEntry a s with ⟨entry, s₁⟩
  rw [hread] at hentry
  rw [ccs811DriverReadAirQuality, hread]
  cases entry with
  | finished ret => exact hentry
  | waiting =>
    obtain ⟨hcomplete, -⟩ := ccs811ReadEntry_passed hread (by simp)
    obtain ⟨hcomplete, hwaited⟩ := hduring hcomplete hentry
    exact h.readResume a out hcomplete hwaited
  | fetching =>
    obtain ⟨hcomplete, -⟩ := ccs811ReadEntry_passed hread (by simp)
    exact h.sample a.sample out hcomplete hentry

/-- **Reads.** What survives each change of the core survives a read. -/
theorem readAirQuality (h : Ccs811Keeps Q) (a : ReadAirQualityAnswers)
    (during : List Ccs811Event) (out : UInt16 × UInt16) (hs : Q s) :
    Q (ccs811DriverReadAirQuality a (ccs811Steps during) out s).2 :=
  h.readAirQuality_during a
    (fun hcomplete hs =>
      ⟨conditioningComplete_keeps.steps during hcomplete, h.steps during hs⟩) out hs

end Ccs811Keeps

/-- The fallback to the cache does nothing to the driver. -/
@[simp]
theorem ccs811DriverReadForBle_run (a : ReadAirQualityAnswers)
    (during : Ccs811Run → Ccs811Run) (out : UInt16 × UInt16) (s : Ccs811Run) :
    (ccs811DriverReadForBle a during out s).2 =
      (ccs811DriverReadAirQuality a during out s).2 := by
  rw [ccs811DriverReadForBle]
  dsimp only
  split_ifs <;> rfl

theorem not_retry_zero : ¬ ((0 : ℤ) = -EAGAIN ∨ (0 : ℤ) = -ETIME) := by
  decide

/-- A read for BLE is the fresh read, unless that is told to try again and a sample that is not
too old is cached. -/
theorem ccs811DriverReadForBle_fresh {a : ReadAirQualityAnswers}
    {during : Ccs811Run → Ccs811Run} {out : UInt16 × UInt16} {s s' : Ccs811Run}
    {answer : GasAnswer} (hread : ccs811DriverReadAirQuality a during out s = (answer, s'))
    (hfresh : ¬ ((answer.ret = -EAGAIN ∨ answer.ret = -ETIME) ∧
      s'.drv.firstSampleObtained = true ∧
        s'.now - s'.drv.lastSampleTime ≤ MAX_CACHE_AGE_MS)) :
    ccs811DriverReadForBle a during out s = (answer, s') := by
  rw [ccs811DriverReadForBle, hread]
  dsimp only
  by_cases hcache : (answer.ret = -EAGAIN ∨ answer.ret = -ETIME) ∧
      s'.drv.firstSampleObtained = true
  · have hage : ¬ s'.now - s'.drv.lastSampleTime ≤ MAX_CACHE_AGE_MS :=
      fun hage => hfresh ⟨hcache.1, hcache.2, hage⟩
    rw [if_pos hcache, if_neg hage, ite_self]
  · rw [if_neg hcache, ite_self]

/-- Otherwise, with a CO2 in the cache, it succeeds: the CO2 is copied, and the TVOC unless it
is `0`. -/
theorem ccs811DriverReadForBle_fallback {a : ReadAirQualityAnswers}
    {during : Ccs811Run → Ccs811Run} {out : UInt16 × UInt16} {s s' : Ccs811Run}
    {answer : GasAnswer} (hread : ccs811DriverReadAirQuality a during out s = (answer, s'))
    (hretry : answer.ret = -EAGAIN ∨ answer.ret = -ETIME)
    (hfirst : s'.drv.firstSampleObtained = true)
    (hage : s'.now - s'.drv.lastSampleTime ≤ MAX_CACHE_AGE_MS)
    (hco2 : s'.drv.cachedCo2Ppm > 0) :
    ccs811DriverReadForBle a during out s =
      (⟨0, s'.drv.cachedCo2Ppm,
        if s'.drv.cachedTvocPpb > 0 then s'.drv.cachedTvocPpb else answer.tvocPpb⟩, s') := by
  have hfailed : ¬ answer.ret = 0 := by
    rcases hretry with hret | hret <;> rw [hret] <;> decide
  rw [ccs811DriverReadForBle, hread]
  simp only [hfailed, if_false, hretry, hfirst, and_self, if_true, hage, hco2, decide_true,
    Bool.true_or]
  split_ifs <;> rfl

/-- A read for BLE succeeds with a fresh sample, or after a failure with what is cached from a
sample that is not too old; then each output whose cached value is not `0` is that value. -/
theorem ccs811DriverReadForBle_success {a : ReadAirQualityAnswers}
    {during : Ccs811Run → Ccs811Run} {out : UInt16 × UInt16} {s s' : Ccs811Run}
    {answer : GasAnswer} (h : ccs811DriverReadForBle a during out s = (answer, s'))
    (hret : answer.ret = 0) :
    ccs811DriverReadAirQuality a during out s = (answer, s') ∨
      (∃ fresh, ccs811DriverReadAirQuality a during out s = (fresh, s') ∧ fresh.ret ≠ 0) ∧
        s'.drv.firstSampleObtained = true ∧ s'.now - s'.drv.lastSampleTime ≤ MAX_CACHE_AGE_MS ∧
        (s'.drv.cachedCo2Ppm > 0 → answer.co2Ppm = s'.drv.cachedCo2Ppm) ∧
        (s'.drv.cachedTvocPpb > 0 → answer.tvocPpb = s'.drv.cachedTvocPpb) := by
  rcases hread : ccs811DriverReadAirQuality a during out s with ⟨answer₁, s₁⟩
  rw [ccs811DriverReadForBle, hread] at h
  dsimp only at h
  by_cases hfresh : answer₁.ret = 0
  · rw [if_pos hfresh] at h
    exact Or.inl h
  rw [if_neg hfresh] at h
  have hfailed : (answer₁, s₁) ≠ (answer, s') := by
    intro heq
    exact hfresh ((congrArg (·.1.ret) heq).trans hret)
  by_cases hcache : (answer₁.ret = -EAGAIN ∨ answer₁.ret = -ETIME) ∧
      s₁.drv.firstSampleObtained = true
  · rw [if_pos hcache] at h
    by_cases hage : s₁.now - s₁.drv.lastSampleTime ≤ MAX_CACHE_AGE_MS
    · -- each output is copied from the cache or not, whatever is returned
      rw [if_pos hage] at h
      split_ifs at h <;> obtain ⟨rfl, rfl⟩ := Prod.mk.inj h <;>
        refine Or.inr ⟨⟨_, rfl, hfresh⟩, hcache.2, hage, fun hco2 => ?_, fun htvoc => ?_⟩ <;>
        first | rfl | contradiction
    · rw [if_neg hage] at h
      exact absurd h hfailed
  · rw [if_neg hcache] at h
    exact absurd h hfailed

/-- It fails only after its fresh read. -/
theorem ccs811DriverReadForBle_failed {a : ReadAirQualityAnswers}
    {during : Ccs811Run → Ccs811Run} {out : UInt16 × UInt16} {s s' : Ccs811Run}
    {answer : GasAnswer} (h : ccs811DriverReadForBle a during out s = (answer, s'))
    (hret : answer.ret ≠ 0) :
    ∃ fresh, ccs811DriverReadAirQuality a during out s = (fresh, s') ∧ fresh.ret ≠ 0 := by
  rcases hread : ccs811DriverReadAirQuality a during out s with ⟨fresh, s₁⟩
  have hrun : s₁ = s' := by
    have hrun := ccs811DriverReadForBle_run a during out s
    rw [h, hread] at hrun
    exact hrun.symm
  refine ⟨fresh, by rw [hrun], fun hzero => hret ?_⟩
  have hsame := ccs811DriverReadForBle_fresh hread
    (fun hretry => not_retry_zero (hzero ▸ hretry.1))
  obtain ⟨rfl, -⟩ := Prod.mk.inj (h.symm.trans hsame)
  exact hzero

end EnvMonitor
