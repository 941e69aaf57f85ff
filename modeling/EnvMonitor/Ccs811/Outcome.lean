import EnvMonitor.Ccs811.Cache

/-!
# How a read of the CCS811 ends

What `ccs811_driver_read_air_quality` comes to, read off its inputs: its return code, whether it
gets to a sample, and what it leaves in the cache. Before its sample a read touches neither the
cache nor its outputs. What other threads do in its wait decides from which state it goes on,
`afterWait`, and has no part in its return code.

A failed sample writes at most one thing, the CO2 that it has cached by the time its TVOC
fails, `SampleAnswers.tornCo2`.
-/

namespace EnvMonitor

/-! ### One sample -/

/-- The return code of a sample. -/
def SampleAnswers.code (a : SampleAnswers) : ℤ :=
  if sampleStatus a ≠ 0 then sampleStatus a
  else
    match co2Channel a.co2Ret a.co2Val1 with
    | .error ret => ret
    | .ok _ =>
      match tvocChannel a.tvocRet a.tvocVal1 with
      | .error ret => ret
      | .ok _ => 0

/-- The CO2 that a sample has cached by the time its TVOC fails. -/
def SampleAnswers.tornCo2 (a : SampleAnswers) : Option UInt16 :=
  if sampleStatus a ≠ 0 then none
  else
    match co2Channel a.co2Ret a.co2Val1, tvocChannel a.tvocRet a.tvocVal1 with
    | .ok co2Ppm, .error _ => some co2Ppm
    | _, _ => none

/-- **One sample.** It fails, with the TVOC unassigned, and leaves at most its CO2 in the cache,
or it succeeds, and assigns and caches its pair. -/
theorem ccs811ReadSample_code (a : SampleAnswers) (s : Ccs811Run) :
    ∃ s', (∀ out, (ccs811ReadSample a out s).2 = s') ∧
      ((a.code ≠ 0 ∧
          s'.drv = { s.drv with cachedCo2Ppm := a.tornCo2.getD s.drv.cachedCo2Ppm } ∧
          s.obtained ⊆ s'.obtained ∧
          ∀ out, ∃ co2Ppm, (ccs811ReadSample a out s).1 = ⟨a.code, co2Ppm, out.2⟩) ∨
        (a.code = 0 ∧ a.tornCo2 = none ∧
          ∃ x ∈ s'.obtained, x.co2Ppm = s'.drv.cachedCo2Ppm ∧
            x.tvocPpb = some s'.drv.cachedTvocPpb ∧ x.endTime = s'.drv.lastSampleTime ∧
            ∀ out, (ccs811ReadSample a out s).1 =
              ⟨0, s'.drv.cachedCo2Ppm, s'.drv.cachedTvocPpb⟩)) := by
  refine ⟨(ccs811ReadSample a (0, 0) s).2, ?_⟩
  by_cases hstatus : sampleStatus a = 0
  · rcases hco2 : co2Channel a.co2Ret a.co2Val1 with ret | co2Ppm
    · simp [ccs811ReadSample, SampleAnswers.code, SampleAnswers.tornCo2, hstatus, hco2,
        co2Channel_error hco2]
    · rcases htvoc : tvocChannel a.tvocRet a.tvocVal1 with ret | tvocPpb
      · simp [ccs811ReadSample, SampleAnswers.code, SampleAnswers.tornCo2, hstatus, hco2,
          htvoc, tvocChannel_error htvoc]
      · simp [ccs811ReadSample, SampleAnswers.code, SampleAnswers.tornCo2, hstatus, hco2,
          htvoc]
  · simp [ccs811ReadSample, SampleAnswers.code, SampleAnswers.tornCo2, hstatus]

/-! ### The entry -/

/-- The read gets past the checks at its entry. -/
def ReadAirQualityAnswers.passes (a : ReadAirQualityAnswers) (s : Ccs811Run) : Bool :=
  a.polls s && (s.drv.conditioningComplete || s.latches) &&
    !(s.drv.inIdleMode && !s.drv.bleConnected)

/-- The read gets to its sample. -/
def ReadAirQualityAnswers.samples (a : ReadAirQualityAnswers) (s : Ccs811Run) : Bool :=
  a.passes s && (!s.drv.awaitFirst1sSample || a.relockRet == 0)

/-- The return code of a read. -/
def ReadAirQualityAnswers.code (a : ReadAirQualityAnswers) (s : Ccs811Run) : ℤ :=
  if a.samples s then a.sample.code
  else if a.passes s then a.relockRet
  else if !s.drv.dev then -ENODEV
  else if a.lockRet ≠ 0 then a.lockRet
  else if !a.deviceReady then -ENODEV
  else -EAGAIN

/-- What the checks say. -/
theorem ccs811ReadEntry_passes (a : ReadAirQualityAnswers) (s : Ccs811Run) :
    (ccs811ReadEntry a s).1 =
      if a.passes s then (if s.drv.awaitFirst1sSample then .waiting else .fetching)
      else .finished (a.code s) := by
  cases hdev : s.drv.dev with
  | false =>
    simp [ccs811ReadEntry, ReadAirQualityAnswers.code, ReadAirQualityAnswers.samples,
      ReadAirQualityAnswers.passes, ReadAirQualityAnswers.polls, hdev]
  | true =>
    by_cases hlock : a.lockRet = 0
    · cases hdevice : a.deviceReady with
      | false =>
        simp [ccs811ReadEntry, ReadAirQualityAnswers.code, ReadAirQualityAnswers.samples,
          ReadAirQualityAnswers.passes, ReadAirQualityAnswers.polls, hdev, hlock, hdevice]
      | true =>
        -- the poll leaves the flags that are looked at next as they are
        have hidle : (ccs811DriverIsReady s).2.drv.inIdleMode = s.drv.inIdleMode := by
          rw [ccs811DriverIsReady_eq]
          dsimp only
          split_ifs <;> rfl
        have hlink : (ccs811DriverIsReady s).2.drv.bleConnected = s.drv.bleConnected := by
          rw [ccs811DriverIsReady_eq]
          dsimp only
          split_ifs <;> rfl
        have hawait : (ccs811DriverIsReady s).2.drv.awaitFirst1sSample =
            s.drv.awaitFirst1sSample := by
          rw [ccs811DriverIsReady_eq]
          dsimp only
          split_ifs <;> rfl
        have hready : (ccs811DriverIsReady s).1 =
            (s.drv.conditioningComplete || s.latches) := by
          rw [ccs811DriverIsReady_eq]
        simp only [ccs811ReadEntry, ReadAirQualityAnswers.code, ReadAirQualityAnswers.samples,
          ReadAirQualityAnswers.passes, ReadAirQualityAnswers.polls, hdev, hlock, hdevice,
          hidle, hlink, hawait, hready]
        cases s.drv.conditioningComplete || s.latches <;> cases s.drv.inIdleMode <;>
          cases s.drv.bleConnected <;> cases s.drv.awaitFirst1sSample <;> rfl
    · simp [ccs811ReadEntry, ReadAirQualityAnswers.code, ReadAirQualityAnswers.samples,
        ReadAirQualityAnswers.passes, ReadAirQualityAnswers.polls, hdev, hlock]

/-! ### Nothing but a sample touches the cache -/

/-- What a sample writes. -/
def Ccs811Run.history (s : Ccs811Run) : (Bool × UInt16 × UInt16 × ℤ) × List GasSample :=
  (s.drv.cache, s.obtained)

section History

variable (s : Ccs811Run)

theorem Ccs811Run.history_of_core {s s' : Ccs811Run} (h : s'.core = s.core) :
    s'.history = s.history := by
  change s'.core.history = s.core.history
  rw [h]

@[simp]
theorem history_ccs811Step (e : Ccs811Event) : (ccs811Step s e).history = s.history := by
  cases e with
  | tick ms => rfl
  | connected lockRet modeRet =>
    exact Ccs811Run.history_of_core (core_ccs811DriverOnConnected ..)
  | disconnected lockRet modeRet =>
    exact Ccs811Run.history_of_core (core_ccs811DriverOnDisconnected ..)
  | isReady =>
    rw [ccs811Step, ccs811DriverIsReady_eq]
    dsimp only
    split_ifs <;> rfl
  | conditioningWork lockRet modeRet =>
    rw [ccs811Step]
    cases s.conditioningWork with
    | none => rfl
    | some due =>
      dsimp only
      split_ifs
      · rcases core_ccs811ConditioningWorkHandler lockRet modeRet
          { s with conditioningWork := none } with hcore | hcore <;>
          exact (Ccs811Run.history_of_core hcore).trans rfl
      · rfl

@[simp]
theorem history_ccs811Steps (es : List Ccs811Event) :
    (ccs811Steps es s).history = s.history := by
  induction es generalizing s with
  | nil => rfl
  | cons e es ih => exact (ih _).trans (history_ccs811Step s e)

@[simp]
theorem history_ccs811ReadEntry (a : ReadAirQualityAnswers) :
    (ccs811ReadEntry a s).2.history = s.history := by
  rw [ccs811ReadEntry_step]
  split_ifs
  · exact history_ccs811Step s .isReady
  · rfl

end History

/-! ### One read -/

/-- The driver when a read goes on: after its wait, if it has one. -/
def ReadAirQualityAnswers.afterWait (a : ReadAirQualityAnswers)
    (during : Ccs811Run → Ccs811Run) (s : Ccs811Run) : Ccs811Run :=
  match ccs811ReadEntry a s with
  | (.waiting, s₁) => during s₁
  | (_, s₁) => s₁

/-- In a wait without other readers the cache stays as it was. -/
@[simp]
theorem history_afterWait_steps (a : ReadAirQualityAnswers) (during : List Ccs811Event)
    (s : Ccs811Run) : (a.afterWait (ccs811Steps during) s).history = s.history := by
  have hhistory := history_ccs811ReadEntry s a
  rw [ReadAirQualityAnswers.afterWait]
  rcases hread : ccs811ReadEntry a s with ⟨entry, s₁⟩
  rw [hread] at hhistory
  cases entry with
  | waiting => exact (history_ccs811Steps s₁ during).trans hhistory
  | finished ret => exact hhistory
  | fetching => exact hhistory

/-- **One read** takes a sample from a driver with the cache that it finds after its wait, or it
fails with its outputs unassigned and that cache. -/
theorem ccs811DriverReadAirQuality_code (a : ReadAirQualityAnswers)
    (during : Ccs811Run → Ccs811Run) (s : Ccs811Run) :
    ∃ s', s'.history = (a.afterWait during s).history ∧
      ((a.samples s = true ∧ a.code s = a.sample.code ∧
          ∀ out, ccs811DriverReadAirQuality a during out s = ccs811ReadSample a.sample out s') ∨
        (a.samples s = false ∧ a.code s ≠ 0 ∧
          ∀ out, ccs811DriverReadAirQuality a during out s =
            (⟨a.code s, out.1, out.2⟩, s'))) := by
  have hpasses := ccs811ReadEntry_passes a s
  rw [ReadAirQualityAnswers.afterWait]
  rcases hread : ccs811ReadEntry a s with ⟨entry, s₁⟩
  rw [hread] at hpasses
  change entry = _ at hpasses
  split_ifs at hpasses with hpass hawait
  · subst hpasses
    refine ⟨(ccs811ReadRelock a.relockRet (during s₁)).2, rfl, ?_⟩
    by_cases hrelock : a.relockRet = 0
    · have hsamples : a.samples s = true := by
        simp [ReadAirQualityAnswers.samples, hpass, hrelock]
      refine Or.inl ⟨hsamples, by rw [ReadAirQualityAnswers.code, if_pos hsamples], ?_⟩
      intro out
      simp [ccs811DriverReadAirQuality, hread, ccs811ReadResume, ccs811ReadRelock, hrelock]
    · have hsamples : a.samples s = false := by
        simp [ReadAirQualityAnswers.samples, hawait, hrelock]
      have hcode : a.code s = a.relockRet := by
        simp [ReadAirQualityAnswers.code, hsamples, hpass]
      refine Or.inr ⟨hsamples, by rwa [hcode], ?_⟩
      intro out
      simp [ccs811DriverReadAirQuality, hread, ccs811ReadResume, ccs811ReadRelock, hrelock,
        hcode]
  · subst hpasses
    have hsamples : a.samples s = true := by
      simp [ReadAirQualityAnswers.samples, hpass, hawait]
    refine ⟨s₁, rfl, Or.inl ⟨hsamples, ?_, ?_⟩⟩
    · rw [ReadAirQualityAnswers.code, if_pos hsamples]
    · intro out
      simp only [ccs811DriverReadAirQuality, hread]
  · subst hpasses
    refine ⟨s₁, rfl, Or.inr ⟨?_, ccs811ReadEntry_finished hread, ?_⟩⟩
    · simp [ReadAirQualityAnswers.samples, hpass]
    · intro out
      simp only [ccs811DriverReadAirQuality, hread]

/-- What the caller of a read sees: a pair of its own, or an error with the TVOC unassigned and,
but for the CO2, the cache as it was after the wait. -/
theorem ccs811DriverReadAirQuality_outcome (a : ReadAirQualityAnswers)
    (during : Ccs811Run → Ccs811Run) (s : Ccs811Run) :
    ∃ s', (∀ out, (ccs811DriverReadAirQuality a during out s).2 = s') ∧
      ((a.code s = 0 ∧ ∃ co2Ppm tvocPpb, ∀ out,
          (ccs811DriverReadAirQuality a during out s).1 = ⟨0, co2Ppm, tvocPpb⟩) ∨
        (a.code s ≠ 0 ∧
          s'.drv.firstSampleObtained = (a.afterWait during s).drv.firstSampleObtained ∧
          s'.drv.cachedTvocPpb = (a.afterWait during s).drv.cachedTvocPpb ∧
          s'.drv.lastSampleTime = (a.afterWait during s).drv.lastSampleTime ∧
          ∀ out, ∃ co2Ppm, (ccs811DriverReadAirQuality a during out s).1 =
            ⟨a.code s, co2Ppm, out.2⟩)) := by
  obtain ⟨s', hhistory, ⟨-, hcode, hread⟩ | ⟨-, hcode, hread⟩⟩ :=
    ccs811DriverReadAirQuality_code a during s
  · obtain ⟨s'', hrun, ⟨hfailed, hdrv, -, hanswer⟩ | ⟨hsucceeded, -, x, -, -, -, -, hanswer⟩⟩ :=
      ccs811ReadSample_code a.sample s'
    · refine ⟨s'', fun out => by rw [hread, hrun], Or.inr ⟨by rwa [hcode], ?_, ?_, ?_, ?_⟩⟩
      · rw [hdrv]
        exact congrArg (·.1.1) hhistory
      · rw [hdrv]
        exact congrArg (·.1.2.2.1) hhistory
      · rw [hdrv]
        exact congrArg (·.1.2.2.2) hhistory
      · intro out
        rw [hread, hcode]
        exact hanswer out
    · exact ⟨s'', fun out => by rw [hread, hrun],
        Or.inl ⟨hcode.trans hsucceeded, _, _, fun out => by rw [hread, hanswer]⟩⟩
  · refine ⟨s', fun out => by rw [hread], Or.inr ⟨hcode, ?_, ?_, ?_, ?_⟩⟩
    · exact congrArg (·.1.1) hhistory
    · exact congrArg (·.1.2.2.1) hhistory
    · exact congrArg (·.1.2.2.2) hhistory
    · exact fun out => ⟨out.1, by rw [hread]⟩

end EnvMonitor
