import EnvMonitor.Ccs811.Coherence
import EnvMonitor.Ccs811.Outcome

/-!
# Unassigned outputs of a read for BLE

`ccs811_driver_read_for_ble` returns `0` from its fallback as soon as one of the two cached
values is not `0`, and copies each of them only if it is not `0`. The CO2 never is, but `0` ppb
is a TVOC like any other. So after a read of `0` ppb the fallback returns `0` and leaves
`*tvoc_ppb` as the caller left it: `read_for_ble_assigned_iff`.

An output counts as assigned if what it holds afterwards does not depend on what it held
before. During the wait of the read other threads read the driver and link changes come, in any
order; the condition is on what they leave.
-/

namespace EnvMonitor

/-- The read for BLE falls back to the cache: its fresh read is told to try again, and the last
complete sample, of whichever read, is not too old by then. -/
def ReadAirQualityAnswers.FallsBack (a : ReadAirQualityAnswers)
    (during : Ccs811Run → Ccs811Run) (s : Ccs811Run) : Prop :=
  (a.code s = -EAGAIN ∨ a.code s = -ETIME) ∧
    (a.afterWait during s).drv.firstSampleObtained = true ∧
      (ccs811DriverReadAirQuality a during (0, 0) s).2.now -
        (a.afterWait during s).drv.lastSampleTime ≤ MAX_CACHE_AGE_MS

namespace ReadAirQualityAnswers

variable {a : ReadAirQualityAnswers} {during : Ccs811Run → Ccs811Run} {s : Ccs811Run}

/-- Without the fallback the answer is that of the fresh read. -/
theorem readForBle_of_not_fallsBack (h : ¬ a.FallsBack during s) (out : UInt16 × UInt16) :
    (ccs811DriverReadForBle a during out s).1 =
      (ccs811DriverReadAirQuality a during out s).1 := by
  obtain ⟨s', hrun, ⟨hcode, co2Ppm, tvocPpb, hanswer⟩ |
    ⟨hcode, hfirst, -, hlast, hanswer⟩⟩ := ccs811DriverReadAirQuality_outcome a during s
  · have hread : ccs811DriverReadAirQuality a during out s = (⟨0, co2Ppm, tvocPpb⟩, s') :=
      Prod.ext (hanswer out) (hrun out)
    rw [ccs811DriverReadForBle_fresh hread (fun h => not_retry_zero h.1), hread]
  · obtain ⟨co2Ppm, hanswer⟩ := hanswer out
    have hread : ccs811DriverReadAirQuality a during out s = (⟨a.code s, co2Ppm, out.2⟩, s') :=
      Prod.ext hanswer (hrun out)
    rw [FallsBack, hrun, ← hfirst, ← hlast] at h
    rw [ccs811DriverReadForBle_fresh hread h, hread]

/-- The fallback returns `0`. It assigns the CO2, and the TVOC unless `0` is cached. -/
theorem readForBle_of_fallsBack (h : a.FallsBack during s)
    (hs : (ccs811DriverReadAirQuality a during (0, 0) s).2.CacheDated) :
    ∃ co2Ppm, eco2Ok co2Ppm = true ∧ ∀ out,
      (ccs811DriverReadForBle a during out s).1 =
        ⟨0, co2Ppm, if (a.afterWait during s).drv.cachedTvocPpb > 0
          then (a.afterWait during s).drv.cachedTvocPpb else out.2⟩ := by
  obtain ⟨s', hrun, ⟨hcode, -⟩ | ⟨-, hfirst, htvoc, hlast, hanswer⟩⟩ :=
    ccs811DriverReadAirQuality_outcome a during s
  · rcases h.1 with hretry | hretry <;> exact absurd (hcode.symm.trans hretry) (by decide)
  -- whatever CO2 is cached by now, the sensor has given it
  rw [hrun] at hs
  obtain ⟨hco2, hpositive⟩ := hs.cachedCo2 (hfirst.trans h.2.1)
  have hage : s'.now - s'.drv.lastSampleTime ≤ MAX_CACHE_AGE_MS := by
    rw [hlast, ← hrun (0, 0)]
    exact h.2.2
  refine ⟨s'.drv.cachedCo2Ppm, hco2, fun out => ?_⟩
  obtain ⟨co2Ppm, hanswer⟩ := hanswer out
  have hread : ccs811DriverReadAirQuality a during out s = (⟨a.code s, co2Ppm, out.2⟩, s') :=
    Prod.ext hanswer (hrun out)
  rw [ccs811DriverReadForBle_fallback hread h.1 (hfirst.trans h.2.1) hage hpositive, htvoc]

/-- **One read for BLE** that returns `0` has assigned both outputs, unless it falls back to a
cached TVOC of `0`. -/
theorem readForBle_assigned_iff
    (hs : (ccs811DriverReadAirQuality a during (0, 0) s).2.CacheDated) :
    (∀ out out', (ccs811DriverReadForBle a during out s).1.ret = 0 →
        (ccs811DriverReadForBle a during out s).1 = (ccs811DriverReadForBle a during out' s).1) ↔
      ¬ (a.FallsBack during s ∧ (a.afterWait during s).drv.cachedTvocPpb = 0) := by
  by_cases hfallsBack : a.FallsBack during s
  · obtain ⟨co2Ppm, -, hanswer⟩ := readForBle_of_fallsBack hfallsBack hs
    simp only [hanswer, hfallsBack, true_and, forall_const]
    constructor
    · intro hall hzero
      have hsame := congrArg GasAnswer.tvocPpb (hall (0, 0) (0, 1))
      simp [hzero] at hsame
    · intro hne out out'
      rw [if_pos (UInt16.pos_iff_ne_zero.mpr hne), if_pos (UInt16.pos_iff_ne_zero.mpr hne)]
  · refine iff_of_true (fun out out' hret => ?_) fun h => hfallsBack h.1
    rw [readForBle_of_not_fallsBack hfallsBack] at hret ⊢
    rw [readForBle_of_not_fallsBack hfallsBack]
    obtain ⟨s', -, ⟨-, co2Ppm, tvocPpb, hanswer⟩ | ⟨hcode, -, -, -, hanswer⟩⟩ :=
      ccs811DriverReadAirQuality_outcome a during s
    · rw [hanswer, hanswer]
    · obtain ⟨co2Ppm, hanswer⟩ := hanswer out
      rw [hanswer] at hret
      exact absurd hret hcode

/-- What the sensor manager stores of the answer then does not depend on what its variables held
before, with the same exception. -/
theorem cacheAirQualityForBle_assigned_iff
    (hs : (ccs811DriverReadAirQuality a during (0, 0) s).2.CacheDated) :
    (∀ out out' data,
        cacheAirQualityForBle (ccs811DriverReadForBle a during out s).1 data =
          cacheAirQualityForBle (ccs811DriverReadForBle a during out' s).1 data) ↔
      ¬ (a.FallsBack during s ∧ (a.afterWait during s).drv.cachedTvocPpb = 0) := by
  constructor
  · rintro hall ⟨hfallsBack, hzero⟩
    obtain ⟨co2Ppm, hco2, hanswer⟩ := readForBle_of_fallsBack hfallsBack hs
    -- both contents pass the check of the TVOC and are stored
    have hsame := congrArg SensorData.tvoc (hall (0, 0) (0, 1) sensorDataZero)
    simp only [hanswer, hzero] at hsame
    have hzeroOk : tvocOk 0 = true := by decide
    have honeOk : tvocOk 1 = true := by decide
    simp [cacheAirQualityForBle, hco2, hzeroOk, honeOk, SensorData.setValid] at hsame
  · intro h out out' data
    by_cases hret : (ccs811DriverReadForBle a during out s).1.ret = 0
    · rw [(readForBle_assigned_iff hs).mpr h out out' hret]
    · have hret' : (ccs811DriverReadForBle a during out' s).1.ret ≠ 0 :=
        fun hret' => hret (((readForBle_assigned_iff hs).mpr h out' out hret') ▸ hret')
      rw [cacheAirQualityForBle, cacheAirQualityForBle, if_neg hret, if_neg hret']

end ReadAirQualityAnswers

/-! ### Every reachable state -/

/-- The dates of the cache hold from program start on. -/
theorem cacheDated_of_bootRun {now : ℤ} {es : List BootEvent} {b : Ccs811Boot}
    {fetches : List Fetch}
    (hrun : ccs811BootMachine.run es (ccs811BootStart now) = some (b, fetches)) :
    b.threads.run.CacheDated := by
  refine Ccs811Run.cacheDated_keeps.bootRun (fun _ h => ?_) (fun modeRet s _ _ h => ?_)
    (Ccs811Run.cacheDated_start now) hrun
  · exact ⟨h.past, h.ok, fun hfirst => absurd hfirst Bool.false_ne_true⟩
  · rw [ccs811StartBootConditioning, ccs811ModeUpdate]
    dsimp only
    split_ifs <;> exact h.congr rfl rfl le_rfl

/-- **Assigned outputs.** In every reachable state of the driver, at every time, for all answers
of the hardware and whatever the other threads do in the wait, reads of theirs included: a
`ccs811_driver_read_for_ble` that returns `0` has assigned both of its outputs, if and only if it
does not fall back to a cached TVOC of `0`. The same condition decides whether what
`sensor_manager_update_air_quality_for_ble` checks and stores is independent of what its two
variables held before. -/
theorem read_for_ble_assigned_iff {now : ℤ} {es : List BootEvent} {b : Ccs811Boot}
    {fetches : List Fetch}
    (hrun : ccs811BootMachine.run es (ccs811BootStart now) = some (b, fetches))
    (a : ReadAirQualityAnswers) (others : List ThreadEvent) :
    let s := b.threads.run
    let during := ccs811Others others b.threads
    let answer := fun out => (ccs811DriverReadForBle a during out s).1
    ((∀ out out', (answer out).ret = 0 → answer out = answer out') ↔
        ¬ (a.FallsBack during s ∧ (a.afterWait during s).drv.cachedTvocPpb = 0)) ∧
      ((∀ out out' data,
          cacheAirQualityForBle (answer out) data = cacheAirQualityForBle (answer out') data) ↔
        ¬ (a.FallsBack during s ∧ (a.afterWait during s).drv.cachedTvocPpb = 0)) := by
  have hdated := Ccs811Run.cacheDated_keeps.readAirQuality_others a others b.threads (0, 0)
    (cacheDated_of_bootRun hrun)
  exact ⟨ReadAirQualityAnswers.readForBle_assigned_iff hdated,
    ReadAirQualityAnswers.cacheAirQualityForBle_assigned_iff hdated⟩

/-- The sensor has no new sample yet. -/
def notReadyYet : ReadAirQualityAnswers := { sample := { fetchRet := -EAGAIN } }

/-- A sensor that is conditioned, with a client and a reader in the wait of its read. -/
def firstReaderWaits : List BootEvent :=
  [.init {}, .bootConditioning 0 0, .thread (.step (.tick 1200000)),
    .thread (.step (.conditioningWork 0 0)), .thread (.step (.connected 0 0)),
    .thread (.readStart 0 {})]

/-- The reader ends its wait, and its sample is 500 ppm and 0 ppb. -/
def firstReaderSamples : List ThreadEvent :=
  [.step (.tick 1500), .readResume 0 { sample := { co2Val1 := 500, tvocVal1 := 0 } }]

/-- A read that waits meanwhile returns `0` and the TVOC that its caller had in its variable. -/
theorem firstReaderSamples_unassigned :
    ∃ r ∈ ccs811BootMachine.run firstReaderWaits (ccs811BootStart 1),
      let answer := fun out => (ccs811DriverReadForBle notReadyYet
        (ccs811Others firstReaderSamples r.1.threads) out r.1.threads.run).1
      (answer (7, 7)).ret = 0 ∧ (answer (7, 7)).tvocPpb = 7 ∧ (answer (9, 9)).tvocPpb = 9 := by
  decide +kernel

/-- A read that comes after one of 0 ppb does, too. -/
theorem sampledZeroTvoc_unassigned :
    ∃ r ∈ ccs811BootMachine.run (sampledOnce 500 0) (ccs811BootStart 1),
      let answer := fun out => (ccs811DriverReadForBle notReadyYet
        (ccs811Others [] r.1.threads) out r.1.threads.run).1
      (answer (7, 7)).ret = 0 ∧ (answer (7, 7)).tvocPpb = 7 ∧ (answer (9, 9)).tvocPpb = 9 := by
  decide +kernel

/-- `read_for_ble_assigned_iff` at the read that waits while another one samples 0 ppb. -/
theorem read_for_ble_assigned_iff_sampledZeroTvoc :
    ∃ b fetches,
      ccs811BootMachine.run firstReaderWaits (ccs811BootStart 1) = some (b, fetches) ∧
      let s := b.threads.run
      let during := ccs811Others firstReaderSamples b.threads
      let answer := fun out => (ccs811DriverReadForBle notReadyYet during out s).1
      ((∀ out out', (answer out).ret = 0 → answer out = answer out') ↔
          ¬ (notReadyYet.FallsBack during s ∧
            (notReadyYet.afterWait during s).drv.cachedTvocPpb = 0)) ∧
        ((∀ out out' data,
            cacheAirQualityForBle (answer out) data = cacheAirQualityForBle (answer out') data) ↔
          ¬ (notReadyYet.FallsBack during s ∧
            (notReadyYet.afterWait during s).drv.cachedTvocPpb = 0)) := by
  obtain ⟨⟨b, fetches⟩, hrun, -⟩ := firstReaderSamples_unassigned
  exact ⟨b, fetches, hrun, read_for_ble_assigned_iff hrun notReadyYet firstReaderSamples⟩

/-- A read for BLE can return `0` with an output unassigned, even if no other thread does anything
in its wait. -/
theorem read_for_ble_unassigned :
    ¬ ∀ (now : ℤ) (es : List BootEvent) (b : Ccs811Boot) (fetches : List Fetch),
      ccs811BootMachine.run es (ccs811BootStart now) = some (b, fetches) →
      ∀ a out out',
        let answer := fun out =>
          (ccs811DriverReadForBle a (ccs811Others [] b.threads) out b.threads.run).1
        (answer out).ret = 0 → answer out = answer out' := by
  intro hall
  obtain ⟨⟨b, fetches⟩, hrun, hret, hseven, hnine⟩ := sampledZeroTvoc_unassigned
  have hsame := hall _ _ b fetches hrun notReadyYet (7, 7) (9, 9) hret
  have htvoc := congrArg GasAnswer.tvocPpb hsame
  dsimp only at htvoc hseven hnine
  rw [hseven, hnine] at htvoc
  exact absurd htvoc (by decide)

end EnvMonitor
