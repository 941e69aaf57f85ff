import EnvMonitor.Ccs811.Assigned
import EnvMonitor.Ccs811.Conditioning

/-!
# The age of what a read for BLE hands out

`ccs811_driver_read_for_ble` judges both cached values by one timestamp, that of the last
complete sample. `CacheDated` says that neither of them is older, and `ConditionedSamples` that
nothing at all is obtained before boot conditioning is complete. Together they date whatever
the read assigns: `read_for_ble_age`. To the driver a read for BLE does what its fresh read does,
so the runs that come before may contain either.
-/

namespace EnvMonitor

/-! ### Samples of a conditioned sensor -/

namespace Ccs811Run

/-- What holds of the history in every reachable state of the driver. -/
structure ConditionedSamples (s : Ccs811Run) : Prop extends s.Conditioned where
  /-- It is empty while the conditioning is not complete. -/
  complete : s.obtained ≠ [] → s.drv.conditioningComplete = true
  /-- Its samples come after the time of the conditioning. -/
  sampleElapsed : ∀ x ∈ s.obtained, ∃ start, s.conditioningStart = some start ∧
    start + CCS811_CONDITIONING_TIME_MS ≤ x.endTime

/-- Without samples there is only the conditioning to look at. -/
theorem Conditioned.conditionedSamples {s : Ccs811Run} (h : s.Conditioned)
    (hobtained : s.obtained = []) : s.ConditionedSamples where
  toConditioned := h
  complete hne := absurd hobtained hne
  sampleElapsed x hx := by
    rw [hobtained] at hx
    exact absurd hx List.not_mem_nil

/-- **Invariant.** Every step of the driver and every read keeps it. -/
theorem conditionedSamples_keeps : Ccs811Keeps ConditionedSamples where
  congr {s s'} hcore h := by
    have hobtained : s'.obtained = s.obtained := congrArg (·.obtained) hcore
    have hcomplete : s'.drv.conditioningComplete = s.drv.conditioningComplete :=
      congrArg (·.drv.conditioningComplete) hcore
    have hstart : s'.conditioningStart = s.conditioningStart :=
      congrArg (·.conditioningStart) hcore
    refine ⟨conditioned_keeps.congr hcore h.toConditioned, ?_, ?_⟩
    · rw [hobtained, hcomplete]
      exact h.complete
    · rw [hobtained, hstart]
      exact h.sampleElapsed
  tick ms _ h := ⟨conditioned_keeps.tick ms h.toConditioned, h.complete, h.sampleElapsed⟩
  latch hlatches h :=
    ⟨conditioned_keeps.latch hlatches h.toConditioned, fun _ => rfl, h.sampleElapsed⟩
  workRun h := ⟨conditioned_keeps.workRun h.toConditioned, h.complete, h.sampleElapsed⟩
  workDone hwork hdue h :=
    ⟨conditioned_keeps.workDone hwork hdue h.toConditioned, fun _ => rfl, h.sampleElapsed⟩
  sample a out {s} hcomplete h := by
    have hconditioned := conditioned_keeps.sample a out hcomplete h.toConditioned
    -- a new sample comes even later than now, when the time is over
    obtain ⟨start, hstart, htime⟩ := h.elapsed hcomplete
    have hnew : start + CCS811_CONDITIONING_TIME_MS ≤ s.now + a.fetchTime := by omega
    have hcons : ∀ co2Ppm tvocPpb, ∀ x ∈
        (⟨co2Ppm, tvocPpb, s.now + a.fetchTime⟩ :: s.obtained : List GasSample),
        ∃ start, s.conditioningStart = some start ∧
          start + CCS811_CONDITIONING_TIME_MS ≤ x.endTime := by
      intro co2Ppm tvocPpb x hx
      rcases List.mem_cons.mp hx with rfl | hx
      · exact ⟨start, hstart, hnew⟩
      · exact h.sampleElapsed x hx
    rcases ccs811ReadSample_cases a out s with
      ⟨_, -, hsample⟩ | ⟨_, co2Ppm, -, -, hsample⟩ | ⟨co2Ppm, tvocPpb, -, -, hsample⟩ <;>
      rw [hsample] at hconditioned ⊢
    · exact ⟨hconditioned, fun _ => hcomplete, h.sampleElapsed⟩
    · exact ⟨hconditioned, fun _ => hcomplete, hcons _ _⟩
    · exact ⟨hconditioned, fun _ => hcomplete, hcons _ _⟩

end Ccs811Run

/-- Samples come after the conditioning from program start on. -/
theorem conditionedSamples_of_bootRun {now : ℤ} {es : List BootEvent} {b : Ccs811Boot}
    {fetches : List Fetch}
    (hrun : ccs811BootMachine.run es (ccs811BootStart now) = some (b, fetches)) :
    b.threads.run.ConditionedSamples := by
  have hempty : ∀ {s : Ccs811Run}, s.Unconditioned → s.ConditionedSamples → s.obtained = [] := by
    intro s hs h
    by_contra hne
    exact absurd (hs.incomplete.symm.trans (h.complete hne)) Bool.false_ne_true
  refine Ccs811Run.conditionedSamples_keeps.bootRun (fun hs h => ?_)
    (fun modeRet s hdev hs h => ?_) ((Ccs811Run.conditioned_start now).conditionedSamples rfl)
    hrun
  · have hobtained := hempty hs h
    exact (Ccs811Run.conditioned_fresh hs.work).conditionedSamples hobtained
  · have hfirst : s.drv.firstSampleObtained = false := by
      by_contra hfirst
      exact absurd (hs.incomplete.symm.trans (h.sampled (by simpa using hfirst)))
        Bool.false_ne_true
    have hobtained : (ccs811StartBootConditioning modeRet s).obtained = s.obtained := by
      rw [ccs811StartBootConditioning, ccs811ModeUpdate]
      dsimp only
      split_ifs <;> rfl
    exact (Ccs811Run.conditioned_startBootConditioning hdev hfirst modeRet).conditionedSamples
      (hobtained.trans (hempty hs h))

/-! ### What is assigned -/

/-- How a read ends, for whatever its caller holds in the two outputs: with a pair that it has
just obtained, or with an error and the TVOC as it was. -/
def ReadEnds (read : UInt16 × UInt16 → GasAnswer × Ccs811Run) (s : Ccs811Run) : Prop :=
  (∀ out, (read out).2 = s) ∧
    ((∃ co2Ppm tvocPpb, ⟨co2Ppm, some tvocPpb, s.now⟩ ∈ s.obtained ∧
        ∀ out, (read out).1 = ⟨0, co2Ppm, tvocPpb⟩) ∨
      ∃ ret, ret ≠ 0 ∧ ∀ out, ∃ co2Ppm, (read out).1 = ⟨ret, co2Ppm, out.2⟩)

theorem ccs811ReadSample_ends (a : SampleAnswers) (s : Ccs811Run) :
    ∃ s', ReadEnds (fun out => ccs811ReadSample a out s) s' := by
  refine ⟨(ccs811ReadSample a (0, 0) s).2, ?_⟩
  by_cases hstatus : sampleStatus a = 0
  · rcases hco2 : co2Channel a.co2Ret a.co2Val1 with ret | co2Ppm
    · simp [ReadEnds, ccs811ReadSample, hstatus, hco2, co2Channel_error hco2]
    · rcases htvoc : tvocChannel a.tvocRet a.tvocVal1 with ret | tvocPpb
      · simp [ReadEnds, ccs811ReadSample, hstatus, hco2, htvoc, tvocChannel_error htvoc]
      · simp [ReadEnds, ccs811ReadSample, hstatus, hco2, htvoc]
  · simp [ReadEnds, ccs811ReadSample, hstatus]

/-- **One read**, whatever happens in its wait. -/
theorem ccs811DriverReadAirQuality_ends (a : ReadAirQualityAnswers)
    (during : Ccs811Run → Ccs811Run) (s : Ccs811Run) :
    ∃ s', ReadEnds (fun out => ccs811DriverReadAirQuality a during out s) s' := by
  have hfails : ∀ {ret : ℤ}, ret ≠ 0 → ∀ s' : Ccs811Run,
      ReadEnds (fun out => (⟨ret, out.1, out.2⟩, s')) s' :=
    fun hne s' => ⟨fun _ => rfl, Or.inr ⟨_, hne, fun out => ⟨out.1, rfl⟩⟩⟩
  simp only [ccs811DriverReadAirQuality]
  rcases hread : ccs811ReadEntry a s with ⟨entry, s₁⟩
  cases entry with
  | finished ret => exact ⟨s₁, hfails (ccs811ReadEntry_finished hread) s₁⟩
  | waiting =>
    simp only [ccs811ReadResume, ccs811ReadRelock]
    by_cases hrelock : a.relockRet = 0
    · simpa [hrelock] using ccs811ReadSample_ends a.sample _
    · simpa [hrelock] using ⟨_, hfails hrelock _⟩
  | fetching => exact ccs811ReadSample_ends a.sample s₁

/-- What the caller of a read has in its output variable for the gas. -/
def Gas.output : Gas → UInt16 × UInt16 → UInt16
  | co2, out => out.1
  | tvoc, out => out.2

/-- The bounds of the gas that the driver checks. -/
def Gas.InRange : Gas → UInt16 → Prop
  | co2, v => 400 ≤ v.toNat ∧ v.toNat ≤ 8192
  | tvoc, v => v.toNat ≤ 1187

theorem Gas.inRange_of_ok {g : Gas} {v : UInt16} (h : g.ok v = true) : g.InRange v := by
  cases g with
  | co2 =>
    simp only [ok, eco2Ok, Bool.and_eq_true, decide_eq_true_eq, UInt16.le_iff_toNat_le] at h
    exact ⟨h.1.2, h.2⟩
  | tvoc =>
    simp only [ok, tvocOk, Bool.and_eq_true, decide_eq_true_eq, UInt16.le_iff_toNat_le] at h
    exact h.2

/-- A read has obtained `v` of the gas at most five minutes before, within the bounds, and not
before the time of boot conditioning was over. -/
def Ccs811Run.Recent (s : Ccs811Run) (g : Gas) (v : UInt16) : Prop :=
  g.InRange v ∧ ∃ x ∈ s.obtained, g.sampled x = some v ∧
    s.now - MAX_CACHE_AGE_MS ≤ x.endTime ∧ x.endTime ≤ s.now ∧
      ∃ start, s.conditioningStart = some start ∧
        start + CCS811_CONDITIONING_TIME_MS ≤ x.endTime

/-- **One read for BLE** that returns `0` leaves an output alone, or assigns it a value that was
obtained at most five minutes before. -/
theorem readForBle_dated {a : ReadAirQualityAnswers} {during : Ccs811Run → Ccs811Run}
    {s s' : Ccs811Run}
    (hends : ReadEnds (fun out => ccs811DriverReadAirQuality a during out s) s')
    (hs' : s'.CacheDated) {out : UInt16 × UInt16}
    (hret : (ccs811DriverReadForBle a during out s).1.ret = 0) (g : Gas) :
    (∀ out, g.answered (ccs811DriverReadForBle a during out s).1 = g.output out) ∨
      ∃ v, (∀ out, g.answered (ccs811DriverReadForBle a during out s).1 = v) ∧
        g.ok v = true ∧ s'.ObtainedWithin g v s'.now := by
  obtain ⟨hrun, ⟨co2Ppm, tvocPpb, hmem, hanswer⟩ | ⟨ret, hne, hanswer⟩⟩ := hends
  · have hfresh : ∀ out, ccs811DriverReadForBle a during out s =
        (⟨0, co2Ppm, tvocPpb⟩, s') := fun out =>
      ccs811DriverReadForBle_fresh (Prod.ext (hanswer out) (hrun out))
        fun h => not_retry_zero h.1
    have hsampled : g.sampled ⟨co2Ppm, some tvocPpb, s'.now⟩ =
        some (g.answered ⟨0, co2Ppm, tvocPpb⟩) := by
      cases g <;> rfl
    have hage : s'.now - MAX_CACHE_AGE_MS ≤ s'.now := by
      rw [MAX_CACHE_AGE_MS]
      omega
    exact Or.inr ⟨_, fun out => by rw [hfresh], hs'.ok _ hmem g _ hsampled,
      _, hmem, hsampled, hage, le_rfl⟩
  · by_cases hcache : (ret = -EAGAIN ∨ ret = -ETIME) ∧ s'.drv.firstSampleObtained = true ∧
        s'.now - s'.drv.lastSampleTime ≤ MAX_CACHE_AGE_MS
    · obtain ⟨hretry, hfirst, hage⟩ := hcache
      have hfallback : ∀ out, (ccs811DriverReadForBle a during out s).1 =
          ⟨0, s'.drv.cachedCo2Ppm,
            if s'.drv.cachedTvocPpb > 0 then s'.drv.cachedTvocPpb else out.2⟩ := by
        intro out
        obtain ⟨co2Ppm, hanswer⟩ := hanswer out
        have hread : ccs811DriverReadAirQuality a during out s = (⟨ret, co2Ppm, out.2⟩, s') :=
          Prod.ext hanswer (hrun out)
        rw [ccs811DriverReadForBle_fallback hread hretry hfirst hage (hs'.cachedCo2 hfirst).2]
      obtain ⟨x, hx, hsampled, hlast⟩ := hs'.dated hfirst g
      have hwithin : s'.ObtainedWithin g (g.cached s'.drv) s'.now :=
        ⟨x, hx, hsampled, by omega, hs'.past x hx⟩
      by_cases hcached : g = .co2 ∨ s'.drv.cachedTvocPpb > 0
      · refine Or.inr ⟨g.cached s'.drv, fun out => ?_, hs'.ok x hx g _ hsampled, hwithin⟩
        rw [hfallback]
        cases g with
        | co2 => rfl
        | tvoc => exact if_pos (hcached.resolve_left (by decide))
      · -- a cached TVOC of `0` is not copied
        obtain ⟨hg, hzero⟩ := not_or.mp hcached
        refine Or.inl fun out => ?_
        rw [hfallback]
        cases g with
        | co2 => exact absurd rfl hg
        | tvoc => exact if_neg hzero
    · obtain ⟨co2Ppm, hanswer⟩ := hanswer out
      have hread : ccs811DriverReadAirQuality a during out s = (⟨ret, co2Ppm, out.2⟩, s') :=
        Prod.ext hanswer (hrun out)
      rw [ccs811DriverReadForBle_fresh hread hcache] at hret
      exact absurd hret hne

/-! ### Every reachable state -/

/-- **The age bound.** In every run of the driver's reads, among whatever happens to the link and
the conditioning, nothing is obtained before the conditioning is complete. And a
`ccs811_driver_read_for_ble` that follows and returns `0` leaves an output as its caller holds
it, or it assigns the output, whatever the caller holds, a value that a read has obtained from
the sensor, in its range, at most five minutes before and after boot conditioning. -/
theorem read_for_ble_age {now : ℤ} {es : List BootEvent} {b : Ccs811Boot}
    {fetches : List Fetch}
    (hrun : ccs811BootMachine.run es (ccs811BootStart now) = some (b, fetches))
    (a : ReadAirQualityAnswers) (others : List ThreadEvent) :
    let s := b.threads.run
    let read := fun out => ccs811DriverReadForBle a (ccs811Others others b.threads) out s
    (s.drv.conditioningComplete = false → s.obtained = []) ∧
      ∃ s', (∀ out, (read out).2 = s') ∧ ∀ out, (read out).1.ret = 0 → ∀ g : Gas,
        (∀ out, g.answered (read out).1 = g.output out) ∨
          ∃ v, (∀ out, g.answered (read out).1 = v) ∧ s'.Recent g v := by
  intro s read
  have hsamples := conditionedSamples_of_bootRun hrun
  refine ⟨fun hincomplete => ?_, ?_⟩
  · by_contra hne
    exact absurd (hincomplete.symm.trans (hsamples.complete hne)) Bool.false_ne_true
  obtain ⟨s', hends⟩ := ccs811DriverReadAirQuality_ends a (ccs811Others others b.threads) s
  have hdated : s'.CacheDated := by
    rw [← hends.1 (0, 0)]
    exact Ccs811Run.cacheDated_keeps.readAirQuality_others a others b.threads (0, 0)
      (cacheDated_of_bootRun hrun)
  have hconditioned : s'.ConditionedSamples := by
    rw [← hends.1 (0, 0)]
    exact Ccs811Run.conditionedSamples_keeps.readAirQuality_others a others b.threads (0, 0)
      hsamples
  refine ⟨s', fun out => ?_, fun out hret g => ?_⟩
  · exact (ccs811DriverReadForBle_run ..).trans (hends.1 out)
  refine (readForBle_dated hends hdated hret g).imp_right ?_
  rintro ⟨v, hanswer, hok, x, hx, hsampled, hage, hpast⟩
  exact ⟨v, hanswer, Gas.inRange_of_ok hok, x, hx, hsampled, hage, hpast,
    hconditioned.sampleElapsed x hx⟩

/-- `read_for_ble_age` at a read that is told to try again, after one of 500 ppm and 0 ppb. -/
theorem read_for_ble_age_sampledOnce :
    ∃ b fetches,
      ccs811BootMachine.run (sampledOnce 500 0) (ccs811BootStart 1) = some (b, fetches) ∧
      let s := b.threads.run
      let read := fun out => ccs811DriverReadForBle notReadyYet (ccs811Others [] b.threads) out s
      (read (7, 7)).1.ret = 0 ∧ (read (7, 7)).1.co2Ppm = 500 ∧
        (s.drv.conditioningComplete = false → s.obtained = []) ∧
          ∃ s', (∀ out, (read out).2 = s') ∧ ∀ out, (read out).1.ret = 0 → ∀ g : Gas,
            (∀ out, g.answered (read out).1 = g.output out) ∨
              ∃ v, (∀ out, g.answered (read out).1 = v) ∧ s'.Recent g v := by
  have hread : ∃ r ∈ ccs811BootMachine.run (sampledOnce 500 0) (ccs811BootStart 1),
      let read := fun out => ccs811DriverReadForBle notReadyYet (ccs811Others [] r.1.threads) out
        r.1.threads.run
      (read (7, 7)).1.ret = 0 ∧ (read (7, 7)).1.co2Ppm = 500 := by
    decide +kernel
  obtain ⟨⟨b, fetches⟩, hrun, hret, hco2⟩ := hread
  exact ⟨b, fetches, hrun, hret, hco2, read_for_ble_age hrun notReadyYet []⟩

end EnvMonitor
