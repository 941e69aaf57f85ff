import EnvMonitor.Ccs811.Coherence
import EnvMonitor.Ccs811.Outcome

/-!
# Failed reads and the cache of the CCS811

`ccs811_driver_read_air_quality` caches the CO2 before it asks for the TVOC. If the TVOC then
fails, the call fails, and the cache is left with the CO2 of this sample, the TVOC of an earlier
one and the time of that.

`failed_read_cache_iff` says that this is the only way in which a failed read touches the cache,
and that without it the cached pair is always that of one read, `Ccs811Run.PairSampled`.
-/

namespace EnvMonitor

/-! ### One read -/

/-- The sample does not part the CO2 from the TVOC, or it brings the CO2 that is cached. -/
def SampleAnswers.Untorn (a : SampleAnswers) (s : Ccs811Run) : Prop :=
  a.tornCo2 = none ∨ a.tornCo2 = some s.drv.cachedCo2Ppm

/-- A sample that fails leaves the cache alone exactly if it is not torn. -/
theorem ccs811ReadSample_cache_iff (a : SampleAnswers) (out : UInt16 × UInt16)
    (s : Ccs811Run) :
    ((ccs811ReadSample a out s).1.ret ≠ 0 →
        (ccs811ReadSample a out s).2.drv.cache = s.drv.cache) ↔ a.Untorn s := by
  obtain ⟨s', hrun, ⟨hcode, hdrv, -, hanswer⟩ | ⟨-, htorn, x, -, -, -, -, hanswer⟩⟩ :=
    ccs811ReadSample_code a s
  · obtain ⟨co2Ppm, hanswer⟩ := hanswer out
    rw [hanswer, hrun, imp_iff_right hcode, hdrv, SampleAnswers.Untorn]
    cases a.tornCo2 <;> simp [Ccs811State.cache]
  · rw [hanswer]
    exact iff_of_true (fun hne => absurd rfl hne) (Or.inl htorn)

/-- **One read** that fails leaves the cache alone exactly if it does not get to a sample that
is torn. -/
theorem ccs811DriverReadAirQuality_cache_iff (a : ReadAirQualityAnswers)
    (during : List Ccs811Event) (out : UInt16 × UInt16) (s : Ccs811Run) :
    let read := ccs811DriverReadAirQuality a (ccs811Steps during) out s
    (read.1.ret ≠ 0 → read.2.drv.cache = s.drv.cache) ↔
      (a.samples s = true → a.sample.Untorn s) := by
  intro read
  obtain ⟨s', hfound, hread⟩ := ccs811DriverReadAirQuality_code a (ccs811Steps during) s
  have hhistory : s'.history = s.history := hfound.trans (history_afterWait_steps a during s)
  rcases hread with ⟨hsamples, -, hread⟩ | ⟨hsamples, -, hread⟩
  · have hcache : s'.drv.cache = s.drv.cache := congrArg Prod.fst hhistory
    have hco2 : s'.drv.cachedCo2Ppm = s.drv.cachedCo2Ppm := congrArg (·.2.1) hcache
    have hiff := ccs811ReadSample_cache_iff a.sample out s'
    rw [SampleAnswers.Untorn, hco2, hcache, ← hread out] at hiff
    rw [imp_iff_right hsamples]
    exact hiff
  · have hcache : read.2.drv.cache = s.drv.cache := by
      simp only [read, hread out]
      exact congrArg Prod.fst hhistory
    exact iff_of_true (fun _ => hcache)
      fun h => absurd (hsamples.symm.trans h) Bool.false_ne_true

/-! ### Every run -/

/-- The cached pair is the one of a single successful read, the one made at
`last_sample_time`. -/
def Ccs811Run.PairSampled (s : Ccs811Run) : Prop :=
  s.drv.firstSampleObtained = true →
    ∃ x ∈ s.obtained, x.co2Ppm = s.drv.cachedCo2Ppm ∧ x.tvocPpb = some s.drv.cachedTvocPpb ∧
      x.endTime = s.drv.lastSampleTime

/-- A piece of a read that gets to its sample does not tear the cached pair. -/
def BootEvent.LeavesPair (e : BootEvent) (b : Ccs811Boot) : Prop :=
  match e with
  | .thread (.readStart _ a) =>
    a.passes b.threads.run = true → b.threads.run.drv.awaitFirst1sSample = false →
      a.sample.Untorn b.threads.run
  | .thread (.readResume _ a) => a.relockRet = 0 → a.sample.Untorn b.threads.run
  | _ => True

namespace Ccs811Run.PairSampled

variable {s : Ccs811Run}

theorem congr {s' : Ccs811Run} (h : s.PairSampled) (hhistory : s'.history = s.history) :
    s'.PairSampled := by
  obtain ⟨hcache, hobtained⟩ := Prod.mk.inj hhistory
  obtain ⟨hfirst, hco2, htvoc, hlast⟩ : s'.drv.firstSampleObtained = s.drv.firstSampleObtained ∧
      s'.drv.cachedCo2Ppm = s.drv.cachedCo2Ppm ∧ s'.drv.cachedTvocPpb = s.drv.cachedTvocPpb ∧
        s'.drv.lastSampleTime = s.drv.lastSampleTime := by
    simpa only [Ccs811State.cache, Prod.mk.injEq] using hcache
  rw [PairSampled, hfirst, hco2, htvoc, hlast, hobtained]
  exact h

/-- A sample that is not torn brings a pair of its own or leaves the cached one. -/
theorem sample (h : s.PairSampled) {a : SampleAnswers} (huntorn : a.Untorn s)
    (out : UInt16 × UInt16) : (ccs811ReadSample a out s).2.PairSampled := by
  obtain ⟨s', hrun, ⟨-, hdrv, hobtained, -⟩ | ⟨-, -, x, hx, hco2, htvoc, htime, -⟩⟩ :=
    ccs811ReadSample_code a s
  · have hsame : s'.drv = s.drv := by
      rw [hdrv]
      rcases huntorn with hnone | hsome
      · rw [hnone, Option.getD_none]
      · rw [hsome, Option.getD_some]
    rw [hrun]
    intro hfirst
    rw [hsame] at hfirst ⊢
    obtain ⟨x, hx, hpair⟩ := h hfirst
    exact ⟨x, hobtained hx, hpair⟩
  · rw [hrun]
    exact fun _ => ⟨x, hx, hco2, htvoc, htime⟩

/-- **One piece** keeps the pair, unless it tears it. -/
theorem thread {t t' : Ccs811Threads} (h : t.run.PairSampled) {e : ThreadEvent}
    {os : List Fetch} {starting : Bool} (he : (BootEvent.thread e).LeavesPair ⟨t, starting⟩)
    (hstep : threadStep e t = some (t', os)) : t'.run.PairSampled := by
  have hentry {a : ReadAirQualityAnswers} {entry : ReadEntry} {s : Ccs811Run}
      (hread : ccs811ReadEntry a t.run = (entry, s)) : s.history = t.run.history := by
    rw [← history_ccs811ReadEntry t.run a, hread]
  rcases threadStep_cases hstep with ⟨e', -, hrun, -⟩ | ⟨r, a, ret, -, hread, -⟩ |
    ⟨r, a, -, hread, -⟩ | ⟨r, a, s, rfl, hread, hrun, -⟩ | ⟨r, a, last, rfl, -, hrun, -⟩
  · rw [hrun]
    exact h.congr (history_ccs811Step t.run e')
  · exact h.congr (hentry hread)
  · exact h.congr (hentry hread)
  · -- it samples at once, so the checks were passed and no sample is awaited
    have hgo := ccs811ReadEntry_passes a t.run
    rw [hread] at hgo
    change ReadEntry.fetching = _ at hgo
    split_ifs at hgo with hpasses hawait
    have huntorn : a.sample.Untorn s := by
      have hco2 : s.drv.cachedCo2Ppm = t.run.drv.cachedCo2Ppm :=
        congrArg (·.1.2.1) (hentry hread)
      rw [SampleAnswers.Untorn, hco2]
      exact he hpasses (by simpa using hawait)
    rw [hrun]
    exact (h.congr (hentry hread)).sample huntorn (0, 0)
  · rw [hrun, ccs811ReadResume, ccs811ReadRelock]
    dsimp only
    split_ifs with hrelock
    · exact h.congr rfl
    · have hrelocked : (ccs811ReadRelock a.relockRet t.run).2.PairSampled := h.congr rfl
      exact hrelocked.sample (he (by simpa using hrelock)) (0, 0)

/-- **One critical section** keeps the pair, unless it tears it. The driver starts with an empty
cache. -/
theorem step {b b' : Ccs811Boot} (h : b.threads.run.PairSampled) {e : BootEvent}
    {os : List Fetch} (he : e.LeavesPair b) (hstep : bootStep e b = some (b', os)) :
    b'.threads.run.PairSampled := by
  cases e with
  | init a =>
    rw [bootStep, ccs811InitSection] at hstep
    split_ifs at hstep <;> obtain ⟨rfl, -⟩ := Prod.mk.inj (Option.some.inj hstep)
    · exact h
    · exact h
    · exact h
    · exact fun hfirst => absurd hfirst Bool.false_ne_true
  | bootConditioning relockRet modeRet =>
    rw [bootStep] at hstep
    split_ifs at hstep
    obtain ⟨rfl, -⟩ := Prod.mk.inj (Option.some.inj hstep)
    dsimp only
    rw [ccs811BootSection]
    split_ifs
    · refine h.congr ?_
      rw [ccs811StartBootConditioning, ccs811ModeUpdate]
      dsimp only
      split_ifs <;> rfl
    · exact h
  | thread e =>
    obtain ⟨⟨threads, fetches⟩, hthread, heq⟩ := Option.map_eq_some_iff.mp hstep
    obtain ⟨rfl, -⟩ := Prod.mk.inj heq
    exact h.thread he hthread

end Ccs811Run.PairSampled

/-- **Failed reads.** In every reachable state of the driver, a call of
`ccs811_driver_read_air_quality` that fails leaves the cache as it was, if and only if it does
not get to a sample whose CO2, other than the cached one, is accepted and whose TVOC then fails.
While no such sample is taken, the cached pair is that of the read made at
`last_sample_time`. -/
theorem failed_read_cache_iff {now : ℤ} {es : List BootEvent} {b : Ccs811Boot}
    {fetches : List Fetch}
    (hrun : ccs811BootMachine.run es (ccs811BootStart now) = some (b, fetches)) :
    (∀ a during out,
      let read := ccs811DriverReadAirQuality a (ccs811Steps during) out b.threads.run
      (read.1.ret ≠ 0 → read.2.drv.cache = b.threads.run.drv.cache) ↔
        (a.samples b.threads.run = true → a.sample.Untorn b.threads.run)) ∧
      (ccs811BootMachine.Along BootEvent.LeavesPair es (ccs811BootStart now) →
        b.threads.run.PairSampled) := by
  refine ⟨fun a during out => ccs811DriverReadAirQuality_cache_iff a during out _,
    fun halong => ?_⟩
  refine halong.invariant (I := fun b => b.threads.run.PairSampled)
    (fun he h hstep => h.step he hstep) ?_ hrun
  exact fun hfirst => absurd hfirst Bool.false_ne_true

/-- A read of 600 ppm whose TVOC is out of range. -/
def tvocFails : ReadAirQualityAnswers := { sample := { co2Val1 := 600, tvocVal1 := 1500 } }

/-- After the first read, the second one fails and has changed the cached CO2. -/
theorem sampledOnce_tvocFails :
    ∃ r ∈ ccs811BootMachine.run (sampledOnce 500 100) (ccs811BootStart 1),
      let read := ccs811DriverReadAirQuality tvocFails (ccs811Steps []) (0, 0) r.1.threads.run
      read.1.ret ≠ 0 ∧ r.1.threads.run.drv.cache = (true, 500, 100, 1201501) ∧
        read.2.drv.cache = (true, 600, 100, 1201501) := by
  decide +kernel

/-- As part of the run it leaves a pair that no read obtained. -/
theorem sampledOnce_torn :
    ∃ r ∈ ccs811BootMachine.run (sampledOnce 500 100 ++ [.thread (.readStart 0 tvocFails)])
      (ccs811BootStart 1), r.1.threads.run.drv.cache = (true, 600, 100, 1201501) ∧
        r.1.threads.run.obtained = [⟨600, none, 1201501⟩, ⟨500, some 100, 1201501⟩] := by
  decide +kernel

theorem sampledOnce_leavesPair :
    ccs811BootMachine.Along BootEvent.LeavesPair (sampledOnce 500 100) (ccs811BootStart 1) := by
  refine Machine.Along.of_forall (fun e he b => ?_) _
  -- the first piece ends in the wait, and the second one brings both gases
  have hwaits : (SampleAnswers.tornCo2 {}) = none := by decide
  have hsamples : SampleAnswers.tornCo2 { co2Val1 := 500, tvocVal1 := 100 } = none := by decide
  simp only [sampledOnce, List.mem_cons, List.not_mem_nil, or_false] at he
  rcases he with rfl | rfl | rfl | rfl | rfl | rfl | rfl | rfl
  · trivial
  · trivial
  · trivial
  · trivial
  · trivial
  · exact fun _ _ => Or.inl hwaits
  · trivial
  · exact fun _ => Or.inl hsamples

/-- `failed_read_cache_iff` at the state after the first read, along which nothing is torn. -/
theorem failed_read_cache_iff_sampledOnce :
    ∃ b fetches,
      ccs811BootMachine.run (sampledOnce 500 100) (ccs811BootStart 1) = some (b, fetches) ∧
      (∀ a during out,
        let read := ccs811DriverReadAirQuality a (ccs811Steps during) out b.threads.run
        (read.1.ret ≠ 0 → read.2.drv.cache = b.threads.run.drv.cache) ↔
          (a.samples b.threads.run = true → a.sample.Untorn b.threads.run)) ∧
        b.threads.run.PairSampled := by
  obtain ⟨⟨b, fetches⟩, hrun, -⟩ := sampledOnce_tvocFails
  obtain ⟨hread, hpair⟩ := failed_read_cache_iff hrun
  exact ⟨b, fetches, hrun, hread, hpair sampledOnce_leavesPair⟩

/-- A failed read can change the cache, and the cached pair need not be that of one read. -/
theorem failed_read_tears :
    (¬ ∀ (now : ℤ) (es : List BootEvent) (b : Ccs811Boot) (fetches : List Fetch),
        ccs811BootMachine.run es (ccs811BootStart now) = some (b, fetches) →
        ∀ a during out,
          let read := ccs811DriverReadAirQuality a (ccs811Steps during) out b.threads.run
          read.1.ret ≠ 0 → read.2.drv.cache = b.threads.run.drv.cache) ∧
      ¬ ∀ (now : ℤ) (es : List BootEvent) (b : Ccs811Boot) (fetches : List Fetch),
        ccs811BootMachine.run es (ccs811BootStart now) = some (b, fetches) →
        b.threads.run.PairSampled := by
  constructor
  · intro hall
    obtain ⟨⟨b, fetches⟩, hrun, hret, hbefore, hafter⟩ := sampledOnce_tvocFails
    have hsame := hall _ _ b fetches hrun tvocFails [] (0, 0) hret
    rw [hafter, hbefore] at hsame
    exact absurd hsame (by decide)
  · intro hall
    obtain ⟨⟨b, fetches⟩, hrun, hcache, hobtained⟩ := sampledOnce_torn
    simp only [Ccs811State.cache, Prod.mk.injEq] at hcache
    obtain ⟨hfirst, hco2, htvoc, hlast⟩ := hcache
    obtain ⟨x, hx, hxco2, hxtvoc, -⟩ := hall _ _ b fetches hrun hfirst
    rw [hobtained] at hx
    rw [hco2] at hxco2
    rw [htvoc] at hxtvoc
    simp only [List.mem_cons, List.not_mem_nil, or_false] at hx
    rcases hx with rfl | rfl
    · cases hxtvoc
    · exact absurd hxco2 (by decide)

end EnvMonitor
