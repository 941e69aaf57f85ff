import EnvMonitor.Ccs811.Pieces

/-!
# The cached sample of the CCS811

`ccs811_driver_read_for_ble` falls back to what the last complete sample left in the cache if
that is no more than five minutes old. `CacheDated` dates the cache by the history of what the
sensor gave: each cached value was obtained at the time of the last complete sample or later, a
CO2 that was cached by itself being newer.

Hence a read that returns `0` and has assigned both of its outputs, `readForBleAssigns`, hands
out values obtained at most five minutes before.
-/

namespace EnvMonitor

/-! ### The two gases -/

/-- The gases of the CCS811. -/
inductive Gas where
  | co2
  | tvoc
deriving DecidableEq, Repr

namespace Gas

/-- What a call obtained of it. -/
def sampled : Gas → GasSample → Option UInt16
  | co2, x => some x.co2Ppm
  | tvoc, x => x.tvocPpb

/-- What the driver has cached of it. -/
def cached : Gas → Ccs811State → UInt16
  | co2, drv => drv.cachedCo2Ppm
  | tvoc, drv => drv.cachedTvocPpb

/-- What a driver read hands out of it. -/
def answered : Gas → GasAnswer → UInt16
  | co2, answer => answer.co2Ppm
  | tvoc, answer => answer.tvocPpb

/-- The sensor manager's check of it. -/
def ok : Gas → UInt16 → Bool
  | co2 => eco2Ok
  | tvoc => tvocOk

end Gas

/-- The cache of the driver. -/
def Ccs811State.cache (drv : Ccs811State) : Bool × UInt16 × UInt16 × ℤ :=
  (drv.firstSampleObtained, drv.cachedCo2Ppm, drv.cachedTvocPpb, drv.lastSampleTime)

/-! ### Dates -/

namespace Ccs811Run

/-- `v` was obtained of the gas by a call that ended at `t`, or at most `MAX_CACHE_AGE_MS`
before. -/
def ObtainedWithin (s : Ccs811Run) (g : Gas) (v : UInt16) (t : ℤ) : Prop :=
  ∃ x ∈ s.obtained, g.sampled x = some v ∧ t - MAX_CACHE_AGE_MS ≤ x.endTime ∧ x.endTime ≤ t

/-- `v` was obtained of the gas when the last complete sample was, or later. -/
def Current (s : Ccs811Run) (g : Gas) (v : UInt16) : Prop :=
  s.drv.firstSampleObtained = true →
    ∃ x ∈ s.obtained, g.sampled x = some v ∧ s.drv.lastSampleTime ≤ x.endTime

/-- What holds of the cache in every reachable state of the driver. -/
structure CacheDated (s : Ccs811Run) : Prop where
  past : ∀ x ∈ s.obtained, x.endTime ≤ s.now
  /-- What the driver accepts, the sensor manager does, too. -/
  ok : ∀ x ∈ s.obtained, ∀ g v, Gas.sampled g x = some v → g.ok v = true
  dated : s.drv.firstSampleObtained = true → ∀ g, ∃ x ∈ s.obtained,
    Gas.sampled g x = some (g.cached s.drv) ∧ s.drv.lastSampleTime ≤ x.endTime

theorem cacheDated_start (now : ℤ) : ({ now := now } : Ccs811Run).CacheDated where
  past := nofun
  ok := nofun
  dated := nofun

/-- The last complete sample is not one of the future. -/
theorem CacheDated.lastSampleTime_le {s : Ccs811Run} (h : s.CacheDated)
    (hfirst : s.drv.firstSampleObtained = true) : s.drv.lastSampleTime ≤ s.now := by
  obtain ⟨x, hx, -, hlast⟩ := h.dated hfirst .co2
  exact hlast.trans (h.past x hx)

/-- Only the history, the cache and the clock play a part, and the clock may go on. -/
theorem CacheDated.congr {s s' : Ccs811Run} (h : s.CacheDated)
    (hobtained : s'.obtained = s.obtained) (hcache : s'.drv.cache = s.drv.cache)
    (hnow : s.now ≤ s'.now) : s'.CacheDated := by
  obtain ⟨hfirst, hco2, htvoc, hlast⟩ : s'.drv.firstSampleObtained = s.drv.firstSampleObtained ∧
      s'.drv.cachedCo2Ppm = s.drv.cachedCo2Ppm ∧ s'.drv.cachedTvocPpb = s.drv.cachedTvocPpb ∧
        s'.drv.lastSampleTime = s.drv.lastSampleTime := by
    simpa only [Ccs811State.cache, Prod.mk.injEq] using hcache
  have hcached : ∀ g : Gas, g.cached s'.drv = g.cached s.drv := fun g => by
    cases g
    · exact hco2
    · exact htvoc
  constructor
  · rw [hobtained]
    exact fun x hx => (h.past x hx).trans hnow
  · rw [hobtained]
    exact h.ok
  · simp only [hobtained, hfirst, hlast, hcached]
    exact h.dated

end Ccs811Run

/-! ### What the driver accepts -/

theorem co2Channel_ok {ret val1 : ℤ} {co2Ppm : UInt16}
    (h : co2Channel ret val1 = .ok co2Ppm) : eco2Ok co2Ppm = true := by
  rw [co2Channel] at h
  split_ifs at h with hret hzero hrange
  -- in range, so `val1` is a natural number that fits `uint16_t`
  obtain ⟨n, rfl⟩ := Int.eq_ofNat_of_zero_le (by omega : 0 ≤ val1)
  obtain rfl := Except.ok.inj h
  have hn : (UInt16.ofNat n).toNat = n := UInt16.toNat_ofNat_of_lt' (by grind)
  simp only [eco2Ok, Bool.and_eq_true, bne_iff_ne, decide_eq_true_eq, ne_eq,
    UInt16.le_iff_toNat_le, ← UInt16.toNat_inj, Int.toNat_natCast, hn]
  refine ⟨⟨⟨?_, ?_⟩, ?_⟩, ?_⟩ <;> grind

theorem tvocChannel_ok {ret val1 : ℤ} {tvocPpb : UInt16}
    (h : tvocChannel ret val1 = .ok tvocPpb) : tvocOk tvocPpb = true := by
  rw [tvocChannel] at h
  split_ifs at h with hret hrange
  obtain ⟨n, rfl⟩ := Int.eq_ofNat_of_zero_le (by omega : 0 ≤ val1)
  obtain rfl := Except.ok.inj h
  have hn : (UInt16.ofNat n).toNat = n := UInt16.toNat_ofNat_of_lt' (by grind)
  simp only [tvocOk, Bool.and_eq_true, bne_iff_ne, decide_eq_true_eq, ne_eq,
    UInt16.le_iff_toNat_le, ← UInt16.toNat_inj, Int.toNat_natCast, hn]
  refine ⟨⟨?_, ?_⟩, ?_⟩ <;> grind

/-- Whether a `ccs811_driver_read_for_ble` that returns `0` assigns both outputs, given what its
`ccs811_driver_read_air_quality` came to: that succeeds, or both values are cached. -/
def readForBleAssigns (read : GasAnswer × Ccs811Run) : Bool :=
  read.1.ret == 0 || (read.2.drv.cachedCo2Ppm > 0 && read.2.drv.cachedTvocPpb > 0)

namespace Ccs811Run

/-- Another entry of the history, of values that were accepted and no later than now. -/
private theorem CacheDated.cons {s s' : Ccs811Run} (h : s.CacheDated) {x : GasSample}
    (hobtained : s'.obtained = x :: s.obtained) (hnow : s.now ≤ s'.now)
    (hx : x.endTime = s'.now) (hok : ∀ g v, Gas.sampled g x = some v → g.ok v = true)
    (hdated : s'.drv.firstSampleObtained = true → ∀ g,
      Gas.sampled g x = some (g.cached s'.drv) ∧ s'.drv.lastSampleTime ≤ x.endTime ∨
        s.drv.firstSampleObtained = true ∧ g.cached s'.drv = g.cached s.drv ∧
          s'.drv.lastSampleTime = s.drv.lastSampleTime) : s'.CacheDated := by
  constructor
  · intro y hy
    rw [hobtained] at hy
    rcases List.mem_cons.mp hy with rfl | hy
    · exact hx.le
    · exact (h.past y hy).trans hnow
  · intro y hy
    rw [hobtained] at hy
    rcases List.mem_cons.mp hy with rfl | hy
    · exact hok
    · exact h.ok y hy
  · intro hfirst g
    rw [hobtained]
    rcases hdated hfirst g with hnew | ⟨hfirst, hcached, hlast⟩
    · exact ⟨x, List.mem_cons_self, hnew⟩
    · obtain ⟨y, hy, hold⟩ := h.dated hfirst g
      rw [hcached, hlast]
      exact ⟨y, List.mem_cons_of_mem x hy, hold⟩

/-- **Invariant.** Every step of the driver and every read keeps the dates. -/
theorem cacheDated_keeps : Ccs811Keeps CacheDated where
  congr hcore h := h.congr (congrArg (·.obtained) hcore) (congrArg (·.drv.cache) hcore)
    (congrArg (·.now) hcore).ge
  tick ms {s} h := by
    have hlater : s.now ≤ s.now + ms := by omega
    exact h.congr rfl rfl hlater
  latch _ h := h.congr rfl rfl le_rfl
  workRun h := h.congr rfl rfl le_rfl
  workDone _ _ h := h.congr rfl rfl le_rfl
  sample a out {s} _ h := by
    have hlater : s.now ≤ s.now + a.fetchTime := by omega
    rcases ccs811ReadSample_cases a out s with
      ⟨_, -, hsample⟩ | ⟨_, co2Ppm, -, hco2, hsample⟩ | ⟨co2Ppm, tvocPpb, hco2, htvoc, hsample⟩ <;>
      rw [hsample]
    · exact h.congr rfl rfl hlater
    · refine h.cons rfl hlater rfl (fun g v hv => ?_) fun hfirst g => ?_
      · cases g with
        | co2 => exact Option.some.inj hv ▸ co2Channel_ok hco2
        | tvoc => cases hv
      · cases g with
        | co2 =>
          -- newer than the last complete sample
          exact Or.inl ⟨rfl, (h.lastSampleTime_le hfirst).trans hlater⟩
        | tvoc => exact Or.inr ⟨hfirst, rfl, rfl⟩
    · -- a complete sample dates both gases anew
      refine h.cons rfl hlater rfl (fun g v hv => ?_) fun _ g => Or.inl ?_
      · cases g with
        | co2 => exact Option.some.inj hv ▸ co2Channel_ok hco2
        | tvoc => exact Option.some.inj hv ▸ tvocChannel_ok htvoc
      · cases g <;> exact ⟨rfl, le_rfl⟩

/-- Once a sample is cached, its CO2 is in range, and so not `0`. -/
theorem CacheDated.cachedCo2 {s : Ccs811Run} (h : s.CacheDated)
    (hfirst : s.drv.firstSampleObtained = true) :
    eco2Ok s.drv.cachedCo2Ppm = true ∧ s.drv.cachedCo2Ppm > 0 := by
  obtain ⟨x, hx, hsampled, -⟩ := h.dated hfirst .co2
  have hok : eco2Ok s.drv.cachedCo2Ppm = true := h.ok x hx .co2 _ hsampled
  refine ⟨hok, UInt16.pos_iff_ne_zero.mpr fun hzero => ?_⟩
  rw [hzero] at hok
  exact absurd hok (by decide)

/-- `ccs811_driver_init` empties the cache or leaves it alone. -/
theorem CacheDated.init {s : Ccs811Run} (h : s.CacheDated) (a : InitAnswers) :
    (ccs811DriverInit a s).2.CacheDated := by
  rw [ccs811DriverInit]
  dsimp only
  split_ifs
  · exact h
  · exact h
  · exact h
  · by_cases hmode : a.modeRet = 0 <;>
      simp only [ccs811StartBootConditioning, ccs811ModeUpdate, hmode, if_true, if_false] <;>
      exact ⟨h.past, h.ok, fun h => absurd h Bool.false_ne_true⟩
  · exact ⟨h.past, h.ok, fun h => absurd h Bool.false_ne_true⟩

/-- The history only grows. -/
theorem obtained_keeps (P : GasSample → Prop) : Ccs811Keeps fun s => ∃ x ∈ s.obtained, P x where
  congr {s s'} hcore h := by
    have hobtained : s'.obtained = s.obtained := congrArg (·.obtained) hcore
    rw [hobtained]
    exact h
  tick _ _ h := h
  latch _ h := h
  workRun h := h
  workDone _ _ h := h
  sample a out s _ h := by
    obtain ⟨x, hx, hP⟩ := h
    rcases ccs811ReadSample_cases a out s with
      ⟨_, -, hsample⟩ | ⟨_, _, -, -, hsample⟩ | ⟨_, _, -, -, hsample⟩ <;> rw [hsample]
    · exact ⟨x, hx, hP⟩
    · exact ⟨x, List.mem_cons_of_mem _ hx, hP⟩
    · exact ⟨x, List.mem_cons_of_mem _ hx, hP⟩

/-- What was obtained in time stays so. -/
theorem obtainedWithin_keeps (g : Gas) (v : UInt16) (t : ℤ) :
    Ccs811Keeps fun s => s.ObtainedWithin g v t :=
  obtained_keeps _

/-- The uptime only grows. -/
theorem now_keeps (t : ℤ) : Ccs811Keeps fun s => t ≤ s.now where
  congr hcore h := h.trans (congrArg (·.now) hcore).ge
  tick ms s h := by
    dsimp only
    omega
  latch _ h := h
  workRun h := h
  workDone _ _ h := h
  sample a out s _ h := by
    have hlater : t ≤ s.now + a.fetchTime := by omega
    rcases ccs811ReadSample_cases a out s with
      ⟨_, -, hsample⟩ | ⟨_, _, -, -, hsample⟩ | ⟨_, _, -, -, hsample⟩ <;>
      rw [hsample] <;> exact hlater

/-- `ccs811_driver_init` takes no time and has no part in the history. -/
theorem ccs811DriverInit_history (a : InitAnswers) (s : Ccs811Run) :
    (ccs811DriverInit a s).2.obtained = s.obtained ∧ (ccs811DriverInit a s).2.now = s.now := by
  rw [ccs811DriverInit]
  dsimp only
  split_ifs
  · exact ⟨rfl, rfl⟩
  · exact ⟨rfl, rfl⟩
  · exact ⟨rfl, rfl⟩
  · by_cases hmode : a.modeRet = 0 <;>
      simp [ccs811StartBootConditioning, ccs811ModeUpdate, hmode]
  · exact ⟨rfl, rfl⟩

/-! ### What a successful read hands out -/

/-- A fresh sample. -/
theorem CacheDated.readAirQuality {a : ReadAirQualityAnswers} {during : List Ccs811Event}
    {out : UInt16 × UInt16} {s s' : Ccs811Run} {answer : GasAnswer} (h : s'.CacheDated)
    (hread : ccs811DriverReadAirQuality a (ccs811Steps during) out s = (answer, s'))
    (hret : answer.ret = 0) (g : Gas) :
    g.ok (g.answered answer) = true ∧ s'.ObtainedWithin g (g.answered answer) s'.now ∧
      s'.Current g (g.answered answer) := by
  obtain ⟨-, hmem⟩ := ccs811DriverReadAirQuality_success hread hret
  have hsampled : g.sampled ⟨answer.co2Ppm, some answer.tvocPpb, s'.now⟩ =
      some (g.answered answer) := by
    cases g <;> rfl
  have hage : s'.now - MAX_CACHE_AGE_MS ≤ s'.now := by
    rw [MAX_CACHE_AGE_MS]
    omega
  exact ⟨h.ok _ hmem g _ hsampled, ⟨_, hmem, hsampled, hage, le_rfl⟩,
    fun hfirst => ⟨_, hmem, hsampled, h.lastSampleTime_le hfirst⟩⟩

/-- A fresh sample, or the cache, as far as it is assigned, and the CO2 always is. -/
theorem CacheDated.readForBle {a : ReadAirQualityAnswers} {during : List Ccs811Event}
    {out : UInt16 × UInt16} {s s' : Ccs811Run} {answer : GasAnswer} (h : s'.CacheDated)
    (hread : ccs811DriverReadForBle a (ccs811Steps during) out s = (answer, s'))
    (hret : answer.ret = 0) {g : Gas}
    (hassigns : g = .co2 ∨
      readForBleAssigns (ccs811DriverReadAirQuality a (ccs811Steps during) out s) = true) :
    g.ok (g.answered answer) = true ∧ s'.ObtainedWithin g (g.answered answer) s'.now ∧
      s'.Current g (g.answered answer) := by
  obtain hsame | ⟨⟨fresh, hfresh, hfailed⟩, hfirst, hage, hco2, htvoc⟩ :=
    ccs811DriverReadForBle_success hread hret
  · exact h.readAirQuality hsame hret g
  -- the fallback: what is cached is handed out
  have hanswered : g.answered answer = g.cached s'.drv := by
    cases g with
    | co2 => exact hco2 (h.cachedCo2 hfirst).2
    | tvoc =>
      have hassigns := hassigns.resolve_left (by decide)
      rw [hfresh, readForBleAssigns, Bool.or_eq_true, Bool.and_eq_true] at hassigns
      exact htvoc (by simpa using (hassigns.resolve_left (by simpa using hfailed)).2)
  obtain ⟨x, hx, hsampled, hlast⟩ := h.dated hfirst g
  rw [hanswered]
  exact ⟨h.ok x hx g _ hsampled, ⟨x, hx, hsampled, by omega, h.past x hx⟩,
    fun _ => ⟨x, hx, hsampled, hlast⟩⟩

end Ccs811Run

end EnvMonitor
