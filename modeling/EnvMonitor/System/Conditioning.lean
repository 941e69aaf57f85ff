import EnvMonitor.Ccs811.Conditioning
import EnvMonitor.System.GasInvariant

/-!
# No gas before the conditioning

The driver's gate, its fallback to the cache, the sensor manager's flag and the readiness that
the service asks for one time after the other each guard the gases on their own. `Gated` says
what they guard together: the flag of the snapshot, or a gas value that the service shows, is
there only once the conditioning is complete, and completeness is never taken back.
-/

namespace EnvMonitor

/-- The snapshot offers the gases, or the service shows one, only after the conditioning. -/
def Gated (shows : Prop) (data : SensorData) (s : SystemEnv) : Prop :=
  s.ccs.Conditioned ∧
    (data.isValid .airQuality = true ∨ shows → s.ccs.drv.conditioningComplete = true)

@[simp]
theorem noteSuccess_ccs (ret : ℤ) (assigned : Bool) (s : SystemEnv) :
    (s.noteSuccess ret assigned).ccs = s.ccs := by
  rw [SystemEnv.noteSuccess]
  split_ifs <;> rfl

/-- A driver read that returned `ret` and whose success needs the conditioning keeps the gate:
a failure offers nothing that was not offered before. -/
private theorem Gated.read (ret : ℤ) {shows : Prop} {data data' : SensorData}
    {s s' : SystemEnv} (h : Gated shows data s) {ccs : Ccs811Run} (hccs : s'.ccs = ccs)
    (hconditioned : ccs.Conditioned)
    (hlater : s.ccs.drv.conditioningComplete = true → ccs.drv.conditioningComplete = true)
    (hsuccess : ret = 0 → ccs.drv.conditioningComplete = true)
    (hfailure : ret ≠ 0 → data'.isValid .airQuality = true → data.isValid .airQuality = true) :
    Gated shows data' s' := by
  subst hccs
  refine ⟨hconditioned, fun hshown => ?_⟩
  by_cases hret : ret = 0
  · exact hsuccess hret
  · exact hlater (h.2 (hshown.imp_left (hfailure hret)))

/-- **Invariant.** -/
theorem gated_invariant : GasInvariant Gated where
  weaken hshows h := ⟨h.1, fun hshown => h.2 (hshown.imp_right hshows)⟩
  gases hview h :=
    ⟨h.1, fun hshown => h.2 (hshown.imp_left ((congrArg Prod.fst hview).symm.trans ·))⟩
  script _ h := h
  handler h := h
  step e _ _ _ h := ⟨Ccs811Run.conditioned_keeps.step e h.1,
    fun hshown => conditioningComplete_keeps.step e (h.2 hshown)⟩
  ready {_ _ s} h hready := ⟨Ccs811Run.conditioned_keeps.isReady h.1,
    fun _ => (ccs811DriverIsReady_complete s.ccs).trans hready⟩
  init a _ _ _ h := ⟨(h.1.init a).1, fun hshown => (h.1.init a).2 (h.2 hshown)⟩
  readAirQuality t {_ data s} h := by
    rcases hread : ccs811DriverReadAirQuality t.read (ccs811Steps t.during) t.out s.ccs with
      ⟨answer, ccs⟩
    have hconditioned := Ccs811Run.conditioned_keeps.readAirQuality t.read t.during t.out h.1
    have hlater := conditioningComplete_keeps.readAirQuality t.read t.during t.out (s := s.ccs)
    rw [hread] at hconditioned hlater
    simp only [SystemEnv.readAirQuality, hread]
    refine h.read answer.ret (noteSuccess_ccs ..) hconditioned hlater (fun hret => ?_)
      fun hret hvalid => ?_
    · exact (ccs811DriverReadAirQuality_success hread hret).1
    · -- a failure clears the flag
      exact absurd (cacheAirQuality_valid data hvalid).1.1 hret
  readForBle t {_ data s} h := by
    rcases hread : ccs811DriverReadForBle t.read (ccs811Steps t.during) t.out s.ccs with
      ⟨answer, ccs⟩
    have hconditioned := Ccs811Run.conditioned_keeps.readAirQuality t.read t.during t.out h.1
    have hlater := conditioningComplete_keeps.readAirQuality t.read t.during t.out (s := s.ccs)
    rw [← ccs811DriverReadForBle_run, hread] at hconditioned hlater
    simp only [SystemEnv.readForBle, hread]
    refine h.read answer.ret (noteSuccess_ccs ..) hconditioned hlater (fun hret => ?_)
      fun hret hvalid => ?_
    · exact hconditioned.complete_of_readForBle hread hret
    · rwa [cacheAirQualityForBle, if_neg hret] at hvalid

theorem gated_start (now : ℤ) : GasInvariant.holds Gated (systemStart now) := by
  refine ⟨Ccs811Run.conditioned_start now, fun hshown => ?_⟩
  -- at the start no flag is set and nothing is known
  rcases hshown with hvalid | ⟨c, rfl | rfl, hknown, -⟩
  · have hclear : sensorDataZero.isValid .airQuality = false := by decide
    exact absurd (hclear.symm.trans hvalid) Bool.false_ne_true
  · cases hknown
  · cases hknown

/-- **No gas reading escapes before the conditioning.** In every state that the composed system
reaches, whatever the order of its calls, the answers of the hardware and the moments at which
the sensor becomes ready: if the snapshot has the air-quality flag, or a gas characteristic is
known with a value other than the sentinel, then the conditioning is complete and its time has
passed since boot conditioning started. -/
theorem gas_conditioned {now : ℤ} {es : List SystemEvent} {u : SystemRun}
    {reads : List GasRead}
    (hrun : systemMachine.run es (systemStart now) = some (u, reads))
    (hgas : u.env.mgr.current.isValid .airQuality = true ∨ u.ess.ShowsGas) :
    u.env.env.ccs.drv.conditioningComplete = true ∧
      ∃ start, u.env.env.ccs.conditioningStart = some start ∧
        u.env.env.ccs.now - start ≥ CCS811_CONDITIONING_TIME_MS := by
  have hgated : GasInvariant.holds Gated u :=
    Machine.Preserves.run (I := GasInvariant.holds Gated) gated_invariant.preserves
      (fun _ _ => trivial) (gated_start now) hrun
  have hcomplete := hgated.2 hgas
  obtain ⟨start, hstart, htime⟩ := hgated.1.elapsed hcomplete
  exact ⟨hcomplete, start, hstart, by omega⟩

/-- Boot, 20 minutes, and a client whose connect sample is 800 ppm and 10 ppb. -/
def connectAfterConditioning : List SystemEvent :=
  [{ call := .manager .init }, { call := .essInit }, { call := .manager .arm },
    { call := .driver (.tick 1200000) }, { call := .driver (.conditioningWork 0 0) },
    { turns := List.replicate 30 { read := { sample := { co2Val1 := 800, tvocVal1 := 10 } } }
      call := .connected {} }]

/-- The sample is shown. -/
theorem connectAfterConditioning_shows :
    ∃ r ∈ systemMachine.run connectAfterConditioning (systemStart 1),
      (r.1.ess.sensor .co2).valueKnown = true ∧ (r.1.ess.sensor .co2).value = 800 := by
  decide +kernel

/-- `gas_conditioned` at the first sample of a client. -/
theorem gas_conditioned_connectAfterConditioning :
    ∃ u reads, systemMachine.run connectAfterConditioning (systemStart 1) = some (u, reads) ∧
      u.ess.ShowsGas ∧ u.env.env.ccs.drv.conditioningComplete = true ∧
      ∃ start, u.env.env.ccs.conditioningStart = some start ∧
        u.env.env.ccs.now - start ≥ CCS811_CONDITIONING_TIME_MS := by
  obtain ⟨⟨u, reads⟩, hrun, hknown, hvalue⟩ := connectAfterConditioning_shows
  have hshows : u.ess.ShowsGas := by
    refine ⟨.co2, Or.inl rfl, hknown, fun h => ?_⟩
    rw [hvalue] at h
    exact absurd h (by decide)
  exact ⟨u, reads, hrun, hshows, gas_conditioned hrun (Or.inr hshows)⟩

end EnvMonitor
