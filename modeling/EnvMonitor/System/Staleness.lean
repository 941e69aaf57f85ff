import EnvMonitor.Ccs811.Outcome
import EnvMonitor.System.Conditioning

/-!
# How old a gas value is that a client reads

The driver hands out nothing older than five minutes, but the sensor manager keeps its pair
while the driver fails, and a read serves that pair. `Dated` is what holds of the pair across
the three caches: it dates from the latest driver read that returned `0`, and is no more than
five minutes older than that. So a value that a read serves is at most five minutes old if the
refresh in the read's own handler returned `0`, and otherwise as old as the driver's last
success leaves it.

A fallback that finds no TVOC in the driver's cache returns `0` with that output unassigned.
Nothing is said of a TVOC while that is the latest success. The CO2 is assigned even then, and
where the sensor manager turns the pair down and keeps its own, the CO2 of that is no older than
the last complete sample, as the cache is.
-/

namespace EnvMonitor

namespace Ccs811Run

/-! ### What stays current -/

variable {g : Gas} {v : UInt16} {s s' : Ccs811Run}

/-- Only the cache and the history play a part. -/
theorem Current.congr (h : s.Current g v) (hhistory : s'.history = s.history) :
    s'.Current g v := by
  obtain ⟨hcache, hobtained⟩ := Prod.mk.inj hhistory
  have hfirst : s'.drv.firstSampleObtained = s.drv.firstSampleObtained := congrArg (·.1) hcache
  have hlast : s'.drv.lastSampleTime = s.drv.lastSampleTime := congrArg (·.2.2.2) hcache
  rw [Current, hfirst, hlast, hobtained]
  exact h

/-- A read that fails completes no sample. -/
theorem Current.failed (h : s.Current g v) {a : ReadAirQualityAnswers}
    {during : List Ccs811Event} {out : UInt16 × UInt16} {answer : GasAnswer}
    (hread : ccs811DriverReadAirQuality a (ccs811Steps during) out s = (answer, s'))
    (hret : answer.ret ≠ 0) : s'.Current g v := by
  have hhistory := history_afterWait_steps a during s
  obtain ⟨s₁, hrun, ⟨-, co2Ppm, tvocPpb, hanswer⟩ | ⟨-, hfirst, -, hlast, -⟩⟩ :=
    ccs811DriverReadAirQuality_outcome a (ccs811Steps during) s
  · have hzero := hanswer out
    rw [hread] at hzero
    exact absurd (congrArg GasAnswer.ret hzero) hret
  · have hs₁ := hrun out
    rw [hread] at hs₁
    obtain rfl : s' = s₁ := hs₁
    replace hfirst := hfirst.trans (congrArg (·.1.1) hhistory)
    replace hlast := hlast.trans (congrArg (·.1.2.2.2) hhistory)
    intro hsampled
    have hkept := (obtained_keeps fun x =>
      g.sampled x = some v ∧ s.drv.lastSampleTime ≤ x.endTime).readAirQuality a during out
        (h (hfirst.symm.trans hsampled))
    rw [hread] at hkept
    rwa [hlast]

/-- `ccs811_driver_init` empties the cache or leaves it alone. -/
theorem Current.init (h : s.Current g v) (a : InitAnswers) :
    (ccs811DriverInit a s).2.Current g v := by
  rw [ccs811DriverInit]
  dsimp only
  split_ifs
  · exact h
  · exact h
  · exact h
  · by_cases hmode : a.modeRet = 0 <;>
      simp only [ccs811StartBootConditioning, ccs811ModeUpdate, hmode, if_true, if_false] <;>
      exact fun hfirst => absurd hfirst Bool.false_ne_true
  · exact fun hfirst => absurd hfirst Bool.false_ne_true

end Ccs811Run

/-! ### The pair of the sensor manager -/

/-- What a snapshot holds of a gas. -/
def Gas.held : Gas → SensorData → UInt16
  | co2, data => data.eco2
  | tvoc, data => data.tvoc

/-- What holds of the pair while its flag is set: it dates from the latest success of the driver,
the TVOC if that assigned it, and the CO2 from the last complete sample or later. And what holds
of the handler: a refresh that has returned `0` is a success since it was entered. -/
structure Dated (data : SensorData) (s : SystemEnv) : Prop where
  cache : s.ccs.CacheDated
  held : data.isValid .airQuality = true → ∃ success, s.lastSuccess = some success ∧
    ∀ g : Gas, g = .co2 ∨ success.assigned = true →
      s.ccs.ObtainedWithin g (g.held data) success.time
  current : data.isValid .airQuality = true → s.ccs.Current .co2 data.eco2
  started : s.handlerStart ≤ s.ccs.now
  refreshed : s.refreshRet = some 0 → ∃ success, s.lastSuccess = some success ∧
    s.handlerStart ≤ success.time

theorem Gas.held_congr {data data' : SensorData} (hview : data'.gasView = data.gasView)
    (g : Gas) : g.held data' = g.held data := by
  cases g
  · exact congrArg (·.2.1) hview
  · exact congrArg (·.2.2) hview

theorem Gas.held_eq_answered {data : SensorData} {answer : GasAnswer}
    (hview : data.gasView = (true, answer.co2Ppm, answer.tvocPpb)) (g : Gas) :
    g.held data = g.answered answer := by
  cases g
  · exact congrArg (·.2.1) hview
  · exact congrArg (·.2.2) hview

namespace Dated

variable {data data' : SensorData} {s s' : SystemEnv}

/-- The driver goes on without a success, and with the pair as it was. -/
private theorem later (h : Dated data s) (hkeeps : ∀ {Q}, Ccs811Keeps Q → Q s.ccs → Q s'.ccs)
    (hcurrent : ∀ {v}, s.ccs.Current .co2 v → s'.ccs.Current .co2 v)
    (hdata : data'.isValid .airQuality = true → data'.gasView = data.gasView)
    (hsuccess : s'.lastSuccess = s.lastSuccess) (hstart : s'.handlerStart = s.handlerStart)
    (hrefresh : s'.refreshRet = some 0 → s.refreshRet = some 0) : Dated data' s' where
  cache := hkeeps Ccs811Run.cacheDated_keeps h.cache
  held hvalid := by
    have hview := hdata hvalid
    obtain ⟨success, hlast, hheld⟩ := h.held ((congrArg Prod.fst hview).symm.trans hvalid)
    refine ⟨success, hsuccess.trans hlast, fun g hg => ?_⟩
    rw [Gas.held_congr hview]
    exact hkeeps (Ccs811Run.obtainedWithin_keeps g _ _) (hheld g hg)
  current hvalid := by
    have hview := hdata hvalid
    have heco2 : data'.eco2 = data.eco2 := Gas.held_congr hview .co2
    rw [heco2]
    exact hcurrent (h.current ((congrArg Prod.fst hview).symm.trans hvalid))
  started := hstart.trans_le (hkeeps (Ccs811Run.now_keeps s.handlerStart) h.started)
  refreshed hret := by
    obtain ⟨success, hlast, htime⟩ := h.refreshed (hrefresh hret)
    exact ⟨success, hsuccess.trans hlast, hstart.trans_le htime⟩

/-- A success of the driver, given the pair that it leaves. -/
private theorem success {assigned : Bool} (h : Dated data s)
    (hkeeps : ∀ {Q}, Ccs811Keeps Q → Q s.ccs → Q s'.ccs)
    (hlast : s'.lastSuccess = some ⟨s'.ccs.now, assigned⟩)
    (hstart : s'.handlerStart = s.handlerStart)
    (hpair : data'.isValid .airQuality = true → s'.ccs.Current .co2 data'.eco2 ∧
      ∀ g : Gas, g = .co2 ∨ assigned = true →
        s'.ccs.ObtainedWithin g (g.held data') s'.ccs.now) : Dated data' s' := by
  have hnow : s'.handlerStart ≤ s'.ccs.now :=
    hstart.trans_le (hkeeps (Ccs811Run.now_keeps s.handlerStart) h.started)
  exact ⟨hkeeps Ccs811Run.cacheDated_keeps h.cache,
    fun hvalid => ⟨_, hlast, (hpair hvalid).2⟩, fun hvalid => (hpair hvalid).1, hnow,
    fun _ => ⟨_, hlast, hnow⟩⟩

/-- One read of the driver, which has returned `ret`. -/
private theorem read (h : Dated data s) {ret : ℤ} {ccs : Ccs811Run}
    {assigned : Bool} {refreshRet : Option ℤ}
    (hkeeps : ∀ {Q}, Ccs811Keeps Q → Q s.ccs → Q ccs)
    (hrefresh : refreshRet = some 0 → s.refreshRet = some 0 ∨ ret = 0)
    (hpair : ret = 0 → data'.isValid .airQuality = true → ccs.Current .co2 data'.eco2 ∧
      ∀ g : Gas, g = .co2 ∨ assigned = true → ccs.ObtainedWithin g (g.held data') ccs.now)
    (hcurrent : ret ≠ 0 → ∀ {v}, s.ccs.Current .co2 v → ccs.Current .co2 v)
    (hfailure : ret ≠ 0 → data'.isValid .airQuality = true → data'.gasView = data.gasView) :
    Dated data' ({ s with ccs := ccs, refreshRet := refreshRet }.noteSuccess ret assigned) := by
  rw [SystemEnv.noteSuccess]
  split_ifs with hret
  · exact h.success hkeeps rfl rfl (hpair hret)
  · exact h.later hkeeps (hcurrent hret) (hfailure hret) rfl rfl
      fun hzero => (hrefresh hzero).resolve_right hret

/-- The pair after a `ccs811_driver_read_for_ble` that has returned `0`. A pair that the sensor
manager turns down, with an unassigned TVOC, leaves it one whose CO2 is as recent as the cache. -/
private theorem pair_of_readForBle (h : Dated data s) {a : ReadAirQualityAnswers}
    {during : List Ccs811Event} {out : UInt16 × UInt16} {answer : GasAnswer} {ccs : Ccs811Run}
    (hccs : ccs.CacheDated)
    (hread : ccs811DriverReadForBle a (ccs811Steps during) out s.ccs = (answer, ccs))
    (hret : answer.ret = 0)
    (hvalid : (cacheAirQualityForBle answer data).isValid .airQuality = true) :
    ccs.Current .co2 (cacheAirQualityForBle answer data).eco2 ∧
      ∀ g : Gas, g = .co2 ∨ readForBleAssigns
          (ccs811DriverReadAirQuality a (ccs811Steps during) out s.ccs) = true →
        ccs.ObtainedWithin g (g.held (cacheAirQualityForBle answer data)) ccs.now := by
  have hview := cacheAirQualityForBle_view data answer
  by_cases hpass : eco2Ok answer.co2Ppm = true ∧ tvocOk answer.tvocPpb = true
  · rw [if_pos ⟨hret, hpass⟩] at hview
    refine ⟨?_, fun g hg => ?_⟩
    · have hco2 := (hccs.readForBle hread hret (Or.inl rfl)).2.2
      rwa [← Gas.held_eq_answered hview .co2] at hco2
    · rw [Gas.held_eq_answered hview]
      exact (hccs.readForBle hread hret hg).2.1
  · -- the fresh read has failed, or its pair would have passed
    obtain hsame | ⟨⟨fresh, hfresh, hfailed⟩, hfirst, hage, -⟩ :=
      ccs811DriverReadForBle_success hread hret
    · exact absurd ⟨(hccs.readAirQuality hsame hret .co2).1,
        (hccs.readAirQuality hsame hret .tvoc).1⟩ hpass
    rw [if_neg fun hstored => hpass hstored.2] at hview
    have heco2 : (cacheAirQualityForBle answer data).eco2 = data.eco2 := Gas.held_congr hview .co2
    have hcurrent : ccs.Current .co2 data.eco2 :=
      (h.current ((congrArg Prod.fst hview).symm.trans hvalid)).failed hfresh hfailed
    refine ⟨by rwa [heco2], fun g hg => ?_⟩
    cases g with
    | co2 =>
      obtain ⟨x, hx, hsampled, hlast⟩ := hcurrent hfirst
      rw [Gas.held, heco2]
      exact ⟨x, hx, hsampled, by omega, hccs.past x hx⟩
    | tvoc =>
      have hassigns := hg.resolve_left (by decide)
      exact absurd ⟨(hccs.readForBle hread hret (Or.inr hassigns) (g := .co2)).1,
        (hccs.readForBle hread hret (Or.inr hassigns) (g := .tvoc)).1⟩ hpass

end Dated

/-- **Invariant.** -/
theorem dated_invariant : GasInvariant fun _ => Dated where
  weaken _ h := h
  gases hview h := h.later (fun _ hs => hs) id (fun _ => hview) rfl rfl id
  script _ h := h.later (fun _ hs => hs) id (fun _ => rfl) rfl rfl id
  handler h := ⟨h.cache, h.held, h.current, le_rfl, nofun⟩
  step e _ _ s h := h.later (fun hQ => hQ.step e)
    (fun hv => hv.congr (history_ccs811Step s.ccs e)) (fun _ => rfl) rfl rfl id
  ready {_ _ s} h _ := h.later (fun hQ => hQ.isReady)
    (fun hv => hv.congr (history_ccs811Step s.ccs .isReady)) (fun _ => rfl) rfl rfl id
  init a _ _ s h := by
    obtain ⟨hobtained, hnow⟩ := Ccs811Run.ccs811DriverInit_history a s.ccs
    refine ⟨h.cache.init a, fun hvalid => ?_, fun hvalid => (h.current hvalid).init a,
      h.started.trans hnow.ge, h.refreshed⟩
    obtain ⟨success, hlast, hheld⟩ := h.held hvalid
    refine ⟨success, hlast, fun g hg => ?_⟩
    rw [Ccs811Run.ObtainedWithin, hobtained]
    exact hheld g hg
  readAirQuality t {_ data s} h := by
    rcases hread : ccs811DriverReadAirQuality t.read (ccs811Steps t.during) t.out s.ccs with
      ⟨answer, ccs⟩
    have hkeeps : ∀ {Q}, Ccs811Keeps Q → Q s.ccs → Q ccs := fun hQ hs => by
      have hkept := hQ.readAirQuality t.read t.during t.out hs
      rwa [hread] at hkept
    have hsampled := fun hret =>
      (hkeeps Ccs811Run.cacheDated_keeps h.cache).readAirQuality hread hret
    have hview := cacheAirQuality_view data answer
    simp only [SystemEnv.readAirQuality, hread]
    refine h.read hkeeps Or.inl (fun hret hvalid => ?_)
      (fun hret {_} hv => hv.failed hread hret) fun hret hvalid => ?_
    · have hco2 : eco2Ok answer.co2Ppm = true := (hsampled hret .co2).1
      have htvoc : tvocOk answer.tvocPpb = true := (hsampled hret .tvoc).1
      simp only [hret, hco2, htvoc, if_true] at hview
      refine ⟨?_, fun g _ => ?_⟩
      · have hcurrent := (hsampled hret .co2).2.2
        rwa [← Gas.held_eq_answered hview .co2] at hcurrent
      · rw [Gas.held_eq_answered hview]
        exact (hsampled hret g).2.1
    · -- a failure clears the flag
      exact absurd (cacheAirQuality_valid data hvalid).1.1 hret
  readForBle t {_ data s} h := by
    rcases hread : ccs811DriverReadForBle t.read (ccs811Steps t.during) t.out s.ccs with
      ⟨answer, ccs⟩
    have hkeeps : ∀ {Q}, Ccs811Keeps Q → Q s.ccs → Q ccs := fun hQ hs => by
      have hkept := hQ.readAirQuality t.read t.during t.out hs
      rwa [← ccs811DriverReadForBle_run, hread] at hkept
    have hview := cacheAirQualityForBle_view data answer
    simp only [SystemEnv.readForBle, hread]
    refine h.read hkeeps (fun hret => Or.inr (Option.some.inj hret))
      (fun hret hvalid => h.pair_of_readForBle (hkeeps Ccs811Run.cacheDated_keeps h.cache) hread
        hret hvalid) (fun hret {_} hv => ?_) fun hret _ => ?_
    · obtain ⟨fresh, hfresh, hfailed⟩ := ccs811DriverReadForBle_failed hread hret
      exact hv.failed hfresh hfailed
    · -- a failure keeps the pair
      simpa [hret] using hview

theorem dated_start (now : ℤ) : GasInvariant.holds (fun _ => Dated) (systemStart now) := by
  have hclear : sensorDataZero.isValid .airQuality = false := by decide
  have hinvalid : ¬ sensorDataZero.isValid .airQuality = true :=
    fun hvalid => absurd (hclear.symm.trans hvalid) Bool.false_ne_true
  exact ⟨Ccs811Run.cacheDated_start now, fun hvalid => absurd hvalid hinvalid,
    fun hvalid => absurd hvalid hinvalid, le_rfl, nofun⟩

/-! ### What a read serves -/

/-- The value `v` of a gas is the sentinel, or dates from the latest success of the driver. -/
def Gas.Served (g : Gas) (s : SystemEnv) (v : ℤ) : Prop :=
  v = ESS_UNKNOWN_U16 ∨ ∃ success, s.lastSuccess = some success ∧
    (s.refreshRet = some 0 → s.handlerStart ≤ success.time) ∧
    (g = .co2 ∨ success.assigned = true →
      ∃ w : UInt16, (w.toNat : ℤ) = v ∧ s.ccs.ObtainedWithin g w success.time)

/-- A gas that a dated snapshot offers. -/
theorem Dated.served {data : SensorData} {s : SystemEnv} (h : Dated data s) {g : Gas} {v : ℤ}
    (hreading : g.char.reading data = .value v) : g.Served s v := by
  have hvalue : data.isValid .airQuality = true ∧ ((g.held data).toNat : ℤ) = v := by
    cases g <;> obtain ⟨hvalid, -, hencoded⟩ := fieldReading_eq_value.mp hreading <;>
      exact ⟨hvalid, hencoded⟩
  obtain ⟨hvalid, hheld⟩ := hvalue
  obtain ⟨success, hlast, hwithin⟩ := h.held hvalid
  refine Or.inr ⟨success, hlast, fun hret => ?_, fun hg => ?_⟩
  · obtain ⟨success', hlast', htime⟩ := h.refreshed hret
    obtain rfl := Option.some.inj (hlast.symm.trans hlast')
    exact htime
  · exact ⟨g.held data, hheld, hwithin g hg⟩

/-- The bytes of a read that serves the value `v`. -/
def GasRead.bytesOf (r : GasRead) (v : ℤ) : List UInt8 :=
  ((r.gas.char.payload v).drop r.offset).take r.len

/-- A read of a gas from a dated state, among other threads, serves a value that is accounted
for. -/
theorem Dated.read_served {u : SystemRun} (h : Dated u.env.mgr.current u.env.env) (g : Gas)
    (len offset : ℕ) (i : Interleaving) :
    ReadOutcome (fun x v => g.Served x.env v) g.char len offset
      (essRead (interleavedOps systemDrivers { i with afterGetData := [] }) g.char len offset
        u) := by
  have hI : Maintained systemDrivers fun x => Dated x.mgr.current x.env :=
    dated_invariant.maintained True
  refine essRead_outcome (fun data u' v hgets hreading => ?_)
    (fun env hunready => Or.inl rfl) len offset
  have hget : (interleavedOps systemDrivers { i with afterGetData := [] }).getData
      ((interleavedOps systemDrivers { i with afterGetData := [] }).updateAirQualityForBle
        { u with env := (u.env.call systemDrivers.ccs811IsReady).2 }) = (0, data, u') := by
    cases g <;> exact hgets.2
  -- the snapshot is fetched after the refresh, and both keep the pair dated
  obtain ⟨u₂, hu₂, rfl, rfl⟩ :=
    interleavedGetData_holds hI (hI.airQualityForBle (hI.isReady h)) hget
  exact hu₂.served hreading

/-- What a read handler lets its client see is accounted for. -/
private theorem systemRead_served {c : EssCharId} {len offset : ℕ} {i : Interleaving}
    {u : SystemRun} (hu : Dated u.env.mgr.current u.env.env) {r : GasRead}
    (hr : r ∈ (systemRead c len offset i u).2) {bytes : List UInt8}
    (hbytes : r.result = .ok bytes) : ∃ v, bytes = r.bytesOf v ∧ r.gas.Served r.env v := by
  have hgas : ∃ g : Gas, c = g.char := by
    cases c with
    | co2 => exact ⟨.co2, rfl⟩
    | tvoc => exact ⟨.tvoc, rfl⟩
    | _ => exact absurd hr List.not_mem_nil
  obtain ⟨g, rfl⟩ := hgas
  have hserved := Dated.read_served
    (u := SystemRun.mapEnv (fun s => { s with handlerStart := s.ccs.now, refreshRet := none }) u)
    ⟨hu.cache, hu.held, hu.current, le_rfl, nofun⟩ g len offset i
  have hchar : g.char.gas? = some g := by cases g <;> rfl
  simp only [systemRead, hchar, Option.map_some, Option.toList_some, List.mem_singleton] at hr
  subst hr
  rcases hserved with ⟨att, herror, -⟩ | ⟨-, -, hvalue, hok⟩
  · exact absurd (hbytes.symm.trans herror) nofun
  · have hok := hbytes.symm.trans hok
    rw [EssCharId.served, btGattAttrRead] at hok
    split_ifs at hok
    exact ⟨_, Except.ok.inj hok, hvalue⟩

/-- No other event lets a client see anything. -/
private theorem systemStep_served {e : SystemEvent} {u : SystemRun}
    (hu : Dated u.env.mgr.current u.env.env) {r : GasRead} (hr : r ∈ (systemStep e u).2)
    {bytes : List UInt8} (hbytes : r.result = .ok bytes) :
    ∃ v, bytes = r.bytesOf v ∧ r.gas.Served r.env v := by
  rcases e with ⟨turns, call⟩
  cases call with
  | read c len offset i =>
    exact systemRead_served
      (u := SystemRun.mapEnv (fun s => { s with script := turns }) u)
      ⟨hu.cache, hu.held, hu.current, hu.started, hu.refreshed⟩ hr hbytes
  | _ => exact absurd hr List.not_mem_nil

/-- **How old a value is that a client reads.** In every run of the composed system, whatever
fails and whenever: the value that a successful read of a gas serves is the sentinel, or dates
from the latest driver read that returned `0`. A call of `ccs811_driver_read_air_quality` that
ended then or at most five minutes before obtained the value from the sensor, for a TVOC if that
driver read assigned both its outputs; and if the refresh of this read returned `0`, that driver
read was not before the handler was entered. -/
theorem gasRead_staleness {now : ℤ} {es : List SystemEvent} {u : SystemRun}
    {reads : List GasRead}
    (hrun : systemMachine.run es (systemStart now) = some (u, reads)) :
    ∀ r ∈ reads, ∀ bytes, r.result = .ok bytes → ∃ v, bytes = r.bytesOf v ∧
      (v = ESS_UNKNOWN_U16 ∨ ∃ success, r.env.lastSuccess = some success ∧
        (r.env.refreshRet = some 0 → r.env.handlerStart ≤ success.time) ∧
        (r.gas = .co2 ∨ success.assigned = true → ∃ w : UInt16, (w.toNat : ℤ) = v ∧
          r.env.ccs.ObtainedWithin r.gas w success.time)) := by
  have hemits : systemMachine.Emits Machine.anyEvent (GasInvariant.holds fun _ => Dated)
      fun r => ∀ bytes, r.result = .ok bytes →
        ∃ v, bytes = r.bytesOf v ∧ r.gas.Served r.env v := by
    intro e u u' os _ hu hs r hr bytes hbytes
    obtain ⟨-, rfl⟩ := Prod.mk.inj (Option.some.inj hs)
    exact systemStep_served hu hr hbytes
  exact Machine.Preserves.run_emits dated_invariant.preserves hemits (fun _ _ => trivial)
    (dated_start now) hrun

/-- The sensor then fails for more than five minutes, and the client reads the CO2. -/
def readAfterFailures : List SystemEvent :=
  connectAfterConditioning ++
    [{ call := .driver (.tick 300001) },
      { turns := List.replicate 10 { read := { sample := { fetchRet := -EAGAIN } } }
        call := .read .co2 2 0 {} }]

/-- It is served the 800 ppm of its connect sample. -/
theorem readAfterFailures_served :
    ∃ run ∈ systemMachine.run readAfterFailures (systemStart 1), ∃ r ∈ run.2,
      r.result.toOption = some [0x20, 0x03] ∧ (r.gas, r.len, r.offset) = (.co2, 2, 0) ∧
        r.env.ccs.obtained = [⟨800, some 10, 1200001⟩] ∧ r.env.handlerStart = 1500002 ∧
        r.env.lastSuccess = some ⟨1200001, true⟩ ∧ r.env.refreshRet = some (-EAGAIN) := by
  decide +kernel

/-- `gasRead_staleness` at that read. -/
theorem gasRead_staleness_readAfterFailures :
    ∃ u reads, systemMachine.run readAfterFailures (systemStart 1) = some (u, reads) ∧
      reads ≠ [] ∧ ∀ r ∈ reads, ∀ bytes, r.result = .ok bytes → ∃ v, bytes = r.bytesOf v ∧
        (v = ESS_UNKNOWN_U16 ∨ ∃ success, r.env.lastSuccess = some success ∧
          (r.env.refreshRet = some 0 → r.env.handlerStart ≤ success.time) ∧
          (r.gas = .co2 ∨ success.assigned = true → ∃ w : UInt16, (w.toNat : ℤ) = v ∧
            r.env.ccs.ObtainedWithin r.gas w success.time)) := by
  obtain ⟨⟨u, reads⟩, hrun, r, hr, -⟩ := readAfterFailures_served
  exact ⟨u, reads, hrun, List.ne_nil_of_mem hr, gasRead_staleness hrun⟩

/-- A value that a read serves need not have been obtained in the five minutes before it. -/
theorem gasRead_stale :
    ¬ ∀ (now : ℤ) (es : List SystemEvent) (u : SystemRun) (reads : List GasRead),
      systemMachine.run es (systemStart now) = some (u, reads) →
      ∀ r ∈ reads, ∀ bytes, r.result = .ok bytes → ∃ v, bytes = r.bytesOf v ∧
        (v ≠ ESS_UNKNOWN_U16 → ∃ w : UInt16, (w.toNat : ℤ) = v ∧
          ∃ x ∈ r.env.ccs.obtained, r.gas.sampled x = some w ∧
            r.env.handlerStart - MAX_CACHE_AGE_MS ≤ x.endTime) := by
  intro hall
  obtain ⟨⟨u, reads⟩, hrun, r, hr, hresult, hread, hobtained, hstart, -⟩ :=
    readAfterFailures_served
  have hbytes : r.result = .ok [0x20, 0x03] := by
    cases hcase : r.result with
    | error e => simp [hcase, Except.toOption] at hresult
    | ok bytes => simpa [hcase, Except.toOption] using hresult
  obtain ⟨v, hv, hfresh⟩ := hall 1 _ u reads hrun r hr _ hbytes
  obtain ⟨hgas, hlen, hoffset⟩ : r.gas = .co2 ∧ r.len = 2 ∧ r.offset = 0 := by
    simpa only [Prod.mk.injEq] using hread
  have hvalue : v ≠ ESS_UNKNOWN_U16 := by
    rintro rfl
    rw [GasRead.bytesOf, hgas, hlen, hoffset] at hv
    exact absurd hv (by decide)
  obtain ⟨w, -, x, hx, -, htime⟩ := hfresh hvalue
  rw [hobtained, List.mem_singleton] at hx
  subst hx
  rw [hstart] at htime
  exact absurd htime (by decide)

end EnvMonitor
