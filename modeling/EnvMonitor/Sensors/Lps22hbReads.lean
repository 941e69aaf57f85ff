import EnvMonitor.Sensors.Lps22hbLine

/-!
# Reads of the LPS22HB as single steps

`lps22hbMachine` takes a call of `lps22hb_driver_read_pressure` as one step, in which the
interrupt comes or does not. `lps22hb_line_refines` says that nothing was lost by that: every run
of the pieces of such calls, with edges of the data-ready line at any point, is a run of it. An
edge for which a call has no use is one after the call.
-/

namespace EnvMonitor

variable {hdr : Lps22hbHeader}

/-! ### The rest of a read -/

/-- A semaphore of limit one is empty or given. -/
theorem semaphore_cases (sem : Semaphore 1) :
    sem = Semaphore.reset ∨ sem = Semaphore.reset.give := by
  obtain ⟨count, hle⟩ := sem
  rcases Nat.le_one_iff_eq_zero_or_eq_one.mp hle with rfl | rfl
  · exact Or.inl rfl
  · exact Or.inr rfl

/-- Powering off does not look at the semaphore. -/
theorem powerOff_semaphore (a : Lps22hbAnswers) (s : Lps22hb) (sem : Semaphore 1) :
    (lps22hbDriverPowerOff hdr a { s with dataReadySem := sem }).2 =
      { (lps22hbDriverPowerOff hdr a s).2 with dataReadySem := sem } := by
  simp only [lps22hbDriverPowerOff]
  split_ifs <;> rfl

variable (hdr) in
/-- The call has got beyond powering the sensor on, from the state `s`. -/
structure Begun (a : Lps22hbAnswers) (s : Lps22hb) : Prop where
  lpsDev : s.lpsDev = true
  ready : a.ready = true
  powerOn : (lps22hbDriverPowerOn hdr a s).1 = 0

/-- Then the bus is there. -/
theorem Begun.i2cDev {a : Lps22hbAnswers} {s : Lps22hb} (h : Begun hdr a s) :
    (lps22hbDriverPowerOn hdr a s).2.i2cDev = true := by
  have hnodev : (-ENODEV : ℤ) ≠ 0 := by decide
  have hon := h.powerOn
  simp only [lps22hbDriverPowerOn] at hon ⊢
  split_ifs at hon ⊢ with hdev
  · exact absurd hon hnodev
  all_goals simpa using hdev

/-- And the rest of the call is the measurement, in which the edge may come or not. -/
theorem Begun.readPressure {a : Lps22hbAnswers} {s : Lps22hb} (h : Begun hdr a s) {drdy : Bool}
    {ret : ℤ} {pressure : Option CFloat} {s' : Lps22hb}
    (hmeasure : lps22hbMeasure hdr { a with drdy := drdy } (lps22hbDriverPowerOn hdr a s).2 =
      (ret, pressure, s')) :
    lps22hbDriverReadPressure hdr true { a with drdy := drdy } s =
      (ret, pressure, (lps22hbDriverPowerOff hdr a s').2) := by
  obtain ⟨hdev, hready, hzero⟩ := h
  have hon : lps22hbDriverPowerOn hdr { a with drdy := drdy } s = lps22hbDriverPowerOn hdr a s :=
    rfl
  rw [lps22hbDriverReadPressure, if_neg (by simp [hdev]), if_neg (by simp [hready]), hon]
  dsimp only
  rw [if_neg (not_not.mpr hzero), hmeasure]
  rfl

variable (hdr) in
/-- The driver when the conversion has been started. -/
def Lps22hb.shot (s : Lps22hb) : Lps22hb :=
  { s with
    dataReadySem := Semaphore.reset
    regs := { s.regs with ctrlReg2 := s.regs.ctrlReg2 ||| hdr.MASK_CTRL_REG2_ONE_SHOT } }

/-- A trigger whose accesses to `CTRL_REG2` fail. -/
theorem measure_of_trigger_failed {a : Lps22hbAnswers} {s : Lps22hb} (hdev : s.i2cDev = true)
    {ret : ℤ} (h : a.ctrl2Read < 0 ∧ ret = a.ctrl2Read ∨
      0 ≤ a.ctrl2Read ∧ a.ctrl2Write < 0 ∧ ret = a.ctrl2Write) :
    lps22hbMeasure hdr a s = (ret, none, { s with dataReadySem := Semaphore.reset }) := by
  have hret : ret ≠ 0 := by omega
  have htrigger : lps22hbDriverTriggerOneshot hdr a s =
      (ret, { s with dataReadySem := Semaphore.reset }) := by
    rw [lps22hbDriverTriggerOneshot, if_neg (by simp [hdev])]
    obtain ⟨hread, rfl⟩ | ⟨hread, hwrite, rfl⟩ := h
    · exact if_pos hread
    · exact (if_neg (not_lt.mpr hread)).trans (if_pos hwrite)
  rw [lps22hbMeasure, htrigger]
  exact if_pos hret

/-- One that succeeds. -/
theorem trigger_of_shot {a : Lps22hbAnswers} {s : Lps22hb} (hdev : s.i2cDev = true)
    (hread : 0 ≤ a.ctrl2Read) (hwrite : 0 ≤ a.ctrl2Write) :
    lps22hbDriverTriggerOneshot hdr a s = (0, s.shot hdr) := by
  rw [lps22hbDriverTriggerOneshot, if_neg (by simp [hdev])]
  dsimp only
  rw [if_neg (not_lt.mpr hread), if_neg (not_lt.mpr hwrite)]
  rfl

/-- A wait that times out. -/
theorem measure_of_timeout {a : Lps22hbAnswers} {s : Lps22hb} (hdev : s.i2cDev = true)
    (hread : 0 ≤ a.ctrl2Read) (hwrite : 0 ≤ a.ctrl2Write)
    (hint : s.interruptInitialized = true) :
    lps22hbMeasure hdr { a with drdy := false } s = (-ETIMEDOUT, none, s.shot hdr) := by
  have htimedout : (-ETIMEDOUT : ℤ) ≠ 0 := by decide
  have htrigger : lps22hbDriverTriggerOneshot hdr { a with drdy := false } s = (0, s.shot hdr) :=
    trigger_of_shot hdev hread hwrite
  have hwait : lps22hbDriverWaitDataReady { a with drdy := false } (s.shot hdr) =
      (-ETIMEDOUT, s.shot hdr) := by
    simp [lps22hbDriverWaitDataReady, Lps22hb.shot, hint]
  simp [lps22hbMeasure, htrigger, hwait, htimedout]

/-- A wait that ends in time, or a sleep without the interrupt. -/
theorem measure_of_inTime {a : Lps22hbAnswers} {s : Lps22hb} (hdev : s.i2cDev = true)
    (hread : 0 ≤ a.ctrl2Read) (hwrite : 0 ≤ a.ctrl2Write) :
    lps22hbMeasure hdr { a with drdy := s.interruptInitialized } s =
      ((lps22hbFetch a).1, (lps22hbFetch a).2, s.shot hdr) := by
  have htrigger : lps22hbDriverTriggerOneshot hdr { a with drdy := s.interruptInitialized } s =
      (0, s.shot hdr) := trigger_of_shot hdev hread hwrite
  have hwait : lps22hbDriverWaitDataReady { a with drdy := s.interruptInitialized }
      (s.shot hdr) = (0, s.shot hdr) := by
    cases hint : s.interruptInitialized with
    | false => simp [lps22hbDriverWaitDataReady, Lps22hb.shot, hint]
    | true => simp [lps22hbDriverWaitDataReady, Lps22hb.shot, hint, lps22hbDrdyCallback,
        Semaphore.give, Semaphore.take, Semaphore.reset]
  simp only [lps22hbMeasure, htrigger, hwait, lps22hbFetch, ne_eq, not_true, if_false]
  split_ifs <;> rfl

/-- `drv` is `base` but for what the edges since have made of the semaphore. -/
def Lps22hb.UpToEdges (base drv : Lps22hb) : Prop :=
  drv = { base with dataReadySem := drv.dataReadySem }

namespace Lps22hb.UpToEdges

variable {base drv : Lps22hb}

/-- Giving, taking and resetting keep it. -/
theorem setSem (h : base.UpToEdges drv) (sem : Semaphore 1) :
    base.UpToEdges { drv with dataReadySem := sem } := by
  have hset := congrArg (fun d : Lps22hb => ({ d with dataReadySem := sem } : Lps22hb)) h
  exact hset

/-- A driver that got rid of its edges. -/
theorem reset (h : base.UpToEdges drv) :
    ({ base with dataReadySem := Semaphore.reset } : Lps22hb).UpToEdges drv := h

/-- So does the start of a conversion. -/
theorem shot (h : base.UpToEdges drv) :
    (base.shot hdr).UpToEdges { drv with
      regs := { drv.regs with
        ctrlReg2 := drv.regs.ctrlReg2 ||| hdr.MASK_CTRL_REG2_ONE_SHOT } } := by
  have hset := congrArg (fun d : Lps22hb => ({ d with
    regs := { d.regs with
      ctrlReg2 := d.regs.ctrlReg2 ||| hdr.MASK_CTRL_REG2_ONE_SHOT } } : Lps22hb)) h
  exact hset

theorem i2cDev (h : base.UpToEdges drv) : drv.i2cDev = base.i2cDev := by
  have hdev := congrArg Lps22hb.i2cDev h
  exact hdev

theorem interruptInitialized (h : base.UpToEdges drv) :
    drv.interruptInitialized = base.interruptInitialized := by
  have hint := congrArg Lps22hb.interruptInitialized h
  exact hint

end Lps22hb.UpToEdges

/-! ### What the pieces add up to -/

variable (hdr) in
/-- How the driver in the middle of a call stands to the one that has not begun it. -/
def Refines (t : Lps22hb) (s : Lps22hbLine) : Prop :=
  match s.phase with
  | .idle => s.drv = t
  | .stabilizing a | .cleared a | .armed a =>
    Begun hdr a t ∧ (lps22hbDriverPowerOn hdr a t).2.UpToEdges s.drv
  | .waiting a | .fetching a =>
    Begun hdr a t ∧ (0 ≤ a.ctrl2Read ∧ 0 ≤ a.ctrl2Write) ∧
      ((lps22hbDriverPowerOn hdr a t).2.shot hdr).UpToEdges s.drv
  | .waited a _ =>
    Begun hdr a t ∧ (0 ≤ a.ctrl2Read ∧ 0 ≤ a.ctrl2Write) ∧
      ((lps22hbDriverPowerOn hdr a t).2.shot hdr).UpToEdges s.drv ∧
        s.drv.interruptInitialized = true

/-- The registers change only between two calls. -/
def Undisturbed (e : Lps22hbLineEvent) (s : Lps22hbLine) : Prop :=
  match e with
  | .hardware _ => s.phase = .idle
  | _ => True

/-- What a call shows of itself. -/
def Lps22hbReply.shown (r : Lps22hbReply) : ℤ × Option CFloat := (r.ret, r.pressure)

/-- What a piece has in common with an event of `lps22hbMachine`: the call with its answers, but
for the interrupt that the edges make, and a change of the registers. -/
def Lps22hbLineEvent.label : Lps22hbLineEvent → List Lps22hbEvent
  | .call notNull a => [.read notNull { a with drdy := false }]
  | .hardware regs => [.hardware regs]
  | _ => []

/-- The same of the events of `lps22hbMachine`. -/
def Lps22hbEvent.label : Lps22hbEvent → List Lps22hbEvent
  | .read notNull a => [.read notNull { a with drdy := false }]
  | .drdy => []
  | .hardware regs => [.hardware regs]

/-- The call under way. -/
def Lps22hbLine.label (s : Lps22hbLine) : List Lps22hbEvent :=
  match s.phase with
  | .idle => []
  | .stabilizing a | .cleared a | .armed a | .waiting a | .waited a _ | .fetching a =>
    [.read true { a with drdy := false }]

/-- **The end of a call.** What the pieces have done is one read, and an edge after it if the
semaphore has been left given. -/
theorem read_of_pieces {a : Lps22hbAnswers} {s : Lps22hb} (h : Begun hdr a s) {drdy : Bool}
    {ret : ℤ} {pressure : Option CFloat} {base drv : Lps22hb}
    (hmeasure : lps22hbMeasure hdr { a with drdy := drdy } (lps22hbDriverPowerOn hdr a s).2 =
      (ret, pressure, base))
    (hreset : base.dataReadySem = Semaphore.reset) (hdrv : base.UpToEdges drv) :
    ∃ es, (lps22hbMachine hdr).run es s =
        some ((lps22hbDriverPowerOff hdr a drv).2, [(ret, pressure)]) ∧
      es.flatMap Lps22hbEvent.label = [.read true { a with drdy := false }] := by
  have hread : lps22hbStep hdr (.read true { a with drdy := drdy }) s =
      some ((lps22hbDriverPowerOff hdr a base).2, [(ret, pressure)]) := by
    simp only [lps22hbStep, h.readPressure hmeasure]
  have hoff : (lps22hbDriverPowerOff hdr a drv).2 =
      { (lps22hbDriverPowerOff hdr a base).2 with dataReadySem := drv.dataReadySem } :=
    (congrArg (fun d => (lps22hbDriverPowerOff hdr a d).2) hdrv).trans
      (powerOff_semaphore a base _)
  have hempty : (lps22hbDriverPowerOff hdr a base).2 =
      { (lps22hbDriverPowerOff hdr a base).2 with dataReadySem := Semaphore.reset } :=
    (powerOff_semaphore a base Semaphore.reset).symm.trans (by rw [← hreset]) |>.symm
  rcases semaphore_cases drv.dataReadySem with hsem | hsem
  · refine ⟨[.read true { a with drdy := drdy }], ?_, rfl⟩
    refine (Machine.run_cons_eq_some _).mpr ⟨_, _, [], hread, ?_, rfl⟩
    rw [hoff, hsem, ← hempty]
    rfl
  · refine ⟨[.read true { a with drdy := drdy }, .drdy], ?_, rfl⟩
    refine (Machine.run_cons_eq_some _).mpr ⟨_, _, [], hread, ?_, rfl⟩
    refine (Machine.run_cons_eq_some _).mpr ⟨_, [], [], rfl, ?_, rfl⟩
    rw [hoff, hsem, hempty]
    rfl

variable (hdr) in
/-- One step of the pieces, from where the driver of `lps22hbMachine` is at `t`. -/
def Matched (t : Lps22hb) (labels : List Lps22hbEvent) (s' : Lps22hbLine)
    (os : List Lps22hbReply) : Prop :=
  ∃ es t', (lps22hbMachine hdr).run es t = some (t', os.map Lps22hbReply.shown) ∧
    Refines hdr t' s' ∧ labels = es.flatMap Lps22hbEvent.label ++ s'.label

/-- A piece that only moves on. -/
theorem Matched.silent {t : Lps22hb} {labels : List Lps22hbEvent} {s' : Lps22hbLine}
    (h : Refines hdr t s') (hlabels : labels = s'.label) : Matched hdr t labels s' [] :=
  ⟨[], t, rfl, h, hlabels⟩

/-- A call that is over before it has begun. -/
theorem Matched.refused (notNull : Bool) (a : Lps22hbAnswers) {t : Lps22hb} {s' : Lps22hbLine}
    {ret : ℤ} {ran : Bool}
    (hread : lps22hbDriverReadPressure hdr notNull a t = (ret, none, s'.drv))
    (hidle : s'.phase = .idle) :
    Matched hdr t [.read notNull { a with drdy := false }] s' [⟨ret, none, ran⟩] := by
  have hstep : lps22hbStep hdr (.read notNull a) t = some (s'.drv, [(ret, none)]) := by
    simp only [lps22hbStep, hread]
  refine ⟨[.read notNull a], s'.drv, ?_, by simp [Refines, hidle], ?_⟩
  · exact (Machine.run_cons_eq_some _).mpr ⟨_, _, [], hstep, rfl, rfl⟩
  · rw [Lps22hbLine.label, hidle]
    rfl

/-- A call that ends, and the read that it was. -/
theorem Matched.powerDown {a : Lps22hbAnswers} {t : Lps22hb} (h : Begun hdr a t) {drdy : Bool}
    {ret : ℤ} {pressure : Option CFloat} {base : Lps22hb}
    (hmeasure : lps22hbMeasure hdr { a with drdy := drdy } (lps22hbDriverPowerOn hdr a t).2 =
      (ret, pressure, base))
    (hreset : base.dataReadySem = Semaphore.reset) {s s' : Lps22hbLine}
    (hdrv : base.UpToEdges s.drv) {disableRet : ℤ} {os : List Lps22hbReply}
    (hdown : lps22hbPowerDown hdr a disableRet ret pressure s = (s', os)) :
    Matched hdr t [.read true { a with drdy := false }] s' os := by
  obtain ⟨intEnabled, heq, -⟩ := @lps22hbPowerDown_eq hdr a disableRet ret pressure s
  obtain ⟨rfl, rfl⟩ := Prod.mk.inj (heq.symm.trans hdown)
  obtain ⟨es, hrun, hlabels⟩ := read_of_pieces h hmeasure hreset hdrv
  exact ⟨es, _, hrun, rfl, by rw [hlabels]; rfl⟩

/-- In the middle of a call an edge changes nothing but the semaphore. -/
theorem Refines.edge {t : Lps22hb} {s : Lps22hbLine} (h : Refines hdr t s)
    (hbusy : s.phase ≠ .idle) (ran : Bool) :
    Refines hdr t { s with drv := lps22hbDrdyCallback s.drv, ran := ran } := by
  obtain ⟨drv, intEnabled, phase, before⟩ := s
  cases phase with
  | idle => exact absurd rfl hbusy
  | stabilizing a | cleared a | armed a =>
    obtain ⟨hbegun, hdrv⟩ := h
    exact ⟨hbegun, hdrv.setSem _⟩
  | waiting a | fetching a =>
    obtain ⟨hbegun, hstarted, hdrv⟩ := h
    exact ⟨hbegun, hstarted, hdrv.setSem _⟩
  | waited a inTime =>
    obtain ⟨hbegun, hstarted, hdrv, hint⟩ := h
    exact ⟨hbegun, hstarted, hdrv.setSem _, hint⟩

/-- **Each piece.** -/
theorem lps22hbLine_simulates :
    (lps22hbLineMachine hdr).Simulates Undisturbed (lps22hbMachine hdr) (Refines hdr)
      Lps22hbReply.shown Lps22hbLineEvent.label Lps22hbEvent.label Lps22hbLine.label := by
  intro e s s' os t hquiet h hstep
  replace hstep : lps22hbLineStep hdr e s = some (s', os) := hstep
  change Matched hdr t (s.label ++ e.label) s' os
  obtain ⟨drv, intEnabled, phase, ran⟩ := s
  cases lps22hbLineStep_cases hstep with
  | @refused notNull a _ _ hphase _ hread _ =>
    obtain rfl : phase = .idle := hphase
    obtain rfl : drv = t := h
    exact Matched.refused notNull a hread rfl
  | call hphase hdev hready hon =>
    obtain rfl : phase = .idle := hphase
    obtain rfl : drv = t := h
    exact Matched.silent ⟨⟨hdev, hready, hon⟩, rfl⟩ rfl
  | @noBus _ a _ _ hphase hbus _ =>
    obtain rfl : phase = .stabilizing a := hphase
    obtain ⟨hbegun, hdrv⟩ := h
    have hdev : drv.i2cDev = true := (Lps22hb.UpToEdges.i2cDev hdrv).trans hbegun.i2cDev
    exact absurd (hdev.symm.trans hbus) (by decide)
  | @reset _ a hphase _ =>
    obtain rfl : phase = .stabilizing a := hphase
    obtain ⟨hbegun, hdrv⟩ := h
    exact Matched.silent ⟨hbegun, hdrv.setSem _⟩ rfl
  | @arm _ a hphase =>
    obtain rfl : phase = .cleared a := hphase
    obtain ⟨hbegun, hdrv⟩ := h
    exact Matched.silent ⟨hbegun, hdrv⟩ rfl
  | @notShot _ a _ _ _ hphase hfailed hdown =>
    obtain rfl : phase = .armed a := hphase
    obtain ⟨hbegun, hdrv⟩ := h
    exact Matched.powerDown hbegun (measure_of_trigger_failed hbegun.i2cDev hfailed) rfl
      hdrv.reset hdown
  | @shoot _ a hphase hread hwrite =>
    obtain rfl : phase = .armed a := hphase
    obtain ⟨hbegun, hdrv⟩ := h
    exact Matched.silent ⟨hbegun, ⟨hread, hwrite⟩, hdrv.shot⟩ rfl
  | @slept a hphase _ =>
    obtain rfl : phase = .waiting a := hphase
    obtain ⟨hbegun, hstarted, hdrv⟩ := h
    exact Matched.silent ⟨hbegun, hstarted, hdrv⟩ rfl
  | @take a sem hphase hint _ =>
    obtain rfl : phase = .waiting a := hphase
    obtain ⟨hbegun, hstarted, hdrv⟩ := h
    exact Matched.silent ⟨hbegun, hstarted, hdrv.setSem sem, hint⟩ rfl
  | @expire a hphase hint =>
    obtain rfl : phase = .waiting a := hphase
    obtain ⟨hbegun, hstarted, hdrv⟩ := h
    exact Matched.silent ⟨hbegun, hstarted, hdrv, hint⟩ rfl
  | @disarm waitRet _ a hphase =>
    obtain rfl : phase = .waited a true := hphase
    obtain ⟨hbegun, hstarted, hdrv, -⟩ := h
    rw [← Lps22hbLine.drv_disableInterrupt waitRet] at hdrv
    exact Matched.silent ⟨hbegun, hstarted, hdrv⟩ rfl
  | @timedOut waitRet _ a _ _ hphase hdown =>
    obtain rfl : phase = .waited a false := hphase
    obtain ⟨hbegun, hstarted, hdrv, hint⟩ := h
    have hon := (Lps22hb.UpToEdges.interruptInitialized hdrv).symm.trans hint
    rw [← Lps22hbLine.drv_disableInterrupt waitRet] at hdrv
    -- the read that the call was is one that no edge has ended
    exact Matched.powerDown hbegun (measure_of_timeout hbegun.i2cDev hstarted.1 hstarted.2 hon)
      rfl hdrv hdown
  | @fetch _ a _ _ hphase hdown =>
    obtain rfl : phase = .fetching a := hphase
    obtain ⟨hbegun, hstarted, hdrv⟩ := h
    exact Matched.powerDown hbegun (measure_of_inTime hbegun.i2cDev hstarted.1 hstarted.2) rfl
      hdrv hdown
  | edge _ =>
    cases phase with
    | idle =>
      obtain rfl : drv = t := h
      exact ⟨[.drdy], _, rfl, rfl, rfl⟩
    | _ => exact Matched.silent (h.edge (by simp) _) (List.append_nil _)
  | @hardware regs =>
    obtain rfl : phase = .idle := hquiet
    obtain rfl : drv = t := h
    exact ⟨[.hardware regs], _, rfl, rfl, rfl⟩

/-- **Reads in pieces.** Every run of the pieces in which the registers change only between calls,
whatever fails and wherever the edges come, and which ends with no call under way, is a run of
`lps22hbMachine`: of the same calls and changes in the same order, with the same answers and the
same driver at its end. -/
theorem lps22hb_line_refines {s : Lps22hb} {es : List Lps22hbLineEvent} {t : Lps22hbLine}
    {os : List Lps22hbReply}
    (hquiet : (lps22hbLineMachine hdr).Along Undisturbed es { drv := s })
    (hrun : (lps22hbLineMachine hdr).run es { drv := s } = some (t, os))
    (hidle : t.phase = .idle) :
    ∃ es', (lps22hbMachine hdr).run es' s = some (t.drv, os.map Lps22hbReply.shown) ∧
      es'.flatMap Lps22hbEvent.label = es.flatMap Lps22hbLineEvent.label := by
  have hstart : Refines hdr s { drv := s } := rfl
  obtain ⟨es', t', hrun', h, hlabels⟩ := lps22hbLine_simulates.run hquiet hstart hrun
  obtain ⟨drv, intEnabled, phase, ran⟩ := t
  obtain rfl : phase = .idle := hidle
  obtain rfl : drv = t' := h
  exact ⟨es', hrun', (hlabels.trans (List.append_nil _)).symm⟩

/-- `lps22hb_line_refines` where an edge comes too soon, and one more when the call is over: the
interrupt could not be taken back. -/
theorem lps22hb_line_refines_late :
    ∃ t os, (lps22hbLineMachine zephyrHeader).run
        [.call true readAnswersOk, .reset 0, .arm 0, .edge, .shoot (- EIO), .take,
          .disarm (- EIO) (- EIO), .fetch (- EIO), .edge] { drv := lps22hbReady 0 } = some (t, os) ∧
      t.drv.dataReadySem.count = 1 ∧
      ∃ es', (lps22hbMachine zephyrHeader).run es' (lps22hbReady 0) =
          some (t.drv, [(0, some (.fin 100))]) ∧
        es'.flatMap Lps22hbEvent.label = [.read true { readAnswersOk with drdy := false }] := by
  have hrun : (lps22hbLineMachine zephyrHeader).run
      [.call true readAnswersOk, .reset 0, .arm 0, .edge, .shoot (- EIO), .take,
        .disarm (- EIO) (- EIO), .fetch (- EIO), .edge] { drv := lps22hbReady 0 } =
      some (_, [_]) := rfl
  have hquiet : (lps22hbLineMachine zephyrHeader).Along Undisturbed
      [.call true readAnswersOk, .reset 0, .arm 0, .edge, .shoot (- EIO), .take,
        .disarm (- EIO) (- EIO), .fetch (- EIO), .edge] { drv := lps22hbReady 0 } :=
    Machine.Along.of_forall (by simp [Undisturbed]) _
  exact ⟨_, _, hrun, rfl, lps22hb_line_refines hquiet hrun rfl⟩

end EnvMonitor
