import EnvMonitor.Sensors.Lps22hb

/-!
# The data-ready line of the LPS22HB

`lps22hb_driver_read_pressure` again, cut at the points where an edge of the data-ready line makes
a difference. The trigger resets the semaphore, then sets the pin's interrupt, and then comes the
write that starts the conversion. The interrupt is taken back at the end of the wait and again in
`power_down`, and the callback runs only while it is set.

`lps22hb_own_edge` says when a pressure belongs to its own conversion: an edge that was late for
the last call does no harm, unless it comes between the reset of the semaphore and the write.
-/

namespace EnvMonitor

/-! ### The pieces of a read -/

/-- Where a call of `lps22hb_driver_read_pressure` stands, with the answers that it gets. -/
inductive Lps22hbPhase where
  /-- No call is under way. -/
  | idle
  /-- Powered on, ahead of `lps22hb_driver_trigger_oneshot`. -/
  | stabilizing (a : Lps22hbAnswers)
  /-- In it, after `k_sem_reset`, ahead of the setting of the interrupt. -/
  | cleared (a : Lps22hbAnswers)
  /-- Ahead of the accesses to `CTRL_REG2`. -/
  | armed (a : Lps22hbAnswers)
  /-- In `k_sem_take`, or in the sleep that stands for it without the interrupt. -/
  | waiting (a : Lps22hbAnswers)
  /-- After `k_sem_take`, in time or not, ahead of the taking back of the interrupt. -/
  | waited (a : Lps22hbAnswers) (inTime : Bool)
  /-- Ahead of `sensor_sample_fetch`. -/
  | fetching (a : Lps22hbAnswers)

/-- The semaphore has been reset, and the conversion not been started. -/
def Lps22hbPhase.isTriggering : Lps22hbPhase → Bool
  | .cleared _ | .armed _ => true
  | _ => false

/-- The call is in the wait. -/
def Lps22hbPhase.isWaiting : Lps22hbPhase → Bool
  | .waiting _ => true
  | _ => false

/-- Between the setting of the interrupt and its taking back. -/
def Lps22hbPhase.inWindow : Lps22hbPhase → Bool
  | .armed _ | .waiting _ | .waited .. => true
  | _ => false

/-- The driver with the interrupt of the pin and the call under way. `ran` is history: the
callback has run in the wait of the last call that has come so far. -/
structure Lps22hbLine where
  drv : Lps22hb
  intEnabled : Bool := false
  phase : Lps22hbPhase := .idle
  ran : Bool := false

/-- How a call ends: its return code and what it wrote to `*pressure`, with the history at that
point. -/
structure Lps22hbReply where
  ret : ℤ
  pressure : Option CFloat
  ran : Bool

/-- `gpio_pin_interrupt_configure_dt` with `GPIO_INT_DISABLE`, whose answer is not looked at. -/
def Lps22hbLine.disableInterrupt (ret : ℤ) (s : Lps22hbLine) : Lps22hbLine :=
  if ret ≠ 0 then s else { s with intEnabled := false }

/-- What happens: the pieces of a call with what they are answered beside `Lps22hbAnswers`, an
edge on the line, and any change of the registers. -/
inductive Lps22hbLineEvent where
  /-- Up to the stabilization delay. -/
  | call (notNull : Bool) (a : Lps22hbAnswers)
  /-- The trigger up to `k_sem_reset`. -/
  | reset (disableRet : ℤ)
  /-- The setting of the interrupt. -/
  | arm (enableRet : ℤ)
  /-- The rest of the trigger. -/
  | shoot (disableRet : ℤ)
  /-- `k_sem_take` succeeds, or the sleep is over. -/
  | take
  /-- `k_sem_take` times out. -/
  | expire
  /-- The rest of the wait. -/
  | disarm (waitRet disableRet : ℤ)
  /-- The rest of the call. -/
  | fetch (disableRet : ℤ)
  | edge
  | hardware (regs : Lps22hbRegs)

section

variable (hdr : Lps22hbHeader)

/-- The label `power_down`: what powering off returns is only logged. -/
def lps22hbPowerDown (a : Lps22hbAnswers) (disableRet ret : ℤ) (pressure : Option CFloat)
    (s : Lps22hbLine) : Lps22hbLine × List Lps22hbReply :=
  let s := if s.drv.i2cDev ∧ s.drv.interruptInitialized then s.disableInterrupt disableRet else s
  ({ s with drv := (lps22hbDriverPowerOff hdr a s.drv).2, phase := .idle },
    [⟨ret, pressure, s.ran⟩])

/-- From `sensor_sample_fetch` to `power_down`. -/
def lps22hbFetch (a : Lps22hbAnswers) : ℤ × Option CFloat :=
  if a.fetchRet ≠ 0 then (a.fetchRet, none)
  else if a.channelRet ≠ 0 then (a.channelRet, none)
  else (0, some a.pressure)

/-- One piece of a call, or an edge. -/
def lps22hbLineStep : Lps22hbLineEvent → Lps22hbLine → Option (Lps22hbLine × List Lps22hbReply)
  | .call notNull a, s =>
    match s.phase with
    | .idle =>
      if !s.drv.lpsDev ∨ !notNull then some (s, [⟨-EINVAL, none, s.ran⟩])
      else if !a.ready then some (s, [⟨-ENODEV, none, s.ran⟩])
      else
        let (ret, drv) := lps22hbDriverPowerOn hdr a s.drv
        if ret ≠ 0 then some ({ s with drv := drv }, [⟨ret, none, s.ran⟩])
        else some ({ s with drv := drv, phase := .stabilizing a }, [])
    | _ => none
  | .reset disableRet, s =>
    match s.phase with
    | .stabilizing a =>
      if !s.drv.i2cDev then some (lps22hbPowerDown hdr a disableRet (-ENODEV) none s)
      else
        some ({ s with
          drv := { s.drv with dataReadySem := Semaphore.reset }
          phase := .cleared a }, [])
    | _ => none
  | .arm enableRet, s =>
    match s.phase with
    | .cleared a =>
      some ({ s with
        -- a setting that fails is only logged
        intEnabled := s.intEnabled || (s.drv.interruptInitialized && enableRet == 0)
        phase := .armed a }, [])
    | _ => none
  | .shoot disableRet, s =>
    match s.phase with
    | .armed a =>
      if a.ctrl2Read < 0 then some (lps22hbPowerDown hdr a disableRet a.ctrl2Read none s)
      else if a.ctrl2Write < 0 then some (lps22hbPowerDown hdr a disableRet a.ctrl2Write none s)
      else
        let ctrlReg2 := s.drv.regs.ctrlReg2 ||| hdr.MASK_CTRL_REG2_ONE_SHOT
        some ({ s with
          drv := { s.drv with regs := { s.drv.regs with ctrlReg2 := ctrlReg2 } }
          phase := .waiting a
          ran := false }, [])
    | _ => none
  | .take, s =>
    match s.phase with
    | .waiting a =>
      if !s.drv.interruptInitialized then some ({ s with phase := .fetching a }, [])
      else
        s.drv.dataReadySem.take.map fun sem =>
          ({ s with drv := { s.drv with dataReadySem := sem }, phase := .waited a true }, [])
    | _ => none
  | .expire, s =>
    match s.phase with
    | .waiting a =>
      -- the wait only times out on an empty semaphore
      if !s.drv.interruptInitialized ∨ s.drv.dataReadySem.take.isSome then none
      else some ({ s with phase := .waited a false }, [])
    | _ => none
  | .disarm waitRet disableRet, s =>
    match s.phase with
    | .waited a inTime =>
      let s := s.disableInterrupt waitRet
      if inTime then some ({ s with phase := .fetching a }, [])
      else some (lps22hbPowerDown hdr a disableRet (-ETIMEDOUT) none s)
    | _ => none
  | .fetch disableRet, s =>
    match s.phase with
    | .fetching a =>
      some (lps22hbPowerDown hdr a disableRet (lps22hbFetch a).1 (lps22hbFetch a).2 s)
    | _ => none
  | .edge, s =>
    if s.intEnabled then
      some ({ s with
        drv := lps22hbDrdyCallback s.drv
        ran := s.ran || s.phase.isWaiting }, [])
    else none
  | .hardware regs, s => some ({ s with drv := { s.drv with regs := regs } }, [])

/-- The driver and its line as a machine. -/
def lps22hbLineMachine : Machine Lps22hbLine Lps22hbLineEvent Lps22hbReply :=
  ⟨lps22hbLineStep hdr⟩

end

variable {hdr : Lps22hbHeader}

/-! ### One step -/

variable (hdr) in
/-- What one step does, case by case. -/
inductive Lps22hbPieced (s : Lps22hbLine) :
    Lps22hbLineEvent → Lps22hbLine → List Lps22hbReply → Prop where
  /-- A call that ends before its stabilization delay. -/
  | refused {notNull : Bool} {a : Lps22hbAnswers} {ret : ℤ} {drv : Lps22hb}
    (phase : s.phase = .idle) (failed : ret ≠ 0)
    (read : lps22hbDriverReadPressure hdr notNull a s.drv = (ret, none, drv))
    (interrupt : drv.interruptInitialized = s.drv.interruptInitialized) :
    Lps22hbPieced s (.call notNull a) { s with drv := drv } [⟨ret, none, s.ran⟩]
  | call {a : Lps22hbAnswers} (phase : s.phase = .idle) (lpsDev : s.drv.lpsDev = true)
    (ready : a.ready = true) (powerOn : (lps22hbDriverPowerOn hdr a s.drv).1 = 0) :
    Lps22hbPieced s (.call true a)
      { s with drv := (lps22hbDriverPowerOn hdr a s.drv).2, phase := .stabilizing a } []
  | noBus {disableRet : ℤ} {a : Lps22hbAnswers} {s' : Lps22hbLine} {os : List Lps22hbReply}
    (phase : s.phase = .stabilizing a) (bus : s.drv.i2cDev = false)
    (down : lps22hbPowerDown hdr a disableRet (-ENODEV) none s = (s', os)) :
    Lps22hbPieced s (.reset disableRet) s' os
  | reset {disableRet : ℤ} {a : Lps22hbAnswers} (phase : s.phase = .stabilizing a)
    (bus : s.drv.i2cDev = true) :
    Lps22hbPieced s (.reset disableRet) { s with
      drv := { s.drv with dataReadySem := Semaphore.reset }
      phase := .cleared a } []
  | arm {enableRet : ℤ} {a : Lps22hbAnswers} (phase : s.phase = .cleared a) :
    Lps22hbPieced s (.arm enableRet) { s with
      intEnabled := s.intEnabled || (s.drv.interruptInitialized && enableRet == 0)
      phase := .armed a } []
  /-- An access to `CTRL_REG2` fails. -/
  | notShot {disableRet : ℤ} {a : Lps22hbAnswers} {ret : ℤ} {s' : Lps22hbLine}
    {os : List Lps22hbReply} (phase : s.phase = .armed a)
    (failed : a.ctrl2Read < 0 ∧ ret = a.ctrl2Read ∨
      0 ≤ a.ctrl2Read ∧ a.ctrl2Write < 0 ∧ ret = a.ctrl2Write)
    (down : lps22hbPowerDown hdr a disableRet ret none s = (s', os)) :
    Lps22hbPieced s (.shoot disableRet) s' os
  | shoot {disableRet : ℤ} {a : Lps22hbAnswers} (phase : s.phase = .armed a)
    (read : 0 ≤ a.ctrl2Read) (write : 0 ≤ a.ctrl2Write) :
    Lps22hbPieced s (.shoot disableRet) { s with
      drv := { s.drv with
        regs := { s.drv.regs with
          ctrlReg2 := s.drv.regs.ctrlReg2 ||| hdr.MASK_CTRL_REG2_ONE_SHOT } }
      phase := .waiting a
      ran := false } []
  /-- The sleep without the interrupt is over. -/
  | slept {a : Lps22hbAnswers} (phase : s.phase = .waiting a)
    (polling : s.drv.interruptInitialized = false) :
    Lps22hbPieced s .take { s with phase := .fetching a } []
  | take {a : Lps22hbAnswers} {sem : Semaphore 1} (phase : s.phase = .waiting a)
    (interrupt : s.drv.interruptInitialized = true)
    (taken : s.drv.dataReadySem.take = some sem) :
    Lps22hbPieced s .take
      { s with drv := { s.drv with dataReadySem := sem }, phase := .waited a true } []
  | expire {a : Lps22hbAnswers} (phase : s.phase = .waiting a)
    (interrupt : s.drv.interruptInitialized = true) :
    Lps22hbPieced s .expire { s with phase := .waited a false } []
  | disarm {waitRet disableRet : ℤ} {a : Lps22hbAnswers} (phase : s.phase = .waited a true) :
    Lps22hbPieced s (.disarm waitRet disableRet)
      { s.disableInterrupt waitRet with phase := .fetching a } []
  | timedOut {waitRet disableRet : ℤ} {a : Lps22hbAnswers} {s' : Lps22hbLine}
    {os : List Lps22hbReply} (phase : s.phase = .waited a false)
    (down : lps22hbPowerDown hdr a disableRet (-ETIMEDOUT) none (s.disableInterrupt waitRet) =
      (s', os)) :
    Lps22hbPieced s (.disarm waitRet disableRet) s' os
  | fetch {disableRet : ℤ} {a : Lps22hbAnswers} {s' : Lps22hbLine} {os : List Lps22hbReply}
    (phase : s.phase = .fetching a)
    (down : lps22hbPowerDown hdr a disableRet (lps22hbFetch a).1 (lps22hbFetch a).2 s =
      (s', os)) :
    Lps22hbPieced s (.fetch disableRet) s' os
  | edge (enabled : s.intEnabled = true) :
    Lps22hbPieced s .edge { s with
      drv := lps22hbDrdyCallback s.drv
      ran := s.ran || s.phase.isWaiting } []
  | hardware {regs : Lps22hbRegs} :
    Lps22hbPieced s (.hardware regs) { s with drv := { s.drv with regs := regs } } []

/-- **One step** does nothing else. -/
theorem lps22hbLineStep_cases {e : Lps22hbLineEvent} {s s' : Lps22hbLine}
    {os : List Lps22hbReply} (hstep : lps22hbLineStep hdr e s = some (s', os)) :
    Lps22hbPieced hdr s e s' os := by
  have hinval : (-EINVAL : ℤ) ≠ 0 := by decide
  have hnodev : (-ENODEV : ℤ) ≠ 0 := by decide
  cases e with
  | call notNull a =>
    cases hp : s.phase with
    | idle =>
      simp only [lps22hbLineStep, hp] at hstep
      split_ifs at hstep with hargs hready hfailed <;>
        obtain ⟨rfl, rfl⟩ := Prod.mk.inj (Option.some.inj hstep)
      · refine .refused hp hinval ?_ rfl
        rw [lps22hbDriverReadPressure, if_pos hargs]
      · refine .refused hp hnodev ?_ rfl
        rw [lps22hbDriverReadPressure, if_neg hargs, if_pos hready]
      · rw [← hp]
        refine .refused hp hfailed ?_ (interruptInitialized_powerOn a s.drv)
        rw [lps22hbDriverReadPressure, if_neg hargs, if_neg hready]
        exact if_pos hfailed
      · obtain ⟨hdev, hnull⟩ := not_or.mp hargs
        obtain rfl : notNull = true := by simpa using hnull
        exact .call hp (by simpa using hdev) (by simpa using hready) (not_not.mp hfailed)
    | _ => simp [lps22hbLineStep, hp] at hstep
  | reset disableRet =>
    cases hp : s.phase with
    | stabilizing a =>
      simp only [lps22hbLineStep, hp] at hstep
      split_ifs at hstep with hbus
      · exact .noBus hp (by simpa using hbus) (Option.some.inj hstep)
      · obtain ⟨rfl, rfl⟩ := Prod.mk.inj (Option.some.inj hstep)
        exact .reset hp (by simpa using hbus)
    | _ => simp [lps22hbLineStep, hp] at hstep
  | arm enableRet =>
    cases hp : s.phase with
    | cleared a =>
      simp only [lps22hbLineStep, hp] at hstep
      obtain ⟨rfl, rfl⟩ := Prod.mk.inj (Option.some.inj hstep)
      exact .arm hp
    | _ => simp [lps22hbLineStep, hp] at hstep
  | shoot disableRet =>
    cases hp : s.phase with
    | armed a =>
      simp only [lps22hbLineStep, hp] at hstep
      split_ifs at hstep with hread hwrite
      · exact .notShot hp (Or.inl ⟨hread, rfl⟩) (Option.some.inj hstep)
      · exact .notShot hp (Or.inr ⟨not_lt.mp hread, hwrite, rfl⟩) (Option.some.inj hstep)
      · obtain ⟨rfl, rfl⟩ := Prod.mk.inj (Option.some.inj hstep)
        exact .shoot hp (not_lt.mp hread) (not_lt.mp hwrite)
    | _ => simp [lps22hbLineStep, hp] at hstep
  | take =>
    cases hp : s.phase with
    | waiting a =>
      simp only [lps22hbLineStep, hp] at hstep
      split_ifs at hstep with hint
      · obtain ⟨rfl, rfl⟩ := Prod.mk.inj (Option.some.inj hstep)
        exact .slept hp (by simpa using hint)
      · obtain ⟨sem, htake, hs'⟩ := Option.map_eq_some_iff.mp hstep
        obtain ⟨rfl, rfl⟩ := Prod.mk.inj hs'
        exact .take hp (by simpa using hint) htake
    | _ => simp [lps22hbLineStep, hp] at hstep
  | expire =>
    cases hp : s.phase with
    | waiting a =>
      simp only [lps22hbLineStep, hp] at hstep
      split_ifs at hstep with hint
      obtain ⟨rfl, rfl⟩ := Prod.mk.inj (Option.some.inj hstep)
      exact .expire hp (by simpa using (not_or.mp hint).1)
    | _ => simp [lps22hbLineStep, hp] at hstep
  | disarm waitRet disableRet =>
    cases hp : s.phase with
    | waited a inTime =>
      simp only [lps22hbLineStep, hp] at hstep
      split_ifs at hstep with hinTime
      · obtain ⟨rfl, rfl⟩ := Prod.mk.inj (Option.some.inj hstep)
        obtain rfl : inTime = true := hinTime
        exact .disarm hp
      · obtain rfl : inTime = false := Bool.eq_false_iff.mpr hinTime
        exact .timedOut hp (Option.some.inj hstep)
    | _ => simp [lps22hbLineStep, hp] at hstep
  | fetch disableRet =>
    cases hp : s.phase with
    | fetching a =>
      simp only [lps22hbLineStep, hp] at hstep
      exact .fetch hp (Option.some.inj hstep)
    | _ => simp [lps22hbLineStep, hp] at hstep
  | edge =>
    simp only [lps22hbLineStep] at hstep
    split_ifs at hstep with hon
    obtain ⟨rfl, rfl⟩ := Prod.mk.inj (Option.some.inj hstep)
    exact .edge hon
  | hardware regs =>
    obtain ⟨rfl, rfl⟩ := Prod.mk.inj (Option.some.inj hstep)
    exact .hardware

/-! ### A pressure's own conversion -/

/-- Power-off leaves the interrupt and the semaphore as they are. -/
theorem powerOff_frame (a : Lps22hbAnswers) (s : Lps22hb) :
    (lps22hbDriverPowerOff hdr a s).2.interruptInitialized = s.interruptInitialized ∧
      (lps22hbDriverPowerOff hdr a s).2.i2cDev = s.i2cDev := by
  simp only [lps22hbDriverPowerOff]
  split_ifs <;> exact ⟨rfl, rfl⟩

/-- A call that ends leaves the driver idle, and replies with the history. -/
theorem lps22hbPowerDown_eq (a : Lps22hbAnswers) (disableRet ret : ℤ) (pressure : Option CFloat)
    (s : Lps22hbLine) :
    ∃ intEnabled, lps22hbPowerDown hdr a disableRet ret pressure s =
        ({ s with
          intEnabled := intEnabled
          drv := (lps22hbDriverPowerOff hdr a s.drv).2
          phase := .idle }, [⟨ret, pressure, s.ran⟩]) ∧
      (s.drv.i2cDev = true → s.drv.interruptInitialized = true → disableRet = 0 →
        intEnabled = false) := by
  simp only [lps22hbPowerDown, Lps22hbLine.disableInterrupt]
  split_ifs with hint hret
  · exact ⟨_, rfl, fun _ _ hzero => absurd hzero hret⟩
  · exact ⟨_, rfl, fun _ _ _ => rfl⟩
  · exact ⟨_, rfl, fun hdev hinit _ => absurd ⟨hdev, hinit⟩ hint⟩

@[simp]
theorem Lps22hbLine.drv_disableInterrupt (ret : ℤ) (s : Lps22hbLine) :
    (s.disableInterrupt ret).drv = s.drv := by
  rw [disableInterrupt]
  split_ifs <;> rfl

@[simp]
theorem Lps22hbLine.ran_disableInterrupt (ret : ℤ) (s : Lps22hbLine) :
    (s.disableInterrupt ret).ran = s.ran := by
  rw [disableInterrupt]
  split_ifs <;> rfl

/-- No edge comes between the reset of the semaphore and the write that starts the
conversion. -/
def EdgeInTime (e : Lps22hbLineEvent) (s : Lps22hbLine) : Prop :=
  match e with
  | .edge => s.phase.isTriggering = false
  | _ => True

instance (e : Lps22hbLineEvent) (s : Lps22hbLine) : Decidable (EdgeInTime e s) :=
  match e with
  | .edge => inferInstanceAs (Decidable (_ = false))
  | .call .. | .reset _ | .arm _ | .shoot _ | .take | .expire | .disarm .. | .fetch _
  | .hardware _ => isTrue trivial

/-- The pin has its interrupt, and from its trigger on a call only finds what the callback has
given since the conversion was started. -/
structure Lps22hbLine.Own (s : Lps22hbLine) : Prop where
  interrupt : s.drv.interruptInitialized = true
  phase : match s.phase with
    | .cleared _ | .armed _ => s.drv.dataReadySem.count = 0
    | .waiting _ => s.drv.dataReadySem.count ≠ 0 → s.ran = true
    | .waited _ inTime => inTime = true → s.ran = true
    | .fetching _ => s.ran = true
    | _ => True

theorem Lps22hbLine.Own.of_idle {s : Lps22hbLine} (hint : s.drv.interruptInitialized = true)
    (h : s.phase = .idle) : s.Own :=
  ⟨hint, by rw [h]; trivial⟩

/-- A call that ends. -/
theorem Lps22hbLine.Own.powerDown {s s' : Lps22hbLine} {os : List Lps22hbReply}
    (hint : s.drv.interruptInitialized = true) {a : Lps22hbAnswers} {disableRet ret : ℤ}
    {pressure : Option CFloat} (hran : ret = 0 → s.ran = true)
    (h : lps22hbPowerDown hdr a disableRet ret pressure s = (s', os)) :
    s'.Own ∧ ∀ r ∈ os, r.ret = 0 → r.ran = true := by
  obtain ⟨intEnabled, hdown, -⟩ := @lps22hbPowerDown_eq hdr a disableRet ret pressure s
  obtain ⟨rfl, rfl⟩ := Prod.mk.inj (hdown.symm.trans h)
  exact ⟨.of_idle ((powerOff_frame a s.drv).1.trans hint) rfl, List.forall_mem_singleton.mpr hran⟩

/-- **One step.** -/
theorem Lps22hbLine.Own.step {e : Lps22hbLineEvent} {s s' : Lps22hbLine}
    {os : List Lps22hbReply} (he : EdgeInTime e s) (h : s.Own)
    (hstep : lps22hbLineStep hdr e s = some (s', os)) :
    s'.Own ∧ ∀ r ∈ os, r.ret = 0 → r.ran = true := by
  have hnodev : (-ENODEV : ℤ) ≠ 0 := by decide
  have htimedout : (-ETIMEDOUT : ℤ) ≠ 0 := by decide
  have hnone : ∀ r ∈ ([] : List Lps22hbReply), r.ret = 0 → r.ran = true := by simp
  obtain ⟨hint, hown⟩ := h
  cases lps22hbLineStep_cases hstep with
  | refused hphase hfailed _ hkept =>
    exact ⟨.of_idle (hkept.trans hint) hphase,
      List.forall_mem_singleton.mpr fun hzero => absurd hzero hfailed⟩
  | @call a _ _ _ _ =>
    exact ⟨⟨(interruptInitialized_powerOn a s.drv).trans hint, trivial⟩, hnone⟩
  | noBus _ _ hdown => exact Own.powerDown hint (fun hzero => absurd hzero hnodev) hdown
  | reset _ _ => exact ⟨⟨hint, rfl⟩, hnone⟩
  | arm hphase =>
    rw [hphase] at hown
    exact ⟨⟨hint, hown⟩, hnone⟩
  | notShot _ hfailed hdown => exact Own.powerDown hint (fun hzero => by omega) hdown
  | shoot hphase _ _ =>
    -- the semaphore is empty when the conversion starts
    rw [hphase] at hown
    exact ⟨⟨hint, fun hcount => absurd hown hcount⟩, hnone⟩
  | slept _ hpolling => exact absurd (hint.symm.trans hpolling) (by decide)
  | take hphase _ htake =>
    rw [hphase] at hown
    have hcount : s.drv.dataReadySem.count ≠ 0 := Semaphore.isSome_take.mp (by simp [htake])
    exact ⟨⟨hint, fun _ => hown hcount⟩, hnone⟩
  | expire _ _ => exact ⟨⟨hint, fun hno => absurd hno Bool.false_ne_true⟩, hnone⟩
  | @disarm waitRet _ _ hphase =>
    rw [hphase] at hown
    have hint' : (s.disableInterrupt waitRet).drv.interruptInitialized = true := by
      rwa [drv_disableInterrupt]
    exact ⟨⟨hint', (ran_disableInterrupt waitRet s).trans (hown rfl)⟩, hnone⟩
  | timedOut _ hdown =>
    exact Own.powerDown (by rwa [drv_disableInterrupt]) (fun hzero => absurd hzero htimedout) hdown
  | fetch hphase hdown =>
    rw [hphase] at hown
    exact Own.powerDown hint (fun _ => hown) hdown
  | edge _ =>
    refine ⟨⟨hint, ?_⟩, hnone⟩
    cases hphase : s.phase with
    | cleared a | armed a =>
      have he : s.phase.isTriggering = false := he
      rw [hphase] at he
      exact absurd he.symm Bool.false_ne_true
    | waiting a => simp [Lps22hbPhase.isWaiting]
    | waited a inTime =>
      rw [hphase] at hown
      exact fun hyes => by simp [hown hyes]
    | fetching a =>
      rw [hphase] at hown
      have hran : s.ran = true := hown
      simp [hran]
    | _ => trivial
  | hardware => exact ⟨⟨hint, hown⟩, hnone⟩

/-- After a write with the semaphore given, the rest of a call can go through without an edge. -/
theorem lps22hbLine_not_own_of_armed {s : Lps22hbLine} {a : Lps22hbAnswers}
    (hphase : s.phase = .armed a)
    (hint : s.drv.interruptInitialized = true) (hcount : s.drv.dataReadySem.count ≠ 0)
    (hread : 0 ≤ a.ctrl2Read) (hwrite : 0 ≤ a.ctrl2Write) (hfetch : (lps22hbFetch a).1 = 0) :
    ∃ t r, (lps22hbLineMachine hdr).run [.shoot 0, .take, .disarm 0 0, .fetch 0] s =
      some (t, [r]) ∧ r.ret = 0 ∧ r.ran = false := by
  obtain ⟨sem, htake⟩ := Option.isSome_iff_exists.mp (Semaphore.isSome_take.mpr hcount)
  let ctrlReg2 := s.drv.regs.ctrlReg2 ||| hdr.MASK_CTRL_REG2_ONE_SHOT
  let waiting : Lps22hbLine := { s with
    drv := { s.drv with regs := { s.drv.regs with ctrlReg2 := ctrlReg2 } }
    phase := .waiting a
    ran := false }
  let waited : Lps22hbLine := { waiting with
    drv := { waiting.drv with dataReadySem := sem }
    phase := .waited a true }
  let fetching : Lps22hbLine := { waited with intEnabled := false, phase := .fetching a }
  have hshoot : lps22hbLineStep hdr (.shoot 0) s = some (waiting, []) := by
    simp [lps22hbLineStep, hphase, not_lt.mpr hread, not_lt.mpr hwrite, waiting, ctrlReg2]
  have htaken : lps22hbLineStep hdr .take waiting = some (waited, []) := by
    simp [lps22hbLineStep, waiting, waited, hint, htake]
  have hdisarm : lps22hbLineStep hdr (.disarm 0 0) waited = some (fetching, []) := by
    simp [lps22hbLineStep, waited, fetching, Lps22hbLine.disableInterrupt]
  obtain ⟨intEnabled, hdown, -⟩ :=
    @lps22hbPowerDown_eq hdr a 0 (lps22hbFetch a).1 (lps22hbFetch a).2 fetching
  have hfetched : lps22hbLineStep hdr (.fetch 0) fetching = some _ := congrArg some hdown
  have hrun : (lps22hbLineMachine hdr).run [.shoot 0, .take, .disarm 0 0, .fetch 0] s =
      some (_, [_]) :=
    (Machine.run_cons_eq_some _).mpr ⟨_, _, _, hshoot,
      (Machine.run_cons_eq_some _).mpr ⟨_, _, _, htaken,
        (Machine.run_cons_eq_some _).mpr ⟨_, _, _, hdisarm,
          (Machine.run_cons_eq_some _).mpr ⟨_, _, _, hfetched, rfl, rfl⟩, rfl⟩, rfl⟩, rfl⟩
  exact ⟨_, _, hrun, hfetch, rfl⟩

/-- **An edge that comes too soon.** The rest of the call can go through without another one. -/
theorem lps22hbLine_not_own {s : Lps22hbLine} {a : Lps22hbAnswers}
    (hphase : s.phase = .cleared a ∨ s.phase = .armed a)
    (hint : s.drv.interruptInitialized = true) (hcount : s.drv.dataReadySem.count ≠ 0)
    (hread : 0 ≤ a.ctrl2Read) (hwrite : 0 ≤ a.ctrl2Write) (hfetch : (lps22hbFetch a).1 = 0) :
    ∃ es t r, (lps22hbLineMachine hdr).run es s = some (t, [r]) ∧ r.ret = 0 ∧ r.ran = false := by
  rcases hphase with hphase | hphase
  · -- the interrupt is set all the same
    let armed : Lps22hbLine := { s with
      intEnabled := s.intEnabled || (s.drv.interruptInitialized && (0 : ℤ) == 0)
      phase := .armed a }
    have harm : lps22hbLineStep hdr (.arm 0) s = some (armed, []) := by
      simp only [lps22hbLineStep, hphase, armed]
    obtain ⟨t, r, hrest, hown⟩ := @lps22hbLine_not_own_of_armed hdr armed a rfl hint hcount
      hread hwrite hfetch
    have hrun : (lps22hbLineMachine hdr).run
        [.arm 0, .shoot 0, .take, .disarm 0 0, .fetch 0] s = some (t, [r]) :=
      (Machine.run_cons_eq_some _).mpr ⟨armed, [], [r], harm, hrest, rfl⟩
    exact ⟨_, t, r, hrun, hown⟩
  · exact ⟨_, lps22hbLine_not_own_of_armed hphase hint hcount hread hwrite hfetch⟩

/-! ### The window of the interrupt -/

/-- The interrupt can be taken back wherever the driver does so. -/
def Lps22hbLineEvent.Disables : Lps22hbLineEvent → Prop
  | .reset disableRet | .shoot disableRet | .fetch disableRet => disableRet = 0
  | .disarm waitRet disableRet => waitRet = 0 ∧ disableRet = 0
  | _ => True

/-- The interrupt is set only in the window, and on a driver that has it and its bus. -/
structure Lps22hbLine.Windowed (s : Lps22hbLine) : Prop where
  drv : s.intEnabled = true → s.drv.i2cDev = true ∧ s.drv.interruptInitialized = true
  window : s.intEnabled = true → s.phase.inWindow = true
  bus : ∀ a, s.phase = .cleared a → s.drv.i2cDev = true

namespace Lps22hbLine.Windowed

variable {s s' : Lps22hbLine}

/-- A call whose interrupt is off, and not about to be set. -/
theorem of_off (h : s.intEnabled = false) (hphase : ∀ a, s.phase ≠ .cleared a) : s.Windowed := by
  have hno : s.intEnabled ≠ true := Bool.eq_false_iff.mp h
  exact ⟨fun hon => absurd hon hno, fun hon => absurd hon hno,
    fun a hcleared => absurd hcleared (hphase a)⟩

/-- Outside the window the interrupt is off. -/
theorem off (h : s.Windowed) (hout : s.phase.inWindow = false) : s.intEnabled = false :=
  Bool.eq_false_iff.mpr fun hon => Bool.false_ne_true (hout.symm.trans (h.window hon))

/-- A call that ends takes the interrupt back. -/
theorem powerDown (h : s.Windowed) {a : Lps22hbAnswers} {disableRet ret : ℤ}
    {pressure : Option CFloat} {os : List Lps22hbReply} (hdisable : disableRet = 0)
    (hdown : lps22hbPowerDown hdr a disableRet ret pressure s = (s', os)) : s'.Windowed := by
  obtain rfl := (Prod.mk.inj hdown).1
  refine of_off ?_ (by simp)
  simp only [disableInterrupt, hdisable, ne_eq, not_true, if_false]
  split_ifs with hint
  · rfl
  · exact Bool.eq_false_iff.mpr fun hon => hint (h.drv hon)

/-- **One step.** -/
theorem step {e : Lps22hbLineEvent} {os : List Lps22hbReply} (he : e.Disables) (h : s.Windowed)
    (hstep : lps22hbLineStep hdr e s = some (s', os)) : s'.Windowed := by
  cases lps22hbLineStep_cases hstep with
  | refused hphase _ _ _ =>
    exact of_off (h.off (by rw [hphase]; rfl)) fun _ hcleared => by simp [hphase] at hcleared
  | call hphase _ _ _ => exact of_off (h.off (by rw [hphase]; rfl)) (by simp)
  | noBus _ _ hdown => exact h.powerDown he hdown
  | reset hphase hbus =>
    have hno : s.intEnabled ≠ true := Bool.eq_false_iff.mp (h.off (by rw [hphase]; rfl))
    exact ⟨fun hon => absurd hon hno, fun hon => absurd hon hno, fun _ _ => hbus⟩
  | @arm _ a hphase =>
    have hoff : s.intEnabled = false := h.off (by rw [hphase]; rfl)
    refine ⟨fun hon => ⟨h.bus a hphase, ?_⟩, fun _ => rfl, by simp⟩
    rw [hoff, Bool.false_or, Bool.and_eq_true] at hon
    exact hon.1
  | notShot _ _ hdown => exact h.powerDown he hdown
  | shoot _ _ _ => exact ⟨h.drv, fun _ => rfl, by simp⟩
  | slept _ hpolling =>
    -- in polling mode there is no interrupt to take back
    refine of_off (Bool.eq_false_iff.mpr fun hon => ?_) (by simp)
    exact absurd ((h.drv hon).2.symm.trans hpolling) (by decide)
  | take _ _ _ => exact ⟨h.drv, fun _ => rfl, by simp⟩
  | expire _ _ => exact ⟨h.drv, fun _ => rfl, by simp⟩
  | disarm _ =>
    obtain ⟨rfl, -⟩ := he
    exact of_off (by simp [disableInterrupt]) (by simp)
  | timedOut hphase hdown =>
    obtain ⟨rfl, hdisable⟩ := he
    have hoff : (s.disableInterrupt 0).intEnabled = false := by simp [disableInterrupt]
    have hout : ∀ a, (s.disableInterrupt 0).phase ≠ .cleared a := by
      simp [disableInterrupt, hphase]
    exact (of_off hoff hout).powerDown hdisable hdown
  | fetch _ hdown => exact h.powerDown he hdown
  | edge hon => exact ⟨fun _ => h.drv hon, fun _ => h.window hon, h.bus⟩
  | hardware => exact ⟨h.drv, h.window, h.bus⟩

end Lps22hbLine.Windowed

/-- **A pressure's own edge.** In every run of the pieces from a driver at rest, whatever fails,
with edges of the line at any point and on a pin that has its interrupt: if no edge comes between
the reset of the semaphore and the write that starts the conversion, every read that returns `0`
has seen an edge in its own wait, and where one does, the read can return `0` without another.
If the interrupt can be taken back, the callback runs only in the window that the trigger and the
wait make, so an edge that is late for a read is lost and not kept for the next. -/
theorem lps22hb_own_edge {s : Lps22hb} (hint : s.interruptInitialized = true)
    {es : List Lps22hbLineEvent} {t : Lps22hbLine} {os : List Lps22hbReply}
    (hrun : (lps22hbLineMachine hdr).run es { drv := s } = some (t, os)) :
    ((lps22hbLineMachine hdr).Along EdgeInTime es { drv := s } →
        (∀ r ∈ os, r.ret = 0 → r.ran = true) ∧
          ∀ a t' os', t.phase = .cleared a ∨ t.phase = .armed a →
            lps22hbLineStep hdr .edge t = some (t', os') →
            0 ≤ a.ctrl2Read → 0 ≤ a.ctrl2Write → (lps22hbFetch a).1 = 0 →
              ∃ es' t'' r, (lps22hbLineMachine hdr).run es' t' = some (t'', [r]) ∧
                r.ret = 0 ∧ r.ran = false) ∧
      ((∀ e ∈ es, e.Disables) → ∀ t' os', lps22hbLineStep hdr .edge t = some (t', os') →
        t.phase.inWindow = true) := by
  constructor
  · intro htime
    have hstart : Lps22hbLine.Own { drv := s } := .of_idle hint rfl
    have hkept : ∀ {e : Lps22hbLineEvent} {s s' : Lps22hbLine} {os : List Lps22hbReply},
        EdgeInTime e s → s.Own → (lps22hbLineMachine hdr).step e s = some (s', os) → s'.Own :=
      fun he h hs => (h.step he hs).1
    refine ⟨htime.emits hkept (fun he h hs => (h.step he hs).2) hstart hrun, ?_⟩
    intro a t' os' hphase hedge hread hwrite hfetch
    have hown := htime.invariant hkept hstart hrun
    simp only [lps22hbLineStep] at hedge
    split_ifs at hedge
    obtain ⟨rfl, -⟩ := Prod.mk.inj (Option.some.inj hedge)
    let soon : Lps22hbLine := { t with
      drv := lps22hbDrdyCallback t.drv
      ran := t.ran || t.phase.isWaiting }
    have hcount : soon.drv.dataReadySem.count ≠ 0 := by
      simp [soon, lps22hbDrdyCallback, Semaphore.give]
    exact @lps22hbLine_not_own hdr soon a hphase hown.interrupt hcount hread hwrite hfetch
  · intro hdisables t' os' hedge
    have hwindowed : t.Windowed :=
      Machine.Preserves.run (I := Lps22hbLine.Windowed) (fun he h hs => h.step he hs) hdisables
        (.of_off rfl (by simp)) hrun
    simp only [lps22hbLineStep] at hedge
    split_ifs at hedge with hon
    exact hwindowed.window hon

/-- A read that has gone well, and the beginning of the next one. -/
def lps22hbTwoCalls : List Lps22hbLineEvent :=
  [.call true readAnswersOk, .reset 0, .arm 0, .shoot 0, .edge, .take, .disarm 0 0, .fetch 0,
    .call true readAnswersOk, .reset 0, .arm 0]

/-- `lps22hb_own_edge` where the second read has set its interrupt and not started yet. -/
theorem lps22hb_own_edge_twoCalls :
    ∃ t os, (lps22hbLineMachine zephyrHeader).run lps22hbTwoCalls { drv := lps22hbReady 0 } =
        some (t, os) ∧
      os.map Lps22hbReply.ret = [0] ∧ (∀ r ∈ os, r.ret = 0 → r.ran = true) ∧
      t.phase.inWindow = true ∧
      ∃ t' es' t'' r, lps22hbLineStep zephyrHeader .edge t = some (t', []) ∧
        (lps22hbLineMachine zephyrHeader).run es' t' = some (t'', [r]) ∧
          r.ret = 0 ∧ r.ran = false := by
  have hrun : (lps22hbLineMachine zephyrHeader).run lps22hbTwoCalls { drv := lps22hbReady 0 } =
      some (_, [_]) := rfl
  have htime : (lps22hbLineMachine zephyrHeader).Along EdgeInTime lps22hbTwoCalls
      { drv := lps22hbReady 0 } := by decide
  have hdisables : ∀ e ∈ lps22hbTwoCalls, e.Disables := by
    simp [lps22hbTwoCalls, Lps22hbLineEvent.Disables]
  obtain ⟨hown, hwindow⟩ := lps22hb_own_edge rfl hrun
  obtain ⟨hreplies, hsoon⟩ := hown htime
  obtain ⟨es', t'', r, hrest, hzero, hno⟩ :=
    hsoon readAnswersOk _ _ (Or.inr rfl) rfl le_rfl le_rfl rfl
  exact ⟨_, _, hrun, rfl, hreplies, hwindow hdisables _ _ rfl, _, es', t'', r, rfl, hrest, hzero,
    hno⟩

end EnvMonitor
