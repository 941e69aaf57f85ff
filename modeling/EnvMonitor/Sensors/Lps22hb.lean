import EnvMonitor.Errno
import EnvMonitor.Lib.CFloat
import EnvMonitor.Lib.Machine
import EnvMonitor.Lib.Semaphore

/-!
# The LPS22HB driver

`lps22hb_driver_read_pressure` takes the sensor out of its low-current mode, converts once, and
puts it back, whatever has failed in between. The mode is the bit `LC_EN` of `RES_CONF`, and the
driver clears and sets it with `LPS22HB_SHIFT_RES_CONF_LC_EN`, which is the position of the bit
and not its mask. At the position `0` both operations do nothing.

The register constants of Zephyr's `lps22hb.h` are a parameter of the model;
`readPressure_lowCurrent_iff` assumes of them what the header says about `LC_EN`.
`readPressure_own_conversion` is about the wait: the trigger resets the semaphore, so what the
wait takes was given after it.
-/

namespace EnvMonitor

/-! ### Registers and state -/

/-- The constants of `lps22hb.h` that the driver uses on register contents. -/
structure Lps22hbHeader where
  SHIFT_RES_CONF_LC_EN : UInt8
  MASK_CTRL_REG1_ODR : UInt8
  MASK_CTRL_REG2_ONE_SHOT : UInt8
  MASK_CTRL_REG3_DRDY : UInt8

/-- The registers of the sensor that the driver writes. -/
structure Lps22hbRegs where
  resConf : UInt8
  ctrlReg1 : UInt8
  ctrlReg2 : UInt8
  ctrlReg3 : UInt8
deriving DecidableEq, Repr

/-- The static variables of the driver, and the sensor. -/
structure Lps22hb where
  lpsDev : Bool := false
  i2cDev : Bool := false
  enabled : Bool := false
  interruptInitialized : Bool := false
  dataReadySem : Semaphore 1 := Semaphore.reset
  regs : Lps22hbRegs
deriving DecidableEq, Repr

/-- The mask of `LC_EN`, bit 0 of `RES_CONF`. -/
def LC_EN : UInt8 := 0x01

/-- The sensor is in its low-current mode. -/
def Lps22hbRegs.LowCurrent (regs : Lps22hbRegs) : Prop := regs.resConf &&& LC_EN ≠ 0

instance (regs : Lps22hbRegs) : Decidable regs.LowCurrent := inferInstanceAs (Decidable (_ ≠ _))

/-- What the hardware answers to `lps22hb_driver_init`. -/
structure Lps22hbInitAnswers where
  i2cReady : Bool
  devReady : Bool
  intSpec : Bool
  portReady : Bool
  configureRet : ℤ
  interruptRet : ℤ
  callbackRet : ℤ
  ctrl1Read : ℤ
  ctrl1Write : ℤ

/-- What the hardware answers to `lps22hb_driver_read_pressure`: the two accesses to `RES_CONF`
that power the sensor on, those to `CTRL_REG3` and `CTRL_REG2`, whether the data-ready interrupt
comes before the wait is over, the sample with its converted pressure, and the two accesses to
`RES_CONF` that power the sensor off. -/
structure Lps22hbAnswers where
  ready : Bool
  onRead : ℤ
  onWrite : ℤ
  ctrl3Read : ℤ
  ctrl3Write : ℤ
  ctrl2Read : ℤ
  ctrl2Write : ℤ
  drdy : Bool
  fetchRet : ℤ
  channelRet : ℤ
  pressure : CFloat
  offRead : ℤ
  offWrite : ℤ

/-- The accesses to `RES_CONF` succeed. -/
structure Lps22hbAnswers.ResConfOk (a : Lps22hbAnswers) : Prop where
  onRead : 0 ≤ a.onRead
  onWrite : 0 ≤ a.onWrite
  offRead : 0 ≤ a.offRead
  offWrite : 0 ≤ a.offWrite

/-! ### The functions -/

section

variable (hdr : Lps22hbHeader)

/-- `lps22hb_driver_init`. -/
def lps22hbDriverInit (a : Lps22hbInitAnswers) (s : Lps22hb) : ℤ × Lps22hb :=
  if !a.i2cReady then (-ENODEV, s)
  else
    let s := { s with lpsDev := true }
    if !a.devReady then (-ENODEV, s)
    else if !a.intSpec then (-EINVAL, s)
    else
      let s := { s with
        i2cDev := true
        enabled := false
        interruptInitialized := false
        dataReadySem := Semaphore.reset }
      if a.portReady ∧ a.configureRet < 0 then (a.configureRet, s)
      else if a.portReady ∧ a.interruptRet < 0 then (a.interruptRet, s)
      else if a.portReady ∧ a.callbackRet < 0 then (a.callbackRet, s)
      else
        let s := { s with interruptInitialized := a.portReady }
        if a.ctrl1Read < 0 then (a.ctrl1Read, s)
        else if a.ctrl1Write < 0 then (a.ctrl1Write, s)
        else
          let ctrlReg1 := s.regs.ctrlReg1 &&& ~~~hdr.MASK_CTRL_REG1_ODR
          (0, { s with regs := { s.regs with ctrlReg1 := ctrlReg1 } })

/-- `lps22hb_driver_power_on`. -/
def lps22hbDriverPowerOn (a : Lps22hbAnswers) (s : Lps22hb) : ℤ × Lps22hb :=
  if !s.i2cDev then (-ENODEV, s)
  else if a.onRead < 0 then (a.onRead, s)
  else if a.onWrite < 0 then (a.onWrite, s)
  else
    let resConf := s.regs.resConf &&& ~~~hdr.SHIFT_RES_CONF_LC_EN
    let s := { s with regs := { s.regs with resConf := resConf } }
    if s.interruptInitialized ∧ a.ctrl3Read < 0 then (a.ctrl3Read, s)
    else if s.interruptInitialized ∧ a.ctrl3Write < 0 then (a.ctrl3Write, s)
    else
      let ctrlReg3 := if s.interruptInitialized then
        s.regs.ctrlReg3 ||| hdr.MASK_CTRL_REG3_DRDY else s.regs.ctrlReg3
      (0, { s with regs := { s.regs with ctrlReg3 := ctrlReg3 }, enabled := true })

/-- `lps22hb_drdy_callback`. -/
def lps22hbDrdyCallback (s : Lps22hb) : Lps22hb :=
  { s with dataReadySem := s.dataReadySem.give }

/-- `lps22hb_driver_trigger_oneshot`. The reads that clear an old data-ready status, and the
setting of the interrupt, cannot make it fail. -/
def lps22hbDriverTriggerOneshot (a : Lps22hbAnswers) (s : Lps22hb) : ℤ × Lps22hb :=
  if !s.i2cDev then (-ENODEV, s)
  else
    let s := { s with dataReadySem := Semaphore.reset }
    if a.ctrl2Read < 0 then (a.ctrl2Read, s)
    else if a.ctrl2Write < 0 then (a.ctrl2Write, s)
    else
      let ctrlReg2 := s.regs.ctrlReg2 ||| hdr.MASK_CTRL_REG2_ONE_SHOT
      (0, { s with regs := { s.regs with ctrlReg2 := ctrlReg2 } })

/-- `lps22hb_driver_wait_data_ready`; without the interrupt it only sleeps. -/
def lps22hbDriverWaitDataReady (a : Lps22hbAnswers) (s : Lps22hb) : ℤ × Lps22hb :=
  let s := if a.drdy then lps22hbDrdyCallback s else s
  if !s.interruptInitialized then (0, s)
  else
    match s.dataReadySem.take with
    | none => (-ETIMEDOUT, s)
    | some sem => (0, { s with dataReadySem := sem })

/-- `lps22hb_driver_power_off`. -/
def lps22hbDriverPowerOff (a : Lps22hbAnswers) (s : Lps22hb) : ℤ × Lps22hb :=
  if !s.i2cDev then (-ENODEV, s)
  else if a.offRead < 0 then (a.offRead, s)
  else if a.offWrite < 0 then (a.offWrite, s)
  else
    let resConf := s.regs.resConf ||| hdr.SHIFT_RES_CONF_LC_EN
    (0, { s with regs := { s.regs with resConf := resConf }, enabled := false })

/-- `lps22hb_driver_read_pressure` between power-on and `power_down`, with what it wrote to
`*pressure`. -/
def lps22hbMeasure (a : Lps22hbAnswers) (s : Lps22hb) : ℤ × Option CFloat × Lps22hb :=
  let (ret, s) := lps22hbDriverTriggerOneshot hdr a s
  if ret ≠ 0 then (ret, none, s)
  else
    let (ret, s) := lps22hbDriverWaitDataReady a s
    if ret ≠ 0 then (ret, none, s)
    else if a.fetchRet ≠ 0 then (a.fetchRet, none, s)
    else if a.channelRet ≠ 0 then (a.channelRet, none, s)
    else (0, some a.pressure, s)

/-- `lps22hb_driver_read_pressure`; `notNull` is about its pointer. An error of the power-on
returns at once, any later one goes through `power_down`. -/
def lps22hbDriverReadPressure (notNull : Bool) (a : Lps22hbAnswers) (s : Lps22hb) :
    ℤ × Option CFloat × Lps22hb :=
  if !s.lpsDev ∨ !notNull then (-EINVAL, none, s)
  else if !a.ready then (-ENODEV, none, s)
  else
    let (ret, s) := lps22hbDriverPowerOn hdr a s
    if ret ≠ 0 then (ret, none, s)
    else
      let (ret, pressure, s) := lps22hbMeasure hdr a s
      (ret, pressure, (lps22hbDriverPowerOff hdr a s).2)

/-! ### What the pieces of a read keep -/

/-- `s'` differs from `s` neither in `RES_CONF` nor in the devices of the driver. -/
structure SameConf (s s' : Lps22hb) : Prop where
  resConf : s'.regs.resConf = s.regs.resConf
  lpsDev : s'.lpsDev = s.lpsDev
  i2cDev : s'.i2cDev = s.i2cDev

theorem SameConf.trans {s₁ s₂ s₃ : Lps22hb} (h : SameConf s₁ s₂) (h' : SameConf s₂ s₃) :
    SameConf s₁ s₃ :=
  ⟨h'.resConf.trans h.resConf, h'.lpsDev.trans h.lpsDev, h'.i2cDev.trans h.i2cDev⟩

variable {hdr}

/-- **Power-on.** It does not move `RES_CONF`, and it either succeeds and sets
`lps22hb_enabled` or fails and leaves it. -/
theorem powerOn_spec (hshift : hdr.SHIFT_RES_CONF_LC_EN = 0) (a : Lps22hbAnswers) (s : Lps22hb) :
    let call := lps22hbDriverPowerOn hdr a s
    SameConf s call.2 ∧
      (call.1 ≠ 0 ∧ call.2.enabled = s.enabled ∨ call.1 = 0 ∧ call.2.enabled = true) := by
  have hclear : s.regs.resConf &&& ~~~(0 : UInt8) = s.regs.resConf := by simp
  have hnodev : (-ENODEV : ℤ) ≠ 0 := by decide
  simp only [lps22hbDriverPowerOn, hshift]
  split_ifs with hdev hread hwrite hread3 hwrite3
  · exact ⟨⟨rfl, rfl, rfl⟩, Or.inl ⟨hnodev, rfl⟩⟩
  · exact ⟨⟨rfl, rfl, rfl⟩, Or.inl ⟨hread.ne, rfl⟩⟩
  · exact ⟨⟨rfl, rfl, rfl⟩, Or.inl ⟨hwrite.ne, rfl⟩⟩
  · exact ⟨⟨hclear, rfl, rfl⟩, Or.inl ⟨hread3.2.ne, rfl⟩⟩
  · exact ⟨⟨hclear, rfl, rfl⟩, Or.inl ⟨hwrite3.2.ne, rfl⟩⟩
  · exact ⟨⟨hclear, rfl, rfl⟩, Or.inr ⟨rfl, rfl⟩⟩
  · exact ⟨⟨hclear, rfl, rfl⟩, Or.inr ⟨rfl, rfl⟩⟩

/-- Triggering moves neither `RES_CONF` nor `lps22hb_enabled`. -/
theorem triggerOneshot_spec (a : Lps22hbAnswers) (s : Lps22hb) :
    let call := lps22hbDriverTriggerOneshot hdr a s
    SameConf s call.2 ∧ call.2.enabled = s.enabled := by
  simp only [lps22hbDriverTriggerOneshot]
  split_ifs <;> exact ⟨⟨rfl, rfl, rfl⟩, rfl⟩

/-- Neither does waiting. -/
theorem waitDataReady_spec (a : Lps22hbAnswers) (s : Lps22hb) :
    let call := lps22hbDriverWaitDataReady a s
    SameConf s call.2 ∧ call.2.enabled = s.enabled := by
  simp only [lps22hbDriverWaitDataReady]
  split_ifs
  · exact ⟨⟨rfl, rfl, rfl⟩, rfl⟩
  · split
    · exact ⟨⟨rfl, rfl, rfl⟩, rfl⟩
    · exact ⟨⟨rfl, rfl, rfl⟩, rfl⟩
  · exact ⟨⟨rfl, rfl, rfl⟩, rfl⟩
  · split
    · exact ⟨⟨rfl, rfl, rfl⟩, rfl⟩
    · exact ⟨⟨rfl, rfl, rfl⟩, rfl⟩

/-- Neither does the measurement. -/
theorem measure_spec (a : Lps22hbAnswers) (s : Lps22hb) :
    let call := lps22hbMeasure hdr a s
    SameConf s call.2.2 ∧ call.2.2.enabled = s.enabled := by
  obtain ⟨htrigger, henabled⟩ := @triggerOneshot_spec hdr a s
  rcases hfirst : lps22hbDriverTriggerOneshot hdr a s with ⟨ret, s₁⟩
  rw [hfirst] at htrigger henabled
  obtain ⟨hwait, henabled₁⟩ := waitDataReady_spec a s₁
  rcases hsecond : lps22hbDriverWaitDataReady a s₁ with ⟨ret₁, s₂⟩
  rw [hsecond] at hwait henabled₁
  have hboth : SameConf s s₂ := htrigger.trans hwait
  have henabled₂ : s₂.enabled = s.enabled := henabled₁.trans henabled
  simp only [lps22hbMeasure, hfirst, hsecond]
  split_ifs
  · exact ⟨htrigger, henabled⟩
  · exact ⟨hboth, henabled₂⟩
  · exact ⟨hboth, henabled₂⟩
  · exact ⟨hboth, henabled₂⟩
  · exact ⟨hboth, henabled₂⟩

/-- **Power-off.** It does not move `RES_CONF` either, and clears `lps22hb_enabled` if its
accesses succeed. -/
theorem powerOff_spec (hshift : hdr.SHIFT_RES_CONF_LC_EN = 0) {a : Lps22hbAnswers}
    (hok : a.ResConfOk) {s : Lps22hb} (hdev : s.i2cDev = true) :
    SameConf s (lps22hbDriverPowerOff hdr a s).2 ∧
      (lps22hbDriverPowerOff hdr a s).2.enabled = false := by
  have hset : s.regs.resConf ||| (0 : UInt8) = s.regs.resConf := by simp
  simp only [lps22hbDriverPowerOff, hshift, hdev, not_lt.mpr hok.offRead, not_lt.mpr hok.offWrite,
    Bool.not_true, Bool.false_eq_true, if_false]
  exact ⟨⟨hset, rfl, hdev.symm⟩, trivial⟩

/-- **One read.** -/
theorem readPressure_spec (hshift : hdr.SHIFT_RES_CONF_LC_EN = 0) {a : Lps22hbAnswers}
    (hok : a.ResConfOk) {s : Lps22hb} (hdev : s.i2cDev = true) (notNull : Bool) :
    let after := (lps22hbDriverReadPressure hdr notNull a s).2.2
    SameConf s after ∧ (s.enabled = false → after.enabled = false) := by
  obtain ⟨hon, hresult⟩ := powerOn_spec hshift a s
  obtain ⟨hmeasure, -⟩ := @measure_spec hdr a (lps22hbDriverPowerOn hdr a s).2
  have hboth := hon.trans hmeasure
  obtain ⟨hoff, hdisabled⟩ := powerOff_spec hshift hok (hboth.i2cDev.trans hdev)
  simp only [lps22hbDriverReadPressure]
  split_ifs with hnull hready hfailed
  · exact ⟨⟨rfl, rfl, rfl⟩, id⟩
  · exact ⟨⟨rfl, rfl, rfl⟩, id⟩
  · -- power-on failed, and the sensor is left as it is
    obtain ⟨-, hsame⟩ | ⟨hzero, -⟩ := hresult
    · exact ⟨hon, fun h => hsame.trans h⟩
    · exact absurd hzero hfailed
  · exact ⟨hboth.trans hoff, fun _ => hdisabled⟩

/-! ### A reading's own conversion -/

/-- Power-on leaves the interrupt as it is. -/
theorem interruptInitialized_powerOn (a : Lps22hbAnswers) (s : Lps22hb) :
    (lps22hbDriverPowerOn hdr a s).2.interruptInitialized = s.interruptInitialized := by
  simp only [lps22hbDriverPowerOn]
  split_ifs <;> rfl

/-- A trigger that succeeds leaves the semaphore empty. -/
theorem triggerOneshot_reset {a : Lps22hbAnswers} {s : Lps22hb}
    (h : (lps22hbDriverTriggerOneshot hdr a s).1 = 0) :
    let after := (lps22hbDriverTriggerOneshot hdr a s).2
    after.dataReadySem = Semaphore.reset ∧
      after.interruptInitialized = s.interruptInitialized := by
  have hnodev : (-ENODEV : ℤ) ≠ 0 := by decide
  simp only [lps22hbDriverTriggerOneshot] at h ⊢
  split_ifs at h ⊢
  · exact absurd h hnodev
  · exact ⟨rfl, rfl⟩
  · exact ⟨rfl, rfl⟩
  · exact ⟨rfl, rfl⟩

/-- From an empty semaphore, a wait for the interrupt that succeeds has seen it. -/
theorem drdy_of_waitDataReady {a : Lps22hbAnswers} {s : Lps22hb}
    (hint : s.interruptInitialized = true) (hreset : s.dataReadySem = Semaphore.reset)
    (h : (lps22hbDriverWaitDataReady a s).1 = 0) : a.drdy = true := by
  have htimedout : (-ETIMEDOUT : ℤ) ≠ 0 := by decide
  by_contra hno
  simp only [lps22hbDriverWaitDataReady, if_neg hno, hint, hreset, Semaphore.take_reset,
    Bool.not_true, Bool.false_eq_true, if_false] at h
  exact htimedout h

/-- **A pressure belongs to its own conversion.** With the interrupt, a read that returns `0` has
seen it after its own trigger, whatever the semaphore held before. -/
theorem readPressure_own_conversion {a : Lps22hbAnswers} {s : Lps22hb}
    (hint : s.interruptInitialized = true) {notNull : Bool}
    (h : (lps22hbDriverReadPressure hdr notNull a s).1 = 0) : a.drdy = true := by
  have hnodev : (-ENODEV : ℤ) ≠ 0 := by decide
  have hinval : (-EINVAL : ℤ) ≠ 0 := by decide
  have hon := (@interruptInitialized_powerOn hdr a s).trans hint
  simp only [lps22hbDriverReadPressure] at h
  split_ifs at h with hnull hready hfailed
  · exact absurd h hinval
  · exact absurd h hnodev
  · exact absurd h hfailed
  · simp only [lps22hbMeasure] at h
    split_ifs at h with htrigger hwait hfetch hchannel
    · exact absurd h htrigger
    · exact absurd h hwait
    · exact absurd h hfetch
    · exact absurd h hchannel
    · obtain ⟨hreset, hsame⟩ := triggerOneshot_reset (not_not.mp htrigger)
      exact drdy_of_waitDataReady (hsame.trans hon) hreset (not_not.mp hwait)

/-! ### Runs -/

/-- What can happen after the initialisation: a read, the data-ready interrupt at another time,
and any change of the registers between two reads. -/
inductive Lps22hbEvent where
  | read (notNull : Bool) (a : Lps22hbAnswers)
  | drdy
  | hardware (regs : Lps22hbRegs)

/-- The accesses to `RES_CONF` of the event succeed. -/
def Lps22hbEvent.ResConfOk : Lps22hbEvent → Prop
  | .read _ a => a.ResConfOk
  | _ => True

variable (hdr) in
/-- One event; a read shows its return code and what it wrote to `*pressure`. -/
def lps22hbStep : Lps22hbEvent → Lps22hb → Option (Lps22hb × List (ℤ × Option CFloat))
  | .read notNull a, s =>
    let (ret, pressure, s) := lps22hbDriverReadPressure hdr notNull a s
    some (s, [(ret, pressure)])
  | .drdy, s => some (lps22hbDrdyCallback s, [])
  | .hardware regs, s => some ({ s with regs := regs }, [])

variable (hdr) in
/-- The driver as a machine. -/
def lps22hbMachine : Machine Lps22hb Lps22hbEvent (ℤ × Option CFloat) := ⟨lps22hbStep hdr⟩

/-- Initialised, and no read under way. -/
structure Lps22hb.AtRest (s : Lps22hb) : Prop where
  lpsDev : s.lpsDev = true
  i2cDev : s.i2cDev = true
  enabled : s.enabled = false

theorem Lps22hb.AtRest.of_init {a : Lps22hbInitAnswers} {s₀ s : Lps22hb}
    (h : lps22hbDriverInit hdr a s₀ = (0, s)) : s.AtRest := by
  have hnodev : (-ENODEV : ℤ) ≠ 0 := by decide
  have hinval : (-EINVAL : ℤ) ≠ 0 := by decide
  simp only [lps22hbDriverInit] at h
  split_ifs at h with hi2c hdev hint hconfigure hinterrupt hcallback hread hwrite <;>
    obtain ⟨hret, rfl⟩ := Prod.mk.inj h
  · exact absurd hret hnodev
  · exact absurd hret hnodev
  · exact absurd hret hinval
  · exact absurd hret hconfigure.2.ne
  · exact absurd hret hinterrupt.2.ne
  · exact absurd hret hcallback.2.ne
  · exact absurd hret hread.ne
  · exact absurd hret hwrite.ne
  · exact ⟨rfl, rfl, rfl⟩

theorem Lps22hb.AtRest.step (hshift : hdr.SHIFT_RES_CONF_LC_EN = 0) {e : Lps22hbEvent}
    (hok : e.ResConfOk) {s s' : Lps22hb} {os : List (ℤ × Option CFloat)} (h : s.AtRest)
    (hstep : lps22hbStep hdr e s = some (s', os)) : s'.AtRest := by
  cases e with
  | read notNull a =>
    obtain ⟨hsame, henabled⟩ := readPressure_spec hshift hok h.i2cDev notNull
    obtain ⟨rfl, -⟩ := Prod.mk.inj (Option.some.inj hstep)
    exact ⟨hsame.lpsDev.trans h.lpsDev, hsame.i2cDev.trans h.i2cDev, henabled h.enabled⟩
  | drdy =>
    obtain ⟨rfl, -⟩ := Prod.mk.inj (Option.some.inj hstep)
    exact ⟨h.lpsDev, h.i2cDev, h.enabled⟩
  | hardware regs =>
    obtain ⟨rfl, -⟩ := Prod.mk.inj (Option.some.inj hstep)
    exact ⟨h.lpsDev, h.i2cDev, h.enabled⟩

/-- The sensor is in its low-current mode, the other bits of `RES_CONF` are as before, and the
driver knows. -/
def LeftLowCurrent (before after : Lps22hb) : Prop :=
  after.regs.LowCurrent ∧
    after.regs.resConf &&& ~~~LC_EN = before.regs.resConf &&& ~~~LC_EN ∧ after.enabled = false

instance (before after : Lps22hb) : Decidable (LeftLowCurrent before after) :=
  inferInstanceAs (Decidable (_ ∧ _ ∧ _))

/-- **When the sensor is left in its low-current mode.** After a successful initialisation and any
run of reads and changes of the registers in which the accesses to `RES_CONF` succeed, whatever
else fails: a read leaves the sensor in its low-current mode exactly if it finds it there. -/
theorem readPressure_lowCurrent_iff (hshift : hdr.SHIFT_RES_CONF_LC_EN = 0)
    {i : Lps22hbInitAnswers} {s₀ s t : Lps22hb} (hinit : lps22hbDriverInit hdr i s₀ = (0, s))
    {es : List Lps22hbEvent} {os : List (ℤ × Option CFloat)} (hes : ∀ e ∈ es, e.ResConfOk)
    (hrun : (lps22hbMachine hdr).run es s = some (t, os)) {a : Lps22hbAnswers}
    (hok : a.ResConfOk) :
    LeftLowCurrent t (lps22hbDriverReadPressure hdr true a t).2.2 ↔ t.regs.LowCurrent := by
  have hrest : t.AtRest := Machine.Preserves.run (I := Lps22hb.AtRest)
    (fun he h hstep => h.step hshift he hstep) hes (Lps22hb.AtRest.of_init hinit) hrun
  obtain ⟨hsame, henabled⟩ := readPressure_spec hshift hok hrest.i2cDev true
  rw [LeftLowCurrent, Lps22hbRegs.LowCurrent, hsame.resConf]
  exact ⟨fun h => h.1, fun h => ⟨h, rfl, henabled hrest.enabled⟩⟩

end

/-- A header with the position of `LC_EN`, and the masks of the data sheet. -/
def zephyrHeader : Lps22hbHeader := ⟨0, 0x70, 0x01, 0x04⟩

/-- Answers of a hardware on which everything succeeds. -/
def initAnswersOk : Lps22hbInitAnswers := ⟨true, true, true, true, 0, 0, 0, 0, 0⟩

/-- A read on which everything succeeds. -/
def readAnswersOk : Lps22hbAnswers := ⟨true, 0, 0, 0, 0, 0, 0, true, 0, 0, .fin 100, 0, 0⟩

theorem readAnswersOk_resConfOk : readAnswersOk.ResConfOk := by
  constructor <;> exact le_rfl

/-- The driver after its initialisation, with the given content of `RES_CONF`. -/
def lps22hbReady (resConf : UInt8) : Lps22hb :=
  (lps22hbDriverInit zephyrHeader initAnswersOk { regs := ⟨resConf, 0, 0, 0⟩ }).2

theorem lps22hbReady_init (resConf : UInt8) :
    lps22hbDriverInit zephyrHeader initAnswersOk { regs := ⟨resConf, 0, 0, 0⟩ } =
      (0, lps22hbReady resConf) := rfl

/-- `readPressure_lowCurrent_iff` at a second read, `LC_EN` being set from the start. -/
theorem readPressure_lowCurrent_iff_second :
    ∃ t os, (lps22hbMachine zephyrHeader).run [.read true readAnswersOk] (lps22hbReady 0x01) =
        some (t, os) ∧
      (LeftLowCurrent t (lps22hbDriverReadPressure zephyrHeader true readAnswersOk t).2.2 ↔
        t.regs.LowCurrent) := by
  have hok : ∀ e ∈ [Lps22hbEvent.read true readAnswersOk], e.ResConfOk :=
    List.forall_mem_singleton.mpr readAnswersOk_resConfOk
  have hrun : (lps22hbMachine zephyrHeader).run [.read true readAnswersOk] (lps22hbReady 0x01) =
      some (_, [_]) := rfl
  exact ⟨_, _, hrun,
    readPressure_lowCurrent_iff rfl (lps22hbReady_init 0x01) hok hrun readAnswersOk_resConfOk⟩

/-- A sensor that is not in its low-current mode stays out of it. -/
theorem readPressure_not_lowCurrent :
    ¬ ∀ (i : Lps22hbInitAnswers) (s₀ s : Lps22hb),
      lps22hbDriverInit zephyrHeader i s₀ = (0, s) →
        ∀ a : Lps22hbAnswers, a.ResConfOk → a.ready = true →
          LeftLowCurrent s (lps22hbDriverReadPressure zephyrHeader true a s).2.2 := by
  intro hall
  have hleft := hall _ _ _ (lps22hbReady_init 0) readAnswersOk readAnswersOk_resConfOk rfl
  exact absurd hleft (by decide)

end EnvMonitor
