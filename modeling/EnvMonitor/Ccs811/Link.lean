import EnvMonitor.Ccs811.Pieces

/-!
# Who writes `ccs811_ble_connected`

The driver learns of the link by `ccs811_driver_on_connected` and
`ccs811_driver_on_disconnected` alone: no other step writes the flag, and the initialisation,
which clears it with the rest of the driver, does so only before there is a device.
-/

namespace EnvMonitor

/-- The step is no call of the two link functions. -/
def Ccs811Event.quiet : Ccs811Event → Bool
  | .connected .. | .disconnected .. => false
  | _ => true

namespace Ccs811Run

/-- The device and the flag. -/
def link (s : Ccs811Run) : Bool × Bool := (s.drv.dev, s.drv.bleConnected)

/-- The flag is `connected`, and it is up only with a device. -/
def Linked (connected : Bool) (s : Ccs811Run) : Prop :=
  s.drv.bleConnected = connected ∧ (connected = true → s.drv.dev = true)

theorem Linked.congr {connected : Bool} {s s' : Ccs811Run} (h : s.Linked connected)
    (hlink : s'.link = s.link) : s'.Linked connected := by
  obtain ⟨hdev, hconnected⟩ := Prod.mk.inj hlink
  exact ⟨hconnected.trans h.1, fun hup => hdev.trans (h.2 hup)⟩

end Ccs811Run

open Ccs811Run

/-! ### Steps -/

@[simp]
theorem link_ccs811Enter1SecMode (modeRet : ℤ) (s : Ccs811Run) :
    (ccs811Enter1SecMode modeRet s).2.link = s.link := by
  rw [ccs811Enter1SecMode, ccs811ModeUpdate]
  dsimp only
  split_ifs <;> rfl

@[simp]
theorem link_ccs811EnterIdleMode (modeRet : ℤ) (s : Ccs811Run) :
    (ccs811EnterIdleMode modeRet s).2.link = s.link := by
  rw [ccs811EnterIdleMode, ccs811ModeUpdate]
  dsimp only
  split_ifs <;> rfl

theorem link_ccs811ConditioningWorkHandler (lockRet modeRet : ℤ) (s : Ccs811Run) :
    (ccs811ConditioningWorkHandler lockRet modeRet s).link = s.link := by
  rw [ccs811ConditioningWorkHandler]
  dsimp only
  split_ifs
  · rfl
  · rfl
  · exact link_ccs811Enter1SecMode ..
  · exact link_ccs811EnterIdleMode ..

theorem link_ccs811StartBootConditioning (modeRet : ℤ) (s : Ccs811Run) :
    (ccs811StartBootConditioning modeRet s).link = s.link := by
  rw [ccs811StartBootConditioning, ccs811ModeUpdate]
  dsimp only
  split_ifs <;> rfl

theorem link_ccs811DriverIsReady (s : Ccs811Run) : (ccs811DriverIsReady s).2.link = s.link := by
  rw [ccs811DriverIsReady_eq]
  dsimp only
  split_ifs <;> rfl

/-- **One step** that is none of the two link functions. -/
theorem link_ccs811Step {e : Ccs811Event} (he : e.quiet = true) (s : Ccs811Run) :
    (ccs811Step s e).link = s.link := by
  cases e with
  | tick ms => rfl
  | connected lockRet modeRet => exact absurd he Bool.false_ne_true
  | disconnected lockRet modeRet => exact absurd he Bool.false_ne_true
  | isReady => exact link_ccs811DriverIsReady s
  | conditioningWork lockRet modeRet =>
    rw [ccs811Step]
    cases s.conditioningWork with
    | none => rfl
    | some due =>
      dsimp only
      split_ifs
      · exact link_ccs811ConditioningWorkHandler lockRet modeRet
          { s with conditioningWork := none }
      · rfl

theorem link_ccs811Steps {es : List Ccs811Event} (hes : es.all Ccs811Event.quiet = true)
    (s : Ccs811Run) : (ccs811Steps es s).link = s.link := by
  induction es generalizing s with
  | nil => rfl
  | cons e es ih =>
    rw [List.all_cons, Bool.and_eq_true] at hes
    exact (ih hes.2 (ccs811Step s e)).trans (link_ccs811Step hes.1 s)

/-- **One read**, with no link function in its wait. -/
theorem link_ccs811DriverReadAirQuality (a : ReadAirQualityAnswers) {during : List Ccs811Event}
    (hduring : during.all Ccs811Event.quiet = true) (out : UInt16 × UInt16) (s : Ccs811Run) :
    (ccs811DriverReadAirQuality a (ccs811Steps during) out s).2.link = s.link := by
  have hentry : (ccs811ReadEntry a s).2.link = s.link := by
    rw [ccs811ReadEntry_step]
    split_ifs
    · exact link_ccs811Step rfl s
    · rfl
  have hrelock : (ccs811ReadRelock a.relockRet
      (ccs811Steps during (ccs811ReadEntry a s).2)).2.link = s.link :=
    (link_ccs811Steps hduring _).trans hentry
  have hsample : ∀ s', (ccs811ReadSample a.sample out s').2.link = s'.link := by
    intro s'
    have hcontrol := congrArg link (control_ccs811ReadSample a.sample out s')
    exact hcontrol
  rcases ccs811DriverReadAirQuality_cases a during out s with
    ⟨ret, s', -, rfl | rfl, hread⟩ | ⟨s', -, rfl | rfl, hread⟩
  · rw [hread]
    exact hentry
  · rw [hread]
    exact hrelock
  · rw [hread]
    exact (hsample _).trans hentry
  · rw [hread]
    exact (hsample _).trans hrelock

/-! ### The writers -/

namespace Ccs811Run.Linked

variable {connected : Bool} {s : Ccs811Run}

/-- The initialisation clears the flag only where there was no device, and there it is
down. -/
theorem init (h : s.Linked connected) (a : InitAnswers) :
    (ccs811DriverInit a s).2.Linked connected := by
  rw [ccs811DriverInit]
  split_ifs with hready hlock hdev hrelock
  · exact h
  · exact h
  · exact h
  all_goals
    have hdown : connected = false := Bool.eq_false_iff.mpr fun hup => hdev (h.2 hup)
    have hfresh : ({ s with drv := { dev := true } } : Ccs811Run).Linked connected :=
      ⟨hdown.symm, fun _ => rfl⟩
  · exact hfresh.congr (link_ccs811StartBootConditioning ..)
  · exact hfresh

/-- With a device and the mutex, a connection raises the flag. -/
theorem onConnected (hdev : s.drv.dev = true) (modeRet : ℤ) :
    (ccs811DriverOnConnected 0 modeRet s).Linked true := by
  have hup : ({ s with drv := { s.drv with bleConnected := true } } : Ccs811Run).Linked true :=
    ⟨rfl, fun _ => hdev⟩
  rw [ccs811DriverOnConnected, hdev]
  dsimp only
  split_ifs with hnot hlock hcomplete
  · exact absurd hnot (by decide)
  · exact absurd rfl hlock
  · exact hup.congr (link_ccs811Enter1SecMode ..)
  · exact hup

/-- With the mutex, the end of the last connection takes it down; without a device it is down
already. -/
theorem onDisconnected (h : s.Linked connected) (modeRet : ℤ) :
    (ccs811DriverOnDisconnected 0 modeRet s).Linked false := by
  have hdown : ({ s with drv := { s.drv with
      bleConnected := false, awaitFirst1sSample := false } } : Ccs811Run).Linked false :=
    ⟨rfl, fun hup => absurd hup Bool.false_ne_true⟩
  rw [ccs811DriverOnDisconnected]
  dsimp only
  split_ifs with hdev hlock hcomplete
  · refine ⟨Bool.eq_false_iff.mpr fun hup => ?_, fun hup => absurd hup Bool.false_ne_true⟩
    have hdevice : s.drv.dev = true := h.2 (h.1.symm.trans hup)
    exact absurd hdev (by simp [hdevice])
  · exact absurd rfl hlock
  · exact hdown
  · exact hdown.congr (link_ccs811EnterIdleMode ..)

end Ccs811Run.Linked

end EnvMonitor
