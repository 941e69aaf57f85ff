import EnvMonitor.Ccs811.Conditioning
import EnvMonitor.Shell.Status

/-!
# The status of the CCS811 at the shell

`ccs811_driver_get_debug_state` looks at the readiness, the remaining conditioning time and the
mode without the mutex and at the other flags with it, so the driver may be stepped by other
threads between any two looks. `ccs811_report_parsed` says what the tests parse of it and when
their check of a report holds: it does in every state of the driver unless there was no
conditioning to wait for, or its end falls between the first look and the second.
-/

namespace EnvMonitor

open Reader

/-! ### The driver -/

/-- `ccs811_driver_conditioning_time_remaining`. -/
def ccs811DriverConditioningTimeRemaining (s : Ccs811Run) : ℤ :=
  if s.drv.conditioningComplete || s.drv.initTime == 0 then 0
  else max (CCS811_CONDITIONING_TIME_MS - (s.now - s.drv.initTime)) 0

/-- `CCS811_MODE_MSK`. -/
def CCS811_MODE_MSK : UInt8 := 0x70

/-- What `ccs811_driver_get_debug_state` is answered: whether the device is ready, the mode byte
of the sensor driver, if it has data, and by the mutex. -/
structure DebugAnswers where
  deviceReady : Bool := true
  mode : Option UInt8 := some 0
  lockRet : ℤ := 0
deriving DecidableEq, Repr

/-- `ccs811_driver_get_mode`. -/
def ccs811DriverGetMode (a : DebugAnswers) (s : Ccs811Run) : ℤ :=
  if !s.drv.dev then -ENODEV
  else if !a.deviceReady then -ENODEV
  else
    match a.mode with
    | none => -EFAULT
    | some mode => (mode &&& CCS811_MODE_MSK).toNat

/-- `struct ccs811_debug_state`. -/
structure Ccs811DebugState where
  ready : Bool
  enabled : Bool
  idle : Bool := false
  bleConnected : Bool := false
  awaitFirst1sSample : Bool := false
  mode : ℤ
  conditioningRemainingMs : ℤ
deriving DecidableEq, Repr

/-- The state in which `ccs811_driver_get_debug_state` asks for the remaining time: the poll for
the readiness has been made, and then others have stepped the driver. -/
def secondLook (first : List Ccs811Event) (s : Ccs811Run) : Ccs811Run :=
  ccs811Steps first (ccs811DriverIsReady s).2

/-- `ccs811_driver_get_debug_state`, with what others do to the driver after the poll for the
readiness and after the look at the mode. `ccs811_enabled` is set with the device. -/
def ccs811DriverGetDebugState (a : DebugAnswers) (first second : List Ccs811Event)
    (s : Ccs811Run) : ℤ × Ccs811DebugState × Ccs811Run :=
  let (ready, polled) := ccs811DriverIsReady s
  let looked := ccs811Steps first polled
  let out : Ccs811DebugState :=
    { ready := ready
      enabled := polled.drv.dev
      conditioningRemainingMs := ccs811DriverConditioningTimeRemaining looked
      mode := ccs811DriverGetMode a looked }
  let s := ccs811Steps second looked
  if a.lockRet ≠ 0 then (a.lockRet, out, s)
  else
    (0, { out with
      idle := s.drv.inIdleMode
      bleConnected := s.drv.bleConnected
      awaitFirst1sSample := s.drv.awaitFirst1sSample }, s)

/-! ### The shell and the tests -/

/-- The line of `cmd_ccs811_status`. -/
def ccs811StatusLine (st : Ccs811DebugState) : List Char :=
  "ready=".toList ++ (yesNo st.ready ++ (" enabled=".toList ++ (yesNo st.enabled ++
    (" idle=".toList ++ (yesNo st.idle ++ (" ble_connected=".toList ++ (yesNo st.bleConnected ++
      (" await_1s=".toList ++ (yesNo st.awaitFirst1sSample ++ (" mode=".toList ++
        (signedDecimal st.mode ++ (" cond_ms=".toList ++
          signedDecimal st.conditioningRemainingMs))))))))))))

/-- `cmd_ccs811_status`: the code and the text. -/
def cmdCcs811Status (a : DebugAnswers) (first second : List Ccs811Event) (s : Ccs811Run) :
    ℤ × List Char :=
  let (ret, st, _) := ccs811DriverGetDebugState a first second s
  if ret ≠ 0 then
    (ret, "ccs811_driver_get_debug_state: ".toList ++ signedDecimal ret ++ ['\n'])
  else (0, ccs811StatusLine st ++ ['\n'])

/-- The check of `assert_connect_disconnect_updates_counts`: not ready while time remains, and
ready otherwise. -/
def conditioningCheck (r : Ccs811Report) : Bool :=
  if r.condMs > 0 then !r.ready else r.ready

/-- No conditioning time remains: it is complete or over, or has not been started. -/
def Ccs811Run.conditioned (s : Ccs811Run) : Bool :=
  s.drv.conditioningComplete || s.drv.initTime == 0 ||
    s.now - s.drv.initTime ≥ CCS811_CONDITIONING_TIME_MS

theorem remaining_nonneg (s : Ccs811Run) : 0 ≤ ccs811DriverConditioningTimeRemaining s := by
  rw [ccs811DriverConditioningTimeRemaining]
  split_ifs
  · exact le_rfl
  · exact le_max_right _ _

/-- Nothing remains exactly when the conditioning is over. -/
theorem remaining_eq_zero_iff (s : Ccs811Run) :
    ccs811DriverConditioningTimeRemaining s = 0 ↔ s.conditioned = true := by
  rw [ccs811DriverConditioningTimeRemaining, Ccs811Run.conditioned]
  cases s.drv.conditioningComplete || s.drv.initTime == 0 with
  | true => simp
  | false =>
    simp only [Bool.false_eq_true, if_false, Bool.false_or, decide_eq_true_eq]
    omega

theorem reads_ccs811StatusLine {st : Ccs811DebugState} (h : 0 ≤ st.conditioningRemainingMs) :
    Reads Char.isDigit ccs811Re (ccs811StatusLine st)
      ⟨st.ready, st.enabled, st.idle, st.bleConnected, st.awaitFirst1sSample, st.mode,
        st.conditioningRemainingMs.toNat⟩ := by
  have hcond : signedDecimal st.conditioningRemainingMs =
      decimal st.conditioningRemainingMs.toNat := by
    rw [signedDecimal, if_neg (not_lt.mpr h), ← Int.toNat_of_nonneg h, Int.natAbs_natCast,
      Int.toNat_natCast]
  unfold ccs811StatusLine
  rw [hcond]
  refine (reads_word _).bind ((reads_yesOrNo _).bind ((reads_word _).bind ?_))
  refine (reads_yesOrNo _).bind ((reads_word _).bind ((reads_yesOrNo _).bind ?_))
  refine (reads_word _).bind ((reads_yesOrNo _).bind ((reads_word _).bind ?_))
  refine (reads_yesOrNo _).bind ((reads_word _).bind ?_)
  refine (reads_integer _).bind_of_head (c := ' ') (by decide) ?_
  exact (reads_word " cond_ms=".toList).bind ((reads_number _).map
    (Ccs811Report.mk st.ready st.enabled st.idle st.bleConnected st.awaitFirst1sSample st.mode))

/-- What the tests make of a debug state. -/
def Ccs811DebugState.report (st : Ccs811DebugState) : Ccs811Report where
  ready := st.ready
  enabled := st.enabled
  idle := st.idle
  bleConnected := st.bleConnected
  awaitFirst1s := st.awaitFirst1sSample
  mode := st.mode
  condMs := st.conditioningRemainingMs.toNat

/-- A driver that was ready at the first look has no conditioning time left at the second. -/
theorem conditioned_secondLook {s : Ccs811Run} (h : (ccs811DriverIsReady s).1 = true)
    (first : List Ccs811Event) : (secondLook first s).conditioned = true := by
  have hpolled : (ccs811DriverIsReady s).2.drv.conditioningComplete = true :=
    (ccs811DriverIsReady_complete s).trans h
  have hlooked : (secondLook first s).drv.conditioningComplete = true :=
    conditioningComplete_keeps.steps first hpolled
  rw [Ccs811Run.conditioned, hlooked]
  rfl

/-- The tests parse the debug state, or nothing if the mutex was not to be had. -/
theorem cmdCcs811Status_parsed (a : DebugAnswers) (first second : List Ccs811Event)
    (s : Ccs811Run) :
    (cmdCcs811Status a first second s).1 = a.lockRet ∧
      parseCcs811Status (cmdCcs811Status a first second s).2 =
        if a.lockRet = 0 then some (ccs811DriverGetDebugState a first second s).2.1.report
        else none := by
  by_cases hlock : a.lockRet = 0
  · rcases hget : ccs811DriverGetDebugState a first second s with ⟨ret, st, s'⟩
    obtain ⟨rfl, hremaining⟩ : ret = 0 ∧ st.conditioningRemainingMs =
        ccs811DriverConditioningTimeRemaining (secondLook first s) := by
      simp only [ccs811DriverGetDebugState, hlock, ne_eq, not_true, if_false, Prod.mk.injEq] at hget
      obtain ⟨rfl, rfl, -⟩ := hget
      exact ⟨rfl, rfl⟩
    have hprinted : cmdCcs811Status a first second s = (0, ccs811StatusLine st ++ ['\n']) := by
      simp only [cmdCcs811Status, hget, ne_eq, not_true, if_false]
    have hnonneg : 0 ≤ st.conditioningRemainingMs := hremaining ▸ remaining_nonneg _
    rw [hprinted, hlock, if_pos rfl]
    refine ⟨rfl, search_append (reads_ccs811StatusLine hnonneg) fun c hc => ?_⟩
    obtain rfl : '\n' = c := Option.some.inj hc
    rfl
  · have hprinted : cmdCcs811Status a first second s =
        (a.lockRet, "ccs811_driver_get_debug_state: ".toList ++ signedDecimal a.lockRet ++
          ['\n']) := by
      simp only [cmdCcs811Status, ccs811DriverGetDebugState, ne_eq, hlock, not_false_eq_true,
        if_true]
    have hline : '=' ∉ "ccs811_driver_get_debug_state: ".toList ++ signedDecimal a.lockRet := by
      have hnumber : '=' ∉ signedDecimal a.lockRet := fun h =>
        absurd (mem_signedDecimal h) (by decide)
      simp only [List.mem_append, hnumber, or_false]
      decide
    rw [hprinted, if_neg hlock]
    refine ⟨rfl, ?_⟩
    rw [parseCcs811Status, ccs811Re, search_skip (by decide) (c := '=') (by decide) hline]
    rfl

/-- **The CCS811 report.** Whatever else steps the driver meanwhile: if the mutex is not to be had,
`app ccs811 status` fails and there is nothing to parse; otherwise the tests parse exactly the
debug state. Their check of the readiness against the remaining time then passes if and only if
the driver was ready at the first look or still had time to wait at the second. -/
theorem ccs811_report_parsed (a : DebugAnswers) (first second : List Ccs811Event)
    (s : Ccs811Run) :
    (a.lockRet ≠ 0 ∧ (cmdCcs811Status a first second s).1 = a.lockRet ∧
        parseCcs811Status (cmdCcs811Status a first second s).2 = none) ∨
      a.lockRet = 0 ∧ (cmdCcs811Status a first second s).1 = 0 ∧
        ∃ r, parseCcs811Status (cmdCcs811Status a first second s).2 = some r ∧
          r = (ccs811DriverGetDebugState a first second s).2.1.report ∧
          (conditioningCheck r = true ↔
            (ccs811DriverIsReady s).1 = true ∨ (secondLook first s).conditioned = false) := by
  obtain ⟨hcode, hparsed⟩ := cmdCcs811Status_parsed a first second s
  by_cases hlock : a.lockRet = 0
  · rw [if_pos hlock] at hparsed
    refine Or.inr ⟨hlock, hcode.trans hlock, _, hparsed, rfl, ?_⟩
    rcases hget : ccs811DriverGetDebugState a first second s with ⟨ret, st, s'⟩
    obtain ⟨hready, hremaining⟩ : st.ready = (ccs811DriverIsReady s).1 ∧
        st.conditioningRemainingMs =
          ccs811DriverConditioningTimeRemaining (secondLook first s) := by
      simp only [ccs811DriverGetDebugState, hlock, ne_eq, not_true, if_false, Prod.mk.injEq] at hget
      obtain ⟨-, rfl, -⟩ := hget
      exact ⟨rfl, rfl⟩
    have hzero := remaining_eq_zero_iff (secondLook first s)
    rw [← hremaining] at hzero
    have hnonneg : 0 ≤ st.conditioningRemainingMs := hremaining ▸ remaining_nonneg _
    have hcond : st.report.condMs > 0 ↔ ¬ (secondLook first s).conditioned = true := by
      rw [← hzero]
      change st.conditioningRemainingMs.toNat > 0 ↔ _
      omega
    rw [conditioningCheck, ← hready, ← Bool.not_eq_true, ← hcond]
    change (if _ then !st.ready else st.ready) = true ↔ _
    cases hst : st.ready with
    | true =>
      -- the conditioning is over, so the check asks for a driver that is ready
      have hover := conditioned_secondLook (hready ▸ hst) first
      rw [if_neg fun hpos => hcond.mp hpos hover]
      exact iff_of_true rfl (Or.inl rfl)
    | false =>
      split_ifs with hpos
      · exact iff_of_true rfl (Or.inr hpos)
      · exact iff_of_false (by simp) (not_or.mpr ⟨by simp, hpos⟩)
  · rw [if_neg hlock] at hparsed
    exact Or.inl ⟨hlock, hcode, hparsed⟩

end EnvMonitor
