import EnvMonitor.Lib.CInt
import EnvMonitor.Ccs811.Coherence

/-!
# The baseline of the CCS811

The driver keeps the sensor's baseline in RAM and, through the settings, in flash; after a
reboot it writes the one from flash back to the sensor. `ccs811_driver_save_baseline` advances
the RAM copy and the time of the last save before it writes the flash, and returns `0` whatever
comes of that; a baseline of `0` counts as none.

`baseline_durable_iff` says what follows: every reboot restores the baseline last saved, and
every failed flash write is due again, exactly in the runs in which no flash write fails and no
baseline is `0` when it would be needed.
-/

namespace EnvMonitor

/-- `BASELINE_SAVE_INTERVAL_MS`, 24 hours. -/
def BASELINE_SAVE_INTERVAL_MS : ℤ := 24 * 60 * 60 * 1000

/-- The driver with what it keeps about the baseline. `flash` is what the settings hold under
`CCS811_SETTINGS_KEY`. `lastSaved` is history: what `ccs811_baseline_fetch` answered to the last
`ccs811_driver_save_baseline` that returned `0`. -/
structure BaselineRun where
  ccs : Ccs811Run
  storedBaseline : UInt16 := 0
  lastBaselineSave : ℤ := 0
  lastBaselineLoad : ℤ := 0
  flash : Option (List UInt8) := none
  lastSaved : Option ℤ := none
deriving DecidableEq, Repr

/-! ### The functions -/

/-- `ccs811_settings_set`, given the bytes under the key, which its callback reads. -/
def ccs811SettingsSet (key : String) (bytes : List UInt8) (s : BaselineRun) : ℤ × BaselineRun :=
  if key = "baseline" then
    if bytes.length ≠ 2 then (-EINVAL, s)
    else (bytes.length, { s with storedBaseline := UInt16.ofNat (leValue bytes) })
  else (-ENOENT, s)

/-- `settings_load` for the one key of the driver. -/
def settingsLoad (s : BaselineRun) : BaselineRun :=
  match s.flash with
  | none => s
  | some bytes => (ccs811SettingsSet "baseline" bytes s).2

/-- `ccs811_driver_save_baseline`. A failed `settings_save_one` leaves the flash as it was. -/
def ccs811DriverSaveBaseline (fetchRet saveRet : ℤ) (s : BaselineRun) : ℤ × BaselineRun :=
  if !s.ccs.drv.dev || !s.ccs.drv.conditioningComplete then (-ENODEV, s)
  else if fetchRet ≥ 0 then
    let storedBaseline := UInt16.ofNat fetchRet.toNat
    let s := { s with
      storedBaseline := storedBaseline
      lastBaselineSave := s.ccs.now
      lastSaved := some fetchRet }
    -- the result of the flash write is only logged
    if saveRet = 0 then (0, { s with flash := some (leBytes 2 storedBaseline.toNat) }) else (0, s)
  else (fetchRet, s)

/-- `ccs811_driver_restore_baseline`, with the baseline that it writes to the sensor, if any;
`updateRet` is the answer of `ccs811_baseline_update`. -/
def ccs811DriverRestoreBaseline (updateRet : ℤ) (s : BaselineRun) :
    ℤ × Option UInt16 × BaselineRun :=
  if !s.ccs.drv.dev || s.storedBaseline = 0 then (-EINVAL, none, s)
  else if updateRet = 0 then
    (0, some s.storedBaseline, { s with lastBaselineLoad := s.ccs.now })
  else (updateRet, some s.storedBaseline, s)

/-- `ccs811_driver_baseline_save_due`. -/
def ccs811DriverBaselineSaveDue (s : BaselineRun) : Bool :=
  if !s.ccs.drv.conditioningComplete then false
  else s.ccs.now - s.lastBaselineSave ≥ BASELINE_SAVE_INTERVAL_MS

/-- `aq_work_handler` between its update and its rescheduling. -/
def aqWorkBaseline (fetchRet saveRet : ℤ) (s : BaselineRun) : BaselineRun :=
  if ccs811DriverBaselineSaveDue s then (ccs811DriverSaveBaseline fetchRet saveRet s).2 else s

/-- A reboot at uptime `now`: RAM is cleared, the settings are loaded, and `ccs811_driver_init`
restores the baseline between its two critical sections. The result is what it writes to the
sensor. -/
def reboot (now : ℤ) (relockRet modeRet updateRet : ℤ) (s : BaselineRun) :
    Option UInt16 × BaselineRun :=
  let s := settingsLoad { ccs := { now := now }, flash := s.flash, lastSaved := s.lastSaved }
  let s := { s with ccs := (ccs811InitSection {} s.ccs).state }
  let (written, s) :=
    if s.storedBaseline ≠ 0 then (ccs811DriverRestoreBaseline updateRet s).2 else (none, s)
  (written, { s with ccs := ccs811BootSection relockRet modeRet s.ccs })

/-! ### The machine -/

/-- What happens to the baseline: calls of `ccs811_driver_save_baseline`, be it by the air-quality
work, reboots, and everything else that happens to the driver. -/
inductive BaselineEvent where
  | save (fetchRet saveRet : ℤ)
  | aqWork (fetchRet saveRet : ℤ)
  | reboot (now relockRet modeRet updateRet : ℤ)
  | driver (e : Ccs811Event)

/-- What is to be seen of it: a save whose flash write failed, with whether a save is due
afterwards, and a reboot, with the baseline that it wrote to the sensor and the one last
saved. -/
inductive BaselineObs where
  | flashFailed (due : Bool)
  | rebooted (written : Option UInt16) (lastSaved : Option ℤ)
deriving DecidableEq, Repr

/-- The save goes as far as its flash write. -/
def BaselineRun.attempts (s : BaselineRun) (fetchRet : ℤ) : Bool :=
  s.ccs.drv.dev && s.ccs.drv.conditioningComplete && decide (fetchRet ≥ 0)

/-- A save as it is observed. -/
def observedSave (fetchRet saveRet : ℤ) (s : BaselineRun) : BaselineRun × List BaselineObs :=
  let s' := (ccs811DriverSaveBaseline fetchRet saveRet s).2
  (s', if s.attempts fetchRet ∧ saveRet ≠ 0 then
    [.flashFailed (ccs811DriverBaselineSaveDue s')] else [])

/-- One event. -/
def baselineStep (e : BaselineEvent) (s : BaselineRun) : BaselineRun × List BaselineObs :=
  match e with
  | .save fetchRet saveRet => observedSave fetchRet saveRet s
  | .aqWork fetchRet saveRet =>
    (aqWorkBaseline fetchRet saveRet s,
      if ccs811DriverBaselineSaveDue s then (observedSave fetchRet saveRet s).2 else [])
  | .reboot now relockRet modeRet updateRet =>
    let (written, s) := reboot now relockRet modeRet updateRet s
    (s, [.rebooted written s.lastSaved])
  | .driver e => ({ s with ccs := ccs811Step s.ccs e }, [])

/-- The baseline as a machine. -/
def baselineMachine : Machine BaselineRun BaselineEvent BaselineObs where
  step e s := some (baselineStep e s)

/-- A device that has just been switched on for the first time, or has been in use. -/
def baselineStart (flash : Option (List UInt8)) (now : ℤ) : BaselineRun where
  ccs := { now := now }
  flash := flash

/-! ### Durability -/

/-- What durability asks of an observation: a save whose flash write failed is due again, and a
reboot writes the baseline last saved, if there was one. -/
def BaselineObs.Durable : BaselineObs → Prop
  | .flashFailed due => due = true
  | .rebooted written lastSaved =>
    ∀ baseline, lastSaved = some baseline → ∃ w, written = some w ∧ (w.toNat : ℤ) = baseline

/-- What keeps it: the flash is written, and the baseline that a reboot has to bring back is one
that the driver can tell from none. -/
def BaselineEvent.Kept (e : BaselineEvent) (s : BaselineRun) : Prop :=
  match e with
  | .save fetchRet saveRet => s.attempts fetchRet = true → saveRet = 0
  | .aqWork fetchRet saveRet =>
    ccs811DriverBaselineSaveDue s = true → s.attempts fetchRet = true → saveRet = 0
  | .reboot .. => ∀ baseline, s.lastSaved = some baseline → 0 < baseline ∧ baseline < 65536
  | .driver _ => True

/-- The flash holds the baseline last saved. -/
def BaselineRun.Flashed (s : BaselineRun) : Prop :=
  ∀ baseline, s.lastSaved = some baseline →
    0 ≤ baseline ∧ s.flash = some (leBytes 2 (UInt16.ofNat baseline.toNat).toNat)

section Save

variable (fetchRet saveRet : ℤ) (s : BaselineRun)

/-- A save that does not get to its flash write changes nothing. -/
theorem ccs811DriverSaveBaseline_of_not_attempts (h : s.attempts fetchRet = false) :
    (ccs811DriverSaveBaseline fetchRet saveRet s).2 = s := by
  rw [ccs811DriverSaveBaseline]
  by_cases hoff : (!s.ccs.drv.dev || !s.ccs.drv.conditioningComplete) = true
  · rw [if_pos hoff]
  · have hfetch : ¬ fetchRet ≥ 0 := fun hfetch => by
      simp only [BaselineRun.attempts, hfetch, decide_true, Bool.and_true] at h
      simp only [← Bool.not_and, h, Bool.not_false, not_true] at hoff
    rw [if_neg hoff, if_neg hfetch]

/-- One that does has advanced RAM by then. -/
theorem ccs811DriverSaveBaseline_of_attempts (h : s.attempts fetchRet = true) :
    (ccs811DriverSaveBaseline fetchRet saveRet s).2 =
      { s with
        storedBaseline := UInt16.ofNat fetchRet.toNat
        lastBaselineSave := s.ccs.now
        lastSaved := some fetchRet
        flash := if saveRet = 0 then
          some (leBytes 2 (UInt16.ofNat fetchRet.toNat).toNat) else s.flash } := by
  simp only [BaselineRun.attempts, Bool.and_eq_true, decide_eq_true_eq] at h
  obtain ⟨⟨hdev, hcomplete⟩, hfetch⟩ := h
  rw [ccs811DriverSaveBaseline]
  by_cases hsave : saveRet = 0 <;> simp [hdev, hcomplete, hfetch, hsave]

/-- So no save is due after it. -/
theorem not_due_of_attempts (h : s.attempts fetchRet = true) :
    ccs811DriverBaselineSaveDue (ccs811DriverSaveBaseline fetchRet saveRet s).2 = false := by
  have hcomplete : s.ccs.drv.conditioningComplete = true := by
    simp only [BaselineRun.attempts, Bool.and_eq_true] at h
    exact h.1.2
  rw [ccs811DriverSaveBaseline_of_attempts fetchRet saveRet s h]
  simp [ccs811DriverBaselineSaveDue, hcomplete, BASELINE_SAVE_INTERVAL_MS]

/-- A save whose flash write succeeds, if it gets there, keeps the flash up to date. -/
theorem BaselineRun.Flashed.save {s : BaselineRun} (hs : s.Flashed)
    (h : s.attempts fetchRet = true → saveRet = 0) :
    (ccs811DriverSaveBaseline fetchRet saveRet s).2.Flashed := by
  cases hattempts : s.attempts fetchRet with
  | false => rwa [ccs811DriverSaveBaseline_of_not_attempts fetchRet saveRet s hattempts]
  | true =>
    have hfetch : fetchRet ≥ 0 := by
      simp only [BaselineRun.attempts, Bool.and_eq_true, decide_eq_true_eq] at hattempts
      exact hattempts.2
    rw [ccs811DriverSaveBaseline_of_attempts fetchRet saveRet s hattempts, if_pos (h hattempts)]
    rintro baseline hbaseline
    obtain rfl := Option.some.inj hbaseline
    exact ⟨hfetch, rfl⟩

/-- The observation of a save is as it should be exactly if no flash write fails. -/
theorem observedSave_durable_iff :
    (∀ o ∈ (observedSave fetchRet saveRet s).2, o.Durable) ↔
      (s.attempts fetchRet = true → saveRet = 0) := by
  rw [observedSave]
  dsimp only
  split_ifs with hfailed
  · simp only [List.mem_singleton, forall_eq, BaselineObs.Durable, hfailed.1, forall_const,
      not_due_of_attempts fetchRet saveRet s hfailed.1]
    exact iff_of_false Bool.false_ne_true hfailed.2
  · refine iff_of_true (fun o ho => absurd ho List.not_mem_nil) fun hattempts => ?_
    by_contra hsave
    exact hfailed ⟨hattempts, hsave⟩

end Save

/-! A reboot brings back what is in flash. -/

/-- The baseline that the settings hold, `0` if there is none. -/
def BaselineRun.flashed (s : BaselineRun) : UInt16 :=
  match s.flash with
  | none => 0
  | some bytes => if bytes.length = 2 then UInt16.ofNat (leValue bytes) else 0

/-- **A reboot** writes the baseline in flash to the sensor, unless it is `0`, and leaves flash
and history alone. -/
theorem reboot_eq (now relockRet modeRet updateRet : ℤ) (s : BaselineRun) :
    (reboot now relockRet modeRet updateRet s).1 =
        (if s.flashed = 0 then none else some s.flashed) ∧
      (reboot now relockRet modeRet updateRet s).2.flash = s.flash ∧
        (reboot now relockRet modeRet updateRet s).2.lastSaved = s.lastSaved := by
  have hload : ∃ s', settingsLoad
        { ccs := { now := now }, flash := s.flash, lastSaved := s.lastSaved } = s' ∧
      s'.storedBaseline = s.flashed ∧ s'.flash = s.flash ∧ s'.lastSaved = s.lastSaved ∧
        (ccs811InitSection {} s'.ccs).state.drv.dev = true := by
    refine ⟨_, rfl, ?_⟩
    rw [settingsLoad, BaselineRun.flashed]
    cases s.flash with
    | none => exact ⟨rfl, rfl, rfl, rfl⟩
    | some bytes =>
      by_cases hlength : bytes.length = 2 <;>
        simp [ccs811SettingsSet, hlength, ccs811InitSection]
  obtain ⟨s', hload, hstored, hflash, hlastSaved, hdev⟩ := hload
  rw [reboot, hload]
  by_cases hzero : s.flashed = 0
  · simp [hstored, hzero, hflash, hlastSaved]
  · by_cases hupdate : updateRet = 0 <;>
      simp [ccs811DriverRestoreBaseline, hstored, hzero, hdev, hupdate, hflash, hlastSaved]

/-- What the flash holds of a baseline that was saved. -/
theorem BaselineRun.Flashed.flashed {s : BaselineRun} (hs : s.Flashed) {baseline : ℤ}
    (h : s.lastSaved = some baseline) : s.flashed = UInt16.ofNat baseline.toNat := by
  obtain ⟨-, hflash⟩ := hs baseline h
  have hfits : (UInt16.ofNat baseline.toNat).toNat < 256 ^ 2 := UInt16.toNat_lt _
  rw [BaselineRun.flashed, hflash]
  simp only [length_leBytes, if_true]
  rw [leValue_leBytes_of_lt hfits, UInt16.ofNat_toNat]

/-- The observation of a reboot is as it should be exactly if the baseline last saved is one
that can be told from none. -/
theorem reboot_durable_iff {s : BaselineRun} (hs : s.Flashed)
    (now relockRet modeRet updateRet : ℤ) :
    (BaselineObs.rebooted (reboot now relockRet modeRet updateRet s).1 s.lastSaved).Durable ↔
      ∀ baseline, s.lastSaved = some baseline → 0 < baseline ∧ baseline < 65536 := by
  rw [BaselineObs.Durable]
  refine forall_congr' fun baseline => forall_congr' fun hbaseline => ?_
  rw [(reboot_eq now relockRet modeRet updateRet s).1, hs.flashed hbaseline]
  obtain ⟨hnonneg, -⟩ := hs baseline hbaseline
  have hmod : (UInt16.ofNat baseline.toNat).toNat = baseline.toNat % 65536 :=
    UInt16.toNat_ofNat'
  by_cases hzero : UInt16.ofNat baseline.toNat = 0
  · -- it counts as none
    rw [if_pos hzero]
    rw [hzero] at hmod
    have hmod : 0 = baseline.toNat % 65536 := hmod
    refine iff_of_false (by simp) fun hrange => ?_
    omega
  · rw [if_neg hzero]
    have hne : baseline.toNat % 65536 ≠ 0 := fun hmod0 =>
      hzero (UInt16.toNat_inj.mp (hmod.trans hmod0))
    simp only [Option.some.injEq, exists_eq_left', hmod]
    omega

/-! ### Every run -/

/-- **One event.** While the flash holds the baseline last saved, what is to be seen of an event
is as durability asks exactly if the event keeps it, and then the flash is up to date again. -/
theorem baselineStep_durable_iff {s : BaselineRun} (hs : s.Flashed) (e : BaselineEvent) :
    ((∀ o ∈ (baselineStep e s).2, o.Durable) ↔ e.Kept s) ∧
      (e.Kept s → (baselineStep e s).1.Flashed) := by
  cases e with
  | save fetchRet saveRet =>
    exact ⟨observedSave_durable_iff fetchRet saveRet s, hs.save fetchRet saveRet⟩
  | aqWork fetchRet saveRet =>
    rw [baselineStep, aqWorkBaseline, BaselineEvent.Kept]
    cases hdue : ccs811DriverBaselineSaveDue s with
    | false =>
      simp only [Bool.false_eq_true, if_false, false_imp_iff, iff_true]
      exact ⟨fun o ho => absurd ho List.not_mem_nil, fun _ => hs⟩
    | true =>
      simp only [if_true, true_imp_iff]
      exact ⟨observedSave_durable_iff fetchRet saveRet s, hs.save fetchRet saveRet⟩
  | reboot now relockRet modeRet updateRet =>
    obtain ⟨-, hflash, hlastSaved⟩ := reboot_eq now relockRet modeRet updateRet s
    have hiff := reboot_durable_iff hs now relockRet modeRet updateRet
    refine ⟨?_, fun _ => ?_⟩
    · simp only [baselineStep, List.mem_singleton, forall_eq, hlastSaved]
      exact hiff
    · rw [baselineStep, BaselineRun.Flashed, hflash, hlastSaved]
      exact hs
  | driver e => exact ⟨iff_of_true (fun o ho => absurd ho List.not_mem_nil) trivial, fun _ => hs⟩

/-- **Durability of the baseline.** In every run of saves, with all answers of
`ccs811_baseline_fetch` and `settings_save_one`, and reboots, among anything else that happens to
the driver: each reboot writes the baseline of the last save that returned `0` to the sensor,
and each save whose flash write failed is due again, if and only if no flash write fails and no
reboot finds a baseline last saved that is `0` or wider than 16 bits. -/
theorem baseline_durable_iff {flash : Option (List UInt8)} {now : ℤ} {es : List BaselineEvent}
    {s : BaselineRun} {os : List BaselineObs}
    (hrun : baselineMachine.run es (baselineStart flash now) = some (s, os)) :
    (∀ o ∈ os, o.Durable) ↔
      baselineMachine.Along BaselineEvent.Kept es (baselineStart flash now) := by
  refine Machine.forall_emits_iff (I := BaselineRun.Flashed) ?_ ?_ ?_ hrun
  · intro e s s' os he hs hstep
    obtain ⟨rfl, -⟩ := Prod.mk.inj (Option.some.inj hstep)
    exact (baselineStep_durable_iff hs e).2 he
  · intro e s s' os hs hstep
    obtain ⟨-, rfl⟩ := Prod.mk.inj (Option.some.inj hstep)
    exact (baselineStep_durable_iff hs e).1
  · exact fun baseline h => by cases h

/-- A conditioned sensor whose baseline is saved with and then without success, and a reboot. -/
def failedFlashWrite : List BaselineEvent :=
  [.reboot 1 0 0 0, .driver (.tick 1200000), .driver (.conditioningWork 0 0),
    .save 4660 0, .driver (.tick 86400000), .save 22136 (-5), .reboot 1 0 0 0]

/-- The second save is not due again, and the reboot brings back the first one. -/
theorem failedFlashWrite_observed :
    ∃ r ∈ baselineMachine.run failedFlashWrite (baselineStart none 0),
      r.2 = [.rebooted none none, .flashFailed false, .rebooted (some 4660) (some 22136)] := by
  decide +kernel

/-- `baseline_durable_iff` at that run. -/
theorem baseline_durable_iff_failedFlashWrite :
    ∃ s os, baselineMachine.run failedFlashWrite (baselineStart none 0) = some (s, os) ∧
      ((∀ o ∈ os, o.Durable) ↔
        baselineMachine.Along BaselineEvent.Kept failedFlashWrite (baselineStart none 0)) := by
  obtain ⟨⟨s, os⟩, hrun, -⟩ := failedFlashWrite_observed
  exact ⟨s, os, hrun, baseline_durable_iff hrun⟩

/-- A saved baseline can be lost, and is then not saved again. -/
theorem baseline_not_durable :
    ¬ ∀ (flash : Option (List UInt8)) (now : ℤ) (es : List BaselineEvent) (s : BaselineRun)
      (os : List BaselineObs), baselineMachine.run es (baselineStart flash now) = some (s, os) →
      ∀ o ∈ os, o.Durable := by
  intro hall
  obtain ⟨⟨s, os⟩, hrun, hos⟩ := failedFlashWrite_observed
  change os = _ at hos
  subst hos
  have hdue := hall _ _ _ s _ hrun (.flashFailed false) (by simp)
  exact Bool.false_ne_true hdue

end EnvMonitor
