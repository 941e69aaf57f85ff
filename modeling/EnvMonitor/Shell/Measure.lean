import EnvMonitor.Ess.EncoderLaws
import EnvMonitor.Shell.Read
import EnvMonitor.System.Composed
import EnvMonitor.System.Freshness

/-!
# What a typed read measures

`app gatt read` of the temperature, the humidity or the pressure, from the driver to the number
that the tests parse. The value on the wire is a truncated multiple of a driver's sample, and the
number that is printed is a rounded quotient of the value on the wire; `gatt_read_measures` bounds
what is lost on the way by a hundredth of the unit in which the number is printed.

The arithmetic of the encoders is exact here, as everywhere; that of the printer is not.
-/

namespace EnvMonitor

open Reader

variable {ρ : Type*}

/-! ### Accuracy -/

/-- A sample in the unit in which the shell prints it: the driver measures kilopascals, and the
shell prints hectopascals. -/
def LiveQuantity.printed : LiveQuantity → ℚ → ℚ
  | .temperature, x => x
  | .humidity, x => x
  | .pressure, x => 10 * x

/-- A truncated multiple is near. -/
theorem abs_div_sub_lt {e x scale : ℚ} (hscale : 0 < scale) (h : |e - scale * x| < 1) :
    |e / scale - x| < 1 / scale := by
  have hdiv : e / scale - x = (e - scale * x) / scale := by
    rw [sub_div, mul_div_cancel_left₀ _ hscale.ne']
  rw [hdiv, abs_div, abs_of_pos hscale]
  exact div_lt_div_of_pos_right h hscale

/-- **Accuracy.** The number that is read back from the encoding of a sample in range is the
sample, up to a hundredth. -/
theorem LiveQuantity.accurate {q : LiveQuantity} {y : CFloat} (hrange : q.inRange y = true)
    {parsed : Option ℚ} (hparsed : DecodedAs q.char (q.encoded y) parsed) :
    ∃ x p, y = .fin x ∧ parsed = some p ∧ |p - q.printed x| < 1 / 100 := by
  cases q with
  | temperature =>
    obtain ⟨x, rfl, -, hnear, -⟩ := temperatureEncoder.laws.accepted y hrange
    exact ⟨x, _, rfl, hparsed, abs_div_sub_lt (by norm_num) hnear⟩
  | humidity =>
    obtain ⟨x, rfl, -, hnear, -⟩ := humidityEncoder.laws.accepted y hrange
    exact ⟨x, _, rfl, hparsed, abs_div_sub_lt (by norm_num) hnear⟩
  | pressure =>
    obtain ⟨x, rfl, ⟨hlo, hhi⟩, hnear, hle⟩ := pressureEncoder.laws.accepted y hrange
    obtain ⟨p, hp, hprinted⟩ := hparsed
    refine ⟨x, p, rfl, hp, ?_⟩
    let wire : ℚ := LiveQuantity.pressure.encoded (.fin x)
    have hprinted : |p - wire / 1000| ≤ 1 / 200 + |wire / 1000| / 2 ^ 53 := hprinted
    have hencoded : |wire / 1000 - 10 * x| < 1 / 1000 :=
      abs_div_sub_lt (by norm_num) (by
        have hscale : (1000 : ℚ) * (10 * x) = 10000 * x := by ring
        rw [hscale]
        exact hnear)
    -- the error of the `double` is small, because the value is
    have hsmall : |wire / 1000| / 2 ^ 53 ≤ 1 / 1000 := by
      have hpositive : (0 : ℚ) ≤ 10000 * x := le_trans (by norm_num [pressureEncoder,
        ESS_PRESS_MIN_DPA]) hlo
      have hbound : |wire| ≤ 1260000 := by
        refine le_trans hle ?_
        rw [show pressureEncoder.scale * x = 10000 * x from rfl, abs_of_nonneg hpositive]
        refine le_trans hhi ?_
        norm_num [pressureEncoder, ESS_PRESS_MAX_DPA]
      rw [abs_div]
      norm_num
      linarith
    calc |p - 10 * x| ≤ |p - wire / 1000| + |wire / 1000 - 10 * x| := abs_sub_le _ _ _
      _ < 1 / 100 := by linarith

/-! ### The sample behind a read -/

/-- The value that a read finds in its snapshot is the encoding of a sample that the driver has
returned since the log was empty. -/
theorem LiveQuantity.sample_of_reading {D : Drivers ρ} {i : Interleaving} {q : LiveQuantity}
    {u u' : EssRun (ManagerRun (ρ × SensorLog))} {data : SensorData} {v : ℤ}
    (hgets : (interleavedOps D.recorded i).ReadGets q.char u data u')
    (hreading : q.char.reading data = .value v) :
    ∃ y, some y ∈ q.samples u'.env.env.2 ∧ q.inRange y = true ∧ q.encoded y = v := by
  obtain ⟨u₁, hupdate, hget⟩ : ∃ u₁,
      (interleavedOps D.recorded i).updateSelective q.char.sensors u = (0, u₁) ∧
        (interleavedOps D.recorded i).getData u₁ = (0, data, u') := by
    cases q <;> exact hgets
  have hshows : Shows q u₁.env :=
    interleavedUpdate_establishes (shows_maintained D q) shows_selectiveSection hupdate
  obtain ⟨u₂, hshows₂, rfl, rfl⟩ := interleavedGetData_holds (shows_maintained D q) hshows hget
  obtain ⟨y, hshown, hrange, hvalue⟩ := LiveQuantity.reading_eq_value.mp hreading
  have hsampled : Sampled q (some y) u₂.env := by
    rw [← hshown]
    exact List.mem_of_head? hshows₂
  exact ⟨y, (sampled_maintained D q (some y)).runOthers _ hsampled, hrange, hvalue⟩

/-- So is the value that a read serves. -/
theorem essRead_sampled (D : Drivers ρ) (i : Interleaving) (q : LiveQuantity)
    (u : EssRun (ManagerRun (ρ × SensorLog))) :
    ReadOutcome (fun x v => ∃ y, some y ∈ q.samples x.env.2 ∧ q.inRange y = true ∧
      q.encoded y = v) q.char 8 0 (essRead (interleavedOps D.recorded i) q.char 8 0 u) := by
  refine essRead_outcome (fun data u' v hgets hreading => ?_) (fun env hunready => ?_) 8 0
  · exact LiveQuantity.sample_of_reading hgets hreading
  · obtain ⟨hgas, -⟩ := hunready
    cases q <;> exact absurd hgas (by decide)

/-! ### The command -/

/-- The shell over the sensor manager, among other threads: they run before the read as well as
inside it. The log holds what the drivers return. -/
def measuringShell (D : Drivers ρ) (i : Interleaving) (before : List ForeignEvent)
    (battery : ManagerRun (ρ × SensorLog) → BleBatteryState) (fixed : ℕ → ℚ → List Char)
    (fixed_line : ∀ decimals q, '\n' ∉ fixed decimals q) :
    ShellEnv (ManagerRun (ρ × SensorLog)) where
  ops := interleavedOps D.recorded i
  battery := battery
  fixed := fixed
  fixed_line := fixed_line
  others := others D.recorded before

/-- **What a typed read measures.** The temperature, the humidity or the pressure is read by
`app gatt read`, with any drivers, and with any steps of other threads before the read and
between its calls. If the command returns 0, the number that the tests parse from its output is
within a hundredth of a sample that the driver has returned since the command was entered, in
the unit that is printed. If all that the driver has returned are errors, the command fails, the
tests parse no read, and the characteristic is not known. -/
theorem gatt_read_measures (D : Drivers ρ) (i : Interleaving) (before : List ForeignEvent)
    (battery : ManagerRun (ρ × SensorLog) → BleBatteryState) {fixed : ℕ → ℚ → List Char}
    (fixed_line : ∀ decimals q, '\n' ∉ fixed decimals q) (hfixed : PrintsDoubles fixed)
    (now : ℤ) (uptime : UptimeService) (q : LiveQuantity) (ess : EssState) (mgr : ManagerState)
    (env : ρ) :
    let out := cmdGattRead (measuringShell D i before battery fixed fixed_line) now uptime
      (essCharLabel q.char) { run := ⟨ess, [], mgr, env, {}⟩ }
    let samples := q.samples out.2.run.env.env.2
    (out.1 = 0 → ∃ x p, some (.fin x) ∈ samples ∧ parseDecoded q.char out.2.text = some p ∧
        |p - q.printed x| < 1 / 100) ∧
      ((∀ sample ∈ samples, sample = none) → out.1 ≠ 0 ∧ parseWireReads out.2.text = some [] ∧
        (out.2.run.ess.sensor q.char).valueKnown = false) := by
  intro out samples
  let shell := measuringShell D i before battery fixed fixed_line
  have hprinter : PrintsDoubles shell.fixed := hfixed
  obtain ⟨-, -, hparsed⟩ := readEssChar_parsed hprinter
    (essRead_sampled D i q (shell.others ⟨ess, [], mgr, env, {}⟩))
  rw [← cmdGattRead_label shell now uptime] at hparsed
  rcases hparsed with ⟨hcode, hreads, hunknown⟩ | ⟨hcode, v, -, ⟨y, hmem, hrange, rfl⟩, -, hnear⟩
  · exact ⟨fun hzero => absurd hzero hcode, fun _ => ⟨hcode, hreads, hunknown⟩⟩
  · refine ⟨fun _ => ?_, fun hfailed => absurd (hfailed (some y) hmem) (by simp)⟩
    obtain ⟨x, p, rfl, hp, hclose⟩ := LiveQuantity.accurate hrange hnear
    exact ⟨x, p, hmem, hp, hclose⟩

/-- The drivers of the system, with 101.3255 kPa at the LPS22HB, and another thread that updates
the snapshot before the read. -/
def pressureShell : ShellEnv (ManagerRun (SystemEnv × SensorLog)) :=
  measuringShell systemDrivers {} [.manager .update] (fun _ => {}) nearestDecimal
    newline_notMem_nearestDecimal

/-- What it starts from. -/
def pressureEnv : SystemEnv where
  ccs := { now := 1 }
  script := List.replicate 20 { lps := ⟨0, .fin (1013255 / 10000)⟩ }
  handlerStart := 1

/-- `gatt_read_measures` for it. -/
theorem gatt_read_measures_pressure :
    let out := cmdGattRead pressureShell 0 {} "pressure".toList
      { run := ⟨essInitialized, [], { managerStart with initialized := true }, pressureEnv, {}⟩ }
    out.1 = 0 ∧ ∃ x p, some (.fin x) ∈ LiveQuantity.pressure.samples out.2.run.env.env.2 ∧
      parseDecodedPressureHpa out.2.text = some p ∧ |p - 10 * x| < 1 / 100 := by
  intro out
  have hzero : out.1 = 0 := by decide +kernel
  exact ⟨hzero, (gatt_read_measures systemDrivers {} [.manager .update] (fun _ => {})
    newline_notMem_nearestDecimal printsDoubles_nearestDecimal 0 {} .pressure essInitialized
    { managerStart with initialized := true } pressureEnv).1 hzero⟩

end EnvMonitor
