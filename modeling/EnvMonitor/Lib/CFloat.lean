import EnvMonitor.Lib.CInt
import Mathlib.Data.Rat.Floor
import Mathlib.Tactic.Linarith

/-!
# C floats over exact arithmetic

A `float` is an exact rational, an infinity or NaN: rounding is left out, everything else a
program can tell apart is kept. Comparisons are against a finite constant, so they are false
on NaN and decided by the sign on an infinity. `truncate` is the conversion of a finite value
to an integer type, towards zero.

`clampTruncate lo hi` is the usual shape of a fixed-point encoder: clamp to `[lo, hi]`, then
truncate. Its laws are stated once here for any limits.
-/

namespace EnvMonitor

/-- A `float` with exact finite values. -/
inductive CFloat where
  | fin (q : ℚ)
  | inf (negative : Bool)
  | nan
deriving DecidableEq

namespace CFloat

/-- `isfinite`. -/
def isFinite : CFloat → Bool
  | fin _ => true
  | _ => false

/-- `isnan`. -/
def isNan : CFloat → Bool
  | nan => true
  | _ => false

/-- `isinf`. -/
def isInf : CFloat → Bool
  | inf _ => true
  | _ => false

/-- `x <= c` for a finite constant `c`. -/
def le (x : CFloat) (c : ℚ) : Bool :=
  match x with
  | fin q => q ≤ c
  | inf negative => negative
  | nan => false

/-- `x >= c` for a finite constant `c`. -/
def ge (x : CFloat) (c : ℚ) : Bool :=
  match x with
  | fin q => c ≤ q
  | inf negative => !negative
  | nan => false

/-- `x * k` for a positive finite constant `k`. -/
def scale (x : CFloat) (k : ℚ) : CFloat :=
  match x with
  | fin q => fin (q * k)
  | inf negative => inf negative
  | nan => nan

/-- The conversion of a finite value to an integer, towards zero. On an infinity or NaN the
conversion is undefined behaviour, which no caller reaches. -/
def truncate : CFloat → ℤ
  | fin q => q.num.tdiv q.den
  | _ => 0

/-- Whether a finite value lies between two constants, as C tests it. -/
def within (lo hi : ℚ) (x : CFloat) : Bool := x.isFinite && x.ge lo && x.le hi

theorem isFinite_iff {x : CFloat} : x.isFinite = true ↔ ∃ q, x = fin q := by
  cases x <;> simp [isFinite]

/-- Only a finite value passes the test. -/
theorem within_iff {lo hi : ℚ} {x : CFloat} :
    x.within lo hi = true ↔ ∃ q, x = fin q ∧ lo ≤ q ∧ q ≤ hi := by
  cases x with
  | fin q => simp [within, isFinite, ge, le]
  | inf negative => simp [within, isFinite]
  | nan => simp [within, isFinite]

/-! ### Truncation -/

/-- Truncation is the floor of a non-negative value, -/
theorem truncate_of_nonneg {q : ℚ} (h : 0 ≤ q) : (fin q).truncate = ⌊q⌋ := by
  rw [Rat.floor_def']
  exact Int.tdiv_eq_ediv_of_nonneg (Rat.num_nonneg.mpr h)

/-- and the ceiling of any other. -/
theorem truncate_of_nonpos {q : ℚ} (h : q ≤ 0) : (fin q).truncate = ⌈q⌉ := by
  have hnum : 0 ≤ -q.num := by
    have hq := Rat.num_nonpos.mpr h
    omega
  rw [Rat.ceil_def', ← Int.tdiv_eq_ediv_of_nonneg hnum, Int.neg_tdiv, neg_neg]
  rfl

/-- An integer is its own truncation. -/
@[simp] theorem truncate_intCast (n : ℤ) : (fin n).truncate = n := by
  rcases le_total (0 : ℚ) n with h | h
  · rw [truncate_of_nonneg h, Int.floor_intCast]
  · rw [truncate_of_nonpos h, Int.ceil_intCast]

/-- Below zero, what truncates to `m` lies within one below it. -/
theorem truncate_eq_iff_of_neg {q : ℚ} {m : ℤ} (hm : m < 0) :
    (fin q).truncate = m ↔ (m : ℚ) - 1 < q ∧ q ≤ m := by
  rcases le_total 0 q with h | h
  · have hm' : (m : ℚ) < 0 := by exact_mod_cast hm
    have hfloor := Int.floor_nonneg.mpr h
    rw [truncate_of_nonneg h]
    constructor
    · intro heq
      omega
    · rintro ⟨-, hle⟩
      linarith
  · rw [truncate_of_nonpos h]
    exact Int.ceil_eq_iff

/-- Truncation is monotone: it does not matter on which side of zero the values lie. -/
theorem truncate_mono {p q : ℚ} (h : p ≤ q) : (fin p).truncate ≤ (fin q).truncate := by
  rcases le_total 0 p with hp | hp
  · rw [truncate_of_nonneg hp, truncate_of_nonneg (hp.trans h)]
    exact Int.floor_mono h
  · rw [truncate_of_nonpos hp]
    rcases le_total 0 q with hq | hq
    · rw [truncate_of_nonneg hq]
      exact (Int.ceil_le.mpr (by exact_mod_cast hp)).trans (Int.floor_nonneg.mpr hq)
    · rw [truncate_of_nonpos hq]
      exact Int.ceil_mono h

/-- Truncation moves a value by less than one, -/
theorem abs_truncate_sub_lt (q : ℚ) : |((fin q).truncate : ℚ) - q| < 1 := by
  rw [abs_sub_lt_iff]
  rcases le_total 0 q with h | h
  · rw [truncate_of_nonneg h]
    have hle := Int.floor_le q
    have hlt := Int.lt_floor_add_one q
    constructor <;> linarith
  · rw [truncate_of_nonpos h]
    have hle := Int.le_ceil q
    have hlt := Int.ceil_lt_add_one q
    constructor <;> linarith

/-- and never away from zero. -/
theorem abs_truncate_le (q : ℚ) : |((fin q).truncate : ℚ)| ≤ |q| := by
  rcases le_total 0 q with h | h
  · have hnonneg : (0 : ℚ) ≤ ⌊q⌋ := by exact_mod_cast Int.floor_nonneg.mpr h
    rw [truncate_of_nonneg h, abs_of_nonneg hnonneg, abs_of_nonneg h]
    exact Int.floor_le q
  · have hnonpos : (⌈q⌉ : ℚ) ≤ 0 := by exact_mod_cast Int.ceil_le.mpr (by exact_mod_cast h)
    rw [truncate_of_nonpos h, abs_of_nonpos hnonpos, abs_of_nonpos h]
    exact neg_le_neg (Int.le_ceil q)

end CFloat

/-! ### Clamp and truncate -/

/-- Clamp to `[lo, hi]`, then truncate. -/
def clampTruncate (lo hi : ℤ) (x : CFloat) : ℤ :=
  if x.le lo then lo else if x.ge hi then hi else x.truncate

/-- Truncation stays between any integer bounds around the value. -/
theorem truncate_mem {lo hi : ℤ} {q : ℚ} (hlo : (lo : ℚ) ≤ q) (hhi : q ≤ hi) :
    lo ≤ (CFloat.fin q).truncate ∧ (CFloat.fin q).truncate ≤ hi := by
  constructor
  · rw [← CFloat.truncate_intCast lo]
    exact CFloat.truncate_mono hlo
  · rw [← CFloat.truncate_intCast hi]
    exact CFloat.truncate_mono hhi

/-- **Range.** Whatever it is given, the clamped value lies between the limits, unless the
value was not finite. -/
theorem clampTruncate_mem {lo hi : ℤ} (h : lo ≤ hi) (q : ℚ) :
    lo ≤ clampTruncate lo hi (.fin q) ∧ clampTruncate lo hi (.fin q) ≤ hi := by
  rw [clampTruncate]
  split_ifs with hlo hhi
  · exact ⟨le_rfl, h⟩
  · exact ⟨h, le_rfl⟩
  · simp only [CFloat.le, CFloat.ge, decide_eq_true_eq, not_le] at hlo hhi
    exact truncate_mem hlo.le hhi.le

/-- Between the limits the clamp does nothing. -/
theorem clampTruncate_of_mem {lo hi : ℤ} {q : ℚ} (hlo : (lo : ℚ) ≤ q) (hhi : q ≤ hi) :
    clampTruncate lo hi (.fin q) = (CFloat.fin q).truncate := by
  simp only [clampTruncate, CFloat.le, CFloat.ge, decide_eq_true_eq]
  split_ifs with hle hge
  · rw [le_antisymm hle hlo, CFloat.truncate_intCast]
  · rw [le_antisymm hhi hge, CFloat.truncate_intCast]
  · rfl

/-- The clamp is the truncation of the nearest value between the limits. -/
theorem clampTruncate_eq_truncate {lo hi : ℤ} (h : lo ≤ hi) (q : ℚ) :
    clampTruncate lo hi (.fin q) = (CFloat.fin (max lo (min hi q))).truncate := by
  have hq : (lo : ℚ) ≤ hi := by exact_mod_cast h
  simp only [clampTruncate, CFloat.le, CFloat.ge, decide_eq_true_eq]
  split_ifs with hle hge
  · rw [max_eq_left (min_le_of_right_le hle), CFloat.truncate_intCast]
  · rw [min_eq_left hge, max_eq_right hq, CFloat.truncate_intCast]
  · rw [min_eq_right (le_of_not_ge hge), max_eq_right (le_of_not_ge hle)]

theorem clampTruncate_mono {lo hi : ℤ} (h : lo ≤ hi) {p q : ℚ} (hpq : p ≤ q) :
    clampTruncate lo hi (.fin p) ≤ clampTruncate lo hi (.fin q) := by
  rw [clampTruncate_eq_truncate h, clampTruncate_eq_truncate h]
  exact CFloat.truncate_mono (max_le_max le_rfl (min_le_min le_rfl hpq))

end EnvMonitor
