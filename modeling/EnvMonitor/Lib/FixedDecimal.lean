import EnvMonitor.Lib.TextReader
import Mathlib.Algebra.Order.Round
import Mathlib.Data.Rat.Floor
import Mathlib.Tactic.Linarith
import Mathlib.Tactic.Ring

/-!
# Numbers with a fixed number of decimals

`%.2f` and the like: `fixedDecimal d k` is the text of `k / 10 ^ d` with `d` decimals, and
`fixedNumber` reads it back. A program prints the nearest such number of a `double` that is itself
the nearest to an exact quotient. `PrintsDoubles` says so of a printer: the two roundings together
move the quotient by no more than half a unit of the last decimal and a little, and not at all if
the quotient has so few decimals already.
-/

namespace EnvMonitor

namespace Reader

/-! ### Printing -/

/-- The last `w` decimal digits. -/
def lastDigits : ℕ → ℕ → List Char
  | 0, _ => []
  | w + 1, n => lastDigits w (n / 10) ++ [Nat.digitChar (n % 10)]

/-- The text of `k / 10 ^ d` with `d` decimals, of which there is at least one. -/
def fixedDecimal (d k : ℕ) : List Char := decimal (k / 10 ^ d) ++ '.' :: lastDigits d k

/-- The same with a sign. -/
def signedFixedDecimal (d : ℕ) (k : ℤ) : List Char :=
  if k < 0 then '-' :: fixedDecimal d k.natAbs else fixedDecimal d k.natAbs

@[simp]
theorem length_lastDigits (w n : ℕ) : (lastDigits w n).length = w := by
  induction w generalizing n with
  | zero => rfl
  | succ w ih => rw [lastDigits, List.length_append, ih, List.length_singleton]

theorem isDigit_of_mem_lastDigits {w n : ℕ} {c : Char} (h : c ∈ lastDigits w n) :
    c.isDigit = true := by
  induction w generalizing n with
  | zero => exact absurd h List.not_mem_nil
  | succ w ih =>
    rcases List.mem_append.mp h with hfront | hlast
    · exact ih hfront
    · have hall : ∀ d < 10, (Nat.digitChar d).isDigit = true := by decide
      rw [List.mem_singleton.mp hlast]
      exact hall _ (Nat.mod_lt n (by omega))

/-- The digits are those of the remainder. -/
theorem ofDigitChars_lastDigits (w n : ℕ) :
    Nat.ofDigitChars 10 (lastDigits w n) 0 = n % 10 ^ w := by
  induction w generalizing n with
  | zero => rw [lastDigits, Nat.ofDigitChars_nil, Nat.pow_zero, Nat.mod_one]
  | succ w ih =>
    have hlt : n % 10 < 10 := Nat.mod_lt n (by omega)
    rw [lastDigits, Nat.ofDigitChars_append, ih, Nat.ofDigitChars_cons_digitChar_of_lt_ten hlt,
      Nat.ofDigitChars_nil, Nat.pow_succ', Nat.mod_mul, Nat.add_comm]

theorem mem_signedFixedDecimal {d : ℕ} {k : ℤ} {c : Char} (h : c ∈ signedFixedDecimal d k) :
    c = '-' ∨ c = '.' ∨ c.isDigit = true := by
  have hplain : ∀ {n : ℕ}, c ∈ fixedDecimal d n → c = '.' ∨ c.isDigit = true := by
    intro n hc
    rcases List.mem_append.mp hc with hwhole | hrest
    · exact Or.inr (isDigit_of_mem_decimal hwhole)
    · exact (List.mem_cons.mp hrest).imp id isDigit_of_mem_lastDigits
  rw [signedFixedDecimal] at h
  split_ifs at h
  · exact (List.mem_cons.mp h).imp id hplain
  · exact Or.inr (hplain h)

/-! ### Reading -/

/-- `\d+\.\d+`, with the number that it denotes. -/
def fixedNumber : Reader ℚ := do
  let whole ← number
  word ['.']
  let digits ← many1 Char.isDigit
  return whole + (Nat.ofDigitChars 10 digits 0 : ℚ) / 10 ^ digits.length

/-- `-?\d+\.\d+`. -/
def signedFixedNumber : Reader ℚ := optNeg fixedNumber

theorem reads_fixedNumber {d : ℕ} (hd : 0 < d) (k : ℕ) :
    Reads Char.isDigit fixedNumber (fixedDecimal d k) ((k : ℚ) / 10 ^ d) := by
  have hne : lastDigits d k ≠ [] :=
    List.ne_nil_of_length_pos (by rwa [length_lastDigits])
  have hvalue : ((k / 10 ^ d : ℕ) : ℚ) + ((k % 10 ^ d : ℕ) : ℚ) / 10 ^ d = (k : ℚ) / 10 ^ d := by
    have hpow : (10 : ℚ) ^ d ≠ 0 := pow_ne_zero d (by norm_num)
    have hsplit : (k : ℚ) = 10 ^ d * (k / 10 ^ d : ℕ) + (k % 10 ^ d : ℕ) := by
      exact_mod_cast (Nat.div_add_mod k (10 ^ d)).symm
    rw [hsplit, add_div, mul_div_cancel_left₀ _ hpow]
  have hdigits := (reads_many1 hne fun _ h => isDigit_of_mem_lastDigits h).map
    fun digits => ((k / 10 ^ d : ℕ) : ℚ) + (Nat.ofDigitChars 10 digits 0 : ℚ) / 10 ^ digits.length
  rw [ofDigitChars_lastDigits, length_lastDigits, hvalue] at hdigits
  exact (reads_number _).bind_of_head (by decide) ((reads_word ['.']).bind hdigits)

theorem reads_signedFixedNumber {d : ℕ} (hd : 0 < d) (k : ℤ) :
    Reads Char.isDigit signedFixedNumber (signedFixedDecimal d k) ((k : ℚ) / 10 ^ d) := by
  have hread := reads_fixedNumber hd k.natAbs
  rw [signedFixedDecimal]
  split_ifs with hneg
  · have hvalue : -((k.natAbs : ℚ) / 10 ^ d) = (k : ℚ) / 10 ^ d := by
      rw [Nat.cast_natAbs, abs_of_neg hneg, Int.cast_neg, neg_div, neg_neg]
    have hsigned := reads_optNeg_neg hread
    rwa [hvalue] at hsigned
  · have hvalue : (k.natAbs : ℚ) = k := by
      rw [Nat.cast_natAbs, abs_of_nonneg (not_lt.mp hneg)]
    obtain ⟨c, ds, hds, hc⟩ := exists_decimal_eq_cons (k.natAbs / 10 ^ d)
    rw [hvalue] at hread
    rw [fixedDecimal, hds, List.cons_append] at hread ⊢
    exact reads_optNeg hc hread

/-! ### Doubles -/

/-- `fixed d q` is the text of the `double` nearest to `q`, of 53 bits, with the nearest `d`
decimals. Nothing is said of a negative number that is rounded to zero. -/
def PrintsDoubles (fixed : ℕ → ℚ → List Char) : Prop :=
  ∀ d q, ∃ (x : ℚ) (k : ℤ), |x - q| ≤ |q| / 2 ^ 53 ∧ |(k : ℚ) - x * 10 ^ d| ≤ 1 / 2 ∧
    (0 ≤ q ∨ k ≠ 0 → fixed d q = signedFixedDecimal d k)

/-- The nearest decimals of the quotient itself. -/
def nearestDecimal (d : ℕ) (q : ℚ) : List Char := signedFixedDecimal d (round (q * 10 ^ d))

theorem newline_notMem_nearestDecimal (d : ℕ) (q : ℚ) : '\n' ∉ nearestDecimal d q :=
  fun hmem => absurd (mem_signedFixedDecimal hmem) (by decide)

theorem printsDoubles_nearestDecimal : PrintsDoubles nearestDecimal := by
  refine fun d q => ⟨q, round (q * 10 ^ d), ?_, ?_, fun _ => rfl⟩
  · rw [sub_self, abs_zero]
    positivity
  · rw [abs_sub_comm]
    exact abs_sub_round _

/-- How far the number that is printed lies from the one that was meant. -/
theorem PrintsDoubles.near {fixed : ℕ → ℚ → List Char} (h : PrintsDoubles fixed) (d : ℕ) (q : ℚ) :
    ∃ k : ℤ, |(k : ℚ) / 10 ^ d - q| ≤ 1 / (2 * 10 ^ d) + |q| / 2 ^ 53 ∧
      (0 ≤ q ∨ k ≠ 0 → fixed d q = signedFixedDecimal d k) := by
  obtain ⟨x, k, hx, hk, htext⟩ := h d q
  refine ⟨k, ?_, htext⟩
  have hpow : (0 : ℚ) < 10 ^ d := by positivity
  have hround : |(k : ℚ) / 10 ^ d - x| ≤ 1 / (2 * 10 ^ d) := by
    have hdiv : (k : ℚ) / 10 ^ d - x = ((k : ℚ) - x * 10 ^ d) / 10 ^ d := by
      rw [sub_div, mul_div_cancel_right₀ _ hpow.ne']
    rw [hdiv, abs_div, abs_of_pos hpow, div_le_iff₀ hpow]
    calc |(k : ℚ) - x * 10 ^ d| ≤ 1 / 2 := hk
      _ = 1 / (2 * 10 ^ d) * 10 ^ d := by field_simp
  calc |(k : ℚ) / 10 ^ d - q| = |((k : ℚ) / 10 ^ d - x) + (x - q)| := by ring_nf
    _ ≤ |(k : ℚ) / 10 ^ d - x| + |x - q| := abs_add_le _ _
    _ ≤ 1 / (2 * 10 ^ d) + |q| / 2 ^ 53 := add_le_add hround hx

/-- A number that has no more decimals is printed exactly, unless it is huge. -/
theorem PrintsDoubles.exact {fixed : ℕ → ℚ → List Char} (h : PrintsDoubles fixed) (d : ℕ) {n : ℤ}
    (hn : |n| < 2 ^ 52) : fixed d ((n : ℚ) / 10 ^ d) = signedFixedDecimal d n := by
  obtain ⟨k, hnear, htext⟩ := h.near d ((n : ℚ) / 10 ^ d)
  have hpow : (0 : ℚ) < 10 ^ d := by positivity
  have hsmall : |(n : ℚ)| < 2 ^ 52 := by exact_mod_cast hn
  have hclose : |((k - n : ℤ) : ℚ)| < 1 := by
    have hscale : (k : ℚ) / 10 ^ d - (n : ℚ) / 10 ^ d = ((k - n : ℤ) : ℚ) / 10 ^ d := by
      push_cast
      ring
    rw [hscale, abs_div, abs_div, abs_of_pos hpow, div_le_iff₀ hpow] at hnear
    calc |((k - n : ℤ) : ℚ)| ≤ (1 / (2 * 10 ^ d) + |(n : ℚ)| / 10 ^ d / 2 ^ 53) * 10 ^ d := hnear
      _ = 1 / 2 + |(n : ℚ)| / 2 ^ 53 := by field_simp
      _ < 1 := by linarith
  have hsame : k = n := by
    have hint : |k - n| < 1 := by exact_mod_cast hclose
    exact sub_eq_zero.mp (Int.abs_lt_one_iff.mp hint)
  subst hsame
  refine htext ?_
  by_cases hzero : k = 0
  · exact Or.inl (by simp [hzero])
  · exact Or.inr hzero

end Reader

end EnvMonitor
