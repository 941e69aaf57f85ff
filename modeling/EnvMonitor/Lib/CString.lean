import Mathlib.Algebra.Group.Nat.Defs
import Mathlib.Data.Nat.Notation
import Mathlib.Data.List.Basic
import Mathlib.Data.List.TakeWhile
import Mathlib.Tactic.SplitIfs

/-!
# C strings in buffers

A buffer is the list of its characters, and the string in it ends at the first NUL. `snprintf`
and `strncpy` below write a buffer as the C functions do, the truncation and the padding
included. `Holds` says that a buffer is terminated and which string it holds; a string that fits
goes through both functions unharmed.

`upperHex w` is the conversion to `w` upper-case hexadecimal digits. It loses nothing below
`16 ^ w`.
-/

namespace EnvMonitor

/-- The character that ends a string. -/
def nul : Char := Char.ofNat 0

/-- The string in a buffer. -/
def cString (buf : List Char) : List Char := buf.takeWhile (· ≠ nul)

/-- The buffer is NUL-terminated and holds the string. -/
def Holds (buf name : List Char) : Prop := nul ∈ buf ∧ cString buf = name

/-- `snprintf` of a text: what fits into `size` characters, with the NUL. -/
def snprintf (size : ℕ) (text buf : List Char) : List Char :=
  if size = 0 then buf
  else text.take (size - 1) ++ nul :: buf.drop (min (size - 1) text.length + 1)

/-- `strncpy` of `n` characters: the string of `src`, cut off or padded with NULs. -/
def strncpy (n : ℕ) (src dst : List Char) : List Char :=
  (cString src ++ List.replicate n nul).take n ++ dst.drop n

/-- The hexadecimal digit of a number below 16. -/
def hexDigit (d : ℕ) : Char :=
  ['0', '1', '2', '3', '4', '5', '6', '7', '8', '9', 'A', 'B', 'C', 'D', 'E', 'F'].getD d nul

/-- The last `w` upper-case hexadecimal digits. -/
def upperHex : ℕ → ℕ → List Char
  | 0, _ => []
  | w + 1, n => upperHex w (n / 16) ++ [hexDigit (n % 16)]

/-! ### Buffers -/

/-- A buffer holds what stands before its first NUL. -/
theorem holds_append {name rest : List Char} (h : nul ∉ name) :
    Holds (name ++ nul :: rest) name := by
  have hname : ∀ c ∈ name, decide (c ≠ nul) = true := by
    intro c hc
    rw [decide_eq_true_eq]
    rintro rfl
    exact h hc
  refine ⟨List.mem_append_right _ List.mem_cons_self, ?_⟩
  rw [cString, List.takeWhile_append_of_pos hname]
  simp

/-- Printing a text that fits. -/
theorem holds_snprintf {size : ℕ} {text : List Char} (hnul : nul ∉ text)
    (hfits : text.length < size) (buf : List Char) : Holds (snprintf size text buf) text := by
  have htake : text.take (size - 1) = text := List.take_of_length_le (by omega)
  rw [snprintf, if_neg (by omega), htake]
  exact holds_append hnul

/-- Printing does not write past the end of a buffer, nor shorten it. -/
theorem length_snprintf {size : ℕ} {text buf : List Char} (h : size ≤ buf.length) :
    (snprintf size text buf).length = buf.length := by
  rw [snprintf]
  split_ifs with hzero
  · rfl
  · rw [List.length_append, List.length_take, List.length_cons, List.length_drop]
    omega

/-- Copying a string that fits, with a NUL put at the end of the destination afterwards. -/
theorem holds_strncpy {n : ℕ} {src name : List Char} (h : Holds src name) (hnul : nul ∉ name)
    (hfits : name.length < n) (dst : List Char) :
    Holds ((strncpy n src dst).set n nul) name := by
  obtain ⟨m, rfl⟩ : ∃ m, n = name.length + (m + 1) := ⟨n - name.length - 1, by omega⟩
  have hcopy : strncpy (name.length + (m + 1)) src dst =
      name ++ nul :: (List.replicate m nul ++ dst.drop (name.length + (m + 1))) := by
    rw [strncpy, h.2, List.take_length_add_append, List.take_replicate, Nat.min_eq_left (by omega),
      List.replicate_succ, List.append_assoc]
    rfl
  rw [hcopy, List.set_append_right _ _ (by omega)]
  simp only [Nat.add_sub_cancel_left, List.set_cons_succ]
  exact holds_append hnul

/-- A copy of a literal, whose terminator is not among its characters here. -/
theorem holds_strncpy_text {n : ℕ} {text : List Char} (hnul : nul ∉ text)
    (hfits : text.length < n) (dst : List Char) :
    Holds ((strncpy n text dst).set n nul) text := by
  have hterminated : Holds (text ++ [nul]) text := holds_append hnul
  have hall : ∀ c ∈ text, decide (c ≠ nul) = true := by
    intro c hc
    rw [decide_eq_true_eq]
    rintro rfl
    exact hnul hc
  have hsame : strncpy n text dst = strncpy n (text ++ [nul]) dst := by
    rw [strncpy, strncpy, hterminated.2, cString, List.takeWhile_eq_self_iff.mpr hall]
  rw [hsame]
  exact holds_strncpy hterminated hnul hfits dst

/-! ### Digits -/

theorem hexDigit_inj {d e : ℕ} (hd : d < 16) (he : e < 16) : hexDigit d = hexDigit e ↔ d = e := by
  have hall : ∀ d < 16, ∀ e < 16, hexDigit d = hexDigit e → d = e := by decide
  exact ⟨hall d hd e he, fun h => h ▸ rfl⟩

@[simp]
theorem length_upperHex (w n : ℕ) : (upperHex w n).length = w := by
  induction w generalizing n with
  | zero => rfl
  | succ w ih => simp [upperHex, ih]

/-- Every character is a digit or one of the letters `A` to `F`. -/
theorem upperHex_digit {w n : ℕ} {c : Char} (hc : c ∈ upperHex w n) :
    ∃ d < 16, c = hexDigit d := by
  induction w generalizing n with
  | zero => exact absurd hc List.not_mem_nil
  | succ w ih =>
    rcases List.mem_append.mp hc with hfront | hlast
    · exact ih hfront
    · exact ⟨n % 16, Nat.mod_lt n (by omega), List.mem_singleton.mp hlast⟩

theorem nul_notMem_upperHex (w n : ℕ) : nul ∉ upperHex w n := by
  intro h
  obtain ⟨d, hd, hnul⟩ := upperHex_digit h
  have hall : ∀ d < 16, nul ≠ hexDigit d := by decide
  exact hall d hd hnul

/-- **Digits determine the number** that they are enough for. -/
theorem upperHex_inj {w n m : ℕ} (hn : n < 16 ^ w) (hm : m < 16 ^ w) :
    upperHex w n = upperHex w m ↔ n = m := by
  refine ⟨fun h => ?_, fun h => h ▸ rfl⟩
  induction w generalizing n m with
  | zero =>
    rw [Nat.pow_zero] at hn hm
    omega
  | succ w ih =>
    have hn' : n / 16 < 16 ^ w := by
      rw [Nat.div_lt_iff_lt_mul (by omega)]
      exact hn
    have hm' : m / 16 < 16 ^ w := by
      rw [Nat.div_lt_iff_lt_mul (by omega)]
      exact hm
    obtain ⟨hfront, hlast⟩ := List.append_inj' h rfl
    have hdiv : n / 16 = m / 16 := ih hn' hm' hfront
    have hmod : n % 16 = m % 16 := by
      have hlt : ∀ k : ℕ, k % 16 < 16 := fun k => Nat.mod_lt k (by omega)
      exact (hexDigit_inj (hlt n) (hlt m)).mp (List.singleton_inj.mp hlast)
    omega

end EnvMonitor
