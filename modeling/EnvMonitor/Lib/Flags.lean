import Mathlib.Data.BitVec
import Mathlib.Tactic.Tauto

/-!
# Flag words

A machine word used as a set of flags: `hasAny m f` is the C test `(m & f) != 0`, `m ||| f`
sets the flags of `f` and `m &&& ~~~f` clears them. The lemmas say what setting and clearing
do to any other test, so that no proof about a mask ever looks at its bits.
-/

namespace EnvMonitor

variable {w : ℕ}

/-- Some flag of `f` is set in `m`. -/
def hasAny (m f : BitVec w) : Bool := m &&& f != 0#w

theorem hasAny_eq_true {m f : BitVec w} : hasAny m f = true ↔ m &&& f ≠ 0#w := by
  simp [hasAny]

theorem hasAny_eq_false {m f : BitVec w} : hasAny m f = false ↔ m &&& f = 0#w := by
  simp [hasAny]

/-- Two words have a flag of `f` together exactly when one of them has. -/
@[simp]
theorem hasAny_or_left (m m' f : BitVec w) :
    hasAny (m ||| m') f = (hasAny m f || hasAny m' f) := by
  rw [Bool.eq_iff_iff, hasAny_eq_true, BitVec.and_or_distrib_right, ne_eq,
    BitVec.or_eq_zero_iff, Bool.or_eq_true, hasAny_eq_true, hasAny_eq_true]
  tauto

/-- A word has a flag of two sets exactly when it has one of either. -/
theorem hasAny_or_right (m f f' : BitVec w) :
    hasAny m (f ||| f') = (hasAny m f || hasAny m f') := by
  have hcomm : ∀ g : BitVec w, hasAny m g = hasAny g m := by
    intro g
    rw [hasAny, hasAny, BitVec.and_comm]
  rw [hcomm, hasAny_or_left, hcomm f, hcomm f']

/-- Cleared flags are not set. -/
@[simp]
theorem hasAny_clear_self (m f : BitVec w) : hasAny (m &&& ~~~f) f = false := by
  rw [hasAny_eq_false, BitVec.and_assoc]
  simp

/-- Clearing flags leaves every disjoint test as it was. -/
theorem hasAny_clear_of_disjoint {f g : BitVec w} (h : f &&& g = 0#w) (m : BitVec w) :
    hasAny (m &&& ~~~f) g = hasAny m g := by
  have hg : ~~~f &&& g = g := by
    apply BitVec.eq_of_getElem_eq
    intro i hi
    have hbit := congrArg (fun x : BitVec w => x[i]) h
    simp only [BitVec.getElem_and, BitVec.getElem_zero] at hbit
    rw [BitVec.getElem_and, BitVec.getElem_not]
    cases hf : f[i]
    · rw [Bool.not_false, Bool.true_and]
    · rw [hf, Bool.true_and] at hbit
      rw [hbit, Bool.and_false]
  rw [hasAny, hasAny, BitVec.and_assoc, hg]

/-- Set `f` or clear it. -/
def markFlag (valid : Bool) (f m : BitVec w) : BitVec w := if valid then m ||| f else m &&& ~~~f

theorem hasAny_markFlag {f g : BitVec w} (h : f &&& g = 0#w) (valid : Bool) (m : BitVec w) :
    hasAny (markFlag valid f m) g = hasAny m g := by
  cases valid with
  | false => exact hasAny_clear_of_disjoint h m
  | true =>
    have hf : hasAny f g = false := hasAny_eq_false.mpr h
    exact (hasAny_or_left m f g).trans (by rw [hf, Bool.or_false])

/-- Marking twice is marking once. -/
theorem markFlag_markFlag (valid : Bool) (f m : BitVec w) :
    markFlag valid f (markFlag valid f m) = markFlag valid f m := by
  cases valid with
  | false => exact (BitVec.and_assoc ..).trans (by rw [BitVec.and_self]; rfl)
  | true => exact (BitVec.or_assoc ..).trans (by rw [BitVec.or_self]; rfl)

/-- A mark overwrites its own flags and no other bit. -/
theorem getElem_markFlag (valid : Bool) (f m : BitVec w) {i : ℕ} (hi : i < w) :
    (markFlag valid f m)[i] = if f[i] then valid else m[i] := by
  cases valid <;> cases hf : f[i] <;> simp [markFlag, hf]

/-- Marks of disjoint flags commute. -/
theorem markFlag_comm {f g : BitVec w} (h : f &&& g = 0#w) (valid valid' : Bool) (m : BitVec w) :
    markFlag valid f (markFlag valid' g m) = markFlag valid' g (markFlag valid f m) := by
  apply BitVec.eq_of_getElem_eq
  intro i hi
  have hbit := congrArg (fun x : BitVec w => x[i]) h
  simp only [BitVec.getElem_and, BitVec.getElem_zero] at hbit
  simp only [getElem_markFlag]
  cases hf : f[i] with
  | false => simp
  | true =>
    rw [hf, Bool.true_and] at hbit
    simp [hbit]

end EnvMonitor
