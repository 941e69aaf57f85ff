import Mathlib.Data.Nat.Notation
import Mathlib.Tactic.SplitIfs

/-!
# Counting semaphores

A semaphore holds a count that never exceeds its limit. `give` counts up and is lost at the
limit, `take` counts down and does not succeed at zero, `reset` throws away what was given. A
count says how much has been given and not been taken, and nothing about when: who waits for an
event of his own has to `reset` first.
-/

namespace EnvMonitor

/-- A semaphore with the given limit. -/
structure Semaphore (limit : ℕ) where
  count : ℕ
  le : count ≤ limit
deriving DecidableEq, Repr

namespace Semaphore

variable {limit : ℕ}

/-- `k_sem_reset`, and a semaphore that is defined with the count zero. -/
def reset : Semaphore limit := ⟨0, Nat.zero_le limit⟩

/-- `k_sem_give`. -/
def give (sem : Semaphore limit) : Semaphore limit :=
  ⟨min (sem.count + 1) limit, Nat.min_le_right _ _⟩

/-- `k_sem_take`, as far as it need not wait. -/
def take (sem : Semaphore limit) : Option (Semaphore limit) :=
  if sem.count = 0 then none else some ⟨sem.count - 1, Nat.le_trans (Nat.sub_le _ _) sem.le⟩

@[simp]
theorem take_reset : (reset : Semaphore limit).take = none := rfl

/-- A semaphore can be taken exactly if something was given and not taken. -/
theorem isSome_take {sem : Semaphore limit} : sem.take.isSome = true ↔ sem.count ≠ 0 := by
  rw [take]
  split_ifs with h
  · simp [h]
  · simp [h]

end Semaphore

end EnvMonitor
