import Mathlib.Data.Nat.Notation
import Mathlib.Data.Option.Basic
import Mathlib.Tactic.SplitIfs

/-!
# Delayable work

A work item with a deadline, as a work queue keeps it. The item is pending from the moment it is
scheduled until its handler starts, and it may be pending again while its handler still runs:
rescheduling replaces the deadline, and cancelling removes a pending item but does not stop a
handler.
-/

namespace EnvMonitor

/-- A delayable work item: when it is due, if it is pending, and how far its handler has come, if
it is running. -/
structure DelayableWork (φ : Type*) where
  due : Option ℕ := none
  running : Option φ := none
deriving DecidableEq, Repr

namespace DelayableWork

variable {φ : Type*}

/-- The item is pending. -/
def pending (w : DelayableWork φ) : Bool := w.due.isSome

/-- Schedule the item, or replace its deadline. -/
def reschedule (now delay : ℕ) (w : DelayableWork φ) : DelayableWork φ :=
  { w with due := some (now + delay) }

/-- Remove the item, if it is pending. -/
def cancel (w : DelayableWork φ) : DelayableWork φ := { w with due := none }

/-- Start the handler: it is time, and the handler is not running. -/
def start (now : ℕ) (phase : φ) (w : DelayableWork φ) : Option (DelayableWork φ) :=
  match w.due, w.running with
  | some due, none => if due ≤ now then some { running := some phase } else none
  | _, _ => none

/-- The handler returns. -/
def finish (w : DelayableWork φ) : DelayableWork φ := { w with running := none }

/-- A handler that starts has been pending, and is so no longer. -/
theorem pending_of_start {now : ℕ} {phase : φ} {w w' : DelayableWork φ}
    (h : w.start now phase = some w') : w.pending = true ∧ w'.pending = false := by
  obtain ⟨due, running⟩ := w
  cases due with
  | none => cases h
  | some due =>
    cases running with
    | some phase' => cases h
    | none =>
      rw [start] at h
      dsimp only at h
      split_ifs at h
      obtain rfl := Option.some.inj h
      exact ⟨rfl, rfl⟩

end DelayableWork

end EnvMonitor
