import EnvMonitor.Lib.DelayableWork

/-!
# Delayable work that is cancelled while it runs

A work item that is cancelled while its handler runs is being cancelled until the handler
returns, and in the meantime the queue does not take it: `schedule` then does nothing, as it does
for an item that is pending already. So the usual way to restart a timer, to cancel the item and
to schedule it anew, restarts it only if the handler is not running.
-/

namespace EnvMonitor

/-- A delayable work item that may be being cancelled, which ends with its handler. -/
structure CancellableWork (φ : Type*) extends DelayableWork φ where
  canceling : Bool := false
  busy : canceling = true → running.isSome = true := by nofun

namespace CancellableWork

variable {φ : Type*}

/-- The item is pending. -/
def pending (w : CancellableWork φ) : Bool := w.due.isSome

/-- Remove the item, if it is pending; it is being cancelled while its handler runs. -/
def cancel (w : CancellableWork φ) : CancellableWork φ where
  due := none
  running := w.running
  canceling := w.running.isSome
  busy := id

/-- Schedule the item, unless it is pending or being cancelled. -/
def schedule (now delay : ℕ) (w : CancellableWork φ) : CancellableWork φ :=
  if w.pending || w.canceling then w else { w with due := some (now + delay) }

/-- Start the handler: it is time, and the handler is not running. -/
def start (now : ℕ) (phase : φ) (w : CancellableWork φ) : Option (CancellableWork φ) :=
  (w.toDelayableWork.start now phase).map fun work => { toDelayableWork := work }

/-- The handler, if it is running, comes to another phase. -/
def setPhase (phase : φ) (w : CancellableWork φ) : CancellableWork φ where
  due := w.due
  running := w.running.map fun _ => phase
  canceling := w.canceling
  busy h := by rw [Option.isSome_map, w.busy h]

/-- The handler returns. -/
def finish (w : CancellableWork φ) : CancellableWork φ := { due := w.due }

@[simp]
theorem pending_cancel (w : CancellableWork φ) : w.cancel.pending = false := rfl

@[simp]
theorem running_cancel (w : CancellableWork φ) : w.cancel.running = w.running := rfl

@[simp]
theorem running_schedule (now delay : ℕ) (w : CancellableWork φ) :
    (w.schedule now delay).running = w.running := by
  rw [schedule]
  split_ifs <;> rfl

/-- **Restarting.** An idle item is pending anew; one whose handler runs is not pending any
more. -/
theorem due_schedule_cancel (now delay : ℕ) (w : CancellableWork φ) :
    (w.cancel.schedule now delay).due =
      if w.running.isSome then none else some (now + delay) := by
  rw [schedule, pending_cancel, Bool.false_or]
  change (if w.running.isSome = true then w.cancel else _).due = _
  split_ifs <;> rfl

/-- A handler that starts has been due, and its item is pending no longer. -/
theorem start_eq_some {now : ℕ} {phase : φ} {w w' : CancellableWork φ}
    (h : w.start now phase = some w') :
    (∃ due ≤ now, w.due = some due) ∧ w.running = none ∧ w'.due = none ∧
      w'.running = some phase := by
  obtain ⟨work, hwork, rfl⟩ := Option.map_eq_some_iff.mp h
  rw [DelayableWork.start] at hwork
  cases hdue : w.due with
  | none =>
    rw [hdue] at hwork
    cases hwork
  | some due =>
    cases hrunning : w.running with
    | some phase' =>
      rw [hdue, hrunning] at hwork
      cases hwork
    | none =>
      rw [hdue, hrunning] at hwork
      dsimp only at hwork
      split_ifs at hwork with hle
      obtain rfl := Option.some.inj hwork
      exact ⟨⟨due, hle, rfl⟩, rfl, rfl, rfl⟩

end CancellableWork

end EnvMonitor
