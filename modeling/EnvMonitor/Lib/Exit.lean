import Mathlib.Data.Int.Notation

/-!
# Code with early returns

Imperative code that may leave early with a return code, as a function from a state to an
`Exit`: it either falls through to the next statement or has returned. `andThen` is the
semicolon. What every statement keeps, the sequence keeps, on every way out.
-/

namespace EnvMonitor

universe u

/-- The way out of a statement. -/
inductive Exit (σ : Type u) where
  | next (s : σ)
  | returned (code : ℤ) (s : σ)

namespace Exit

variable {σ : Type u}

/-- The state in which the statement ended. -/
def state : Exit σ → σ
  | next s => s
  | returned _ s => s

/-- Run a second statement unless the first one has returned. -/
def andThen (x : Exit σ) (f : σ → Exit σ) : Exit σ :=
  match x with
  | next s => f s
  | returned code s => returned code s

/-- The return code of a function body, `0` if it runs to its end. -/
def code : Exit σ → ℤ
  | next _ => 0
  | returned code _ => code

@[simp] theorem state_next (s : σ) : (next s).state = s := rfl

@[simp] theorem state_returned (code : ℤ) (s : σ) : (returned code s).state = s := rfl

@[simp] theorem code_next (s : σ) : (next s).code = 0 := rfl

@[simp] theorem code_returned (c : ℤ) (s : σ) : (returned c s).code = c := rfl

@[simp] theorem andThen_next (s : σ) (f : σ → Exit σ) : (next s).andThen f = f s := rfl

@[simp]
theorem andThen_returned (code : ℤ) (s : σ) (f : σ → Exit σ) :
    (returned code s).andThen f = returned code s := rfl

/-- **Sequence rule.** If `P` holds after the first statement, and the second one keeps it
where it is reached, then `P` holds after both. -/
theorem andThen_keeps {P : σ → Prop} {x : Exit σ} {f : σ → Exit σ} (hx : P x.state)
    (hf : ∀ s, P s → P (f s).state) : P (x.andThen f).state := by
  cases x with
  | next s => exact hf s hx
  | returned code s => exact hx

end Exit

end EnvMonitor
