import Mathlib.Logic.Basic

/-!
# Programs under a lock

What a call does while it holds a lock, one load or store at a time. Others who take the lock are
not in its way; those who do not may act between two of its steps, and change one of the
conditions that it looks at.

`LockedProgram.run` is the program in one go. An action that the program `Tolerates` can be moved
out of its way: behind the rest of the program once it has looked, `LockedProgram.run_comm`, and
ahead of all that it has done before that, `LockedProgram.Reached.map`. With
`LockedProgram.Reached.run` a program that looks once is then atomic at its look.
-/

namespace EnvMonitor

/-- What is left of a call that holds the lock. A `branch` is on what only holders of the lock
change, a `look` on the condition that others change as well. -/
inductive LockedProgram (σ : Type*) where
  | unlock
  | store (w : σ → σ) (next : LockedProgram σ)
  | branch (c : σ → Bool) (yes no : LockedProgram σ)
  | look (yes no : LockedProgram σ)

namespace LockedProgram

variable {σ : Type*} (racy : σ → Bool)

/-- The program in one go. -/
def run : LockedProgram σ → σ → σ
  | unlock, s => s
  | store w next, s => next.run (w s)
  | branch c yes no, s => if c s then yes.run s else no.run s
  | look yes no, s => if racy s then yes.run s else no.run s

/-- The program has still to look. -/
def looks : LockedProgram σ → Bool
  | unlock => false
  | store _ next => next.looks
  | branch _ yes no => yes.looks || no.looks
  | look _ _ => true

/-- The program looks at most once, ahead of every branch, and at nothing that it has stored. -/
def Orderly : LockedProgram σ → Prop
  | unlock => True
  | store w next => (next.looks = true → ∀ s, racy (w s) = racy s) ∧ next.Orderly
  | branch _ yes no | look yes no =>
    (yes.looks = false ∧ no.looks = false) ∧ yes.Orderly ∧ no.Orderly

/-- The action `f` of others commutes with every store, and no branch sees it. -/
def Tolerates (f : σ → σ) : LockedProgram σ → Prop
  | unlock => True
  | store w next => (∀ s, w (f s) = f (w s)) ∧ next.Tolerates f
  | branch c yes no => (∀ s, c (f s) = c s) ∧ yes.Tolerates f ∧ no.Tolerates f
  | look yes no => yes.Tolerates f ∧ no.Tolerates f

/-- Every store keeps `P`. -/
def Keeps (P : σ → Prop) : LockedProgram σ → Prop
  | unlock => True
  | store w next => (∀ s, P s → P (w s)) ∧ next.Keeps P
  | branch _ yes no | look yes no => yes.Keeps P ∧ no.Keeps P

variable {racy} {f : σ → σ} {P : σ → Prop} {p q : LockedProgram σ} {s t : σ}

/-- What every store keeps, the program keeps. -/
theorem run_keeps (h : p.Keeps P) (hs : P s) : P (p.run racy s) := by
  induction p generalizing s with
  | unlock => exact hs
  | store w next ih => exact ih h.2 (h.1 s hs)
  | branch c yes no ihyes ihno =>
    rw [run]
    split
    · exact ihyes h.1 hs
    · exact ihno h.2 hs
  | look yes no ihyes ihno =>
    rw [run]
    split
    · exact ihyes h.1 hs
    · exact ihno h.2 hs

/-- **Behind the rest.** Once the program has looked, it does not matter whether others act before
the rest of it or after. -/
theorem run_comm (hlooks : p.looks = false) (h : p.Tolerates f) (s : σ) :
    p.run racy (f s) = f (p.run racy s) := by
  induction p generalizing s with
  | unlock => rfl
  | store w next ih =>
    rw [run, run, h.1 s]
    exact ih hlooks h.2 (w s)
  | branch c yes no ihyes ihno =>
    obtain ⟨hyes, hno⟩ := Bool.or_eq_false_iff.mp hlooks
    rw [run, run, h.1 s]
    split
    · exact ihyes hyes h.2.1 s
    · exact ihno hno h.2.2 s
  | look yes no => exact absurd hlooks (by simp [looks])

/-! ### Getting to the look -/

/-- From `s` the program `p` has stored its way to `q`, in the state `t`. -/
inductive Reached (p : LockedProgram σ) (s : σ) : LockedProgram σ → σ → Prop
  | start : Reached p s p s
  | store {w : σ → σ} {next : LockedProgram σ} {t : σ} :
    Reached p s (store w next) t → Reached p s next (w t)

namespace Reached

/-- The rest leads to where the whole does in one go. -/
protected theorem run (h : Reached p s q t) : p.run racy s = q.run racy t := by
  induction h with
  | start => rfl
  | store _ ih => exact ih

/-- **Ahead of what is done.** Until the program looks, others may as well have acted before it
started. -/
protected theorem map (h : Reached p s q t) (hf : p.Tolerates f) :
    Reached p (f s) q (f t) ∧ q.Tolerates f := by
  induction h with
  | start => exact ⟨.start, hf⟩
  | @store w next t _ ih =>
    obtain ⟨hreached, hcomm, hnext⟩ := ih
    exact ⟨hcomm t ▸ hreached.store, hnext⟩

/-- What every store keeps, the rest keeps. -/
theorem keeps_rest (h : Reached p s q t) (hp : p.Keeps P) : q.Keeps P := by
  induction h with
  | start => exact hp
  | store _ ih => exact ih.2

/-- And it is kept on the way. -/
theorem keeps (h : Reached p s q t) (hp : p.Keeps P) (hs : P s) : P t := by
  induction h with
  | start => exact hs
  | @store w next t hreached ih => exact (hreached.keeps_rest hp).1 t ih

/-- The look is as it was at the start. -/
theorem racy_eq (h : Reached p s q t) (hp : p.Orderly racy) :
    (q.looks = true → racy t = racy s) ∧ q.Orderly racy := by
  induction h with
  | start => exact ⟨fun _ => rfl, hp⟩
  | @store w next t _ ih =>
    obtain ⟨hsame, hstored, hnext⟩ := ih
    exact ⟨fun hlooks => (hstored hlooks t).trans (hsame hlooks), hnext⟩

end Reached

end LockedProgram

end EnvMonitor
