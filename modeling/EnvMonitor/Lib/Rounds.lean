import Mathlib.Data.List.Pairwise
import Mathlib.Logic.Function.Conjugate
import Mathlib.Tactic.SplitIfs

/-!
# Rounds of selected steps

A round runs those steps of a list that are selected, in the order of the list. If a step done
twice is a step done once, and a step that the first of two rounds selects commutes with every
earlier one that the second selects, then two rounds in a row are one round of what either
selects: `runSelected_merge`.
-/

namespace EnvMonitor

variable {ι α β : Type*} {f : ι → α → α} {g : ι → β → β} {selected selected' : ι → Bool}

/-- Run the selected steps of a list, in its order. -/
def runSelected (f : ι → α → α) (selected : ι → Bool) : List ι → α → α
  | [], x => x
  | i :: is, x => runSelected f selected is (if selected i then f i x else x)

/-- A relation that every step keeps is kept by a round. -/
theorem runSelected_sim {R : α → β → Prop} (hstep : ∀ i {x y}, R x y → R (f i x) (g i y))
    (is : List ι) {x : α} {y : β} (h : R x y) :
    R (runSelected f selected is x) (runSelected g selected is y) := by
  induction is generalizing x y with
  | nil => exact h
  | cons i is ih =>
    rw [runSelected, runSelected]
    split_ifs
    · exact ih (hstep i h)
    · exact ih h

/-- What commutes with the selected steps commutes with their round. -/
theorem runSelected_commute {h : α → α} {is : List ι}
    (hcomm : ∀ i ∈ is, selected i = true → Function.Commute h (f i)) :
    Function.Commute h (runSelected f selected is) := by
  induction is with
  | nil => exact fun x => rfl
  | cons i is ih =>
    intro x
    have hrest := ih fun j hj => hcomm j (List.mem_cons_of_mem i hj)
    rw [runSelected, runSelected, hrest]
    split_ifs with hi
    · rw [hcomm i List.mem_cons_self hi]
    · rfl

/-- **Two rounds are one.** The induction is on the list: the first step of the second round moves
ahead of what is left of the first round, and meets itself there if it has been run already. -/
theorem runSelected_merge (hidem : ∀ i x, f i (f i x) = f i x) {is : List ι}
    (hcomm : is.Pairwise fun i j =>
      selected j = true → selected' i = true → Function.Commute (f i) (f j)) (x : α) :
    runSelected f selected' is (runSelected f selected is x) =
      runSelected f (fun i => selected i || selected' i) is x := by
  induction is generalizing x with
  | nil => rfl
  | cons i is ih =>
    obtain ⟨hhead, htail⟩ := List.pairwise_cons.mp hcomm
    rw [runSelected, runSelected, runSelected]
    by_cases hi' : selected' i = true
    · have hahead : Function.Commute (f i) (runSelected f selected is) :=
        runSelected_commute fun j hj hsel => hhead j hj hsel hi'
      rw [if_pos hi', hahead, ih htail]
      by_cases hi : selected i = true
      · rw [if_pos hi, hidem, if_pos (by simp [hi])]
      · rw [if_neg hi, if_pos (by simp [hi'])]
    · rw [if_neg hi', ih htail]
      simp [hi']

end EnvMonitor
