import Mathlib.Data.List.Destutter
import Mathlib.Data.Nat.Find
import Mathlib.Data.Stream.Init

/-!
# The changes of a sampled signal

A detector remembers the last value it reported and reports a sample that differs from it. What
it reports of a sampled signal are its `changes`: the samples with repetitions of the one before
removed, the remembered value standing before the first.

Of a signal without end, `FirstRepeat` is the number of samples before the first that repeats the
one before; a signal that does not alternate for ever has one.
-/

namespace EnvMonitor

section Changes

variable {α β : Type*} [DecidableEq α] [DecidableEq β]

/-- The samples that differ from the one before, `last` standing before the first. -/
def changes (last : α) (signal : List α) : List α := (signal.destutter' (· ≠ ·) last).tail

@[simp]
theorem changes_nil (last : α) : changes last [] = [] := rfl

theorem changes_cons_self (last : α) (signal : List α) :
    changes last (last :: signal) = changes last signal := by
  rw [changes, List.destutter'_cons_neg signal (by simp), changes]

/-- Removing repetitions keeps the value in front. -/
private theorem destutter'_eq_cons_changes (last : α) (signal : List α) :
    signal.destutter' (· ≠ ·) last = last :: changes last signal := by
  induction signal generalizing last with
  | nil => rfl
  | cons sample signal ih =>
    by_cases h : last = sample
    · subst h
      rw [changes_cons_self, List.destutter'_cons_neg signal (by simp), ih]
    · rw [changes, List.destutter'_cons_pos signal h, List.tail_cons]

theorem changes_cons_of_ne {last sample : α} (h : sample ≠ last) (signal : List α) :
    changes last (sample :: signal) = sample :: changes sample signal := by
  rw [changes, List.destutter'_cons_pos signal h.symm, List.tail_cons,
    destutter'_eq_cons_changes]

/-- One more sample in front, as the detector tests it. -/
theorem changes_cons (last sample : α) (signal : List α) :
    changes last (sample :: signal) =
      (if sample ≠ last then [sample] else []) ++ changes sample signal := by
  by_cases h : sample = last
  · subst h
    rw [changes_cons_self, if_neg (not_not.mpr rfl), List.nil_append]
  · rw [changes_cons_of_ne h, if_pos h, List.singleton_append]

/-- No two changes in a row are the same, nor is the first the value remembered. -/
theorem isChain_changes (last : α) (signal : List α) :
    (last :: changes last signal).IsChain (· ≠ ·) := by
  rw [← destutter'_eq_cons_changes]
  exact List.isChain_destutter' _ signal last

/-- The last change is the last sample. -/
theorem getLastD_changes (last : α) (signal : List α) :
    (changes last signal).getLastD last = signal.getLastD last := by
  induction signal generalizing last with
  | nil => rfl
  | cons sample signal ih =>
    by_cases h : sample = last
    · subst h
      rw [changes_cons_self, ih, List.getLastD_cons]
    · rw [changes_cons_of_ne h, List.getLastD_cons, List.getLastD_cons, ih]

/-- A signal shows no change exactly if it stays at the value remembered. -/
theorem changes_eq_nil_iff {last : α} {signal : List α} :
    changes last signal = [] ↔ ∀ sample ∈ signal, sample = last := by
  induction signal with
  | nil => simp
  | cons sample signal ih =>
    by_cases h : sample = last
    · subst h
      rw [changes_cons_self, ih, List.forall_mem_cons, eq_self_iff_true, true_and]
    · simp [changes_cons_of_ne h, h]

/-- An encoding that keeps values apart keeps the changes. -/
theorem changes_map {f : α → β} (hf : Function.Injective f) (last : α) (signal : List α) :
    changes (f last) (signal.map f) = (changes last signal).map f := by
  induction signal generalizing last with
  | nil => rfl
  | cons sample signal ih =>
    rw [List.map_cons]
    by_cases h : sample = last
    · subst h
      rw [changes_cons_self, changes_cons_self, ih]
    · rw [changes_cons_of_ne h, changes_cons_of_ne (hf.ne h), List.map_cons, ih]

end Changes

/-! ### Signals without end -/

section Streams

variable {α : Type*}

/-- The sample at `k` repeats the one before, `last` standing before the first. -/
def RepeatsAt (last : α) (signal : Stream' α) (k : ℕ) : Prop :=
  signal.get k = (Stream'.cons last signal).get k

/-- No sample ever repeats the one before. -/
def AlternatesForever (last : α) (signal : Stream' α) : Prop := ∀ k, ¬ RepeatsAt last signal k

/-- The sample at `d` is the first that repeats the one before, so that `d` samples come before
it. -/
def FirstRepeat (last : α) (signal : Stream' α) (d : ℕ) : Prop :=
  RepeatsAt last signal d ∧ ∀ k < d, ¬ RepeatsAt last signal k

theorem repeatsAt_zero {last : α} {signal : Stream' α} :
    RepeatsAt last signal 0 ↔ signal.head = last := Iff.rfl

/-- After its first sample a signal goes on from that sample. -/
theorem repeatsAt_succ {last : α} {signal : Stream' α} {k : ℕ} :
    RepeatsAt last signal (k + 1) ↔ RepeatsAt signal.head signal.tail k := by
  rw [RepeatsAt, RepeatsAt, Stream'.eta, Stream'.get_succ, Stream'.get_succ_cons]

theorem firstRepeat_zero {last : α} {signal : Stream' α} :
    FirstRepeat last signal 0 ↔ signal.head = last := by
  rw [FirstRepeat, repeatsAt_zero]
  exact and_iff_left fun k hk => absurd hk (Nat.not_lt_zero k)

theorem firstRepeat_succ {last : α} {signal : Stream' α} {d : ℕ} :
    FirstRepeat last signal (d + 1) ↔
      signal.head ≠ last ∧ FirstRepeat signal.head signal.tail d := by
  constructor
  · rintro ⟨hrepeats, hbefore⟩
    refine ⟨hbefore 0 (Nat.succ_pos d), repeatsAt_succ.mp hrepeats, fun k hk hrep => ?_⟩
    exact hbefore (k + 1) (Nat.succ_lt_succ hk) (repeatsAt_succ.mpr hrep)
  · rintro ⟨hhead, hrepeats, hbefore⟩
    refine ⟨repeatsAt_succ.mpr hrepeats, fun k hk hrep => ?_⟩
    cases k with
    | zero => exact hhead hrep
    | succ k => exact hbefore k (Nat.lt_of_succ_lt_succ hk) (repeatsAt_succ.mp hrep)

/-- A signal that does not alternate for ever has a first repetition. -/
theorem exists_firstRepeat {last : α} {signal : Stream' α}
    (h : ¬ AlternatesForever last signal) : ∃ d, FirstRepeat last signal d := by
  classical
  have hrepeats : ∃ k, RepeatsAt last signal k := not_forall_not.mp h
  exact ⟨Nat.find hrepeats, Nat.find_spec hrepeats, fun k hk => Nat.find_min hrepeats hk⟩

/-- After its first sample an alternating signal alternates. -/
theorem AlternatesForever.tail {last : α} {signal : Stream' α}
    (h : AlternatesForever last signal) : AlternatesForever signal.head signal.tail :=
  fun k hrep => h (k + 1) (repeatsAt_succ.mpr hrep)

end Streams

end EnvMonitor
