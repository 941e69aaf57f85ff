import Mathlib.Data.Finset.Card
import Mathlib.Order.Interval.Finset.Nat

/-!
# Counters of objects

A 32-bit counter that is incremented when an object is acquired and decremented when it is
released. The objects are known by their addresses, 32 bits wide and never null, so there are
fewer of them than the counter can count and it never wraps.
-/

namespace EnvMonitor

/-- Distinct addresses that are not null are fewer than `2 ^ 32`. -/
theorem card_lt_of_zero_notMem {s : Finset UInt32} (h : 0 ∉ s) : s.card < 2 ^ 32 := by
  have hrange : ∀ a ∈ s, a.toNat ∈ Finset.Ico 1 (2 ^ 32) := by
    intro a ha
    have hne : a ≠ 0 := fun hzero => h (hzero ▸ ha)
    have hpos : a.toNat ≠ 0 := fun hzero => hne (UInt32.toNat_inj.mp hzero)
    exact Finset.mem_Ico.mpr ⟨Nat.one_le_iff_ne_zero.mpr hpos, a.toNat_lt⟩
  have hcard := Finset.card_le_card_of_injOn UInt32.toNat hrange
    fun _ _ _ _ heq => UInt32.toNat_inj.mp heq
  rw [Nat.card_Ico] at hcard
  omega

/-- `n` counts the objects at the addresses `s`. -/
structure Counts (n : UInt32) (s : Finset UInt32) : Prop where
  absent : 0 ∉ s
  count : n.toNat = s.card

namespace Counts

variable {n : UInt32} {s : Finset UInt32} {a : UInt32}

theorem zero : Counts 0 ∅ := ⟨Finset.notMem_empty 0, rfl⟩

/-- The counter is zero when there is nothing to count. -/
theorem eq_zero_iff (h : Counts n s) : n = 0 ↔ s.card = 0 := by
  rw [← h.count, ← UInt32.toNat_inj]
  rfl

/-- While there is an object, the counter is not zero. -/
theorem ne_zero (h : Counts n s) (ha : a ∈ s) : n ≠ 0 := by
  intro hzero
  have hcard : s.card = 0 := h.eq_zero_iff.mp hzero
  exact absurd (Finset.card_pos.mpr ⟨a, ha⟩) (by omega)

/-- **Acquiring** an object. -/
theorem insert (h : Counts n s) (hnull : a ≠ 0) (ha : a ∉ s) :
    Counts (n + 1) (insert a s) := by
  have habsent : 0 ∉ Insert.insert a s := by
    intro hmem
    rcases Finset.mem_insert.mp hmem with heq | hmem
    · exact hnull heq.symm
    · exact h.absent hmem
  have hlt := card_lt_of_zero_notMem habsent
  rw [Finset.card_insert_of_notMem ha] at hlt
  refine ⟨habsent, ?_⟩
  rw [Finset.card_insert_of_notMem ha, UInt32.toNat_add, h.count]
  exact Nat.mod_eq_of_lt hlt

/-- **Releasing** an object. -/
theorem erase (h : Counts n s) (ha : a ∈ s) : Counts (n - 1) (s.erase a) := by
  have hpos : 0 < s.card := Finset.card_pos.mpr ⟨a, ha⟩
  have hle : (1 : UInt32) ≤ n := by
    rw [UInt32.le_iff_toNat_le, h.count]
    exact hpos
  refine ⟨fun hmem => h.absent (Finset.mem_of_mem_erase hmem), ?_⟩
  rw [Finset.card_erase_of_mem ha, UInt32.toNat_sub_of_le n 1 hle, h.count]
  rfl

end Counts

end EnvMonitor
