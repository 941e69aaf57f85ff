import Mathlib.Logic.Basic
import Mathlib.Data.List.Basic
import Mathlib.Data.Option.Basic

/-!
# Machines with observations

A `Machine` is a partial step function: an event, which carries every input that the
environment supplies, takes a state to the next one and to the observations the step makes,
or is not enabled there. A run consumes a list of events from left to right and collects
the observations in order.

Two rules carry every result about runs. `Machine.Preserves.run` is the invariant rule: what
each admissible step preserves holds after any run of admissible steps.
`Machine.Preserves.run_emits` is its companion for observations: what every step from an
invariant state promises of its own observations holds of all observations of a run. Both
take a predicate on events, so that a law about runs under an environment assumption (every
lock is acquired, every mode change succeeds) is an instance and not a second induction.

Where the assumption is about an event and the state it meets, `Machine.Along` says that it
holds all along a run. `Machine.Along.invariant` and `Machine.Along.emits` are the two rules for
such runs, and `Machine.forall_emits_iff` turns an equivalence of one step, what it lets an
observer see is as it should be exactly if the assumption holds, into one of whole runs.

`Machine.Simulates` relates two machines: each step of the one, under such a condition, is matched
by a run of the other, with the same observations up to a map and the same labels of events.
`Machine.Simulates.run` carries this to whole runs.
-/

namespace EnvMonitor

universe u v w

/-- A partial step function with observations: `step e s` is the successor of `s` under the
event `e` with what the step lets an observer see, or `none` where `e` is not enabled. -/
structure Machine (σ : Type u) (ε : Type v) (ω : Type w) where
  step : ε → σ → Option (σ × List ω)

namespace Machine

variable {σ : Type u} {ε : Type v} {ω : Type w} (M : Machine σ ε ω)

/-- Run a list of events from left to right, collecting the observations. -/
def run : List ε → σ → Option (σ × List ω)
  | [], s => some (s, [])
  | e :: es, s => (M.step e s).bind fun p => (run es p.1).map fun q => (q.1, p.2 ++ q.2)

@[simp]
theorem run_nil (s : σ) : M.run [] s = some (s, []) := rfl

/-- A run over `e :: es` is one step followed by a run over `es`. -/
theorem run_cons_eq_some {e : ε} {es : List ε} {s t : σ} {os : List ω} :
    M.run (e :: es) s = some (t, os) ↔
      ∃ s₁ o₁ o₂, M.step e s = some (s₁, o₁) ∧ M.run es s₁ = some (t, o₂) ∧
        os = o₁ ++ o₂ := by
  simp only [run, Option.bind_eq_some_iff, Option.map_eq_some_iff, Prod.exists,
    Prod.mk.injEq]
  constructor
  · rintro ⟨s₁, o₁, h₁, t', o₂, h₂, rfl, rfl⟩
    exact ⟨s₁, o₁, o₂, h₁, h₂, rfl⟩
  · rintro ⟨s₁, o₁, o₂, h₁, h₂, rfl⟩
    exact ⟨s₁, o₁, h₁, t, o₂, h₂, rfl, rfl⟩

/-- `M.Preserves A I`: every step under an event admitted by `A` takes states satisfying `I`
to states satisfying `I`. -/
def Preserves (A : ε → Prop) (I : σ → Prop) : Prop :=
  ∀ {e s s' os}, A e → I s → M.step e s = some (s', os) → I s'

/-- `M.Emits A I P`: every step under an event admitted by `A` from a state satisfying `I`
makes only observations satisfying `P`. -/
def Emits (A : ε → Prop) (I : σ → Prop) (P : ω → Prop) : Prop :=
  ∀ {e s s' os}, A e → I s → M.step e s = some (s', os) → ∀ o ∈ os, P o

variable {M} {A : ε → Prop} {I : σ → Prop} {P : ω → Prop}

/-- **Invariant rule.** A preserved predicate that holds at the start of a run of admitted
events holds at its end. -/
theorem Preserves.run (hI : M.Preserves A I) {es : List ε} {s t : σ} {os : List ω}
    (hA : ∀ e ∈ es, A e) (hs : I s) (hrun : M.run es s = some (t, os)) : I t := by
  induction es generalizing s os with
  | nil =>
    simp only [run_nil, Option.some.injEq, Prod.mk.injEq] at hrun
    exact hrun.1 ▸ hs
  | cons e es ih =>
    obtain ⟨s₁, o₁, o₂, h₁, h₂, -⟩ := (M.run_cons_eq_some).mp hrun
    exact ih (fun e' he' => hA e' (List.mem_cons_of_mem e he'))
      (hI (hA e List.mem_cons_self) hs h₁) h₂

/-- **Observation rule.** If admitted steps preserve `I` and, from `I`, make only
observations satisfying `P`, then every observation of a run from `I` satisfies `P`. -/
theorem Preserves.run_emits (hI : M.Preserves A I) (hP : M.Emits A I P) {es : List ε}
    {s t : σ} {os : List ω} (hA : ∀ e ∈ es, A e) (hs : I s)
    (hrun : M.run es s = some (t, os)) : ∀ o ∈ os, P o := by
  induction es generalizing s os with
  | nil =>
    simp only [run_nil, Option.some.injEq, Prod.mk.injEq] at hrun
    simp [← hrun.2]
  | cons e es ih =>
    obtain ⟨s₁, o₁, o₂, h₁, h₂, rfl⟩ := (M.run_cons_eq_some).mp hrun
    have hhere : ∀ o ∈ o₁, P o := hP (hA e List.mem_cons_self) hs h₁
    have hrest : ∀ o ∈ o₂, P o :=
      ih (fun e' he' => hA e' (List.mem_cons_of_mem e he'))
        (hI (hA e List.mem_cons_self) hs h₁) h₂
    intro o ho
    exact (List.mem_append.mp ho).elim (hhere o) (hrest o)

/-- Every event is admitted. -/
def anyEvent (_ : ε) : Prop := True

/-! ### Conditions on the way -/

variable (M) in
/-- `M.Along C es s`: in the run over `es` from `s`, every event meets the condition `C` in the
state in which it happens. -/
def Along (C : ε → σ → Prop) : List ε → σ → Prop
  | [], _ => True
  | e :: es, s => C e s ∧ ∀ s₁ os, M.step e s = some (s₁, os) → Along C es s₁

variable {C : ε → σ → Prop}

/-- A run along which `C` holds is a step that meets it and a run along which it holds. -/
theorem along_cons_of_step {e : ε} {es : List ε} {s s₁ : σ} {os : List ω}
    (h : M.step e s = some (s₁, os)) : M.Along C (e :: es) s ↔ C e s ∧ M.Along C es s₁ := by
  rw [Along]
  refine and_congr_right fun _ => ⟨fun hall => hall s₁ os h, fun hrest s' os' h' => ?_⟩
  obtain ⟨rfl, -⟩ := Prod.mk.inj (Option.some.inj (h.symm.trans h'))
  exact hrest

instance decidableAlong [∀ e s, Decidable (C e s)] :
    (es : List ε) → (s : σ) → Decidable (M.Along C es s)
  | [], _ => isTrue trivial
  | e :: es, s =>
    match h : M.step e s with
    | none =>
      decidable_of_iff (C e s)
        ⟨fun hhere => ⟨hhere, fun _ _ hstep => absurd (h.symm.trans hstep) (by simp)⟩, And.left⟩
    | some (s₁, _) =>
      have := decidableAlong es s₁
      decidable_of_iff (C e s ∧ M.Along C es s₁) (along_cons_of_step h).symm

/-- A condition that every event meets in every state holds along every run. -/
theorem Along.of_forall {es : List ε} (h : ∀ e ∈ es, ∀ s, C e s) (s : σ) : M.Along C es s := by
  induction es generalizing s with
  | nil => trivial
  | cons e es ih =>
    exact ⟨h e List.mem_cons_self s,
      fun s₁ _ _ => ih (fun e' he' => h e' (List.mem_cons_of_mem e he')) s₁⟩

/-- Two conditions that hold along a run hold along it together. -/
theorem Along.and {C' : ε → σ → Prop} {es : List ε} {s : σ} (h : M.Along C es s)
    (h' : M.Along C' es s) : M.Along (fun e s => C e s ∧ C' e s) es s := by
  induction es generalizing s with
  | nil => trivial
  | cons e es ih =>
    exact ⟨⟨h.1, h'.1⟩, fun s₁ os hstep => ih (h.2 s₁ os hstep) (h'.2 s₁ os hstep)⟩

/-- **Conditional invariant rule.** What the steps that meet `C` preserve holds at the end of a
run along which `C` holds. -/
theorem Along.invariant
    (hI : ∀ {e s s' os}, C e s → I s → M.step e s = some (s', os) → I s') {es : List ε}
    {s t : σ} {os : List ω} (hC : M.Along C es s) (hs : I s)
    (hrun : M.run es s = some (t, os)) : I t := by
  induction es generalizing s os with
  | nil =>
    simp only [run_nil, Option.some.injEq, Prod.mk.injEq] at hrun
    exact hrun.1 ▸ hs
  | cons e es ih =>
    obtain ⟨s₁, o₁, o₂, h₁, h₂, -⟩ := (M.run_cons_eq_some).mp hrun
    obtain ⟨hhere, hrest⟩ := (along_cons_of_step h₁).mp hC
    exact ih hrest (hI hhere hs h₁) h₂

/-- **Conditional observation rule.** If the steps that meet `C` preserve `I` and, from `I`, make
only observations satisfying `P`, then so does a run along which `C` holds. -/
theorem Along.emits
    (hI : ∀ {e s s' os}, C e s → I s → M.step e s = some (s', os) → I s')
    (hP : ∀ {e s s' os}, C e s → I s → M.step e s = some (s', os) → ∀ o ∈ os, P o)
    {es : List ε} {s t : σ} {os : List ω} (hC : M.Along C es s) (hs : I s)
    (hrun : M.run es s = some (t, os)) : ∀ o ∈ os, P o := by
  induction es generalizing s os with
  | nil =>
    simp only [run_nil, Option.some.injEq, Prod.mk.injEq] at hrun
    simp [← hrun.2]
  | cons e es ih =>
    obtain ⟨s₁, o₁, o₂, h₁, h₂, rfl⟩ := (M.run_cons_eq_some).mp hrun
    obtain ⟨hhere, hrest⟩ := (along_cons_of_step h₁).mp hC
    intro o ho
    exact (List.mem_append.mp ho).elim (hP hhere hs h₁ o) (ih hrest (hI hhere hs h₁) h₂ o)

/-- **Exact conditions.** If a step from an invariant state makes only observations satisfying
`P` exactly when it meets `C`, and then keeps the invariant, then a run makes only such
observations exactly when `C` holds along it. -/
theorem forall_emits_iff
    (hI : ∀ {e s s' os}, C e s → I s → M.step e s = some (s', os) → I s')
    (hP : ∀ {e s s' os}, I s → M.step e s = some (s', os) → ((∀ o ∈ os, P o) ↔ C e s))
    {es : List ε} {s t : σ} {os : List ω} (hs : I s) (hrun : M.run es s = some (t, os)) :
    (∀ o ∈ os, P o) ↔ M.Along C es s := by
  induction es generalizing s os with
  | nil =>
    simp only [run_nil, Option.some.injEq, Prod.mk.injEq] at hrun
    simp [← hrun.2, Along]
  | cons e es ih =>
    obtain ⟨s₁, o₁, o₂, h₁, h₂, rfl⟩ := (M.run_cons_eq_some).mp hrun
    rw [along_cons_of_step h₁, ← hP hs h₁]
    simp only [List.mem_append, or_imp, forall_and]
    exact and_congr_right fun hhere => ih (hI ((hP hs h₁).mp hhere) hs h₁) h₂

/-! ### Simulation -/

/-- Two runs in a row are a run. -/
theorem run_append {es₁ es₂ : List ε} {s t u : σ} {os₁ os₂ : List ω}
    (h₁ : M.run es₁ s = some (t, os₁)) (h₂ : M.run es₂ t = some (u, os₂)) :
    M.run (es₁ ++ es₂) s = some (u, os₁ ++ os₂) := by
  induction es₁ generalizing s os₁ with
  | nil =>
    simp only [run_nil, Option.some.injEq, Prod.mk.injEq] at h₁
    obtain ⟨rfl, rfl⟩ := h₁
    exact h₂
  | cons e es₁ ih =>
    obtain ⟨s₁, o₁, o₂, hstep, hrest, rfl⟩ := (M.run_cons_eq_some).mp h₁
    rw [List.cons_append, List.append_assoc]
    exact (M.run_cons_eq_some).mpr ⟨s₁, o₁, _, hstep, ih hrest, rfl⟩

variable {τ ε' ω' κ : Type*} {N : Machine τ ε' ω'} {R : τ → σ → Prop} {f : ω → ω'}
  {l : ε → List κ} {l' : ε' → List κ} {p : σ → List κ}

variable (M C N R f l l' p) in
/-- Each step of `M` that meets `C`, from a state to which `R` relates one of `N`, is matched by a
run of `N` that ends in a related state and shows what the step shows, seen through `f`. The labels
`l` and `l'` are what the events of the two have in common. A label that `M` has had and `N` has
still to have is in `p`. -/
def Simulates : Prop :=
  ∀ {e s s' os t}, C e s → R t s → M.step e s = some (s', os) →
    ∃ es' t', N.run es' t = some (t', os.map f) ∧ R t' s' ∧
      p s ++ l e = es'.flatMap l' ++ p s'

/-- **Simulation rule.** A run along which `C` holds is matched by a run with the same labels. -/
theorem Simulates.run (h : M.Simulates C N R f l l' p) {es : List ε} {s s' : σ} {os : List ω}
    {t : τ} (hC : M.Along C es s) (hR : R t s) (hrun : M.run es s = some (s', os)) :
    ∃ es' t', N.run es' t = some (t', os.map f) ∧ R t' s' ∧
      p s ++ es.flatMap l = es'.flatMap l' ++ p s' := by
  induction es generalizing s os t with
  | nil =>
    simp only [run_nil, Option.some.injEq, Prod.mk.injEq] at hrun
    obtain ⟨rfl, rfl⟩ := hrun
    exact ⟨[], t, rfl, hR, List.append_nil _⟩
  | cons e es ih =>
    obtain ⟨s₁, o₁, o₂, h₁, h₂, rfl⟩ := (M.run_cons_eq_some).mp hrun
    obtain ⟨hhere, hrest⟩ := (along_cons_of_step h₁).mp hC
    obtain ⟨es₁, t₁, hrun₁, hR₁, hlabels₁⟩ := h hhere hR h₁
    obtain ⟨es₂, t₂, hrun₂, hR₂, hlabels₂⟩ := ih hrest hR₁ h₂
    refine ⟨es₁ ++ es₂, t₂, by rw [List.map_append]; exact run_append hrun₁ hrun₂, hR₂, ?_⟩
    calc p s ++ (e :: es).flatMap l
        = (p s ++ l e) ++ es.flatMap l := by rw [List.flatMap_cons, List.append_assoc]
      _ = es₁.flatMap l' ++ (p s₁ ++ es.flatMap l) := by rw [hlabels₁, List.append_assoc]
      _ = (es₁ ++ es₂).flatMap l' ++ p s' := by
        rw [hlabels₂, List.flatMap_append, List.append_assoc]

end Machine

end EnvMonitor
