import EnvMonitor.Ess.Read
import EnvMonitor.SensorManager.Runs

/-!
# The service and the sensor manager among threads

A read handler calls the sensor manager several times, and between two calls, and between the
critical section of an update and its callback, other threads run: any entry points of the
sensor manager, and the callbacks of their updates. `interleavedOps` is the sensor manager as
a handler finds it then.

An invariant may be about the records of the service and the sensor manager together. It
survives if every piece of the sensor manager keeps it, for any records, and every update of
the service does, `ServiceKeeps`.
-/

namespace EnvMonitor

variable {ρ : Type*}

/-! ### Interleaving -/

/-- What another thread does at a point where the handler does not hold the mutex: a call of
the sensor manager, up to its callback, or the callback of such a call, on any snapshot. -/
inductive ForeignEvent where
  | manager (e : ManagerEvent)
  | callback (data : SensorData)

/-- One step of another thread. -/
def foreignStep (D : Drivers ρ) (u : EssRun (ManagerRun ρ)) : ForeignEvent →
    EssRun (ManagerRun ρ)
  | .manager e => { u with env := (managerStep D e u.env).1 }
  | .callback data => sensorDataCallback (sensorManagerIsCcs811Ready D) (some data) u

/-- The other threads run for a while. -/
def others (D : Drivers ρ) (es : List ForeignEvent) (u : EssRun (ManagerRun ρ)) :
    EssRun (ManagerRun ρ) :=
  es.foldl (foreignStep D) u

/-- What the other threads do while a read handler is inside its calls. -/
structure Interleaving where
  beforeUpdate : List ForeignEvent := []
  beforeCallback : List ForeignEvent := []
  afterCallback : List ForeignEvent := []
  beforeGetData : List ForeignEvent := []
  afterGetData : List ForeignEvent := []

/-- The sensor manager as a read handler calls it, among other threads. An update runs the
callback of the ESS, if it is registered, after it has released the mutex. -/
def interleavedOps (D : Drivers ρ) (i : Interleaving) : ManagerOps (ManagerRun ρ) where
  updateSelective sensors u :=
    let u := others D i.beforeUpdate u
    let (ret, snapshot, x) := sensorManagerUpdateSelective D sensors u.env
    let u := others D i.beforeCallback { u with env := x }
    let u := sensorDataCallback (sensorManagerIsCcs811Ready D) snapshot u
    (ret, others D i.afterCallback u)
  getData u :=
    let u := others D i.beforeGetData u
    let (ret, data, x) := sensorManagerGetData D u.env
    (ret, data, others D i.afterGetData { u with env := x })
  isReady x := sensorManagerIsCcs811Ready D x
  updateAirQualityForBle u := { u with env := sensorManagerUpdateAirQualityForBle D u.env }

/-! ### Invariants across threads -/

/-- All that the other threads do in it. -/
def Interleaving.events (i : Interleaving) : List ForeignEvent :=
  i.beforeUpdate ++ i.beforeCallback ++ i.afterCallback ++ i.beforeGetData ++ i.afterGetData

/-- The other thread leaves the bookkeeping of connections alone. -/
def ForeignEvent.quiet : ForeignEvent → Bool
  | .manager e => e.quiet
  | .callback _ => true

/-- `P` survives each step of another thread that `A` admits. -/
structure ForeignKeeps (D : Drivers ρ) (A : ForeignEvent → Prop)
    (P : EssRun (ManagerRun ρ) → Prop) : Prop where
  step : ∀ {e : ForeignEvent} {u}, A e → P u → P (foreignStep D u e)

namespace ForeignKeeps

variable {D : Drivers ρ} {A : ForeignEvent → Prop} {P : EssRun (ManagerRun ρ) → Prop}
  {u : EssRun (ManagerRun ρ)}

theorem runOthers (hP : ForeignKeeps D A P) {es : List ForeignEvent} (hes : ∀ e ∈ es, A e)
    (hu : P u) : P (others D es u) := by
  induction es generalizing u with
  | nil => exact hu
  | cons e es ih =>
    have hstep : P (foreignStep D u e) := hP.step (hes e List.mem_cons_self) hu
    exact ih (fun e' he' => hes e' (List.mem_cons_of_mem e he')) hstep

/-- The callback on no snapshot does nothing. -/
theorem runCallback (hP : ForeignKeeps D A P) (hquiet : ∀ e, e.quiet = true → A e)
    (data : Option SensorData) (hu : P u) :
    P (sensorDataCallback (sensorManagerIsCcs811Ready D) data u) := by
  cases data with
  | none =>
    rw [sensorDataCallback, Option.isSome_none, Bool.and_false]
    exact hu
  | some data => exact hP.step (hquiet (.callback data) rfl) hu

/-- A handler's own calls are steps that another thread might make, too. -/
theorem updateSelective (hP : ForeignKeeps D A P) (hquiet : ∀ e, e.quiet = true → A e)
    {i : Interleaving} (hi : ∀ e ∈ i.events, A e) (sensors : SensorSelect) (hu : P u) :
    P ((interleavedOps D i).updateSelective sensors u).2 := by
  simp only [Interleaving.events, List.mem_append, or_imp, forall_and] at hi
  obtain ⟨⟨⟨⟨hupdate, hcallback⟩, hafter⟩, -⟩, -⟩ := hi
  have hbefore := hP.runOthers hupdate hu
  have hown := hP.step (hquiet (.manager (.updateSelective sensors)) rfl) hbefore
  exact hP.runOthers hafter
    (hP.runCallback hquiet _ (hP.runOthers hcallback hown))

theorem getData (hP : ForeignKeeps D A P) (hquiet : ∀ e, e.quiet = true → A e)
    {i : Interleaving} (hi : ∀ e ∈ i.events, A e) (hu : P u) :
    P ((interleavedOps D i).getData u).2.2 := by
  simp only [Interleaving.events, List.mem_append, or_imp, forall_and] at hi
  obtain ⟨⟨-, hget⟩, hafter⟩ := hi
  have hbefore := hP.runOthers hget hu
  have hown := hP.step (hquiet (.manager .getData) rfl) hbefore
  exact hP.runOthers hafter hown

end ForeignKeeps

/-- `I` survives the pieces of the sensor manager, whatever the records of the service, and the
updates of the service. -/
structure ServiceKeeps (D : Drivers ρ) (I : EssState → ManagerRun ρ → Prop) : Prop where
  manager : ∀ ess, Maintained D (I ess)
  update : ∀ data, UpdateKeeps (sensorManagerIsCcs811Ready D) data
    fun u : EssRun (ManagerRun ρ) => I u.ess u.env

namespace ServiceKeeps

variable {D : Drivers ρ} {I : EssState → ManagerRun ρ → Prop} {u : EssRun (ManagerRun ρ)}

theorem runCallback (hI : ServiceKeeps D I) (data : Option SensorData) (hu : I u.ess u.env) :
    let u' := sensorDataCallback (sensorManagerIsCcs811Ready D) data u
    I u'.ess u'.env :=
  sensorDataCallback_keeps (P := fun u => I u.ess u.env) (fun d _ => hI.update d) hu

/-- It survives every step of another thread. -/
theorem foreignKeeps (hI : ServiceKeeps D I) :
    ForeignKeeps D (fun _ => True) fun u => I u.ess u.env where
  step {e u} _ hu := by
    cases e with
    | manager e => exact (hI.manager u.ess).step e hu
    | callback data => exact hI.runCallback (some data) hu

theorem runOthers (hI : ServiceKeeps D I) (es : List ForeignEvent) (hu : I u.ess u.env) :
    I (others D es u).ess (others D es u).env :=
  hI.foreignKeeps.runOthers (fun _ _ => trivial) hu

theorem updateSelective (hI : ServiceKeeps D I) (i : Interleaving) (sensors : SensorSelect)
    (hu : I u.ess u.env) :
    let u' := ((interleavedOps D i).updateSelective sensors u).2
    I u'.ess u'.env :=
  hI.foreignKeeps.updateSelective (fun _ _ => trivial) (fun _ _ => trivial) sensors hu

theorem getData (hI : ServiceKeeps D I) (i : Interleaving) (hu : I u.ess u.env) :
    let u' := ((interleavedOps D i).getData u).2.2
    I u'.ess u'.env :=
  hI.foreignKeeps.getData (fun _ _ => trivial) (fun _ _ => trivial) hu

end ServiceKeeps

/-- What is kept survives what other threads do, unless it concerns connections. -/
theorem Kept.foreignKeeps {D : Drivers ρ} {I : ManagerRun ρ → Prop} (hI : Kept D I) :
    ForeignKeeps D (fun e => e.quiet = true) fun u => I u.env where
  step {e u} he hu := by
    cases e with
    | manager e => exact hI.step he hu
    | callback data =>
      exact sensorDataCallback_keeps (P := fun u => I u.env)
        (fun d _ => updateKeeps_env hI.isReady d) hu

/-- It survives the reads of the service, too. -/
theorem Kept.readKeeps {D : Drivers ρ} {I : ManagerRun ρ → Prop} (hI : Kept D I)
    {i : Interleaving} (hi : ∀ e ∈ i.events, e.quiet = true) :
    ReadKeeps (interleavedOps D i) (fun u => I u.env) I where
  updateSelective sensors _ hu :=
    hI.foreignKeeps.updateSelective (fun _ he => he) hi sensors hu
  getData hu := hI.foreignKeeps.getData (fun _ he => he) hi hu
  asked hu := hI.isReady hu
  invalidate _ _ hu := hu
  environment _ _ _ _ hu := hu
  sentinel _ hu := hu
  ready hu _ := hI.isReady hu
  updateForBle hu := hI.airQualityForBle hu
  getDataReady hu := hI.foreignKeeps.getData (fun _ he => he) hi hu
  of_ready hu := hu

section Invariants

variable {D : Drivers ρ} {I : ManagerRun ρ → Prop}

/-- An invariant of the sensor manager is not touched by an update of the service, but for
its polls of the readiness. -/
theorem Maintained.serviceKeeps (hI : Maintained D I) : ServiceKeeps D fun _ => I where
  manager _ := hI
  update data := updateKeeps_env (fun henv => hI.isReady henv) data

theorem Maintained.runCallback (hI : Maintained D I) (data : Option SensorData)
    {u : EssRun (ManagerRun ρ)} (hu : I u.env) :
    I (sensorDataCallback (sensorManagerIsCcs811Ready D) data u).env :=
  hI.serviceKeeps.runCallback data hu

theorem Maintained.runOthers (hI : Maintained D I) (es : List ForeignEvent)
    {u : EssRun (ManagerRun ρ)} (hu : I u.env) : I (others D es u).env :=
  hI.serviceKeeps.runOthers es hu

/-- A maintained predicate that the read's own critical section establishes holds when the
update has returned `0`. -/
theorem interleavedUpdate_establishes (hI : Maintained D I) {i : Interleaving}
    {sensors : SensorSelect} (hsection : ∀ x, I (selectiveSection D sensors x))
    {u u₁ : EssRun (ManagerRun ρ)}
    (hupdate : (interleavedOps D i).updateSelective sensors u = (0, u₁)) : I u₁.env := by
  obtain ⟨hret, hu₁⟩ := Prod.mk.inj hupdate
  have hown : I (sensorManagerUpdateSelective D sensors (others D i.beforeUpdate u).env).2.2 := by
    rw [sensorManagerUpdateSelective, lockedUpdate_of_ret_eq_zero hret]
    exact hsection _
  -- what follows inside the call keeps it: other threads and the callback
  rw [← hu₁]
  exact hI.runOthers _ (hI.runCallback _ (hI.runOthers _ hown))

/-- If it holds before `sensor_manager_get_data`, it holds of the state whose snapshot is
fetched, which the other threads then go on from. -/
theorem interleavedGetData_holds (hI : Maintained D I) {i : Interleaving}
    {u u' : EssRun (ManagerRun ρ)} (hu : I u.env) {data : SensorData}
    (hget : (interleavedOps D i).getData u = (0, data, u')) :
    ∃ u₂ : EssRun (ManagerRun ρ), I u₂.env ∧ data = u₂.env.mgr.current ∧
      u' = others D i.afterGetData u₂ := by
  have hbefore : I (others D i.beforeGetData u).env := hI.runOthers _ hu
  rcases hcall : sensorManagerGetData D (others D i.beforeGetData u).env with
    ⟨ret, data', x⟩
  simp only [interleavedOps, hcall, Prod.mk.injEq] at hget
  obtain ⟨rfl, rfl, rfl⟩ := hget
  have hx : I x := by
    have h := hI.kept.getData hbefore
    rwa [hcall] at h
  exact ⟨{ others D i.beforeGetData u with env := x }, hx,
    (getData_of_ret_eq_zero hcall).1, rfl⟩

end Invariants

end EnvMonitor
