import EnvMonitor.Ess.Read

/-!
# The write log tells the truth

Every operation of the service, an update or a read with any callbacks inside it, logs each
write of a cached value. `EssRun.Follows` says what the log of an operation is worth: it
accounts for every change of a cached value in order, each write names the value it
replaced, and its notification is the one that `ess_service_update` attempts from that value,
or none if a read handler wrote. No operation changes what a client has enabled.
-/

namespace EnvMonitor

variable {ρ : Type*}

/-- The notification that goes with a write, from the value it replaced and whether the
client has enabled notifications. -/
def EssWrite.expected (w : EssWrite) (enabled : Bool) : Option (List UInt8) :=
  match w.writer with
  | .update =>
    if w.char.changed w.old w.value && enabled then some (w.char.payload w.value) else none
  | .read => none

/-- Starting from cached values `v`, the writes lead to `v'`, each of them from the value it
names and with the notification it should have. -/
def Replays (enabled : EssCharId → Bool) :
    (EssCharId → ℤ) → List EssWrite → (EssCharId → ℤ) → Prop
  | v, [], v' => v' = v
  | v, w :: ws, v' =>
    w.old = v w.char ∧ w.char.InWire w.value ∧ w.attempt = w.expected (enabled w.char) ∧
      Replays enabled (Function.update v w.char w.value) ws v'

theorem Replays.append {enabled : EssCharId → Bool} {v v₁ v₂ : EssCharId → ℤ}
    {ws ws' : List EssWrite} (h : Replays enabled v ws v₁) (h' : Replays enabled v₁ ws' v₂) :
    Replays enabled v (ws ++ ws') v₂ := by
  induction ws generalizing v with
  | nil =>
    obtain rfl : v₁ = v := h
    exact h'
  | cons w ws ih =>
    obtain ⟨hold, hwire, hattempt, hrest⟩ := h
    exact ⟨hold, hwire, hattempt, ih hrest⟩

/-- The cached values of a state. -/
def EssState.values (s : EssState) (c : EssCharId) : ℤ := (s.sensor c).value

/-- What the clients of a state have enabled. -/
def EssState.enabled (s : EssState) (c : EssCharId) : Bool := (s.sensor c).notifyEnabled

namespace EssRun

/-- `u'` follows `u`: the writes logged in between account for all changes of the cached
values, and nothing else that a client sees has changed. -/
def Follows (u u' : EssRun ρ) : Prop :=
  u'.ess.enabled = u.ess.enabled ∧
    ∃ ws, u'.writes = u.writes ++ ws ∧
      Replays u.ess.enabled u.ess.values ws u'.ess.values

theorem Follows.refl (u : EssRun ρ) : u.Follows u :=
  ⟨rfl, [], (List.append_nil _).symm, rfl⟩

theorem Follows.trans {u₁ u₂ u₃ : EssRun ρ} (h : u₁.Follows u₂) (h' : u₂.Follows u₃) :
    u₁.Follows u₃ := by
  obtain ⟨henabled, ws, hws, hreplays⟩ := h
  obtain ⟨henabled', ws', hws', hreplays'⟩ := h'
  rw [henabled] at hreplays'
  refine ⟨henabled'.trans henabled, ws ++ ws', ?_, hreplays.append hreplays'⟩
  rw [hws', hws, List.append_assoc]

/-- The environment plays no part. -/
theorem Follows.withEnv {u u' : EssRun ρ} (h : u.Follows u') (env : ρ) :
    u.Follows { u' with env := env } := h

/-- Invalidating writes no value. -/
theorem follows_invalidateSensor (c : EssCharId) (u : EssRun ρ) :
    u.Follows (u.invalidateSensor c) := by
  have hsame : ∀ c', ((u.invalidateSensor c).ess.sensor c').notifyEnabled =
      (u.ess.sensor c').notifyEnabled ∧
      ((u.invalidateSensor c).ess.sensor c').value = (u.ess.sensor c').value := by
    intro c'
    by_cases h : c' = c
    · subst h
      simp [invalidateSensor, EssState.invalidateSensor]
    · simp [invalidateSensor, EssState.invalidateSensor, h]
  exact ⟨funext fun c' => (hsame c').1, [], (List.append_nil _).symm,
    funext fun c' => (hsame c').2⟩

/-- A store is one write. -/
theorem follows_store {writer : EssWriter} {c : EssCharId} {value : ℤ}
    {attempt : Option (List UInt8)} {u : EssRun ρ} (hwire : c.InWire value)
    (hattempt : attempt =
      (EssWrite.mk writer c (u.ess.sensor c).value value attempt).expected
        (u.ess.enabled c)) :
    u.Follows (u.store writer c value attempt) := by
  refine ⟨funext fun c' => ?_, [_], rfl, rfl, hwire, hattempt, funext fun c' => ?_⟩
  · by_cases h : c' = c
    · subst h
      simp [store, EssState.enabled]
    · simp [store, EssState.enabled, h]
  · by_cases h : c' = c
    · subst h
      simp [store, EssState.values]
    · simp [store, EssState.values, h]

/-- Every stage of an update follows. -/
theorem follows_act {c : EssCharId} {r : Reading} (hr : r.InWire c) (u : EssRun ρ) :
    u.Follows (u.act c r) := by
  cases r with
  | absent => exact follows_invalidateSensor c u
  | outOfRange => exact follows_invalidateSensor c u
  | value v =>
    have hv := hr v rfl
    rw [act, updateSensorOf_eq hv]
    exact follows_store hv rfl

theorem follows_actAll {reading : EssCharId → Reading} (hr : ∀ c, (reading c).InWire c)
    (cs : List EssCharId) (u : EssRun ρ) : u.Follows (u.actAll reading cs) := by
  induction cs generalizing u with
  | nil => exact Follows.refl u
  | cons c cs ih => exact (follows_act (hr c) u).trans (ih _)

end EssRun

/-- **Updates follow.** -/
theorem follows_essServiceUpdate (ready : ρ → Bool × ρ) (data : Option SensorData)
    (u : EssRun ρ) : u.Follows (essServiceUpdate ready data u).state := by
  cases data with
  | none =>
    rw [essServiceUpdate_state_of_idle (Or.inr rfl)]
    exact EssRun.Follows.refl u
  | some data =>
    cases hinit : u.ess.initialized with
    | false =>
      rw [essServiceUpdate_state_of_idle (Or.inl hinit)]
      exact EssRun.Follows.refl u
    | true =>
      -- up to the environment an update is what its readings do in order
      obtain ⟨⟨env, hstate⟩, -⟩ := essServiceUpdate_eq hinit ready data
      rw [hstate]
      exact (EssRun.follows_actAll (updateReading_inWire _ _ data) _ u).withEnv env

theorem follows_sensorDataCallback (ready : ρ → Bool × ρ) (data : Option SensorData)
    (u : EssRun ρ) : u.Follows (sensorDataCallback ready data u) := by
  rw [sensorDataCallback]
  split_ifs
  · exact follows_essServiceUpdate ready data u
  · exact EssRun.Follows.refl u

/-! ### Reads -/

/-- The sensor manager's operations touch the service through its updates only. -/
structure ManagerOps.Lawful (ops : ManagerOps ρ) : Prop where
  updateSelective : ∀ sensors (u : EssRun ρ), u.Follows (ops.updateSelective sensors u).2
  getData : ∀ u : EssRun ρ, u.Follows (ops.getData u).2.2
  updateAirQualityForBle : ∀ u : EssRun ρ, u.Follows (ops.updateAirQualityForBle u)

/-- What has followed a run follows it still after anything a read does. -/
theorem ManagerOps.Lawful.cacheKeeps {ops : ManagerOps ρ} (hops : ops.Lawful) (u : EssRun ρ) :
    CacheKeeps ops u.Follows where
  updateSelective sensors _ h := h.trans (hops.updateSelective sensors _)
  getData h := h.trans (hops.getData _)
  updateAirQualityForBle h := h.trans (hops.updateAirQualityForBle _)
  withEnv env _ h := h.withEnv env
  invalidate c _ h := h.trans (EssRun.follows_invalidateSensor c _)
  store hv h := h.trans (EssRun.follows_store hv.inWire rfl)

/-- **Reads follow**, if the sensor manager is lawful. -/
theorem follows_essRead {ops : ManagerOps ρ} (hops : ops.Lawful) (c : EssCharId)
    (len offset : ℕ) (u : EssRun ρ) : u.Follows (essRead ops c len offset u).2 :=
  (hops.cacheKeeps u).essRead c len offset (EssRun.Follows.refl u)

end EnvMonitor
