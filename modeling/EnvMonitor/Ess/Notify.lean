import EnvMonitor.Ess.Writes
import EnvMonitor.Lib.Machine

/-!
# Which changes are notified

`ess_service_update` notifies a value that differs from the cached one, and the cache is not
what a client was last told: a read handler overwrites it without notifying, and a
notification that `bt_gatt_notify` rejects leaves it advanced. `ess_notify_exact` states what
the comparison does promise over whole runs. While notifications are enabled, an update
attempts one exactly on a change of the cached value; so a client misses nothing as long as
no read has changed the cache and no notification has failed since it was last in step.

The ledger of a run keeps, for each characteristic, the value `delivered` that its client
was last in step with, and whether it is `inStep` still.
-/

namespace EnvMonitor

/-! ### The ledger -/

/-- What a run remembers about the clients of each characteristic: the cached value when
notifications were last enabled or, if there has been one since, the value of the last
notification that `bt_gatt_notify` accepted; and whether, since then, notifications have
stayed enabled, no read has changed the cache and no notification has failed. -/
structure Ledger where
  delivered : EssCharId → ℤ
  inStep : EssCharId → Bool

namespace Ledger

/-- The ledger after a write, whose notification, if it attempted one, was answered by
`ret`. -/
def note (l : Ledger) (w : EssWrite) (ret : ℤ) : Ledger :=
  if w.attempt.isSome then
    if ret = 0 then
      ⟨Function.update l.delivered w.char w.value, Function.update l.inStep w.char true⟩
    else ⟨l.delivered, Function.update l.inStep w.char false⟩
  else if w.writer = .read ∧ w.value ≠ w.old then
    ⟨l.delivered, Function.update l.inStep w.char false⟩
  else l

/-- The ledger after the client of `c` enabled or disabled notifications at the cached value
`value`. -/
def ccc (l : Ledger) (c : EssCharId) (value : ℤ) (enabled : Bool) : Ledger :=
  if enabled then
    ⟨Function.update l.delivered c value, Function.update l.inStep c true⟩
  else ⟨l.delivered, Function.update l.inStep c false⟩

end Ledger

/-- One write of a cached value in a run: the write, whether notifications were enabled, and
the ledger before it. -/
structure NotifyObs where
  write : EssWrite
  enabled : Bool
  delivered : ℤ
  inStep : Bool
deriving DecidableEq, Repr

/-- Enter the writes of one operation into the ledger; `rets n` answers the notification of
the `n`-th write, if it attempts one. -/
def enterWrites (enabled : EssCharId → Bool) (rets : ℕ → ℤ) :
    ℕ → Ledger → List EssWrite → Ledger × List NotifyObs
  | _, l, [] => (l, [])
  | n, l, w :: ws =>
    let rest := enterWrites enabled rets (n + 1) (l.note w (rets n)) ws
    (rest.1, ⟨w, enabled w.char, l.delivered w.char, l.inStep w.char⟩ :: rest.2)

/-! ### Runs -/

/-- The service with its ledger. -/
structure NotifyState where
  ess : EssState
  ledger : Ledger

/-- The answers of the sensor manager during one read: the snapshots for which the callback
runs inside `sensor_manager_update_selective`, the two return codes, the data fetched, and
the answers to the readiness questions, in order. -/
structure ReadAnswers where
  callbacks : List SensorData
  updateRet : ℤ
  getDataRet : ℤ
  data : SensorData
  ready : ℕ → Bool

/-- The next answer to a readiness question. -/
def nextReady (ready : ℕ → Bool) (asked : ℕ) : Bool × ℕ := (ready asked, asked + 1)

/-- The sensor manager that gives these answers; the environment counts the readiness
questions. -/
def ReadAnswers.ops (a : ReadAnswers) : ManagerOps ℕ where
  updateSelective _ u :=
    (a.updateRet,
      a.callbacks.foldl (fun u data => sensorDataCallback (nextReady a.ready) (some data) u) u)
  getData u := (a.getDataRet, a.data, u)
  isReady := nextReady a.ready
  updateAirQualityForBle u := u

/-- What can happen to the service. `rets` answers the notifications of a step, in order. -/
inductive NotifyEvent where
  | init
  | update (data : Option SensorData) (ready : ℕ → Bool) (rets : ℕ → ℤ)
  | read (c : EssCharId) (len offset : ℕ) (answers : ReadAnswers) (rets : ℕ → ℤ)
  | ccc (c : EssCharId) (value : ℕ)

/-- The operation that a step runs inside the service. -/
def NotifyEvent.operation : NotifyEvent → EssRun ℕ → EssRun ℕ
  | .init, u => { u with ess := { u.ess with initialized := true } }
  | .update data ready _, u => (essServiceUpdate (nextReady ready) data u).state
  | .read c len offset answers _, u => (essRead answers.ops c len offset u).2
  | .ccc c value, u => { u with ess := cccCfgChanged c value u.ess }

/-- The answers to the notifications of a step. -/
def NotifyEvent.rets : NotifyEvent → ℕ → ℤ
  | .update _ _ rets | .read _ _ _ _ rets => rets
  | _ => fun _ => 0

/-- One step: run the operation and enter its writes, or enter what a client enabled. -/
def notifyStep (e : NotifyEvent) (s : NotifyState) : NotifyState × List NotifyObs :=
  let u := e.operation ⟨s.ess, [], 0⟩
  match e with
  | .ccc c _ => (⟨u.ess, s.ledger.ccc c (u.ess.values c) (u.ess.enabled c)⟩, [])
  | _ =>
    let (ledger, obs) := enterWrites s.ess.enabled e.rets 0 s.ledger u.writes
    (⟨u.ess, ledger⟩, obs)

/-- The service as a machine; every step is enabled. -/
def notifyMachine : Machine NotifyState NotifyEvent NotifyObs :=
  ⟨fun e s => some (notifyStep e s)⟩

/-- The service before `ess_service_init`, with no client in step. -/
def notifyStart : NotifyState := ⟨essStart, ⟨fun _ => 0, fun _ => false⟩⟩

/-! ### The invariant -/

/-- The ledger fits the state: the cached values are of their wire ranges, and a client in
step listens and was told the cached one. -/
def Ledger.Fits (l : Ledger) (enabled : EssCharId → Bool) (v : EssCharId → ℤ) : Prop :=
  ∀ c, c.InWire (v c) ∧ (l.inStep c = true → enabled c = true ∧ l.delivered c = v c)

/-- What an observation promises: an update attempts a notification of its value exactly if
a client listens and the cached value changes, and a client in step was told the value that
is replaced. -/
def NotifyObs.Exact (o : NotifyObs) : Prop :=
  o.write.writer = .update →
    (o.write.attempt = some (o.write.char.payload o.write.value) ↔
        o.enabled = true ∧ o.write.value ≠ o.write.old) ∧
      (o.inStep = true → o.delivered = o.write.old)

/-- The notification of an update is attempted exactly on a change. -/
theorem expected_update_iff {w : EssWrite} (hw : w.writer = .update)
    (hold : w.char.InWire w.old) (hvalue : w.char.InWire w.value) (enabled : Bool) :
    w.expected enabled = some (w.char.payload w.value) ↔
      enabled = true ∧ w.value ≠ w.old := by
  have hchanged := EssCharId.changed_iff hold hvalue
  simp only [EssWrite.expected, hw]
  split_ifs with h
  · rw [Bool.and_eq_true, hchanged] at h
    exact iff_of_true rfl ⟨h.2, h.1⟩
  · rw [Bool.and_eq_true, hchanged] at h
    exact iff_of_false (by simp) fun hc => h ⟨hc.2, hc.1⟩

/-- An attempt means that a client listens. -/
theorem enabled_of_expected {w : EssWrite} {enabled : Bool}
    (h : (w.expected enabled).isSome) : enabled = true := by
  rw [EssWrite.expected] at h
  cases hw : w.writer with
  | read => simp [hw] at h
  | update =>
    simp only [hw] at h
    split_ifs at h with hc
    · exact (Bool.and_eq_true_iff.mp hc).2
    · simp at h

/-- **One write.** Entering a write of the replay keeps the ledger fitting. -/
theorem Ledger.Fits.note {l : Ledger} {enabled : EssCharId → Bool} {v : EssCharId → ℤ}
    (h : l.Fits enabled v) {w : EssWrite} (hold : w.old = v w.char)
    (hwire : w.char.InWire w.value) (hattempt : w.attempt = w.expected (enabled w.char))
    (ret : ℤ) : (l.note w ret).Fits enabled (Function.update v w.char w.value) := by
  have hother : ∀ c, c ≠ w.char → (l.note w ret).inStep c = l.inStep c ∧
      (l.note w ret).delivered c = l.delivered c := by
    intro c hc
    rw [Ledger.note]
    split_ifs <;> simp [hc]
  intro c
  by_cases hc : c = w.char
  swap
  · rw [Function.update_of_ne hc, (hother c hc).1, (hother c hc).2]
    exact h c
  subst hc
  rw [Function.update_self]
  refine ⟨hwire, fun hstep => ?_⟩
  rw [Ledger.note] at hstep ⊢
  split_ifs at hstep ⊢ with hsome hret hread
  · -- accepted: the client was just told the value
    rw [hattempt] at hsome
    exact ⟨enabled_of_expected hsome, by simp⟩
  · simp at hstep
  · simp at hstep
  · -- nothing attempted and nothing overwritten: the value has not changed
    obtain ⟨henabled, hdelivered⟩ := (h w.char).2 hstep
    refine ⟨henabled, hdelivered.trans ?_⟩
    rw [← hold]
    by_contra hne
    have hvalue : w.value ≠ w.old := fun heq => hne heq.symm
    cases hw : w.writer with
    | read => exact hread ⟨hw, hvalue⟩
    | update =>
      have hin : w.char.InWire w.old := hold ▸ (h w.char).1
      have hexp := (expected_update_iff hw hin hwire (enabled w.char)).mpr ⟨henabled, hvalue⟩
      rw [hattempt, hexp] at hsome
      exact hsome rfl

/-- **One operation.** Entering the writes of a replay keeps the ledger fitting, and every
observation is exact. -/
theorem Ledger.Fits.enterWrites {enabled : EssCharId → Bool} {rets : ℕ → ℤ}
    {ws : List EssWrite} {v v' : EssCharId → ℤ} {l : Ledger} {n : ℕ} (h : l.Fits enabled v)
    (hws : Replays enabled v ws v') :
    (EnvMonitor.enterWrites enabled rets n l ws).1.Fits enabled v' ∧
      ∀ o ∈ (EnvMonitor.enterWrites enabled rets n l ws).2, o.Exact := by
  induction ws generalizing v l n with
  | nil =>
    obtain rfl : v' = v := hws
    exact ⟨h, fun o ho => absurd ho List.not_mem_nil⟩
  | cons w ws ih =>
    obtain ⟨hold, hwire, hattempt, hrest⟩ := hws
    obtain ⟨hfits, hexact⟩ := ih (n := n + 1) (h.note hold hwire hattempt (rets n)) hrest
    refine ⟨hfits, fun o ho => ?_⟩
    rcases List.mem_cons.mp ho with rfl | ho
    · intro hw
      have hin : w.char.InWire w.old := hold ▸ (h w.char).1
      refine ⟨?_, fun hstep => ?_⟩
      · change w.attempt = _ ↔ _
        rw [hattempt]
        exact expected_update_iff hw hin hwire _
      · exact ((h w.char).2 hstep).2.trans hold.symm
    · exact hexact o ho

/-! ### Runs keep the invariant -/

theorem ReadAnswers.lawful (a : ReadAnswers) : a.ops.Lawful where
  updateSelective _ u := by
    have hfold : ∀ (callbacks : List SensorData) (u : EssRun ℕ), u.Follows
        (callbacks.foldl
          (fun u data => sensorDataCallback (nextReady a.ready) (some data) u) u) := by
      intro callbacks
      induction callbacks with
      | nil => exact EssRun.Follows.refl
      | cons data callbacks ih =>
        exact fun u => (follows_sensorDataCallback _ (some data) u).trans (ih _)
    exact hfold a.callbacks u
  getData u := EssRun.Follows.refl u
  updateAirQualityForBle u := EssRun.Follows.refl u

/-- Every operation but a CCC change follows. -/
theorem NotifyEvent.follows {e : NotifyEvent} (he : ∀ c value, e ≠ .ccc c value)
    (u : EssRun ℕ) : u.Follows (e.operation u) := by
  cases e with
  | init => exact EssRun.Follows.refl u
  | update data ready rets => exact follows_essServiceUpdate _ data u
  | read c len offset answers rets => exact follows_essRead answers.lawful c len offset u
  | ccc c value => exact absurd rfl (he c value)

/-- The invariant of a run. -/
def NotifyState.Inv (s : NotifyState) : Prop := s.ledger.Fits s.ess.enabled s.ess.values

theorem notifyStart_inv : notifyStart.Inv := by
  intro c
  refine ⟨?_, fun h => absurd h Bool.false_ne_true⟩
  cases c <;> exact ⟨by decide, by decide⟩

/-- **One step** keeps the invariant and makes exact observations. -/
theorem NotifyState.Inv.step {s : NotifyState} (h : s.Inv) (e : NotifyEvent) :
    (notifyStep e s).1.Inv ∧ ∀ o ∈ (notifyStep e s).2, o.Exact := by
  have hfollow : (∀ c value, e ≠ .ccc c value) →
      (let u := e.operation ⟨s.ess, [], 0⟩
      let entered := EnvMonitor.enterWrites s.ess.enabled e.rets 0 s.ledger u.writes
      entered.1.Fits u.ess.enabled u.ess.values ∧ ∀ o ∈ entered.2, o.Exact) := by
    intro he
    obtain ⟨henabled, ws, hws, hreplays⟩ := NotifyEvent.follows he ⟨s.ess, [], 0⟩
    rw [List.nil_append] at hws
    simp only [hws, henabled]
    exact Ledger.Fits.enterWrites h hreplays
  cases e with
  | init => exact hfollow (by simp)
  | update data ready rets => exact hfollow (by simp)
  | read c len offset answers rets => exact hfollow (by simp)
  | ccc c value =>
    refine ⟨fun c' => ?_, fun o ho => absurd ho List.not_mem_nil⟩
    have hvalues : (cccCfgChanged c value s.ess).values = s.ess.values := by
      funext c''
      by_cases hc : c'' = c
      · subst hc
        simp [EssState.values, cccCfgChanged]
      · simp [EssState.values, cccCfgChanged, hc]
    change c'.InWire ((cccCfgChanged c value s.ess).values c') ∧ _
    simp only [notifyStep, NotifyEvent.operation, hvalues]
    refine ⟨(h c').1, fun hstep => ?_⟩
    rw [Ledger.ccc] at hstep ⊢
    by_cases hc : c' = c
    · subst hc
      cases henabled : (cccCfgChanged c' value s.ess).enabled c' with
      | true => simp
      | false => simp [henabled] at hstep
    · -- the other characteristics keep their clients
      have hsame : (cccCfgChanged c value s.ess).enabled c' = s.ess.enabled c' := by
        simp [EssState.enabled, cccCfgChanged, hc]
      rw [hsame]
      split_ifs at hstep ⊢ <;> simp only [Function.update_of_ne hc] at hstep ⊢ <;>
        exact (h c').2 hstep

/-- **Which changes are notified.** In every run of updates, reads with any answers of the
sensor manager, and CCC changes, with any answers of `bt_gatt_notify`: an update attempts a
notification of the value it stores exactly if notifications are enabled and the value
differs from the cached one it replaces. Hence, while the client is in step, every update
that stores another value than the one delivered attempts a notification of it. -/
theorem ess_notify_exact {es : List NotifyEvent} {s : NotifyState} {obs : List NotifyObs}
    (hrun : notifyMachine.run es notifyStart = some (s, obs)) :
    ∀ o ∈ obs, o.write.writer = .update → o.enabled = true →
      (o.write.attempt = some (o.write.char.payload o.write.value) ↔
          o.write.value ≠ o.write.old) ∧
        (o.inStep = true → o.write.value ≠ o.delivered →
          o.write.attempt = some (o.write.char.payload o.write.value)) := by
  have hstep : ∀ {e s s' os}, NotifyState.Inv s → notifyMachine.step e s = some (s', os) →
      NotifyState.Inv s' ∧ ∀ o ∈ os, NotifyObs.Exact o := by
    intro e s s' os hinv hs
    have hstep := hinv.step e
    rw [Option.some.inj hs] at hstep
    exact hstep
  have hexact : ∀ o ∈ obs, o.Exact :=
    Machine.Preserves.run_emits (A := Machine.anyEvent) (I := NotifyState.Inv)
      (fun _ hinv hs => (hstep hinv hs).1) (fun _ hinv hs => (hstep hinv hs).2)
      (fun _ _ => trivial) notifyStart_inv hrun
  intro o ho hw henabled
  obtain ⟨hattempt, htold⟩ := hexact o ho hw
  simp only [henabled, true_and] at hattempt
  -- in step, the value delivered is the one replaced
  exact ⟨hattempt, fun hin hne => hattempt.mpr (htold hin ▸ hne)⟩

/-- A snapshot with a gas reading only, 800 ppm and 10 ppb. -/
def gasSnapshot : SensorData :=
  { sensorDataZero with eco2 := 800, tvoc := 10, validMask := SensorSelect.airQuality }

/-- A client subscribes to CO2 and reads it; then an update brings the reading it read. -/
def readThenUpdate : List NotifyEvent :=
  [.init, .ccc .co2 BT_GATT_CCC_NOTIFY,
    .read .co2 4 0 ⟨[], 0, 0, gasSnapshot, fun _ => true⟩ fun _ => 0,
    .update (some gasSnapshot) (fun _ => true) fun _ => 0]

/-- A client subscribes to CO2; an update's notification fails, and the next one brings the same
reading. -/
def failedThenUpdate : List NotifyEvent :=
  [.init, .ccc .co2 BT_GATT_CCC_NOTIFY,
    .update (some gasSnapshot) (fun _ => true) fun _ => - EIO,
    .update (some gasSnapshot) (fun _ => true) fun _ => 0]

/-- In the run `es` an update stores 800 ppm while the last value delivered is the sentinel, and
attempts nothing. -/
def LosesCo2 (es : List NotifyEvent) : Prop :=
  ∃ r ∈ notifyMachine.run es notifyStart,
    ∃ o ∈ r.2, o.write.writer = .update ∧ o.enabled = true ∧ o.write.value = 800 ∧
      o.delivered = ESS_UNKNOWN_U16 ∧ o.write.attempt = none

theorem readThenUpdate_losesCo2 : LosesCo2 readThenUpdate := by
  unfold LosesCo2
  decide +kernel

theorem failedThenUpdate_losesCo2 : LosesCo2 failedThenUpdate := by
  unfold LosesCo2
  decide +kernel

/-- `ess_notify_exact` at the run in which a read comes first. -/
theorem ess_notify_exact_readThenUpdate :
    ∃ s obs, notifyMachine.run readThenUpdate notifyStart = some (s, obs) ∧
      ∀ o ∈ obs, o.write.writer = .update → o.enabled = true →
        (o.write.attempt = some (o.write.char.payload o.write.value) ↔
            o.write.value ≠ o.write.old) ∧
          (o.inStep = true → o.write.value ≠ o.delivered →
            o.write.attempt = some (o.write.char.payload o.write.value)) := by
  obtain ⟨⟨s, obs⟩, hrun, -⟩ := readThenUpdate_losesCo2
  exact ⟨s, obs, hrun, ess_notify_exact hrun⟩

/-- Such a run has a change that goes unnotified. -/
theorem LosesCo2.not_notified {es : List NotifyEvent} (h : LosesCo2 es) :
    ¬ ∀ (s : NotifyState) (obs : List NotifyObs),
      notifyMachine.run es notifyStart = some (s, obs) →
      ∀ o ∈ obs, o.write.writer = .update → o.enabled = true →
        o.write.value ≠ o.delivered →
        o.write.attempt = some (o.write.char.payload o.write.value) := by
  intro hall
  obtain ⟨⟨s, obs⟩, hrun, o, ho, hw, henabled, hvalue, hdelivered, hnone⟩ := h
  have hne : o.write.value ≠ o.delivered := by
    rw [hvalue, hdelivered]
    decide
  have hattempt := hall s obs hrun o ho hw henabled hne
  rw [hnone] at hattempt
  cases hattempt

/-- A change can go unnotified: not every update that stores another value than the one
delivered attempts a notification of it, neither where every notification is accepted nor where
nothing is read. -/
theorem ess_notify_lost :
    (¬ ∀ es : List NotifyEvent, (∀ e ∈ es, ∀ n, e.rets n = 0) →
      ∀ (s : NotifyState) (obs : List NotifyObs),
        notifyMachine.run es notifyStart = some (s, obs) →
        ∀ o ∈ obs, o.write.writer = .update → o.enabled = true →
          o.write.value ≠ o.delivered →
          o.write.attempt = some (o.write.char.payload o.write.value)) ∧
      ¬ ∀ es : List NotifyEvent, (∀ c len offset answers rets,
          NotifyEvent.read c len offset answers rets ∉ es) →
        ∀ (s : NotifyState) (obs : List NotifyObs),
          notifyMachine.run es notifyStart = some (s, obs) →
          ∀ o ∈ obs, o.write.writer = .update → o.enabled = true →
            o.write.value ≠ o.delivered →
            o.write.attempt = some (o.write.char.payload o.write.value) := by
  refine ⟨fun hall => readThenUpdate_losesCo2.not_notified (hall _ ?_),
    fun hall => failedThenUpdate_losesCo2.not_notified (hall _ ?_)⟩
  · simp [readThenUpdate, NotifyEvent.rets]
  · simp [failedThenUpdate]

end EnvMonitor
