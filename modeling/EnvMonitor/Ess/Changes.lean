import EnvMonitor.Ess.ValidRange
import EnvMonitor.Ess.Writes

/-!
# What one update notifies

`ess_service_update` compares the new value of a characteristic with the cached one after
casting both to 16 bits, whatever their sign. `essServiceUpdate_notifies` says that this
compares integers: in every reachable state the cached values, known or not, are of their wire
ranges, `EssState.InWire`, and there the casts lose nothing.

Hence a repeated update finds what it would store and notifies nothing. Where a field out of
range ends the update early, it ends the second one at the same place.
-/

namespace EnvMonitor

/-! ### Wire ranges of a state -/

/-- Every cached value, known or not, is one of its wire range. -/
def EssState.InWire (s : EssState) : Prop := ∀ c : EssCharId, c.InWire (s.sensor c).value

/-- A replay of writes within the wire ranges ends within them. -/
theorem Replays.inWire {enabled : EssCharId → Bool} {v v' : EssCharId → ℤ}
    {ws : List EssWrite} (h : Replays enabled v ws v') (hv : ∀ c : EssCharId, c.InWire (v c))
    (c : EssCharId) : c.InWire (v' c) := by
  induction ws generalizing v with
  | nil =>
    obtain rfl : v' = v := h
    exact hv c
  | cons w ws ih =>
    obtain ⟨-, hwire, -, hrest⟩ := h
    refine ih hrest fun c' => ?_
    by_cases hc : c' = w.char
    · subst hc
      rwa [Function.update_self]
    · rw [Function.update_of_ne hc]
      exact hv c'

namespace EssState.InWire

theorem start : essStart.InWire := by
  intro c
  cases c <;> exact ⟨by decide, by decide⟩

/-- What follows a state within the wire ranges is within them. -/
theorem of_follows {ρ : Type*} {u u' : EssRun ρ} (h : u.ess.InWire) (hu : u.Follows u') :
    u'.ess.InWire := by
  obtain ⟨-, ws, -, hreplays⟩ := hu
  exact hreplays.inWire h

theorem set {s : EssState} (h : s.InWire) {c : EssCharId} {x : EssSensor}
    (hx : c.InWire x.value) : (s.set c x).InWire := by
  intro c'
  by_cases hc : c' = c
  · subst hc
    rwa [set_sensor_self]
  · rw [set_sensor_of_ne s hc]
    exact h c'

theorem apply {u : EssRun Unit} (h : u.ess.InWire) (k : ServiceCall) : (k.apply u).ess.InWire := by
  cases k with
  | update ready data => exact h.of_follows (follows_essServiceUpdate _ data u)
  | callback ready data => exact h.of_follows (follows_sensorDataCallback _ data u)
  | ccc c value => exact h.set (h c)

theorem foldl {u : EssRun Unit} (h : u.ess.InWire) (ks : List ServiceCall) :
    (ks.foldl ServiceCall.apply u).ess.InWire := by
  induction ks generalizing u with
  | nil => exact h
  | cons k ks ih => exact ih (h.apply k)

end EssState.InWire

/-- Whatever happens during a read and whatever it is given, the cache stays in the wire
ranges. -/
theorem ManagerResults.wireKeeps (a : ManagerResults) :
    CacheKeeps a.ops fun u => u.ess.InWire where
  updateSelective _ _ h := h.foldl a.duringUpdate
  getData h := h.foldl a.duringGetData
  updateAirQualityForBle h := h.foldl a.duringUpdateForBle
  withEnv _ _ h := h
  invalidate c _ h := h.set (h c)
  store hv h := h.set hv.inWire

/-- **One step** keeps the cache in the wire ranges. -/
theorem EssState.InWire.step {s : EssState} (h : s.InWire) (e : EssEvent) :
    (essStep e s).1.InWire := by
  cases e with
  | init => exact h
  | call k => exact EssState.InWire.apply (u := ⟨s, [], ()⟩) h k
  | read c len offset results =>
    exact results.wireKeeps.essRead (u := ⟨s, [], ()⟩) c len offset h

/-- Every reachable state is within the wire ranges. -/
theorem essState_inWire {es : List EssEvent} {s : EssState} {os : List EssReply}
    (hrun : essMachine.run es essStart = some (s, os)) : s.InWire := by
  have hpreserves : essMachine.Preserves Machine.anyEvent EssState.InWire := by
    intro e s s' os _ hs hstep
    have hwire := hs.step e
    rw [Option.some.inj hstep] at hwire
    exact hwire
  exact hpreserves.run (fun _ _ => trivial) EssState.InWire.start hrun

/-! ### One update -/

/-- What one update does to a characteristic: it leaves its value alone and writes nothing, or
it stores a value of the wire range in one write. -/
theorem essUpdateFixed_write (ready : Bool) (s : EssState) (data : SensorData) (c : EssCharId) :
    let u := essUpdateFixed ready s data
    (writesOf c u.writes = [] ∧ (u.ess.sensor c).value = (s.sensor c).value) ∨
      ∃ v, c.InWire v ∧ (u.ess.sensor c).value = v ∧ (u.ess.sensor c).valueKnown = true ∧
        writesOf c u.writes = [⟨.update, c, (s.sensor c).value, v, c.attempt (s.sensor c) v⟩] := by
  intro u
  by_cases hfrozen : Frozen s data c
  · obtain ⟨hsensor, hwrites⟩ := essUpdateFixed_of_frozen hfrozen ready
    exact Or.inl ⟨hwrites, congrArg EssSensor.value hsensor⟩
  · obtain ⟨hsensor, hwrites⟩ := essUpdateFixed_of_not_frozen hfrozen ready
    have hwire := ownReading_inWire ready data c
    cases hreading : ownReading ready data c with
    | absent =>
      rw [hreading] at hsensor hwrites
      exact Or.inl ⟨hwrites, (congrArg EssSensor.value hsensor).trans rfl⟩
    | outOfRange =>
      rw [hreading] at hsensor hwrites
      exact Or.inl ⟨hwrites, (congrArg EssSensor.value hsensor).trans rfl⟩
    | value v =>
      rw [hreading] at hsensor hwrites
      exact Or.inr ⟨v, hwire v hreading, congrArg EssSensor.value hsensor,
        congrArg EssSensor.valueKnown hsensor, hwrites⟩

/-- Within the wire ranges a notification is attempted exactly on a change. -/
theorem EssCharId.attempt_eq {c : EssCharId} {x : EssSensor} {v : ℤ} (hx : c.InWire x.value)
    (hv : c.InWire v) :
    c.attempt x v =
      if x.notifyEnabled = true ∧ v ≠ x.value then some (c.payload v) else none := by
  have hchanged := EssCharId.changed_iff hx hv
  rw [attempt]
  congr 1
  rw [Bool.and_eq_true, hchanged, and_comm]

/-- **Notifications of one update.** From a state within the wire ranges, an update attempts for
each characteristic exactly the notification of the value it stores, if a client listens and the
value differs from the cached one. -/
theorem essUpdateFixed_attempts {s : EssState} (hs : s.InWire) (ready : Bool) (data : SensorData)
    (c : EssCharId) :
    let u := essUpdateFixed ready s data
    (attemptsOf c u.writes).length ≤ 1 ∧
      ∀ payload, payload ∈ attemptsOf c u.writes ↔
        ∃ w ∈ writesOf c u.writes, (s.sensor c).notifyEnabled = true ∧
          w.value ≠ (s.sensor c).value ∧ payload = c.payload w.value := by
  intro u
  rcases essUpdateFixed_write ready s data c with ⟨hwrites, -⟩ | ⟨v, hv, -, -, hwrites⟩
  · simp only [attemptsOf, u, hwrites]
    simp
  · simp only [attemptsOf, u, hwrites, EssCharId.attempt_eq (hs c) hv]
    split_ifs with hnotify
    · simp [hnotify.1, hnotify.2]
    · rw [not_and] at hnotify
      refine ⟨by simp, fun payload => iff_of_false (by simp) ?_⟩
      rintro ⟨w, hw, henabled, hne, -⟩
      obtain rfl := List.mem_singleton.mp hw
      exact hnotify henabled hne

/-- A repeated update leaves every record as the first one left it, and attempts nothing. -/
theorem essUpdateFixed_again {s : EssState} (ready : Bool) (data : SensorData) (c : EssCharId) :
    let u := essUpdateFixed ready s data
    let u' := essUpdateFixed ready u.ess data
    u'.ess.sensor c = u.ess.sensor c ∧ attemptsOf c u'.writes = [] := by
  intro u u'
  have hinit : u.ess.initialized = s.initialized := essServiceUpdate_initialized ..
  by_cases hfrozen : Frozen s data c
  · have hfrozen' : Frozen u.ess data c := by rwa [Frozen, hinit]
    obtain ⟨hsensor, hwrites⟩ := essUpdateFixed_of_frozen hfrozen' ready
    exact ⟨hsensor, by simp only [attemptsOf, u', hwrites, List.filterMap_nil]⟩
  · have hfrozen' : ¬ Frozen u.ess data c := by rwa [Frozen, hinit]
    obtain ⟨hfirst, -⟩ := essUpdateFixed_of_not_frozen hfrozen ready
    obtain ⟨hsensor, hwrites⟩ := essUpdateFixed_of_not_frozen hfrozen' ready
    -- the record is what the reading makes of it, so the reading makes it once more
    have hfixed : (ownReading ready data c).updated (u.ess.sensor c) = u.ess.sensor c := by
      simp only [u, hfirst, Reading.updated_updated]
    refine ⟨hsensor.trans hfixed, ?_⟩
    have hnone := Reading.attempt_eq_none_of_fixed (ownReading_inWire ready data c) hfixed
    rw [attemptsOf, hwrites]
    exact List.filterMap_eq_nil_iff.mpr hnone

/-- The return code of an update with fixed readiness. -/
theorem essServiceUpdate_code_fixed (ready : Bool) (s : EssState) (data : SensorData) :
    (essServiceUpdate (fun env => (ready, env)) (some data) ⟨s, [], ()⟩).code =
      if s.initialized then
        if ∃ c ∈ unblocked data, ownReading ready data c = .outOfRange then -ERANGE else 0
      else -ENODEV := by
  cases hinit : s.initialized with
  | false => simp [essServiceUpdate, hinit]
  | true =>
    rw [essServiceUpdate_code (u := (⟨s, [], ()⟩ : EssRun Unit)) hinit]
    simp only [gasGates_fixed, if_true]

/-- **Each update notifies exactly the changes.** In every reachable state, for every snapshot
and every fixed readiness of the CCS811, `ess_service_update` attempts for each characteristic
at most one notification, and attempts one exactly when it stores a value that differs from the
one cached before and the client has enabled notifications; the payload is the encoding of that
value. Called again at once, it attempts nothing, returns the same code and leaves the state
alone. -/
theorem essServiceUpdate_notifies {es : List EssEvent} {s : EssState} {os : List EssReply}
    (hrun : essMachine.run es essStart = some (s, os)) (ready : Bool) (data : SensorData) :
    let update := fun s : EssState =>
      essServiceUpdate (fun env => (ready, env)) (some data) ⟨s, [], ()⟩
    let first := update s
    let second := update first.state.ess
    (∀ c, (attemptsOf c first.state.writes).length ≤ 1 ∧
        (∀ payload, payload ∈ attemptsOf c first.state.writes ↔
          ∃ w ∈ writesOf c first.state.writes, (s.sensor c).notifyEnabled = true ∧
            w.value ≠ (s.sensor c).value ∧
              payload = leBytes c.width (toUnsigned (8 * c.width) w.value)) ∧
        ∀ w ∈ writesOf c first.state.writes, w.value = (first.state.ess.sensor c).value) ∧
      (∀ w ∈ second.state.writes, w.attempt = none) ∧ second.code = first.code ∧
        second.state.ess = first.state.ess := by
  intro update first second
  have hinit : first.state.ess.initialized = s.initialized := essServiceUpdate_initialized ..
  refine ⟨fun c => ?_, fun w hw => ?_, ?_, ?_⟩
  · obtain ⟨hlength, hattempts⟩ := essUpdateFixed_attempts (essState_inWire hrun) ready data c
    refine ⟨hlength, hattempts, fun w hw => ?_⟩
    rcases essUpdateFixed_write ready s data c with ⟨hwrites, -⟩ | ⟨v, -, hvalue, -, hwrites⟩
    · rw [show first.state.writes = (essUpdateFixed ready s data).writes from rfl, hwrites] at hw
      exact absurd hw List.not_mem_nil
    · rw [show first.state.writes = (essUpdateFixed ready s data).writes from rfl, hwrites] at hw
      obtain rfl := List.mem_singleton.mp hw
      exact hvalue.symm
  · -- a write belongs to its characteristic, which attempts nothing
    obtain ⟨-, hnone⟩ := essUpdateFixed_again (s := s) ready data w.char
    have hmem : w ∈ writesOf w.char second.state.writes := by simpa [writesOf] using hw
    exact List.filterMap_eq_nil_iff.mp hnone w hmem
  · rw [essServiceUpdate_code_fixed, essServiceUpdate_code_fixed, hinit]
  · have hsensor : second.state.ess.sensor = first.state.ess.sensor :=
      funext fun c => (essUpdateFixed_again (s := s) ready data c).1
    have hinit' : second.state.ess.initialized = first.state.ess.initialized :=
      essServiceUpdate_initialized ..
    exact EssState.ext hinit' hsensor

/-- A client subscribes to the temperature. -/
def temperatureSubscribed : List EssEvent :=
  [.init, .call (.ccc .temperature BT_GATT_CCC_NOTIFY)]

/-- `essServiceUpdate_notifies` at a snapshot of 20 °C, of which the client is told. -/
theorem essServiceUpdate_notifies_subscribed :
    ∃ s os, essMachine.run temperatureSubscribed essStart = some (s, os) ∧
      let update := fun s : EssState =>
        essServiceUpdate (fun env => (false, env)) (some (humidityAt 20)) ⟨s, [], ()⟩
      let first := update s
      let second := update first.state.ess
      attemptsOf .temperature first.state.writes = [[0xD0, 0x07]] ∧
        (∀ c, (attemptsOf c first.state.writes).length ≤ 1 ∧
          (∀ payload, payload ∈ attemptsOf c first.state.writes ↔
            ∃ w ∈ writesOf c first.state.writes, (s.sensor c).notifyEnabled = true ∧
              w.value ≠ (s.sensor c).value ∧
                payload = leBytes c.width (toUnsigned (8 * c.width) w.value)) ∧
          ∀ w ∈ writesOf c first.state.writes, w.value = (first.state.ess.sensor c).value) ∧
        (∀ w ∈ second.state.writes, w.attempt = none) ∧ second.code = first.code ∧
          second.state.ess = first.state.ess := by
  have htold : ∃ r ∈ essMachine.run temperatureSubscribed essStart,
      attemptsOf .temperature (essServiceUpdate (fun env => (false, env))
        (some (humidityAt 20)) ⟨r.1, [], ()⟩).state.writes = [[0xD0, 0x07]] := by
    decide +kernel
  obtain ⟨⟨s, os⟩, hrun, htold⟩ := htold
  exact ⟨s, os, hrun, htold, essServiceUpdate_notifies hrun false (humidityAt 20)⟩

end EnvMonitor
