import EnvMonitor.Ess.Update

/-!
# What one update does

`essServiceUpdate_sensor` and `essServiceUpdate_writes` describe a whole update without its
stages: every characteristic has a reading, those behind an out-of-range environmental field
are blocked and keep their record, and every other record and its notification are a
function of the record itself and its own reading. The results about updates start there.
-/

namespace EnvMonitor

variable {ρ : Type*}

/-! ### Wire ranges -/

namespace EssCharId

/-- The values that the wire format of a characteristic and its `int32_t` cache hold. -/
def InWire (c : EssCharId) (v : ℤ) : Prop :=
  match c with
  | .temperature => -32768 ≤ v ∧ v < 32768
  | .pressure => 0 ≤ v ∧ v < 2147483648
  | _ => 0 ≤ v ∧ v < 65536

/-- The number of bytes on the wire. -/
def width : EssCharId → ℕ
  | .pressure => 4
  | _ => 2

/-- The bytes of a notification of `v`. -/
def payload (c : EssCharId) (v : ℤ) : List UInt8 :=
  leBytes c.width (toUnsigned (8 * c.width) v)

/-- Whether the trigger takes `v` for a change of the cached value `old`: both go through
the types of the update function first. -/
def changed (c : EssCharId) (old v : ℤ) : Bool :=
  match c with
  | .temperature => v != toSigned 16 old
  | .pressure => toSigned 32 v != old
  | _ => toSigned 16 v != toSigned 16 old

/-- The notification attempted when `v` is stored over the record `x`. -/
def attempt (c : EssCharId) (x : EssSensor) (v : ℤ) : Option (List UInt8) :=
  if c.changed x.value v && x.notifyEnabled then some (c.payload v) else none

/-- Within the wire range the conversions lose nothing: the trigger compares the values. -/
theorem changed_iff {c : EssCharId} {old v : ℤ} (hold : c.InWire old) (hv : c.InWire v) :
    c.changed old v = true ↔ v ≠ old := by
  have hu16 : ∀ {n m : ℤ}, 0 ≤ n ∧ n < 65536 → 0 ≤ m ∧ m < 65536 →
      ((toSigned 16 n != toSigned 16 m) = true ↔ n ≠ m) := by
    intro n m hn hm
    rw [bne_iff_ne, ne_eq, toSigned_inj_of_lt hn.1 hn.2 hm.1 hm.2]
  cases c with
  | temperature => rw [changed, toSigned_of_le hold.1 hold.2, bne_iff_ne]
  | humidity => exact hu16 hv hold
  | pressure =>
    obtain ⟨hv0, hv1⟩ := hv
    rw [changed, toSigned_of_le (by omega) hv1, bne_iff_ne]
  | co2 => exact hu16 hv hold
  | tvoc => exact hu16 hv hold

end EssCharId

/-! ### One characteristic -/

/-- Each update function is one store of a value of the wire range. -/
theorem updateSensorOf_eq {c : EssCharId} {v : ℤ} (hv : c.InWire v) (u : EssRun ρ) :
    u.updateSensorOf c v = u.store .update c v (c.attempt (u.ess.sensor c) v) := by
  cases c with
  | pressure =>
    obtain ⟨hv0, hv1⟩ := hv
    have hstored : toSigned 32 v = v := toSigned_of_le (by omega) hv1
    simp only [EssRun.updateSensorOf, EssRun.updateSensorU32, EssRun.updateSensor,
      EssCharId.attempt, EssCharId.changed, hstored]
    rfl
  | _ => rfl

namespace Reading

/-- The reading, if it is a value, is one of the wire range. -/
def InWire (c : EssCharId) (r : Reading) : Prop := ∀ v, r = .value v → c.InWire v

/-- The record after an unblocked stage. -/
def updated (r : Reading) (x : EssSensor) : EssSensor :=
  match r with
  | .absent | .outOfRange => { x with valueKnown := false }
  | .value v => { x with value := v, valueKnown := true }

/-- The writes of an unblocked stage. -/
def writes (c : EssCharId) (r : Reading) (x : EssSensor) : List EssWrite :=
  match r with
  | .absent | .outOfRange => []
  | .value v => [⟨.update, c, x.value, v, c.attempt x v⟩]

theorem valueKnown_updated (r : Reading) (x : EssSensor) :
    (r.updated x).valueKnown = true ↔ ∃ v, r = .value v := by
  cases r <;> simp [updated]

@[simp]
theorem notifyEnabled_updated (r : Reading) (x : EssSensor) :
    (r.updated x).notifyEnabled = x.notifyEnabled := by
  cases r <;> rfl

/-- Doing the same again changes nothing. -/
@[simp]
theorem updated_updated (r : Reading) (x : EssSensor) : r.updated (r.updated x) = r.updated x := by
  cases r <;> rfl

/-- Storing what is already stored attempts nothing. -/
theorem attempt_eq_none_of_fixed {c : EssCharId} {r : Reading} {x : EssSensor}
    (hr : r.InWire c) (h : r.updated x = x) : ∀ w ∈ r.writes c x, w.attempt = none := by
  cases r with
  | absent => simp [writes]
  | outOfRange => simp [writes]
  | value v =>
    have hv : v = x.value := congrArg EssSensor.value h
    have hwire : c.InWire x.value := hv ▸ hr v rfl
    have hsame : c.changed x.value v = false := by
      rw [← Bool.not_eq_true, EssCharId.changed_iff hwire (hr v rfl), not_not]
      exact hv
    simp [writes, EssCharId.attempt, hsame]

end Reading

namespace EssRun

/-- What a stage does to its own characteristic. -/
def act (c : EssCharId) (r : Reading) (u : EssRun ρ) : EssRun ρ :=
  match r with
  | .absent | .outOfRange => u.invalidateSensor c
  | .value v => u.updateSensorOf c v

@[simp]
theorem act_env (c : EssCharId) (r : Reading) (u : EssRun ρ) : (u.act c r).env = u.env := by
  cases r with
  | value v => cases c <;> rfl
  | _ => rfl

@[simp]
theorem act_initialized (c : EssCharId) (r : Reading) (u : EssRun ρ) :
    (u.act c r).ess.initialized = u.ess.initialized := by
  cases r with
  | value v => cases c <;> rfl
  | _ => rfl

theorem act_sensor_self {c : EssCharId} {r : Reading} (hr : r.InWire c) (u : EssRun ρ) :
    (u.act c r).ess.sensor c = r.updated (u.ess.sensor c) := by
  cases r with
  | absent => simp [act, invalidateSensor, EssState.invalidateSensor, Reading.updated]
  | outOfRange => simp [act, invalidateSensor, EssState.invalidateSensor, Reading.updated]
  | value v => simp [act, updateSensorOf_eq (hr v rfl), store, Reading.updated]

@[simp]
theorem act_sensor_of_ne {c c' : EssCharId} (h : c' ≠ c) (r : Reading) (u : EssRun ρ) :
    (u.act c r).ess.sensor c' = u.ess.sensor c' := by
  cases r with
  | absent => simp [act, invalidateSensor, EssState.invalidateSensor, h]
  | outOfRange => simp [act, invalidateSensor, EssState.invalidateSensor, h]
  | value v => cases c <;> simp [act, updateSensorOf, updateSensorI16, updateSensorU16,
      updateSensorU32, updateSensor, store, h]

theorem act_writes {c : EssCharId} {r : Reading} (hr : r.InWire c) (u : EssRun ρ) :
    (u.act c r).writes = u.writes ++ r.writes c (u.ess.sensor c) := by
  cases r with
  | absent => simp [act, invalidateSensor, Reading.writes]
  | outOfRange => simp [act, invalidateSensor, Reading.writes]
  | value v => simp [act, updateSensorOf_eq (hr v rfl), store, Reading.writes]

end EssRun

/-! ### The readings of an update -/

/-- The reading of the CO2 stage. -/
def co2UpdateReading (gate : GasGate) (data : SensorData) : Reading :=
  match gate with
  | .real =>
    if !essCo2InRange data.eco2 || !essTvocInRange data.tvoc then .outOfRange
    else .value (essEncodeCo2 data.eco2)
  | .conditioning => .value ESS_UNKNOWN_U16
  | .invalid => .absent

/-- The reading of the TVOC stage, which a range error of the CO2 stage pre-empts. -/
def tvocUpdateReading (co2Gate tvocGate : GasGate) (data : SensorData) : Reading :=
  if co2UpdateReading co2Gate data = .outOfRange then .outOfRange
  else
    match tvocGate with
    | .real => .value (essEncodeTvoc data.tvoc)
    | .conditioning => .value ESS_UNKNOWN_U16
    | .invalid => .absent

theorem tvocUpdateReading_eq_outOfRange {co2Gate tvocGate : GasGate} {data : SensorData} :
    tvocUpdateReading co2Gate tvocGate data = .outOfRange ↔
      co2UpdateReading co2Gate data = .outOfRange := by
  simp only [tvocUpdateReading]
  split_ifs with h
  · simp [h]
  · cases tvocGate <;> simp [h]

/-- What an update offers each characteristic, given what its two gas gates came to. -/
def updateReading (co2Gate tvocGate : GasGate) (data : SensorData) : EssCharId → Reading
  | .temperature => temperatureReading data
  | .humidity => humidityReading data
  | .pressure => pressureReading data
  | .co2 => co2UpdateReading co2Gate data
  | .tvoc => tvocUpdateReading co2Gate tvocGate data

/-- An earlier environmental stage ends the update. -/
def blocked (data : SensorData) : EssCharId → Bool
  | .temperature => false
  | .humidity => temperatureReading data == .outOfRange
  | .pressure => temperatureReading data == .outOfRange || humidityReading data == .outOfRange
  | .co2 | .tvoc =>
    temperatureReading data == .outOfRange || humidityReading data == .outOfRange ||
      pressureReading data == .outOfRange

/-- A field in range is encoded inside the wire range. -/
theorem fieldReading_inWire {c : EssCharId} {valid inRange : Bool} {encoded : ℤ}
    (h : c.InWire encoded) : (fieldReading valid inRange encoded).InWire c := by
  intro v hv
  obtain ⟨-, -, rfl⟩ := fieldReading_eq_value.mp hv
  exact h

/-- Every reading of an update is one of the wire range. -/
theorem updateReading_inWire (co2Gate tvocGate : GasGate) (data : SensorData)
    (c : EssCharId) : (updateReading co2Gate tvocGate data c).InWire c := by
  have hunknown : (0 : ℤ) ≤ ESS_UNKNOWN_U16 ∧ ESS_UNKNOWN_U16 < 65536 := by decide
  cases c with
  | temperature => exact fieldReading_inWire (essEncodeTemperature_mem data.temperature)
  | humidity => exact fieldReading_inWire (essEncodeHumidity_mem data.humidity)
  | pressure =>
    have hmem := essEncodePressure_mem data.pressure
    exact fieldReading_inWire ⟨by omega, by omega⟩
  | co2 =>
    intro v hv
    cases co2Gate with
    | real =>
      simp only [updateReading, co2UpdateReading] at hv
      split_ifs at hv
      exact Reading.value.inj hv ▸ essEncodeCo2_mem data.eco2
    | conditioning => exact Reading.value.inj hv ▸ hunknown
    | invalid => cases hv
  | tvoc =>
    intro v hv
    simp only [updateReading, tvocUpdateReading] at hv
    split_ifs at hv
    cases tvocGate with
    | real => exact Reading.value.inj hv ▸ essEncodeTvoc_mem data.tvoc
    | conditioning => exact Reading.value.inj hv ▸ hunknown
    | invalid => cases hv

/-! ### The whole update -/

theorem updateStage_eq (c : EssCharId) (r : Reading) (u : EssRun ρ) :
    updateStage c r u =
      if r = .outOfRange then .returned (-ERANGE) (u.act c r) else .next (u.act c r) := by
  cases r <;> rfl

/-- The two gates of an update whose environmental stages pass. -/
def gasGates (ready : ρ → Bool × ρ) (data : SensorData) (env : ρ) : GasGate × GasGate :=
  let airQuality := data.isValid .airQuality
  let co2Gate := gasGate ready airQuality env
  (co2Gate.1, (gasGate ready airQuality co2Gate.2).1)

/-- The unblocked characteristics, in the order of the stages. -/
def unblocked (data : SensorData) : List EssCharId :=
  [.temperature, .humidity, .pressure, .co2, .tvoc].filter fun c => !blocked data c

/-- Let each characteristic of a list do what its reading says. -/
def EssRun.actAll (reading : EssCharId → Reading) (cs : List EssCharId) (u : EssRun ρ) :
    EssRun ρ :=
  cs.foldl (fun u c => u.act c (reading c)) u

/-- The environment plays no part in what a stage does. -/
theorem act_withEnv (c : EssCharId) (r : Reading) (u : EssRun ρ) (env : ρ) :
    ({ u with env := env } : EssRun ρ).act c r = { u.act c r with env := env } := by
  cases r with
  | value v => cases c <;> rfl
  | _ => rfl

theorem co2Stage_eq (ready : ρ → Bool × ρ) (data : SensorData) (u : EssRun ρ) :
    co2Stage ready data u =
      let gate := gasGate ready (data.isValid .airQuality) u.env
      let u : EssRun ρ := { u with env := gate.2 }
      if co2UpdateReading gate.1 data = .outOfRange then
        .returned (-ERANGE) ((u.act .co2 .outOfRange).act .tvoc .outOfRange)
      else .next (u.act .co2 (co2UpdateReading gate.1 data)) := by
  rw [co2Stage]
  rcases gasGate ready (data.isValid .airQuality) u.env with ⟨gate, env⟩
  cases gate with
  | real =>
    -- the two range checks of the source are one reading
    simp only [co2UpdateReading]
    by_cases hrange : (!essCo2InRange data.eco2 || !essTvocInRange data.tvoc) = true
    · simp only [hrange, if_true]
      rfl
    · simp only [hrange, if_false, reduceCtorEq]
      rfl
  | conditioning => simp [co2UpdateReading, EssRun.act]
  | invalid => simp [co2UpdateReading, EssRun.act]

theorem tvocStage_eq {co2Gate : GasGate} {data : SensorData}
    (h : co2UpdateReading co2Gate data ≠ .outOfRange) (ready : ρ → Bool × ρ)
    (u : EssRun ρ) :
    tvocStage ready data u =
      let gate := gasGate ready (data.isValid .airQuality) u.env
      .next (({ u with env := gate.2 } : EssRun ρ).act .tvoc
        (tvocUpdateReading co2Gate gate.1 data)) := by
  rw [tvocStage]
  rcases gasGate ready (data.isValid .airQuality) u.env with ⟨gate, env⟩
  cases gate <;> simp only [tvocUpdateReading, if_neg h] <;> rfl

theorem logStage_eq (ready : ρ → Bool × ρ) (data : SensorData) (u : EssRun ρ) :
    ∃ env, logStage ready data u = .next { u with env := env } := by
  rw [logStage]
  split_ifs
  · exact ⟨u.env, rfl⟩
  · exact ⟨_, rfl⟩

/-- The gas stages let both gases do what their readings say, and fail exactly on an
out-of-range pair. -/
private theorem gasStages_eq (ready : ρ → Bool × ρ) (data : SensorData) (u : EssRun ρ) :
    let gates := gasGates ready data u.env
    let body := (co2Stage ready data u).andThen fun u =>
      (tvocStage ready data u).andThen fun u => logStage ready data u
    (∃ env, body.state = { u.actAll (updateReading gates.1 gates.2 data) [.co2, .tvoc]
        with env := env }) ∧
      body.code = if co2UpdateReading gates.1 data = .outOfRange then -ERANGE else 0 := by
  dsimp only [gasGates]
  rw [co2Stage_eq]
  dsimp only [EssRun.actAll, List.foldl_cons, List.foldl_nil, updateReading]
  rcases gasGate ready (data.isValid .airQuality) u.env with ⟨co2Gate, env₁⟩
  by_cases hco2 : co2UpdateReading co2Gate data = .outOfRange
  · have htvoc : ∀ gate, tvocUpdateReading co2Gate gate data = .outOfRange :=
      fun gate => if_pos hco2
    simp only [hco2, htvoc, if_true, Exit.andThen_returned, Exit.state_returned,
      Exit.code_returned, act_withEnv, and_true]
    exact ⟨env₁, rfl⟩
  · simp only [hco2, if_false, Exit.andThen_next, act_withEnv, tvocStage_eq hco2]
    rcases gasGate ready (data.isValid .airQuality) env₁ with ⟨tvocGate, env₂⟩
    obtain ⟨env₃, hlog⟩ := logStage_eq ready data
      ({ (u.act .co2 (co2UpdateReading co2Gate data)).act .tvoc
          (tvocUpdateReading co2Gate tvocGate data) with env := env₂ } : EssRun ρ)
    simp only [hlog, Exit.state_next, Exit.code_next, and_true]
    exact ⟨env₃, rfl⟩

/-- The result of an update: its final state up to the environment, and its return code. -/
def UpdateResult (body : Exit (EssRun ρ)) (reading : EssCharId → Reading)
    (cs : List EssCharId) (u : EssRun ρ) : Prop :=
  (∃ env, body.state = { u.actAll reading cs with env := env }) ∧
    body.code = if ∃ c ∈ cs, reading c = .outOfRange then -ERANGE else 0

/-- An out-of-range environmental stage is the last one. -/
private theorem updateResult_stop {reading : EssCharId → Reading} {c : EssCharId}
    (h : reading c = .outOfRange) (f : EssRun ρ → Exit (EssRun ρ)) (u : EssRun ρ) :
    UpdateResult ((updateStage c (reading c) u).andThen f) reading [c] u := by
  rw [updateStage_eq, if_pos h, Exit.andThen_returned]
  refine ⟨⟨u.env, ?_⟩, ?_⟩
  · rw [← EssRun.act_env c (reading c) u]
    rfl
  · rw [if_pos ⟨c, List.mem_singleton_self c, h⟩]
    rfl

/-- Any other environmental stage is followed by the rest. -/
private theorem updateResult_pass {reading : EssCharId → Reading} {c : EssCharId}
    {cs : List EssCharId} {f : EssRun ρ → Exit (EssRun ρ)} {u : EssRun ρ}
    (h : reading c ≠ .outOfRange) (hrest : UpdateResult (f (u.act c (reading c))) reading cs
      (u.act c (reading c))) :
    UpdateResult ((updateStage c (reading c) u).andThen f) reading (c :: cs) u := by
  rw [updateStage_eq, if_neg h, Exit.andThen_next]
  obtain ⟨hstate, hcode⟩ := hrest
  refine ⟨hstate, hcode.trans ?_⟩
  simp [h]

/-- **The whole update.** On an initialised service every unblocked characteristic does what
its reading says, in order, and the update fails with `-ERANGE` exactly when one of them is
out of range. -/
theorem essServiceUpdate_eq {u : EssRun ρ} (hinit : u.ess.initialized = true)
    (ready : ρ → Bool × ρ) (data : SensorData) :
    let gates := gasGates ready data u.env
    UpdateResult (essServiceUpdate ready (some data) u)
      (updateReading gates.1 gates.2 data) (unblocked data) u := by
  intro gates
  simp only [essServiceUpdate, hinit, Bool.not_true, Bool.false_eq_true, if_false]
  set reading := updateReading gates.1 gates.2 data with hreading
  -- the gates see the environment the update started in: the first stages leave it alone
  have hgas : ∀ u' : EssRun ρ, u'.env = u.env → UpdateResult ((co2Stage ready data u').andThen
      fun u => (tvocStage ready data u).andThen fun u => logStage ready data u) reading
      [.co2, .tvoc] u' := by
    intro u' henv
    obtain ⟨hstate, hcode⟩ := gasStages_eq ready data u'
    rw [henv] at hstate hcode
    refine ⟨hstate, hcode.trans ?_⟩
    simp only [hreading, updateReading, List.mem_cons, List.not_mem_nil, or_false,
      exists_eq_or_imp, exists_eq_left, tvocUpdateReading_eq_outOfRange, or_self]
    rfl
  -- the stages end at the first environmental field that is out of range
  by_cases ht : reading .temperature = .outOfRange
  · have hcs : unblocked data = [.temperature] := by
      have ht' : temperatureReading data = .outOfRange := ht
      simp [unblocked, blocked, ht']
    rw [hcs]
    exact updateResult_stop ht _ u
  by_cases hh : reading .humidity = .outOfRange
  · have hcs : unblocked data = [.temperature, .humidity] := by
      have ht' : temperatureReading data ≠ .outOfRange := ht
      have hh' : humidityReading data = .outOfRange := hh
      simp [unblocked, blocked, ht', hh']
    rw [hcs]
    exact updateResult_pass ht (updateResult_stop hh _ _)
  by_cases hp : reading .pressure = .outOfRange
  · have hcs : unblocked data = [.temperature, .humidity, .pressure] := by
      have ht' : temperatureReading data ≠ .outOfRange := ht
      have hh' : humidityReading data ≠ .outOfRange := hh
      have hp' : pressureReading data = .outOfRange := hp
      simp [unblocked, blocked, ht', hh', hp']
    rw [hcs]
    exact updateResult_pass ht (updateResult_pass hh (updateResult_stop hp _ _))
  · have hcs : unblocked data = [.temperature, .humidity, .pressure, .co2, .tvoc] := by
      have ht' : temperatureReading data ≠ .outOfRange := ht
      have hh' : humidityReading data ≠ .outOfRange := hh
      have hp' : pressureReading data ≠ .outOfRange := hp
      simp [unblocked, blocked, ht', hh', hp']
    rw [hcs]
    exact updateResult_pass ht (updateResult_pass hh (updateResult_pass hp
      (hgas _ (by simp))))

/-- Before `ess_service_init`, or without a snapshot, nothing happens. -/
theorem essServiceUpdate_state_of_idle {u : EssRun ρ} {data : Option SensorData}
    (h : u.ess.initialized = false ∨ data = none) (ready : ρ → Bool × ρ) :
    (essServiceUpdate ready data u).state = u := by
  rcases h with hinit | rfl
  · simp [essServiceUpdate, hinit]
  · rw [essServiceUpdate]
    split_ifs <;> rfl

/-- An update does not initialise the service. -/
theorem essServiceUpdate_initialized (ready : ρ → Bool × ρ) (data : Option SensorData)
    (u : EssRun ρ) :
    (essServiceUpdate ready data u).state.ess.initialized = u.ess.initialized := by
  have hact : ∀ (reading : EssCharId → Reading) (cs : List EssCharId) (u : EssRun ρ),
      (u.actAll reading cs).ess.initialized = u.ess.initialized := by
    intro reading cs
    induction cs with
    | nil => exact fun _ => rfl
    | cons c cs ih => exact fun u => (ih _).trans (EssRun.act_initialized c (reading c) u)
  cases hinit : u.ess.initialized with
  | false => rw [essServiceUpdate_state_of_idle (Or.inl hinit), hinit]
  | true =>
    cases data with
    | none => rw [essServiceUpdate_state_of_idle (Or.inr rfl), hinit]
    | some data =>
      obtain ⟨⟨env, hstate⟩, -⟩ := essServiceUpdate_eq hinit ready data
      rw [hstate]
      exact (hact _ _ u).trans hinit

/-! ### Records and writes after an update -/

/-- Distinct characteristics do not interfere: in a list without repetitions, each one acts
on the record it started with. -/
theorem actAll_spec {reading : EssCharId → Reading} {cs : List EssCharId}
    (hr : ∀ c, (reading c).InWire c) (hcs : cs.Nodup) (u : EssRun ρ) :
    (∀ c, (u.actAll reading cs).ess.sensor c =
        if c ∈ cs then (reading c).updated (u.ess.sensor c) else u.ess.sensor c) ∧
      (u.actAll reading cs).writes =
        u.writes ++ cs.flatMap fun c => (reading c).writes c (u.ess.sensor c) := by
  induction cs generalizing u with
  | nil => exact ⟨fun c => by simp [EssRun.actAll], by simp [EssRun.actAll]⟩
  | cons c cs ih =>
    obtain ⟨hc, hcs⟩ := List.nodup_cons.mp hcs
    -- the head acts on its own record, so the rest find theirs as they were
    obtain ⟨hsensor, hwrites⟩ := ih hcs (u.act c (reading c))
    constructor
    · intro c'
      refine (hsensor c').trans ?_
      by_cases hcc : c' = c
      · subst hcc
        rw [if_neg hc, if_pos List.mem_cons_self, EssRun.act_sensor_self (hr c')]
      · rw [EssRun.act_sensor_of_ne hcc]
        simp [hcc]
    · refine hwrites.trans ?_
      rw [EssRun.act_writes (hr c), List.append_assoc, List.flatMap_cons]
      congr 2
      refine List.flatMap_congr fun c' hc' => ?_
      have hne : c' ≠ c := fun h => hc (h ▸ hc')
      rw [EssRun.act_sensor_of_ne hne]

theorem nodup_unblocked (data : SensorData) : (unblocked data).Nodup :=
  List.Nodup.filter _ (by decide)

theorem mem_unblocked {data : SensorData} {c : EssCharId} :
    c ∈ unblocked data ↔ blocked data c = false := by
  cases c <;> simp [unblocked]

/-- **Records.** After an update of an initialised service, a blocked characteristic has the
record it had and every other one what its reading makes of it. -/
theorem essServiceUpdate_sensor {u : EssRun ρ} (hinit : u.ess.initialized = true)
    (ready : ρ → Bool × ρ) (data : SensorData) (c : EssCharId) :
    let gates := gasGates ready data u.env
    (essServiceUpdate ready (some data) u).state.ess.sensor c =
      if blocked data c then u.ess.sensor c
      else (updateReading gates.1 gates.2 data c).updated (u.ess.sensor c) := by
  intro gates
  obtain ⟨⟨env, hstate⟩, -⟩ := essServiceUpdate_eq hinit ready data
  rw [hstate]
  refine ((actAll_spec (updateReading_inWire gates.1 gates.2 data)
    (nodup_unblocked data) u).1 c).trans ?_
  simp only [mem_unblocked]
  cases blocked data c <;> rfl

/-- **Writes.** The writes an update adds, in the order of the stages. -/
theorem essServiceUpdate_writes {u : EssRun ρ} (hinit : u.ess.initialized = true)
    (ready : ρ → Bool × ρ) (data : SensorData) :
    let gates := gasGates ready data u.env
    (essServiceUpdate ready (some data) u).state.writes =
      u.writes ++ (unblocked data).flatMap fun c =>
        (updateReading gates.1 gates.2 data c).writes c (u.ess.sensor c) := by
  intro gates
  obtain ⟨⟨env, hstate⟩, -⟩ := essServiceUpdate_eq hinit ready data
  rw [hstate]
  exact (actAll_spec (updateReading_inWire gates.1 gates.2 data)
    (nodup_unblocked data) u).2

/-- The writes of one characteristic. -/
def writesOf (c : EssCharId) (writes : List EssWrite) : List EssWrite :=
  writes.filter fun w => w.char = c

@[simp]
theorem writesOf_append (c : EssCharId) (ws ws' : List EssWrite) :
    writesOf c (ws ++ ws') = writesOf c ws ++ writesOf c ws' := List.filter_append ..

/-- A stage writes its own characteristic only. -/
theorem writesOf_writes (c c' : EssCharId) (r : Reading) (x : EssSensor) :
    writesOf c (r.writes c' x) = if c' = c then r.writes c' x else [] := by
  cases r with
  | absent => simp [Reading.writes, writesOf]
  | outOfRange => simp [Reading.writes, writesOf]
  | value v =>
    by_cases h : c' = c
    · simp [Reading.writes, writesOf, h]
    · simp [Reading.writes, writesOf, h]

private theorem writesOf_flatMap {reading : EssCharId → Reading} {x : EssCharId → EssSensor}
    {cs : List EssCharId} (hcs : cs.Nodup) (c : EssCharId) :
    writesOf c (cs.flatMap fun c' => (reading c').writes c' (x c')) =
      if c ∈ cs then (reading c).writes c (x c) else [] := by
  induction cs with
  | nil => rfl
  | cons c' cs ih =>
    obtain ⟨hc', hcs⟩ := List.nodup_cons.mp hcs
    rw [List.flatMap_cons, writesOf_append, ih hcs, writesOf_writes]
    by_cases h : c' = c
    · subst h
      simp [hc']
    · have hne : c ≠ c' := fun h' => h h'.symm
      simp [h, hne]

/-- An update writes an unblocked characteristic at most once, and a blocked one never. -/
theorem writesOf_essServiceUpdate {u : EssRun ρ} (hinit : u.ess.initialized = true)
    (ready : ρ → Bool × ρ) (data : SensorData) (c : EssCharId) :
    let gates := gasGates ready data u.env
    writesOf c (essServiceUpdate ready (some data) u).state.writes =
      writesOf c u.writes ++
        if blocked data c then []
        else (updateReading gates.1 gates.2 data c).writes c (u.ess.sensor c) := by
  intro gates
  rw [essServiceUpdate_writes hinit, writesOf_append,
    writesOf_flatMap (nodup_unblocked data)]
  simp only [mem_unblocked]
  cases blocked data c <;> rfl

/-- The return code of an update of an initialised service. -/
theorem essServiceUpdate_code {u : EssRun ρ} (hinit : u.ess.initialized = true)
    (ready : ρ → Bool × ρ) (data : SensorData) :
    let gates := gasGates ready data u.env
    (essServiceUpdate ready (some data) u).code =
      if ∃ c ∈ unblocked data, updateReading gates.1 gates.2 data c = .outOfRange
      then -ERANGE else 0 :=
  (essServiceUpdate_eq hinit ready data).2

/-! ### Invariants of an update -/

/-- The value an update stores of the field of a snapshot. -/
def EssCharId.encoded (c : EssCharId) (data : SensorData) : ℤ :=
  match c with
  | .temperature => essEncodeTemperature data.temperature
  | .humidity => essEncodeHumidity data.humidity
  | .pressure => essEncodePressure data.pressure
  | .co2 => essEncodeCo2 data.eco2
  | .tvoc => essEncodeTvoc data.tvoc

/-- `P` survives each thing an update on `data` may do. A gas value is stored only after the
CCS811 has just been found ready. -/
structure UpdateKeeps (ready : ρ → Bool × ρ) (data : SensorData) (P : EssRun ρ → Prop) :
    Prop where
  asked : ∀ {u : EssRun ρ}, P u → P { u with env := (ready u.env).2 }
  invalidate : ∀ c {u : EssRun ρ}, P u → P (u.invalidateSensor c)
  environment : ∀ {c} {u : EssRun ρ}, c ≠ .co2 → c ≠ .tvoc → P u →
    P (u.updateSensorOf c (c.encoded data))
  sentinel : ∀ {c} {u : EssRun ρ}, c = .co2 ∨ c = .tvoc → P u →
    P (u.updateSensorOf c ESS_UNKNOWN_U16)
  gas : ∀ {c} {u : EssRun ρ}, c = .co2 ∨ c = .tvoc → data.isValid .airQuality = true →
    (ready u.env).1 = true → P u →
      P (({ u with env := (ready u.env).2 } : EssRun ρ).updateSensorOf c (c.encoded data))

namespace UpdateKeeps

variable {ready : ρ → Bool × ρ} {data : SensorData} {P : EssRun ρ → Prop}

private theorem updateStage (h : UpdateKeeps ready data P) {c : EssCharId}
    (hco2 : c ≠ .co2) (htvoc : c ≠ .tvoc) (valid inRange : Bool) {u : EssRun ρ} (hu : P u) :
    P (updateStage c (fieldReading valid inRange (c.encoded data)) u).state := by
  cases valid with
  | false => exact h.invalidate c hu
  | true =>
    cases inRange with
    | false => exact h.invalidate c hu
    | true => exact h.environment hco2 htvoc hu

/-- What a gate leaves, and what a gas stage whose fields are in range makes of it. -/
private theorem gate (h : UpdateKeeps ready data P) {c : EssCharId}
    (hc : c = .co2 ∨ c = .tvoc) {u : EssRun ρ} (hu : P u) :
    let gate := gasGate ready (data.isValid .airQuality) u.env
    P { u with env := gate.2 } ∧
      (gate.1 = .real → P (({ u with env := gate.2 } : EssRun ρ).updateSensorOf c
        (c.encoded data))) := by
  have hasked : P { u with env := (ready u.env).2 } := h.asked hu
  rw [gasGate]
  cases hvalid : data.isValid .airQuality with
  | false =>
    -- the readiness is asked once, by the second condition
    rcases hcall : ready u.env with ⟨isReady, env⟩
    rw [hcall] at hasked
    cases isReady <;> simpa [hcall] using hasked
  | true =>
    rcases hcall : ready u.env with ⟨isReady, env⟩
    rw [hcall] at hasked
    cases isReady with
    | true =>
      have hgas := h.gas hc hvalid (by rw [hcall]) hu
      rw [hcall] at hgas
      simpa [hcall] using ⟨hasked, hgas⟩
    | false =>
      have hagain : P { u with env := (ready env).2 } := h.asked hasked
      rcases hcall' : ready env with ⟨isReady, env'⟩
      rw [hcall'] at hagain
      cases isReady <;> simpa [hcall, hcall'] using hagain

private theorem co2Stage (h : UpdateKeeps ready data P) {u : EssRun ρ} (hu : P u) :
    P (co2Stage ready data u).state := by
  obtain ⟨hasked, hreal⟩ := h.gate (Or.inl rfl) hu
  rcases hgate : gasGate ready (data.isValid .airQuality) u.env with ⟨gate, env⟩
  rw [hgate] at hasked hreal
  rw [EnvMonitor.co2Stage, hgate]
  cases gate with
  | real =>
    dsimp only
    split_ifs
    · exact h.invalidate .tvoc (h.invalidate .co2 hasked)
    · exact hreal rfl
  | conditioning => exact h.sentinel (Or.inl rfl) hasked
  | invalid => exact h.invalidate .co2 hasked

private theorem tvocStage (h : UpdateKeeps ready data P) {u : EssRun ρ} (hu : P u) :
    P (tvocStage ready data u).state := by
  obtain ⟨hasked, hreal⟩ := h.gate (Or.inr rfl) hu
  rcases hgate : gasGate ready (data.isValid .airQuality) u.env with ⟨gate, env⟩
  rw [hgate] at hasked hreal
  rw [EnvMonitor.tvocStage, hgate]
  cases gate with
  | real => exact hreal rfl
  | conditioning => exact h.sentinel (Or.inr rfl) hasked
  | invalid => exact h.invalidate .tvoc hasked

private theorem logStage (h : UpdateKeeps ready data P) {u : EssRun ρ} (hu : P u) :
    P (logStage ready data u).state := by
  rw [EnvMonitor.logStage]
  split_ifs
  · exact hu
  · exact h.asked hu

/-- **Update rule.** What survives each thing an update may do survives the update. -/
theorem essServiceUpdate (h : UpdateKeeps ready data P) {u : EssRun ρ} (hu : P u) :
    P (essServiceUpdate ready (some data) u).state := by
  have htemp : ∀ u, P u →
      P (EnvMonitor.updateStage .temperature (temperatureReading data) u).state :=
    fun u hu => h.updateStage (by decide) (by decide) _ _ hu
  have hhum : ∀ u, P u → P (EnvMonitor.updateStage .humidity (humidityReading data) u).state :=
    fun u hu => h.updateStage (by decide) (by decide) _ _ hu
  have hpress : ∀ u, P u → P (EnvMonitor.updateStage .pressure (pressureReading data) u).state :=
    fun u hu => h.updateStage (by decide) (by decide) _ _ hu
  simp only [EnvMonitor.essServiceUpdate]
  split_ifs
  · exact hu
  · refine Exit.andThen_keeps (htemp u hu) fun u hu => ?_
    refine Exit.andThen_keeps (hhum u hu) fun u hu => ?_
    refine Exit.andThen_keeps (hpress u hu) fun u hu => ?_
    refine Exit.andThen_keeps (h.co2Stage hu) fun u hu => ?_
    exact Exit.andThen_keeps (h.tvocStage hu) fun u hu => h.logStage hu

end UpdateKeeps

/-- The callback keeps what every update keeps. -/
theorem sensorDataCallback_keeps {ready : ρ → Bool × ρ} {P : EssRun ρ → Prop}
    {data : Option SensorData} (h : ∀ d, data = some d → UpdateKeeps ready d P)
    {u : EssRun ρ} (hu : P u) : P (sensorDataCallback ready data u) := by
  rw [sensorDataCallback]
  split_ifs with hrun
  · cases data with
    | none => exact absurd hrun (by simp)
    | some d => exact (h d rfl).essServiceUpdate hu
  · exact hu

/-- An update changes the environment only by asking for the readiness. -/
theorem updateKeeps_env {ready : ρ → Bool × ρ} {J : ρ → Prop}
    (hready : ∀ {env}, J env → J (ready env).2) (data : SensorData) :
    UpdateKeeps ready data fun u => J u.env where
  asked hu := hready hu
  invalidate _ _ hu := hu
  environment {c u} _ _ hu := by
    cases c <;> exact hu
  sentinel {c u} _ hu := by
    cases c <;> exact hu
  gas {c u} _ _ _ hu := by
    cases c <;> exact hready hu

end EnvMonitor
