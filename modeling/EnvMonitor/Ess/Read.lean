import EnvMonitor.Ess.UpdateSpec

/-!
# The read handlers

A GATT read of a characteristic, or `ess_service_local_read`, first has the sensor manager
take a fresh reading, copies it into the cached record and then serves the record's value.
Everything the handler asks of the sensor manager is a `ManagerOps`: any of its operations
may run callbacks, and other threads may run meanwhile, so each may change the whole run.

`essRead_outcome` is what every read comes to: an ATT error with the characteristic unknown,
or the bytes of a known value of the wire range that the snapshot of the read accounts for.
-/

namespace EnvMonitor

variable {ρ : Type*}

/-! ### The calls a read makes -/

/-- What the read handlers call. The two sensor manager updates run the registered callback
inside, which is `ess_service_update` on a snapshot. The data of a failed `getData` is not
looked at. -/
structure ManagerOps (ρ : Type*) where
  /-- `sensor_manager_update_selective`. -/
  updateSelective : SensorSelect → EssRun ρ → ℤ × EssRun ρ
  /-- `sensor_manager_get_data`. -/
  getData : EssRun ρ → ℤ × SensorData × EssRun ρ
  /-- `sensor_manager_is_ccs811_ready`. -/
  isReady : ρ → Bool × ρ
  /-- `sensor_manager_update_air_quality_for_ble`. -/
  updateAirQualityForBle : EssRun ρ → EssRun ρ

/-- The ATT errors of the handlers, `BT_ATT_ERR_*`. -/
inductive AttError where
  | outOfRange
  | valueNotAllowed
  | invalidOffset
deriving DecidableEq, Repr

/-- `ess_att_error_from_errno`. -/
def essAttErrorFromErrno (err : ℤ) : AttError :=
  if err = -ERANGE then .outOfRange else .valueNotAllowed

/-- `bt_gatt_attr_read` of the stack: the rest of the value from `offset` on, as far as the
buffer holds it. -/
def btGattAttrRead (len offset : ℕ) (value : List UInt8) : Except AttError (List UInt8) :=
  if offset > value.length then .error .invalidOffset else .ok ((value.drop offset).take len)

/-! ### The handlers -/

/-- Cache one field of a fresh snapshot, or invalidate its characteristic. `reading` is the
characteristic being read: only its own bad field is an error. -/
def cacheFresh (reading c : EssCharId) (r : Reading) (u : EssRun ρ) :
    Option AttError × EssRun ρ :=
  match r with
  | .absent =>
    (if reading = c then some (essAttErrorFromErrno (-ENODATA)) else none,
      u.invalidateSensor c)
  | .outOfRange =>
    (if reading = c then some (essAttErrorFromErrno (-ERANGE)) else none,
      u.invalidateSensor c)
  | .value v => (none, u.store .read c (toSigned 32 v) none)

/-- A call into the sensor manager has returned `ret`: its failure invalidates the
characteristic and is returned early. -/
def checkCall (c : EssCharId) (ret : ℤ) (u : EssRun ρ)
    (rest : EssRun ρ → Option AttError × EssRun ρ) : Option AttError × EssRun ρ :=
  if ret ≠ 0 then (some (essAttErrorFromErrno ret), u.invalidateSensor c) else rest u

/-- Cache the temperature and then the humidity of a fresh snapshot; `c` is the one read. -/
def cacheTempHumidity (c : EssCharId) (freshData : SensorData) (u : EssRun ρ) :
    Option AttError × EssRun ρ :=
  let (early, u) := cacheFresh c .temperature (temperatureReading freshData) u
  if early.isSome then (early, u)
  else cacheFresh c .humidity (humidityReading freshData) u

/-- Fetch a snapshot and cache what `cache` takes from it. -/
def fetchAndCache (ops : ManagerOps ρ) (c : EssCharId)
    (cache : SensorData → EssRun ρ → Option AttError × EssRun ρ) (u : EssRun ρ) :
    Option AttError × EssRun ρ :=
  let (ret, freshData, u) := ops.getData u
  checkCall c ret u (cache freshData)

/-- Update the selected sensors, then fetch and cache. -/
def updateAndCache (ops : ManagerOps ρ) (sensors : SensorSelect) (c : EssCharId)
    (cache : SensorData → EssRun ρ → Option AttError × EssRun ρ) (u : EssRun ρ) :
    Option AttError × EssRun ρ :=
  let (ret, u) := ops.updateSelective sensors u
  checkCall c ret u (fetchAndCache ops c cache)

/-- Return an early error, or go on to serve the value. -/
def returnOrServe (out : Option AttError × EssRun ρ)
    (serve : EssRun ρ → Except AttError (List UInt8) × EssRun ρ) :
    Except AttError (List UInt8) × EssRun ρ :=
  match out.1 with
  | some e => (.error e, out.2)
  | none => serve out.2

/-- `read_u16`. The value passes through the mask `ESS_INT16_MASK` and `int16_t`. -/
def readU16 (ops : ManagerOps ρ) (c : EssCharId) (len offset : ℕ) (u : EssRun ρ) :
    Except AttError (List UInt8) × EssRun ρ :=
  let live := c = .temperature ∨ c = .humidity
  returnOrServe
    -- a gas has been refreshed by its own handler
    (if live then updateAndCache ops .tempHumidity c (cacheTempHumidity c) u else (none, u))
    fun u =>
      if live ∧ !(u.ess.sensor c).valueKnown then
        (.error (essAttErrorFromErrno (-ENODATA)), u)
      else
        let value := toSigned 16 (toUnsigned 16 (u.ess.sensor c).value)
        (btGattAttrRead len offset (leBytes 2 (toUnsigned 16 value)), u)

/-- `read_u32`. -/
def readU32 (ops : ManagerOps ρ) (c : EssCharId) (len offset : ℕ) (u : EssRun ρ) :
    Except AttError (List UInt8) × EssRun ρ :=
  returnOrServe
    (if c = .pressure then
      updateAndCache ops .pressure .pressure
        (fun freshData => cacheFresh .pressure .pressure (pressureReading freshData)) u
    else (none, u))
    fun u =>
      if !(u.ess.sensor .pressure).valueKnown then
        (.error (essAttErrorFromErrno (-ENODATA)), u)
      else (btGattAttrRead len offset (leBytes 4 (toUnsigned 32 (u.ess.sensor c).value)), u)

/-- The body that `read_co2` and `read_tvoc` share. -/
def readGas (ops : ManagerOps ρ) (c : EssCharId) (field : SensorData → Reading)
    (len offset : ℕ) (u : EssRun ρ) : Except AttError (List UInt8) × EssRun ρ :=
  let (isReady, env) := ops.isReady u.env
  let u := { u with env := env }
  returnOrServe
    (if !isReady then (none, u.store .read c ESS_UNKNOWN_U16 none)
    else
      fetchAndCache ops c (fun freshData => cacheFresh c c (field freshData))
        (ops.updateAirQualityForBle u))
    (readU16 ops c len offset)

/-- `read_co2`. -/
def readCo2 (ops : ManagerOps ρ) (len offset : ℕ) (u : EssRun ρ) :
    Except AttError (List UInt8) × EssRun ρ :=
  readGas ops .co2 co2Reading len offset u

/-- `read_tvoc`. -/
def readTvoc (ops : ManagerOps ρ) (len offset : ℕ) (u : EssRun ρ) :
    Except AttError (List UInt8) × EssRun ρ :=
  readGas ops .tvoc tvocReading len offset u

/-- A read of a characteristic, through the handler that the service table names for it. -/
def essRead (ops : ManagerOps ρ) (c : EssCharId) (len offset : ℕ) (u : EssRun ρ) :
    Except AttError (List UInt8) × EssRun ρ :=
  match c with
  | .temperature => readU16 ops .temperature len offset u
  | .humidity => readU16 ops .humidity len offset u
  | .pressure => readU32 ops .pressure len offset u
  | .co2 => readCo2 ops len offset u
  | .tvoc => readTvoc ops len offset u

/-- A sensor manager whose every call succeeds without running the callback, that hands out
one snapshot and gives one answer about readiness. -/
def ManagerOps.fixed (ready : Bool) (data : SensorData) : ManagerOps ρ where
  updateSelective _ u := (0, u)
  getData u := (0, data, u)
  isReady env := (ready, env)
  updateAirQualityForBle u := u

/-! ### What a read gets -/

/-- What a snapshot offers the read handler of a characteristic. -/
def EssCharId.reading : EssCharId → SensorData → Reading
  | .temperature => temperatureReading
  | .humidity => humidityReading
  | .pressure => pressureReading
  | .co2 => co2Reading
  | .tvoc => tvocReading

/-- The sensors that the read handler of a characteristic updates; the gases have an update
of their own. -/
def EssCharId.sensors : EssCharId → SensorSelect
  | .temperature | .humidity => .tempHumidity
  | .pressure => .pressure
  | .co2 | .tvoc => .airQuality

/-- A read of `c` in the run `u` gets the snapshot `data`, every call on the way having
succeeded, and goes on in the run `u'`. -/
def ManagerOps.ReadGets (ops : ManagerOps ρ) (c : EssCharId) (u : EssRun ρ)
    (data : SensorData) (u' : EssRun ρ) : Prop :=
  match c with
  | .co2 | .tvoc =>
    (ops.isReady u.env).1 = true ∧
      ops.getData (ops.updateAirQualityForBle { u with env := (ops.isReady u.env).2 }) =
        (0, data, u')
  | _ => ∃ u₁, ops.updateSelective c.sensors u = (0, u₁) ∧ ops.getData u₁ = (0, data, u')

/-- A read of `c` in the run `u` serves the sentinel, the CCS811 not being ready, and goes on
with the environment `env`. -/
def ManagerOps.ReadUnready (ops : ManagerOps ρ) (c : EssCharId) (u : EssRun ρ) (env : ρ) :
    Prop :=
  (c = .co2 ∨ c = .tvoc) ∧ ops.isReady u.env = (false, env)

/-! ### Refreshing a record -/

/-- After a refresh the characteristic is unknown, if it fails, and otherwise known with a
value of the wire range that satisfies `P` in the environment reached. -/
def Refreshed (P : ρ → ℤ → Prop) (c : EssCharId) (out : Option AttError × EssRun ρ) : Prop :=
  match out.1 with
  | some _ => (out.2.ess.sensor c).valueKnown = false
  | none =>
    (out.2.ess.sensor c).valueKnown = true ∧ c.InWire (out.2.ess.sensor c).value ∧
      P out.2.env (out.2.ess.sensor c).value

variable {P : ρ → ℤ → Prop}

@[simp]
theorem invalidateSensor_valueKnown (c : EssCharId) (u : EssRun ρ) :
    ((u.invalidateSensor c).ess.sensor c).valueKnown = false := by
  simp [EssRun.invalidateSensor, EssState.invalidateSensor]

/-- Every value of a wire range is an `int32_t`. -/
theorem EssCharId.InWire.toSigned_eq {c : EssCharId} {v : ℤ} (h : c.InWire v) :
    toSigned 32 v = v := by
  have hbounds : -2147483648 ≤ v ∧ v < 2147483648 := by
    cases c <;> simp only [EssCharId.InWire] at h <;> omega
  exact toSigned_of_le hbounds.1 hbounds.2

/-- Caching one's own field refreshes it. -/
theorem refreshed_cacheFresh {c : EssCharId} {r : Reading} (hr : r.InWire c) {u : EssRun ρ}
    (hP : ∀ v, r = .value v → P u.env v) : Refreshed P c (cacheFresh c c r u) := by
  cases r with
  | absent => simp [Refreshed, cacheFresh]
  | outOfRange => simp [Refreshed, cacheFresh]
  | value v =>
    have hv : c.InWire v := hr v rfl
    have hPv : P u.env v := hP v rfl
    simp [Refreshed, cacheFresh, EssRun.store, hv.toSigned_eq, hv, hPv]

/-- Caching any field leaves the environment alone. -/
@[simp]
theorem cacheFresh_env (reading c : EssCharId) (r : Reading) (u : EssRun ρ) :
    (cacheFresh reading c r u).2.env = u.env := by
  cases r <;> rfl

/-- Caching another field is no error and leaves the record alone. -/
theorem cacheFresh_of_ne {reading c : EssCharId} (h : reading ≠ c) (r : Reading)
    (u : EssRun ρ) :
    (cacheFresh reading c r u).1 = none ∧
      (cacheFresh reading c r u).2.ess.sensor reading = u.ess.sensor reading := by
  cases r with
  | absent => simp [cacheFresh, EssRun.invalidateSensor, EssState.invalidateSensor, h]
  | outOfRange => simp [cacheFresh, EssRun.invalidateSensor, EssState.invalidateSensor, h]
  | value v => simp [cacheFresh, EssRun.store, h]

/-- A failed call refreshes trivially, so a call is a refresh if what follows its success is
one. -/
theorem refreshed_checkCall {c : EssCharId} {ret : ℤ} {u : EssRun ρ}
    {rest : EssRun ρ → Option AttError × EssRun ρ}
    (hrest : ret = 0 → Refreshed P c (rest u)) : Refreshed P c (checkCall c ret u rest) := by
  rw [checkCall]
  split_ifs with hret
  · exact invalidateSensor_valueKnown c u
  · exact hrest (not_not.mp hret)

theorem refreshed_fetchAndCache {ops : ManagerOps ρ} {c : EssCharId} {u : EssRun ρ}
    {cache : SensorData → EssRun ρ → Option AttError × EssRun ρ}
    (hcache : ∀ data u', ops.getData u = (0, data, u') → Refreshed P c (cache data u')) :
    Refreshed P c (fetchAndCache ops c cache u) := by
  rcases hget : ops.getData u with ⟨ret, data, u'⟩
  rw [fetchAndCache, hget]
  refine refreshed_checkCall fun hret => ?_
  subst hret
  exact hcache data u' hget

theorem refreshed_updateAndCache {ops : ManagerOps ρ} {c : EssCharId}
    {sensors : SensorSelect} {u : EssRun ρ}
    {cache : SensorData → EssRun ρ → Option AttError × EssRun ρ}
    (hcache : ∀ u₁ data u', ops.updateSelective sensors u = (0, u₁) →
      ops.getData u₁ = (0, data, u') → Refreshed P c (cache data u')) :
    Refreshed P c (updateAndCache ops sensors c cache u) := by
  rcases hupdate : ops.updateSelective sensors u with ⟨ret, u₁⟩
  rw [updateAndCache, hupdate]
  refine refreshed_checkCall fun hret => ?_
  subst hret
  exact refreshed_fetchAndCache fun data u' => hcache u₁ data u' hupdate

/-- Every reading of a read handler is one of the wire range. -/
theorem EssCharId.reading_inWire (c : EssCharId) (data : SensorData) :
    (c.reading data).InWire c := by
  cases c with
  | co2 => exact fieldReading_inWire (essEncodeCo2_mem data.eco2)
  | tvoc => exact fieldReading_inWire (essEncodeTvoc_mem data.tvoc)
  | temperature => exact updateReading_inWire .invalid .invalid data .temperature
  | humidity => exact updateReading_inWire .invalid .invalid data .humidity
  | pressure => exact updateReading_inWire .invalid .invalid data .pressure

/-- Caching both fields refreshes the one that is read: what is done to the other one neither
fails nor touches it. -/
theorem refreshed_cacheTempHumidity {c : EssCharId}
    (hc : c = .temperature ∨ c = .humidity) {freshData : SensorData} {u : EssRun ρ}
    (hP : ∀ v, c.reading freshData = .value v → P u.env v) :
    Refreshed P c (cacheTempHumidity c freshData u) := by
  rw [cacheTempHumidity]
  rcases hc with rfl | rfl
  · have htemp : Refreshed P .temperature _ :=
      refreshed_cacheFresh (EssCharId.reading_inWire .temperature freshData) hP
    rcases hout : cacheFresh .temperature .temperature (temperatureReading freshData) u with
      ⟨early, u'⟩
    rw [EssCharId.reading, hout] at htemp
    cases early with
    | some e => exact htemp
    | none =>
      have hne : EssCharId.temperature ≠ .humidity := by decide
      obtain ⟨hnone, hsame⟩ := cacheFresh_of_ne hne (humidityReading freshData) u'
      simp only [Option.isSome_none, Bool.false_eq_true, if_false, Refreshed, hnone, hsame,
        cacheFresh_env]
      exact htemp
  · have hne : EssCharId.humidity ≠ .temperature := by decide
    obtain ⟨hnone, -⟩ := cacheFresh_of_ne hne (temperatureReading freshData) u
    simp only [hnone, Option.isSome_none, Bool.false_eq_true, if_false]
    refine refreshed_cacheFresh (EssCharId.reading_inWire .humidity freshData) ?_
    rw [cacheFresh_env]
    exact hP

/-! ### Every read -/

/-- The bytes a read serves of a known value. -/
def EssCharId.served (c : EssCharId) (len offset : ℕ) (x : EssSensor) :
    Except AttError (List UInt8) :=
  btGattAttrRead len offset (c.payload x.value)

/-- What a read comes to: an error with the characteristic unknown, or what the stack makes
of the bytes of a known value of the wire range that satisfies `P`. -/
def ReadOutcome (P : ρ → ℤ → Prop) (c : EssCharId) (len offset : ℕ)
    (out : Except AttError (List UInt8) × EssRun ρ) : Prop :=
  (∃ e, out.1 = .error e ∧ (out.2.ess.sensor c).valueKnown = false) ∨
    ((out.2.ess.sensor c).valueKnown = true ∧ c.InWire (out.2.ess.sensor c).value ∧
      P out.2.env (out.2.ess.sensor c).value ∧
      out.1 = c.served len offset (out.2.ess.sensor c))

/-- The 16-bit bytes of a read are those of a notification. -/
private theorem payload_u16 {c : EssCharId} (hc : c ≠ .pressure) (v : ℤ) :
    leBytes 2 (toUnsigned 16 (toSigned 16 (toUnsigned 16 v))) = c.payload v := by
  rw [toUnsigned_toSigned, toUnsigned_toUnsigned]
  cases c with
  | pressure => exact absurd rfl hc
  | _ => rfl

/-- After a refresh, serving the value comes to a read outcome if serving a known value of
the wire range does. -/
private theorem readOutcome_returnOrServe {c : EssCharId} {len offset : ℕ}
    {out : Option AttError × EssRun ρ} (h : Refreshed P c out)
    {serve : EssRun ρ → Except AttError (List UInt8) × EssRun ρ}
    (hserve : ∀ u : EssRun ρ, (u.ess.sensor c).valueKnown = true →
      serve u = (c.served len offset (u.ess.sensor c), u)) :
    ReadOutcome P c len offset (returnOrServe out serve) := by
  rcases out with ⟨early, u⟩
  cases early with
  | some e => exact Or.inl ⟨e, rfl, h⟩
  | none =>
    obtain ⟨hknown, hwire, hP⟩ : (u.ess.sensor c).valueKnown = true ∧
      c.InWire (u.ess.sensor c).value ∧ P u.env (u.ess.sensor c).value := h
    rw [returnOrServe, hserve u hknown]
    exact Or.inr ⟨hknown, hwire, hP, rfl⟩

/-- `read_u16` of a temperature or a humidity. -/
private theorem readU16_live {ops : ManagerOps ρ} {c : EssCharId}
    (hc : c = .temperature ∨ c = .humidity) {u : EssRun ρ}
    (hP : ∀ data u' v, ops.ReadGets c u data u' → c.reading data = .value v → P u'.env v)
    (len offset : ℕ) : ReadOutcome P c len offset (readU16 ops c len offset u) := by
  have hne : c ≠ .pressure := by rcases hc with rfl | rfl <;> decide
  have hgets : ∀ u₁ data u', ops.updateSelective .tempHumidity u = (0, u₁) →
      ops.getData u₁ = (0, data, u') → ops.ReadGets c u data u' := by
    intro u₁ data u' hupdate hget
    rcases hc with rfl | rfl <;> exact ⟨u₁, hupdate, hget⟩
  simp only [readU16, hc, if_true, true_and]
  refine readOutcome_returnOrServe (refreshed_updateAndCache
    fun u₁ data u' hupdate hget => refreshed_cacheTempHumidity hc fun v => ?_) ?_
  · exact hP data u' v (hgets u₁ data u' hupdate hget)
  · intro u' hknown
    rw [hknown, payload_u16 hne]
    rfl

/-- `read_u16` of a gas, which only serves what its handler has cached. -/
theorem readU16_gas (ops : ManagerOps ρ) {c : EssCharId}
    (hc : c = .co2 ∨ c = .tvoc) (len offset : ℕ) (u : EssRun ρ) :
    readU16 ops c len offset u = (c.served len offset (u.ess.sensor c), u) := by
  have hne : c ≠ .pressure := by rcases hc with rfl | rfl <;> decide
  have hlive : ¬ (c = .temperature ∨ c = .humidity) := by
    rcases hc with rfl | rfl <;> decide
  simp only [readU16, hlive, if_false, false_and, payload_u16 hne]
  rfl

/-- `read_u32` of the pressure. -/
private theorem readU32_pressure {ops : ManagerOps ρ} {u : EssRun ρ}
    (hP : ∀ data u' v, ops.ReadGets .pressure u data u' →
      pressureReading data = .value v → P u'.env v)
    (len offset : ℕ) :
    ReadOutcome P .pressure len offset (readU32 ops .pressure len offset u) := by
  simp only [readU32, if_true]
  refine readOutcome_returnOrServe (refreshed_updateAndCache fun u₁ data u' hupdate hget =>
    refreshed_cacheFresh (EssCharId.reading_inWire .pressure data) fun v => ?_) ?_
  · exact hP data u' v ⟨u₁, hupdate, hget⟩
  · intro u' hknown
    rw [hknown]
    rfl

/-- `read_co2` and `read_tvoc`. -/
private theorem readGas_outcome {ops : ManagerOps ρ} {c : EssCharId}
    (hc : c = .co2 ∨ c = .tvoc) {u : EssRun ρ}
    (hP : ∀ data u' v, ops.ReadGets c u data u' → c.reading data = .value v → P u'.env v)
    (hunready : ∀ env, ops.ReadUnready c u env → P env ESS_UNKNOWN_U16) (len offset : ℕ) :
    ReadOutcome P c len offset (readGas ops c c.reading len offset u) := by
  have hunknown : c.InWire ESS_UNKNOWN_U16 := by
    rcases hc with rfl | rfl <;> exact ⟨by decide, by decide⟩
  rcases hready : ops.isReady u.env with ⟨isReady, env⟩
  simp only [readGas, hready]
  refine readOutcome_returnOrServe ?_ fun u' _ => readU16_gas ops hc len offset u'
  cases isReady with
  | false =>
    have hPenv : P env ESS_UNKNOWN_U16 := hunready env ⟨hc, hready⟩
    simp [Refreshed, EssRun.store, hunknown, hPenv]
  | true =>
    refine refreshed_fetchAndCache fun data u' hget =>
      refreshed_cacheFresh (EssCharId.reading_inWire c data) fun v => hP data u' v ?_
    have hgets : (ops.isReady u.env).1 = true ∧
        ops.getData (ops.updateAirQualityForBle { u with env := (ops.isReady u.env).2 }) =
          (0, data, u') := by
      rw [hready]
      exact ⟨rfl, hget⟩
    rcases hc with rfl | rfl <;> exact hgets

/-- A read of a gas whose snapshot it gets only caches what the snapshot offers and serves
it. -/
theorem essRead_gas_of_readGets {ops : ManagerOps ρ} {c : EssCharId}
    (hc : c = .co2 ∨ c = .tvoc) {u u' : EssRun ρ} {data : SensorData}
    (h : ops.ReadGets c u data u') (len offset : ℕ) :
    essRead ops c len offset u =
      returnOrServe (cacheFresh c c (c.reading data) u') (readU16 ops c len offset) := by
  have hgas : readGas ops c c.reading len offset u =
      returnOrServe (cacheFresh c c (c.reading data) u') (readU16 ops c len offset) := by
    obtain ⟨hready, hget⟩ : (ops.isReady u.env).1 = true ∧
        ops.getData (ops.updateAirQualityForBle { u with env := (ops.isReady u.env).2 }) =
          (0, data, u') := by
      rcases hc with rfl | rfl <;> exact h
    rcases hcall : ops.isReady u.env with ⟨isReady, env⟩
    rw [hcall] at hready hget
    subst hready
    simp [readGas, hcall, fetchAndCache, hget, checkCall]
  rcases hc with rfl | rfl <;> exact hgas

/-- **Every read.** A read of any characteristic fails and leaves it unknown, or serves the
bytes of a known value of the wire range. That value satisfies whatever the snapshot that the
read gets guarantees of its own field, and the sentinel where the CCS811 is not ready. -/
theorem essRead_outcome {ops : ManagerOps ρ} {c : EssCharId} {u : EssRun ρ}
    (hP : ∀ data u' v, ops.ReadGets c u data u' → c.reading data = .value v → P u'.env v)
    (hunready : ∀ env, ops.ReadUnready c u env → P env ESS_UNKNOWN_U16) (len offset : ℕ) :
    ReadOutcome P c len offset (essRead ops c len offset u) := by
  cases c with
  | temperature => exact readU16_live (Or.inl rfl) hP len offset
  | humidity => exact readU16_live (Or.inr rfl) hP len offset
  | pressure => exact readU32_pressure hP len offset
  | co2 => exact readGas_outcome (Or.inl rfl) hP hunready len offset
  | tvoc => exact readGas_outcome (Or.inr rfl) hP hunready len offset

/-! ### Invariants of a read -/

/-- Serving a value only looks at the run. -/
theorem returnOrServe_keeps {Q : EssRun ρ → Prop} {out : Option AttError × EssRun ρ}
    (hout : Q out.2) {serve : EssRun ρ → Except AttError (List UInt8) × EssRun ρ}
    (hserve : ∀ u, (serve u).2 = u) : Q (returnOrServe out serve).2 := by
  rcases out with ⟨early, u⟩
  cases early with
  | some e => exact hout
  | none =>
    rw [returnOrServe, hserve]
    exact hout

/-- `P` survives each thing a read may do. `J` is what finding the CCS811 ready adds, until the
read of a gas has cached its value. -/
structure ReadKeeps (ops : ManagerOps ρ) (P : EssRun ρ → Prop) (J : ρ → Prop) : Prop where
  updateSelective : ∀ sensors {u}, P u → P (ops.updateSelective sensors u).2
  getData : ∀ {u}, P u → P (ops.getData u).2.2
  asked : ∀ {u : EssRun ρ}, P u → P { u with env := (ops.isReady u.env).2 }
  invalidate : ∀ c {u : EssRun ρ}, P u → P (u.invalidateSensor c)
  environment : ∀ {c} v {u : EssRun ρ}, c ≠ .co2 → c ≠ .tvoc → P u →
    P (u.store .read c v none)
  sentinel : ∀ {c} {u : EssRun ρ}, c = .co2 ∨ c = .tvoc → P u →
    P (u.store .read c ESS_UNKNOWN_U16 none)
  ready : ∀ {u : EssRun ρ}, P u → (ops.isReady u.env).1 = true → J (ops.isReady u.env).2
  updateForBle : ∀ {u : EssRun ρ}, J u.env → J (ops.updateAirQualityForBle u).env
  getDataReady : ∀ {u : EssRun ρ}, J u.env → J (ops.getData u).2.2.env
  of_ready : ∀ {u : EssRun ρ}, J u.env → P u

namespace ReadKeeps

variable {ops : ManagerOps ρ} {Q : EssRun ρ → Prop} {J : ρ → Prop}

private theorem cacheFresh (h : ReadKeeps ops Q J) {reading c : EssCharId} (hco2 : c ≠ .co2)
    (htvoc : c ≠ .tvoc) (r : Reading) {u : EssRun ρ} (hu : Q u) :
    Q (cacheFresh reading c r u).2 := by
  cases r with
  | absent => exact h.invalidate c hu
  | outOfRange => exact h.invalidate c hu
  | value v => exact h.environment _ hco2 htvoc hu

private theorem checkCall (h : ReadKeeps ops Q J) {c : EssCharId}
    {rest : EssRun ρ → Option AttError × EssRun ρ} (hrest : ∀ {u}, Q u → Q (rest u).2)
    (ret : ℤ) {u : EssRun ρ} (hu : Q u) : Q (checkCall c ret u rest).2 := by
  rw [EnvMonitor.checkCall]
  split_ifs
  · exact h.invalidate c hu
  · exact hrest hu

private theorem cacheTempHumidity (h : ReadKeeps ops Q J) (c : EssCharId)
    (freshData : SensorData) {u : EssRun ρ} (hu : Q u) :
    Q (cacheTempHumidity c freshData u).2 := by
  have htemp : Q (EnvMonitor.cacheFresh c .temperature (temperatureReading freshData) u).2 :=
    h.cacheFresh (by decide) (by decide) _ hu
  rw [EnvMonitor.cacheTempHumidity]
  dsimp only
  split_ifs
  · exact htemp
  · exact h.cacheFresh (by decide) (by decide) _ htemp

private theorem updateAndCache (h : ReadKeeps ops Q J) (sensors : SensorSelect)
    (c : EssCharId) {cache : SensorData → EssRun ρ → Option AttError × EssRun ρ}
    (hcache : ∀ data {u}, Q u → Q (cache data u).2) {u : EssRun ρ} (hu : Q u) :
    Q (updateAndCache ops sensors c cache u).2 :=
  h.checkCall (fun hu => h.checkCall (hcache _) _ (h.getData hu)) _
    (h.updateSelective sensors hu)

private theorem readGas (h : ReadKeeps ops Q J) {c : EssCharId} (hc : c = .co2 ∨ c = .tvoc)
    (field : SensorData → Reading) (len offset : ℕ) {u : EssRun ρ} (hu : Q u) :
    Q (readGas ops c field len offset u).2 := by
  have hasked := h.asked hu
  have hready := h.ready hu
  rcases hcall : ops.isReady u.env with ⟨isReady, env⟩
  rw [hcall] at hasked hready
  simp only [EnvMonitor.readGas, hcall]
  refine returnOrServe_keeps ?_ fun u' => by rw [readU16_gas ops hc]
  cases isReady with
  | false => exact h.sentinel hc hasked
  | true =>
    -- what readiness gave is still there once the value is cached
    have hJ : J (ops.getData (ops.updateAirQualityForBle { u with env := env })).2.2.env :=
      h.getDataReady (h.updateForBle (hready rfl))
    refine h.of_ready ?_
    simp only [Bool.not_true, Bool.false_eq_true, if_false, fetchAndCache]
    rw [EnvMonitor.checkCall]
    split_ifs
    · exact hJ
    · rw [cacheFresh_env]
      exact hJ

/-- **Read rule.** What survives each thing a read may do survives the read. -/
theorem essRead (h : ReadKeeps ops Q J) (c : EssCharId) (len offset : ℕ) {u : EssRun ρ}
    (hu : Q u) : Q (essRead ops c len offset u).2 := by
  cases c with
  | temperature =>
    refine returnOrServe_keeps (h.updateAndCache _ _
      (fun data => h.cacheTempHumidity .temperature data) hu) fun u => ?_
    dsimp only
    split_ifs <;> rfl
  | humidity =>
    refine returnOrServe_keeps (h.updateAndCache _ _
      (fun data => h.cacheTempHumidity .humidity data) hu) fun u => ?_
    dsimp only
    split_ifs <;> rfl
  | pressure =>
    refine returnOrServe_keeps (h.updateAndCache _ _
      (fun data => h.cacheFresh (by decide) (by decide) (pressureReading data)) hu) fun u => ?_
    split_ifs <;> rfl
  | co2 => exact h.readGas (Or.inl rfl) _ len offset hu
  | tvoc => exact h.readGas (Or.inr rfl) _ len offset hu

end ReadKeeps

/-- `P` survives each thing a read may do, when every snapshot it gets is one of `D`. -/
structure SnapshotKeeps (ops : ManagerOps ρ) (D : SensorData → Prop) (P : EssRun ρ → Prop) :
    Prop where
  updateSelective : ∀ sensors {u}, P u → P (ops.updateSelective sensors u).2
  getData : ∀ {u}, P u → P (ops.getData u).2.2
  snapshot : ∀ u, (ops.getData u).1 = 0 → D (ops.getData u).2.1
  updateAirQualityForBle : ∀ {u}, P u → P (ops.updateAirQualityForBle u)
  withEnv : ∀ env {u : EssRun ρ}, P u → P { u with env := env }
  invalidate : ∀ c {u : EssRun ρ}, P u → P (u.invalidateSensor c)
  store : ∀ {c data v} {u : EssRun ρ}, D data → c.reading data = .value v → P u →
    P (u.store .read c v none)
  sentinel : ∀ {c} {u : EssRun ρ}, c = .co2 ∨ c = .tvoc → P u →
    P (u.store .read c ESS_UNKNOWN_U16 none)

namespace SnapshotKeeps

variable {ops : ManagerOps ρ} {D : SensorData → Prop} {Q : EssRun ρ → Prop}

private theorem cacheFresh (h : SnapshotKeeps ops D Q) (reading c : EssCharId)
    {data : SensorData} (hD : D data) {u : EssRun ρ} (hu : Q u) :
    Q (cacheFresh reading c (c.reading data) u).2 := by
  cases hdata : c.reading data with
  | absent => exact h.invalidate c hu
  | outOfRange => exact h.invalidate c hu
  | value v =>
    rw [EnvMonitor.cacheFresh, (c.reading_inWire data v hdata).toSigned_eq]
    exact h.store hD hdata hu

private theorem fetchAndCache (h : SnapshotKeeps ops D Q) (c : EssCharId)
    {cache : SensorData → EssRun ρ → Option AttError × EssRun ρ}
    (hcache : ∀ data {u}, D data → Q u → Q (cache data u).2) {u : EssRun ρ} (hu : Q u) :
    Q (fetchAndCache ops c cache u).2 := by
  have hget := h.getData hu
  rw [EnvMonitor.fetchAndCache]
  dsimp only
  rw [checkCall]
  split_ifs with hret
  · exact h.invalidate c hget
  · exact hcache _ (h.snapshot u (not_not.mp hret)) hget

private theorem updateAndCache (h : SnapshotKeeps ops D Q) (sensors : SensorSelect)
    (c : EssCharId) {cache : SensorData → EssRun ρ → Option AttError × EssRun ρ}
    (hcache : ∀ data {u}, D data → Q u → Q (cache data u).2) {u : EssRun ρ} (hu : Q u) :
    Q (updateAndCache ops sensors c cache u).2 := by
  have hupdate := h.updateSelective sensors hu
  rw [EnvMonitor.updateAndCache]
  dsimp only
  rw [checkCall]
  split_ifs
  · exact h.invalidate c hupdate
  · exact h.fetchAndCache c hcache hupdate

private theorem cacheTempHumidity (h : SnapshotKeeps ops D Q) (c : EssCharId)
    {data : SensorData} (hD : D data) {u : EssRun ρ} (hu : Q u) :
    Q (cacheTempHumidity c data u).2 := by
  have htemp := h.cacheFresh c .temperature hD hu
  rw [EnvMonitor.cacheTempHumidity]
  dsimp only
  split_ifs
  · exact htemp
  · exact h.cacheFresh c .humidity hD htemp

private theorem readGas (h : SnapshotKeeps ops D Q) {c : EssCharId}
    (hc : c = .co2 ∨ c = .tvoc) (len offset : ℕ) {u : EssRun ρ} (hu : Q u) :
    Q (readGas ops c c.reading len offset u).2 := by
  have hasked : Q { u with env := (ops.isReady u.env).2 } := h.withEnv _ hu
  rcases hcall : ops.isReady u.env with ⟨isReady, env⟩
  rw [hcall] at hasked
  simp only [EnvMonitor.readGas, hcall]
  refine returnOrServe_keeps ?_ fun u' => by rw [readU16_gas ops hc]
  cases isReady with
  | false => exact h.sentinel hc hasked
  | true =>
    exact h.fetchAndCache c (fun data _ hD => h.cacheFresh c c hD)
      (h.updateAirQualityForBle hasked)

/-- **Read rule for snapshots.** What survives each thing a read may do survives the read. -/
theorem essRead (h : SnapshotKeeps ops D Q) (c : EssCharId) (len offset : ℕ) {u : EssRun ρ}
    (hu : Q u) : Q (essRead ops c len offset u).2 := by
  cases c with
  | temperature =>
    refine returnOrServe_keeps (h.updateAndCache _ _
      (fun data _ hD => h.cacheTempHumidity .temperature hD) hu) fun u => ?_
    dsimp only
    split_ifs <;> rfl
  | humidity =>
    refine returnOrServe_keeps (h.updateAndCache _ _
      (fun data _ hD => h.cacheTempHumidity .humidity hD) hu) fun u => ?_
    dsimp only
    split_ifs <;> rfl
  | pressure =>
    refine returnOrServe_keeps (h.updateAndCache _ _
      (fun data _ hD => h.cacheFresh .pressure .pressure hD) hu) fun u => ?_
    split_ifs <;> rfl
  | co2 => exact h.readGas (Or.inl rfl) len offset hu
  | tvoc => exact h.readGas (Or.inr rfl) len offset hu

end SnapshotKeeps

/-- A read handler may cache `v`: some snapshot offers it, or it is the sentinel of a gas. -/
def EssCharId.Cacheable (c : EssCharId) (v : ℤ) : Prop :=
  (∃ data, c.reading data = .value v) ∨ ((c = .co2 ∨ c = .tvoc) ∧ v = ESS_UNKNOWN_U16)

theorem EssCharId.Cacheable.inWire {c : EssCharId} {v : ℤ} (h : c.Cacheable v) :
    c.InWire v := by
  rcases h with ⟨data, hdata⟩ | ⟨rfl | rfl, rfl⟩
  · exact c.reading_inWire data v hdata
  · exact ⟨by decide, by decide⟩
  · exact ⟨by decide, by decide⟩

/-- `P` survives each thing a read may do, whatever the values of its snapshots are. -/
structure CacheKeeps (ops : ManagerOps ρ) (P : EssRun ρ → Prop) : Prop where
  updateSelective : ∀ sensors {u}, P u → P (ops.updateSelective sensors u).2
  getData : ∀ {u}, P u → P (ops.getData u).2.2
  updateAirQualityForBle : ∀ {u}, P u → P (ops.updateAirQualityForBle u)
  withEnv : ∀ env {u : EssRun ρ}, P u → P { u with env := env }
  invalidate : ∀ c {u : EssRun ρ}, P u → P (u.invalidateSensor c)
  store : ∀ {c v} {u : EssRun ρ}, c.Cacheable v → P u → P (u.store .read c v none)

namespace CacheKeeps

variable {ops : ManagerOps ρ} {Q : EssRun ρ → Prop}

/-- **Read rule for values.** What survives each thing a read may do survives the read. -/
theorem essRead (h : CacheKeeps ops Q) (c : EssCharId) (len offset : ℕ) {u : EssRun ρ}
    (hu : Q u) : Q (essRead ops c len offset u).2 := by
  have hkeeps : SnapshotKeeps ops (fun _ => True) Q :=
    { h with
      snapshot := fun _ _ => trivial
      store := fun _ hdata => h.store (Or.inl ⟨_, hdata⟩)
      sentinel := fun hc => h.store (Or.inr ⟨hc, rfl⟩) }
  exact hkeeps.essRead c len offset hu

end CacheKeeps

end EnvMonitor
