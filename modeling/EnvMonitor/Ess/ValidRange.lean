import EnvMonitor.Ess.Isolation
import EnvMonitor.Ess.Wire
import EnvMonitor.Lib.Machine

/-!
# The Valid Range descriptor and the cache

Each characteristic has a Valid Range descriptor, which serves the two limits of its
`ess_sensor`. The limits are not consulted when a value is cached: the range checks of
`ess_service.c` are in physical units, and the encoders clamp in scaled units. `EssState.Fits`
is what the two come to, and it survives every operation of the service. It is a case of
`essMachine_preserves_known`: what every snapshot handed to the service offers, every known
value satisfies.

The readiness of the CCS811 is fixed within one call, so both gas stages of an update take the
same branch. The range check of the CO2 stage then covers the TVOC value that the next stage
stores.
-/

namespace EnvMonitor

/-! ### Limits -/

/-- `CO2_LOWER_LIMIT` and `CO2_UPPER_LIMIT`, in ppm. -/
def CO2_LOWER_LIMIT : ℤ := 400

@[inherit_doc CO2_LOWER_LIMIT]
def CO2_UPPER_LIMIT : ℤ := 5000

/-- `TVOC_LOWER_LIMIT` and `TVOC_UPPER_LIMIT`, in ppb. -/
def TVOC_LOWER_LIMIT : ℤ := 0

@[inherit_doc TVOC_LOWER_LIMIT]
def TVOC_UPPER_LIMIT : ℤ := 32767

namespace EssCharId

/-- The `lower_limit` of each `ess_sensor`. -/
def lowerLimit : EssCharId → ℤ
  | .temperature => ESS_TEMP_MIN_E_2C
  | .humidity => ESS_HUM_MIN_E_2PCT
  | .pressure => ESS_PRESS_MIN_DPA
  | .co2 => CO2_LOWER_LIMIT
  | .tvoc => TVOC_LOWER_LIMIT

/-- The `upper_limit` of each `ess_sensor`. -/
def upperLimit : EssCharId → ℤ
  | .temperature => ESS_TEMP_MAX_E_2C
  | .humidity => ESS_HUM_MAX_E_2PCT
  | .pressure => ESS_PRESS_MAX_DPA
  | .co2 => CO2_UPPER_LIMIT
  | .tvoc => TVOC_UPPER_LIMIT

/-- A value may be known: it lies between the limits, or it is the sentinel of a gas. -/
def Fits (c : EssCharId) (v : ℤ) : Prop :=
  (c.lowerLimit ≤ v ∧ v ≤ c.upperLimit) ∨ ((c = .co2 ∨ c = .tvoc) ∧ v = ESS_UNKNOWN_U16)

instance (c : EssCharId) (v : ℤ) : Decidable (c.Fits v) :=
  inferInstanceAs (Decidable ((_ ∧ _) ∨ _))

/-- Only a gas starts with a value that may be known. -/
theorem not_fits_start {c : EssCharId} (hco2 : c ≠ .co2) (htvoc : c ≠ .tvoc) :
    ¬ c.Fits (essStart.sensor c).value := by
  cases c with
  | co2 => exact absurd rfl hco2
  | tvoc => exact absurd rfl htvoc
  | _ => decide

theorem limits_inWire (c : EssCharId) : c.InWire c.lowerLimit ∧ c.InWire c.upperLimit := by
  cases c <;> simp only [InWire, lowerLimit, upperLimit] <;> decide

end EssCharId

/-- `read_valid_range`, which the pressure has in 32 bits and the others in 16. -/
def readValidRange (c : EssCharId) (len offset : ℕ) : Except AttError (List UInt8) :=
  match c with
  | .pressure =>
    btGattAttrRead len offset
      (leBytes 4 (toUnsigned 32 c.lowerLimit) ++ leBytes 4 (toUnsigned 32 c.upperLimit))
  | _ =>
    btGattAttrRead len offset
      (leBytes 2 (toUnsigned 16 (toSigned 16 c.lowerLimit)) ++
        leBytes 2 (toUnsigned 16 (toSigned 16 c.upperLimit)))

theorem readValidRange_eq (c : EssCharId) (len offset : ℕ) :
    readValidRange c len offset =
      btGattAttrRead len offset (c.payload c.lowerLimit ++ c.payload c.upperLimit) := by
  cases c <;> simp only [readValidRange, toUnsigned_toSigned] <;> rfl

/-- **The device advertises its limits.** The two halves of the descriptor decode, in the
format of the characteristic, to the limits of its record. -/
theorem readValidRange_decoded (c : EssCharId) {len : ℕ} (hlen : 8 ≤ len) :
    ∃ bytes, readValidRange c len 0 = .ok bytes ∧
      essDecoded c (bytes.take c.width) = some c.lowerLimit ∧
      essDecoded c (bytes.drop c.width) = some c.upperLimit := by
  obtain ⟨hlo, hhi⟩ := c.limits_inWire
  refine ⟨c.payload c.lowerLimit ++ c.payload c.upperLimit, ?_, ?_, ?_⟩
  · have hwidth := width_le_four c
    have hshort : (c.payload c.lowerLimit ++ c.payload c.upperLimit).length ≤ len := by
      rw [List.length_append, length_payload, length_payload]
      omega
    rw [readValidRange_eq, btGattAttrRead, if_neg (by simp), List.drop_zero,
      List.take_of_length_le hshort]
  · rw [List.take_left' (length_payload c c.lowerLimit)]
    exact essDecoded_payload hlo
  · rw [List.drop_left' (length_payload c c.lowerLimit)]
    exact essDecoded_payload hhi

/-! ### Readings fit -/

namespace Reading

/-- The reading, if it is a value, fits. -/
def Fits (c : EssCharId) (r : Reading) : Prop := ∀ v, r = .value v → c.Fits v

end Reading

/-- A float in range is finite, and a finite one is encoded between the limits: the sentinel of
an encoder is for values that no range check lets through. -/
theorem fieldReading_fits {c : EssCharId} {scale a b : ℚ} {convert : ℤ → ℤ} {unknown : ℤ}
    {valid : Bool} {x : CFloat} (h : c.lowerLimit ≤ c.upperLimit)
    (hconvert : ∀ n, c.lowerLimit ≤ n → n ≤ c.upperLimit → convert n = n) :
    (fieldReading valid (x.within a b)
      (encodeScaled unknown c.lowerLimit c.upperLimit scale convert x)).Fits c := by
  intro v hv
  obtain ⟨-, hrange, rfl⟩ := fieldReading_eq_value.mp hv
  have hfinite : x.isFinite = true := by
    simp only [CFloat.within, Bool.and_eq_true] at hrange
    exact hrange.1.1
  exact Or.inl (encodeScaled_mem_of_isFinite h hconvert hfinite)

theorem essEncodeCo2_fits {co2 : UInt16} (h : essCo2InRange co2 = true) :
    EssCharId.co2.Fits (essEncodeCo2 co2) := by
  simp only [essCo2InRange, Bool.and_eq_true, decide_eq_true_eq, UInt16.le_iff_toNat_le] at h
  have hmin : EssCharId.co2.lowerLimit = 400 := rfl
  have hmax : EssCharId.co2.upperLimit = 5000 := rfl
  have hlo : (400 : UInt16).toNat = 400 := rfl
  have hhi : (5000 : UInt16).toNat = 5000 := rfl
  refine Or.inl ?_
  rw [essEncodeCo2]
  omega

theorem essEncodeTvoc_fits {tvoc : UInt16} (h : essTvocInRange tvoc = true) :
    EssCharId.tvoc.Fits (essEncodeTvoc tvoc) := by
  simp only [essTvocInRange, Bool.and_eq_true, decide_eq_true_eq, UInt16.le_iff_toNat_le] at h
  have hmin : EssCharId.tvoc.lowerLimit = 0 := rfl
  have hmax : EssCharId.tvoc.upperLimit = 32767 := rfl
  have hhi : (32767 : UInt16).toNat = 32767 := rfl
  refine Or.inl ?_
  rw [essEncodeTvoc]
  omega

/-- What a snapshot offers a read handler fits. -/
theorem EssCharId.reading_fits (c : EssCharId) (data : SensorData) : (c.reading data).Fits c := by
  cases c with
  | temperature => exact fieldReading_fits (by decide) toSigned_temperature
  | humidity => exact fieldReading_fits (by decide) toUnsigned_humidity
  | pressure => exact fieldReading_fits (by decide) toUnsigned_pressure
  | co2 =>
    intro v hv
    obtain ⟨-, hrange, rfl⟩ := fieldReading_eq_value.mp hv
    exact essEncodeCo2_fits hrange
  | tvoc =>
    intro v hv
    obtain ⟨-, hrange, rfl⟩ := fieldReading_eq_value.mp hv
    exact essEncodeTvoc_fits hrange

/-- What a snapshot offers an update fits, if its two gas stages take one branch: then the CO2
stage has checked the TVOC value too. -/
theorem updateReading_fits (gate : GasGate) (data : SensorData) (c : EssCharId) :
    (updateReading gate gate data c).Fits c := by
  have hunknown : ∀ {c : EssCharId}, c = .co2 ∨ c = .tvoc → c.Fits ESS_UNKNOWN_U16 :=
    fun hc => Or.inr ⟨hc, rfl⟩
  cases c with
  | temperature => exact EssCharId.reading_fits .temperature data
  | humidity => exact EssCharId.reading_fits .humidity data
  | pressure => exact EssCharId.reading_fits .pressure data
  | co2 =>
    intro v hv
    cases gate with
    | real =>
      simp only [updateReading, co2UpdateReading] at hv
      split_ifs at hv with hrange
      simp only [Bool.or_eq_true, Bool.not_eq_true', not_or, Bool.not_eq_false] at hrange
      exact Reading.value.inj hv ▸ essEncodeCo2_fits hrange.1
    | conditioning => exact Reading.value.inj hv ▸ hunknown (Or.inl rfl)
    | invalid => cases hv
  | tvoc =>
    intro v hv
    simp only [updateReading, tvocUpdateReading] at hv
    split_ifs at hv with hco2
    cases gate with
    | real =>
      have hrange : essTvocInRange data.tvoc = true := by
        by_contra hbad
        exact hco2 (by simp [co2UpdateReading, hbad])
      exact Reading.value.inj hv ▸ essEncodeTvoc_fits hrange
    | conditioning => exact Reading.value.inj hv ▸ hunknown (Or.inr rfl)
    | invalid => cases hv

/-! ### Operations keep the cache in range -/

/-- Every known value fits. -/
def EssState.Fits (s : EssState) : Prop :=
  ∀ c, (s.sensor c).valueKnown = true → c.Fits (s.sensor c).value

/-- Every known value satisfies `Q`. -/
def EssState.Known (Q : EssCharId → ℤ → Prop) (s : EssState) : Prop :=
  ∀ c, (s.sensor c).valueKnown = true → Q c (s.sensor c).value

/-- What a snapshot of `D` offers satisfies `Q`, and so does the sentinel of a gas. -/
structure Offers (D : SensorData → Prop) (Q : EssCharId → ℤ → Prop) : Prop where
  update : ∀ {data}, D data → ∀ gate c v, updateReading gate gate data c = .value v → Q c v
  read : ∀ {data}, D data → ∀ c v, c.reading data = .value v → Q c v
  sentinel : ∀ {c}, c = .co2 ∨ c = .tvoc → Q c ESS_UNKNOWN_U16

/-- What any snapshot offers fits. -/
theorem offers_fits : Offers (fun _ => True) EssCharId.Fits where
  update _ gate c := updateReading_fits gate _ c
  read _ c := c.reading_fits _
  sentinel hc := Or.inr ⟨hc, rfl⟩

namespace EssState.Known

variable {D : SensorData → Prop} {Q : EssCharId → ℤ → Prop}

/-- Replacing one record by one that satisfies `Q`. -/
theorem set {s : EssState} (h : s.Known Q) {c : EssCharId} {x : EssSensor}
    (hx : x.valueKnown = true → Q c x.value) : (s.set c x).Known Q := by
  intro c' hknown
  by_cases hc : c' = c
  · subst hc
    rw [set_sensor_self] at hknown ⊢
    exact hx hknown
  · rw [set_sensor_of_ne s hc] at hknown ⊢
    exact h c' hknown

theorem invalidateSensor {s : EssState} (h : s.Known Q) (c : EssCharId) :
    (s.invalidateSensor c).Known Q :=
  h.set fun hknown => absurd hknown Bool.false_ne_true

theorem cccCfgChanged {s : EssState} (h : s.Known Q) (c : EssCharId) (value : ℕ) :
    (cccCfgChanged c value s).Known Q :=
  h.set (h c)

/-- **Update.** The readiness is the same whenever the update asks for it. -/
theorem essServiceUpdate (hQ : Offers D Q) {u : EssRun Unit} (h : u.ess.Known Q) (ready : Bool)
    {data : Option SensorData} (hD : ∀ x ∈ data, D x) :
    (essServiceUpdate (fun env => (ready, env)) data u).state.ess.Known Q := by
  cases data with
  | none =>
    rw [essServiceUpdate_state_of_idle (Or.inr rfl)]
    exact h
  | some data =>
    cases hinit : u.ess.initialized with
    | false =>
      rw [essServiceUpdate_state_of_idle (Or.inl hinit)]
      exact h
    | true =>
      intro c
      rw [essServiceUpdate_sensor hinit, gasGates_fixed]
      split_ifs
      · exact h c
      · intro hknown
        obtain ⟨v, hv⟩ := (Reading.valueKnown_updated _ _).mp hknown
        rw [hv]
        exact hQ.update (hD data rfl) _ c v hv

theorem sensorDataCallback (hQ : Offers D Q) {u : EssRun Unit} (h : u.ess.Known Q)
    (ready : Bool) {data : Option SensorData} (hD : ∀ x ∈ data, D x) :
    (sensorDataCallback (fun env => (ready, env)) data u).ess.Known Q := by
  rw [EnvMonitor.sensorDataCallback]
  split_ifs
  · exact h.essServiceUpdate hQ ready hD
  · exact h

end EssState.Known

/-! ### Runs -/

/-- A call into the service from outside a read, with the readiness of the CCS811 while it
runs. -/
inductive ServiceCall where
  /-- `ess_service_update`. -/
  | update (ready : Bool) (data : Option SensorData)
  /-- `sensor_data_callback`. -/
  | callback (ready : Bool) (data : Option SensorData)
  /-- A CCC handler, or `ess_service_local_ccc`. -/
  | ccc (c : EssCharId) (value : ℕ)

/-- What the call does. -/
def ServiceCall.apply (u : EssRun Unit) : ServiceCall → EssRun Unit
  | .update ready data => (essServiceUpdate (fun env => (ready, env)) data u).state
  | .callback ready data => sensorDataCallback (fun env => (ready, env)) data u
  | .ccc c value => { u with ess := cccCfgChanged c value u.ess }

/-- The results of the sensor manager during one read, and the calls into the service that
happen inside each of its operations: the callback of an update, or other threads while the
operation waits. -/
structure ManagerResults where
  updateRet : ℤ
  duringUpdate : List ServiceCall
  getDataRet : ℤ
  data : SensorData
  duringGetData : List ServiceCall
  ready : Bool
  duringUpdateForBle : List ServiceCall

/-- The sensor manager with these results. -/
def ManagerResults.ops (a : ManagerResults) : ManagerOps Unit where
  updateSelective _ u := (a.updateRet, a.duringUpdate.foldl ServiceCall.apply u)
  getData u := (a.getDataRet, a.data, a.duringGetData.foldl ServiceCall.apply u)
  isReady env := (a.ready, env)
  updateAirQualityForBle u := a.duringUpdateForBle.foldl ServiceCall.apply u

/-- What can happen to the service. -/
inductive EssEvent where
  /-- `ess_service_init`. -/
  | init
  | call (k : ServiceCall)
  | read (c : EssCharId) (len offset : ℕ) (results : ManagerResults)

/-- What a client sees of a read. -/
structure EssReply where
  char : EssCharId
  len : ℕ
  offset : ℕ
  reply : Except AttError (List UInt8)

/-- One step; only reads are observed. -/
def essStep (e : EssEvent) (s : EssState) : EssState × List EssReply :=
  match e with
  | .init => ({ s with initialized := true }, [])
  | .call k => ((k.apply ⟨s, [], ()⟩).ess, [])
  | .read c len offset results =>
    let (reply, u) := essRead results.ops c len offset ⟨s, [], ()⟩
    (u.ess, [⟨c, len, offset, reply⟩])

/-- The service as a machine; every step is enabled. -/
def essMachine : Machine EssState EssEvent EssReply := ⟨fun e s => some (essStep e s)⟩

/-- Every snapshot that the call hands to the service is one of `D`. -/
def ServiceCall.Hands (D : SensorData → Prop) : ServiceCall → Prop
  | .update _ data | .callback _ data => ∀ x ∈ data, D x
  | .ccc _ _ => True

/-- Every snapshot that the service gets during the read is one of `D`: the one that is fetched,
and those of the calls in between. -/
structure ManagerResults.Hands (D : SensorData → Prop) (a : ManagerResults) : Prop where
  fetched : a.getDataRet = 0 → D a.data
  duringUpdate : ∀ k ∈ a.duringUpdate, k.Hands D
  duringGetData : ∀ k ∈ a.duringGetData, k.Hands D
  duringUpdateForBle : ∀ k ∈ a.duringUpdateForBle, k.Hands D

/-- Every snapshot that the event hands to the service is one of `D`. -/
def EssEvent.Hands (D : SensorData → Prop) : EssEvent → Prop
  | .init => True
  | .call k => k.Hands D
  | .read _ _ _ results => results.Hands D

theorem ServiceCall.hands_any (k : ServiceCall) : k.Hands fun _ => True := by
  cases k <;> simp [Hands]

theorem EssEvent.hands_any (e : EssEvent) : e.Hands fun _ => True := by
  cases e with
  | init => exact trivial
  | call k => exact k.hands_any
  | read c len offset results =>
    exact ⟨fun _ => trivial, fun k _ => k.hands_any, fun k _ => k.hands_any,
      fun k _ => k.hands_any⟩

section Known

variable {D : SensorData → Prop} {Q : EssCharId → ℤ → Prop}

theorem EssState.Known.apply (hQ : Offers D Q) {u : EssRun Unit} (h : u.ess.Known Q)
    {k : ServiceCall} (hD : k.Hands D) : (k.apply u).ess.Known Q := by
  cases k with
  | update ready data => exact h.essServiceUpdate hQ ready hD
  | callback ready data => exact h.sensorDataCallback hQ ready hD
  | ccc c value => exact h.cccCfgChanged c value

theorem EssState.Known.foldl (hQ : Offers D Q) {u : EssRun Unit} (h : u.ess.Known Q)
    {ks : List ServiceCall} (hD : ∀ k ∈ ks, k.Hands D) :
    (ks.foldl ServiceCall.apply u).ess.Known Q := by
  induction ks generalizing u with
  | nil => exact h
  | cons k ks ih =>
    have hhead := h.apply hQ (hD k List.mem_cons_self)
    exact ih hhead fun k' hk' => hD k' (List.mem_cons_of_mem k hk')

/-- Whatever happens during a read, the known values satisfy what the snapshots offer. -/
theorem ManagerResults.snapshotKeeps (hQ : Offers D Q) {a : ManagerResults} (ha : a.Hands D) :
    SnapshotKeeps a.ops D fun u => u.ess.Known Q where
  updateSelective _ _ h := h.foldl hQ ha.duringUpdate
  getData h := h.foldl hQ ha.duringGetData
  snapshot _ := ha.fetched
  updateAirQualityForBle h := h.foldl hQ ha.duringUpdateForBle
  withEnv _ _ h := h
  invalidate c _ h := h.invalidateSensor c
  store hdata hv h := h.set fun _ => hQ.read hdata _ _ hv
  sentinel hc h := h.set fun _ => hQ.sentinel hc

/-- **One step** leaves known only what satisfies `Q`, if the snapshots it hands to the service
offer nothing else. -/
theorem EssState.Known.step (hQ : Offers D Q) {s : EssState} (h : s.Known Q) {e : EssEvent}
    (hD : e.Hands D) : (essStep e s).1.Known Q := by
  cases e with
  | init => exact h
  | call k => exact EssState.Known.apply (u := ⟨s, [], ()⟩) hQ h hD
  | read c len offset results =>
    exact (results.snapshotKeeps hQ hD).essRead (u := ⟨s, [], ()⟩) c len offset h

/-- **Whole runs.** -/
theorem essMachine_preserves_known (hQ : Offers D Q) :
    essMachine.Preserves (fun e => e.Hands D) (EssState.Known Q) := by
  intro e s s' os hD hs hstep
  have hknown := hs.step hQ hD
  rw [Option.some.inj hstep] at hknown
  exact hknown

end Known

/-- **One step** keeps the cache in range. -/
theorem EssState.Fits.step {s : EssState} (h : s.Fits) (e : EssEvent) : (essStep e s).1.Fits :=
  EssState.Known.step offers_fits h e.hands_any

theorem essMachine_preserves_fits : essMachine.Preserves Machine.anyEvent EssState.Fits := by
  intro e s s' os _ hs hstep
  exact essMachine_preserves_known offers_fits e.hands_any hs hstep

theorem essStart_fits : essStart.Fits := by
  intro c hknown
  cases c <;> exact absurd hknown Bool.false_ne_true

/-- **Known values are in the Valid Range.** In every state that updates on arbitrary snapshots,
reads with arbitrary results of the sensor manager and CCC changes can reach, a known value
lies between the limits of its characteristic, except that a gas may hold the sentinel. No
temperature or humidity is known with its sentinel, and no pressure with the `0` it starts
with. -/
theorem known_in_valid_range {es : List EssEvent} {s : EssState} {os : List EssReply}
    (hrun : essMachine.run es essStart = some (s, os)) (c : EssCharId)
    (hknown : (s.sensor c).valueKnown = true) :
    ((c.lowerLimit ≤ (s.sensor c).value ∧ (s.sensor c).value ≤ c.upperLimit) ∨
        ((c = .co2 ∨ c = .tvoc) ∧ (s.sensor c).value = ESS_UNKNOWN_U16)) ∧
      (c = .temperature → (s.sensor c).value ≠ ESS_UNKNOWN_S16) ∧
      (c = .humidity → (s.sensor c).value ≠ ESS_UNKNOWN_U16) ∧
      (c = .pressure → (s.sensor c).value ≠ 0) := by
  have hfits : c.Fits (s.sensor c).value :=
    essMachine_preserves_fits.run (fun _ _ => trivial) essStart_fits hrun c hknown
  refine ⟨hfits, ?_, ?_, ?_⟩
  · rintro rfl hvalue
    exact EssCharId.not_fits_start (by decide) (by decide) (hvalue ▸ hfits)
  · rintro rfl hvalue
    exact EssCharId.not_fits_start (by decide) (by decide) (hvalue ▸ hfits)
  · rintro rfl hvalue
    exact EssCharId.not_fits_start (by decide) (by decide) (hvalue ▸ hfits)

/-- An update of 20 °C and 40 % comes in while a read of the pressure fails. -/
def updateInRead : List EssEvent :=
  [.init,
    .read .pressure 4 0
      ⟨- EIO, [.callback false (some (humidityAt 20))], 0, sensorDataZero, [], false, []⟩]

/-- `known_in_valid_range` at the temperature that this update leaves known. -/
theorem known_in_valid_range_updateInRead :
    ∃ s os, essMachine.run updateInRead essStart = some (s, os) ∧
      (s.sensor .temperature).valueKnown = true ∧ (s.sensor .temperature).value = 2000 ∧
      ((EssCharId.temperature.lowerLimit ≤ (s.sensor .temperature).value ∧
            (s.sensor .temperature).value ≤ EssCharId.temperature.upperLimit) ∨
          ((EssCharId.temperature = .co2 ∨ EssCharId.temperature = .tvoc) ∧
            (s.sensor .temperature).value = ESS_UNKNOWN_U16)) ∧
        (EssCharId.temperature = .temperature →
          (s.sensor .temperature).value ≠ ESS_UNKNOWN_S16) ∧
        (EssCharId.temperature = .humidity →
          (s.sensor .temperature).value ≠ ESS_UNKNOWN_U16) ∧
        (EssCharId.temperature = .pressure → (s.sensor .temperature).value ≠ 0) := by
  have hcache : ∃ r ∈ essMachine.run updateInRead essStart,
      (r.1.sensor .temperature).valueKnown = true ∧
        (r.1.sensor .temperature).value = 2000 := by
    decide +kernel
  obtain ⟨⟨s, os⟩, hrun, hknown, hvalue⟩ := hcache
  exact ⟨s, os, hrun, hknown, hvalue, known_in_valid_range hrun .temperature hknown⟩

/-- A step serves a whole value only if it decodes to one that fits. -/
theorem EssState.Fits.served {s : EssState} (h : s.Fits) {e : EssEvent} {o : EssReply}
    (ho : o ∈ (essStep e s).2) (hoffset : o.offset = 0) (hlen : 4 ≤ o.len) {bytes : List UInt8}
    (hreply : o.reply = .ok bytes) :
    ∃ v, essDecoded o.char bytes = some v ∧ o.char.Fits v := by
  cases e with
  | init => exact absurd ho List.not_mem_nil
  | call k => exact absurd ho List.not_mem_nil
  | read c len offset results =>
    have hafter := h.step (.read c len offset results) c
    obtain rfl := List.mem_singleton.mp ho
    obtain rfl : offset = 0 := hoffset
    have houtcome : ReadOutcome (fun _ _ => True) c len 0
        (essRead results.ops c len 0 ⟨s, [], ()⟩) :=
      essRead_outcome (fun _ _ _ _ _ => trivial) (fun _ _ => trivial) len 0
    rcases houtcome with ⟨err, herror, -⟩ | ⟨hknown, hwire, -, hserved⟩
    · cases herror.symm.trans hreply
    · rw [served_whole c hlen] at hserved
      obtain rfl := Except.ok.inj (hserved.symm.trans hreply)
      exact ⟨_, essDecoded_payload hwire, hafter hknown⟩

/-- **Clients see values in the Valid Range.** Whatever has happened to the service, a whole value
that a read serves decodes to one between the limits that the client finds in the Valid Range
descriptor of the characteristic, in its format, or to the sentinel of a gas. -/
theorem served_in_valid_range {es : List EssEvent} {s : EssState} {os : List EssReply}
    (hrun : essMachine.run es essStart = some (s, os)) :
    ∀ o ∈ os, o.offset = 0 → 4 ≤ o.len → ∀ bytes, o.reply = .ok bytes → ∀ len, 8 ≤ len →
      ∃ range lower upper v, readValidRange o.char len 0 = .ok range ∧
        essDecoded o.char (range.take o.char.width) = some lower ∧
        essDecoded o.char (range.drop o.char.width) = some upper ∧
        essDecoded o.char bytes = some v ∧
        (lower ≤ v ∧ v ≤ upper ∨ (o.char = .co2 ∨ o.char = .tvoc) ∧ v = ESS_UNKNOWN_U16) := by
  have hfits : ∀ o ∈ os, o.offset = 0 → 4 ≤ o.len → ∀ bytes, o.reply = .ok bytes →
      ∃ v, essDecoded o.char bytes = some v ∧ o.char.Fits v := by
    refine essMachine_preserves_fits.run_emits ?_ (fun _ _ => trivial) essStart_fits hrun
    intro e s s' os _ hs hstep o ho hoffset hlen bytes hreply
    have hmem : o ∈ (essStep e s).2 := by
      rw [Option.some.inj hstep]
      exact ho
    exact hs.served hmem hoffset hlen hreply
  intro o ho hoffset hlen bytes hreply len hrange
  obtain ⟨v, hdecoded, hv⟩ := hfits o ho hoffset hlen bytes hreply
  obtain ⟨range, hread, hlower, hupper⟩ := readValidRange_decoded o.char hrange
  exact ⟨range, _, _, v, hread, hlower, hupper, hdecoded, hv⟩

/-- The service is initialised, and a client reads the temperature, 20 °C. -/
def readTemperature : List EssEvent :=
  [.init, .read .temperature 4 0 ⟨0, [], 0, humidityAt 20, [], false, []⟩]

/-- `served_in_valid_range` for it. -/
theorem served_in_valid_range_readTemperature :
    ∃ s os, essMachine.run readTemperature essStart = some (s, os) ∧
      ∃ o ∈ os, o.char = .temperature ∧ o.reply.toOption = some [0xD0, 0x07] ∧
        ∃ range lower upper v, readValidRange o.char 8 0 = .ok range ∧
          essDecoded o.char (range.take o.char.width) = some lower ∧
          essDecoded o.char (range.drop o.char.width) = some upper ∧
          essDecoded o.char [0xD0, 0x07] = some v ∧
          (lower ≤ v ∧ v ≤ upper ∨ (o.char = .co2 ∨ o.char = .tvoc) ∧ v = ESS_UNKNOWN_U16) := by
  have hread : ∃ r ∈ essMachine.run readTemperature essStart, ∃ o ∈ r.2,
      (o.char = .temperature ∧ o.offset = 0 ∧ o.len = 4) ∧
        o.reply.toOption = some [0xD0, 0x07] := by
    decide +kernel
  obtain ⟨⟨s, os⟩, hrun, o, ho, ⟨hchar, hoffset, hlen⟩, hreply⟩ := hread
  have hbytes : o.reply = .ok [0xD0, 0x07] := by
    cases hr : o.reply with
    | ok bytes =>
      rw [hr] at hreply
      exact congrArg _ (Option.some.inj hreply)
    | error err =>
      rw [hr] at hreply
      cases hreply
  exact ⟨s, os, hrun, o, ho, hchar, hreply,
    served_in_valid_range hrun o ho hoffset hlen.ge _ hbytes 8 le_rfl⟩

end EnvMonitor
