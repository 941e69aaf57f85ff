import EnvMonitor.Lib.CFloat

/-!
# The encoders of the Environmental Sensing Service

`ess_encode.c`: a reading becomes the integer of its characteristic's wire format, and a
trigger condition decides whether a change is notified. The three float encoders are one
function of their scale, limits and result type; `encodeScaled_mem_of_isFinite` is its range
law.
-/

namespace EnvMonitor

/-! ### Wire-format constants -/

/-- `ESS_UNKNOWN_S16`. -/
def ESS_UNKNOWN_S16 : ℤ := -32768

/-- `ESS_UNKNOWN_U16`. -/
def ESS_UNKNOWN_U16 : ℤ := 0xFFFF

/-- `ESS_TEMP_MIN_E_2C` and `ESS_TEMP_MAX_E_2C`, in 0.01 °C. -/
def ESS_TEMP_MIN_E_2C : ℤ := -27315

@[inherit_doc ESS_TEMP_MIN_E_2C]
def ESS_TEMP_MAX_E_2C : ℤ := 32767

/-- `ESS_HUM_MIN_E_2PCT` and `ESS_HUM_MAX_E_2PCT`, in 0.01 %. -/
def ESS_HUM_MIN_E_2PCT : ℤ := 0

@[inherit_doc ESS_HUM_MIN_E_2PCT]
def ESS_HUM_MAX_E_2PCT : ℤ := 10000

/-- `ESS_PRESS_MIN_DPA` and `ESS_PRESS_MAX_DPA`, in 0.1 Pa. -/
def ESS_PRESS_MIN_DPA : ℤ := 260000

@[inherit_doc ESS_PRESS_MIN_DPA]
def ESS_PRESS_MAX_DPA : ℤ := 1260000

/-! ### Encoders -/

/-- The body the three float encoders share: the sentinel on NaN and the infinities, and
otherwise the scaled value clamped to its limits and converted to the result type. -/
def encodeScaled (unknown lo hi : ℤ) (scale : ℚ) (convert : ℤ → ℤ) (x : CFloat) : ℤ :=
  if x.isNan || x.isInf then unknown
  else convert (clampTruncate lo hi (x.scale scale))

/-- `ess_encode_temperature`, from °C to an `int16_t` of 0.01 °C. -/
def essEncodeTemperature (tempCelsius : CFloat) : ℤ :=
  encodeScaled ESS_UNKNOWN_S16 ESS_TEMP_MIN_E_2C ESS_TEMP_MAX_E_2C 100 (toSigned 16)
    tempCelsius

/-- `ess_encode_humidity`, from % to a `uint16_t` of 0.01 %. -/
def essEncodeHumidity (humidityPercent : CFloat) : ℤ :=
  encodeScaled ESS_UNKNOWN_U16 ESS_HUM_MIN_E_2PCT ESS_HUM_MAX_E_2PCT 100
    (fun n => toUnsigned 16 n) humidityPercent

/-- `ess_encode_pressure`, from kPa to a `uint32_t` of 0.1 Pa. -/
def essEncodePressure (pressureKpa : CFloat) : ℤ :=
  encodeScaled ESS_PRESS_MIN_DPA ESS_PRESS_MIN_DPA ESS_PRESS_MAX_DPA 10000
    (fun n => toUnsigned 32 n) pressureKpa

/-- `ess_encode_co2`. -/
def essEncodeCo2 (co2Ppm : UInt16) : ℤ := co2Ppm.toNat

/-- `ess_encode_tvoc`. -/
def essEncodeTvoc (tvocPpb : UInt16) : ℤ := tvocPpb.toNat

/-- **Range of an encoder.** A finite value is encoded between the limits, as soon as the
conversion keeps every value between the limits. -/
theorem encodeScaled_mem_of_isFinite {unknown lo hi : ℤ} {scale : ℚ} {convert : ℤ → ℤ}
    (h : lo ≤ hi) (hconvert : ∀ n, lo ≤ n → n ≤ hi → convert n = n) {x : CFloat}
    (hx : x.isFinite = true) :
    lo ≤ encodeScaled unknown lo hi scale convert x ∧
      encodeScaled unknown lo hi scale convert x ≤ hi := by
  cases x with
  | nan => exact absurd hx Bool.false_ne_true
  | inf negative => exact absurd hx Bool.false_ne_true
  | fin q =>
    have hmem := clampTruncate_mem h (q * scale)
    have henc : encodeScaled unknown lo hi scale convert (.fin q) =
        clampTruncate lo hi (.fin (q * scale)) :=
      hconvert _ hmem.1 hmem.2
    rw [henc]
    exact hmem

/-- Any other value becomes the sentinel. -/
theorem encodeScaled_mem {unknown lo hi : ℤ} {scale : ℚ} {convert : ℤ → ℤ} (h : lo ≤ hi)
    (hconvert : ∀ n, lo ≤ n → n ≤ hi → convert n = n) (x : CFloat) :
    encodeScaled unknown lo hi scale convert x = unknown ∨
      (lo ≤ encodeScaled unknown lo hi scale convert x ∧
        encodeScaled unknown lo hi scale convert x ≤ hi) := by
  cases x with
  | nan => exact Or.inl rfl
  | inf negative => exact Or.inl rfl
  | fin q => exact Or.inr (encodeScaled_mem_of_isFinite h hconvert rfl)

/-- The temperature limits lie inside `int16_t`. -/
theorem toSigned_temperature (n : ℤ) (hlo : ESS_TEMP_MIN_E_2C ≤ n)
    (hhi : n ≤ ESS_TEMP_MAX_E_2C) : toSigned 16 n = n := by
  simp only [ESS_TEMP_MIN_E_2C, ESS_TEMP_MAX_E_2C] at hlo hhi
  exact toSigned_of_le (by omega) (by omega)

/-- The humidity limits lie inside `uint16_t`. -/
theorem toUnsigned_humidity (n : ℤ) (hlo : ESS_HUM_MIN_E_2PCT ≤ n)
    (hhi : n ≤ ESS_HUM_MAX_E_2PCT) : (toUnsigned 16 n : ℤ) = n := by
  simp only [ESS_HUM_MIN_E_2PCT, ESS_HUM_MAX_E_2PCT] at hlo hhi
  exact toUnsigned_of_lt hlo (by omega)

/-- The pressure limits lie inside `uint32_t`. -/
theorem toUnsigned_pressure (n : ℤ) (hlo : ESS_PRESS_MIN_DPA ≤ n)
    (hhi : n ≤ ESS_PRESS_MAX_DPA) : (toUnsigned 32 n : ℤ) = n := by
  simp only [ESS_PRESS_MIN_DPA, ESS_PRESS_MAX_DPA] at hlo hhi
  exact toUnsigned_of_lt (by omega) (by omega)

/-- A temperature is encoded inside `int16_t`. -/
theorem essEncodeTemperature_mem (x : CFloat) :
    -32768 ≤ essEncodeTemperature x ∧ essEncodeTemperature x < 32768 := by
  rcases encodeScaled_mem (by decide) toSigned_temperature x with h | ⟨hlo, hhi⟩
  · rw [essEncodeTemperature, h]
    decide
  · have hmin : ESS_TEMP_MIN_E_2C = -27315 := rfl
    have hmax : ESS_TEMP_MAX_E_2C = 32767 := rfl
    rw [essEncodeTemperature]
    omega

/-- A humidity is encoded inside `uint16_t`. -/
theorem essEncodeHumidity_mem (x : CFloat) :
    0 ≤ essEncodeHumidity x ∧ essEncodeHumidity x < 65536 := by
  rcases encodeScaled_mem (by decide) toUnsigned_humidity x with h | ⟨hlo, hhi⟩
  · rw [essEncodeHumidity, h]
    decide
  · have hmin : ESS_HUM_MIN_E_2PCT = 0 := rfl
    have hmax : ESS_HUM_MAX_E_2PCT = 10000 := rfl
    rw [essEncodeHumidity]
    omega

/-- A pressure is encoded inside the non-negative `int32_t`, its limits even. -/
theorem essEncodePressure_mem (x : CFloat) :
    260000 ≤ essEncodePressure x ∧ essEncodePressure x ≤ 1260000 := by
  rcases encodeScaled_mem (by decide) toUnsigned_pressure x with h | h
  · rw [essEncodePressure, h]
    decide
  · exact h

theorem essEncodeCo2_mem (x : UInt16) : 0 ≤ essEncodeCo2 x ∧ essEncodeCo2 x < 65536 := by
  have hlt := x.toNat_lt
  rw [essEncodeCo2]
  omega

theorem essEncodeTvoc_mem (x : UInt16) : 0 ≤ essEncodeTvoc x ∧ essEncodeTvoc x < 65536 := by
  have hlt := x.toNat_lt
  rw [essEncodeTvoc]
  omega

/-! ### Trigger conditions -/

/-- `enum ess_trigger_condition`. -/
inductive EssTriggerCondition where
  | inactive
  | fixedTimeInterval
  | noLessThanSpecifiedTime
  | valueChanged
  | lessThanRefValue
  | lessOrEqualToRefValue
  | greaterThanRefValue
  | greaterOrEqualToRefValue
  | equalToRefValue
  | notEqualToRefValue
deriving DecidableEq, Repr

/-- The body of `ess_should_notify_16` and `ess_should_notify_32`, which differ in the type
of the three values only. -/
def triggerHolds (condition : EssTriggerCondition) (oldVal newVal refVal : ℤ) : Bool :=
  match condition with
  | .inactive => false
  | .valueChanged => newVal != oldVal
  | .lessThanRefValue => newVal < refVal
  | .lessOrEqualToRefValue => newVal ≤ refVal
  | .greaterThanRefValue => newVal > refVal
  | .greaterOrEqualToRefValue => newVal ≥ refVal
  | .equalToRefValue => newVal == refVal
  | .notEqualToRefValue => newVal != refVal
  | .fixedTimeInterval | .noLessThanSpecifiedTime => false

/-- `ess_should_notify_16`, on `int16_t` values. -/
def essShouldNotify16 (condition : EssTriggerCondition) (oldVal newVal refVal : ℤ) : Bool :=
  triggerHolds condition oldVal newVal refVal

/-- `ess_should_notify_32`, on `int32_t` values. -/
def essShouldNotify32 (condition : EssTriggerCondition) (oldVal newVal refVal : ℤ) : Bool :=
  triggerHolds condition oldVal newVal refVal

end EnvMonitor
