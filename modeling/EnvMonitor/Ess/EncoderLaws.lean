import EnvMonitor.Ess.State

/-!
# The laws of the float encoders

The three float encoders of `ess_encode.c` meet the range checks of `ess_service.c` at the
limits of the wire format. `ScaledEncoder` is an encoder together with its range check, and its
last fields say how the two fit: the physical limits are the wire limits divided by the scale,
and what lies between the wire limits survives the conversion to the result type and is no
sentinel. `EncoderLaws` is what follows, and `ess_encoder_laws` instantiates it at the three
encoders of the source.
-/

namespace EnvMonitor

/-- What a client makes of an encoded value, in the unit of the sensor. -/
def decodeScaled (scale : ℚ) (n : ℤ) : ℚ := n / scale

/-- An encoder and its range check. -/
structure ScaledEncoder where
  unknown : ℤ
  lo : ℤ
  hi : ℤ
  scale : ℚ
  convert : ℤ → ℤ
  minimum : ℚ
  maximum : ℚ
  scale_pos : 0 < scale
  lo_le_hi : lo ≤ hi
  scale_minimum : scale * minimum = lo
  scale_maximum : scale * maximum = hi
  convert_eq : ∀ n, lo ≤ n → n ≤ hi → convert n = n
  known : ESS_UNKNOWN_S16 < lo ∧ (hi < ESS_UNKNOWN_U16 ∨ ESS_UNKNOWN_U16 < lo)

/-- The laws of an encoder over exact arithmetic, with its range check, its limits, its scale
and the conversion to its result type. -/
structure EncoderLaws (encode : CFloat → ℤ) (inRange : CFloat → Bool) (lo hi : ℤ) (scale : ℚ)
    (convert : ℤ → ℤ) : Prop where
  /-- A finite value is encoded between the limits, -/
  limits : ∀ x, x.isFinite = true → lo ≤ encode x ∧ encode x ≤ hi
  /-- and not by a "value not known" sentinel. -/
  known : ∀ x, x.isFinite = true → encode x ≠ ESS_UNKNOWN_S16 ∧ encode x ≠ ESS_UNKNOWN_U16
  /-- The encoder is monotone, across zero and the limits too. -/
  monotone : ∀ p q : ℚ, p ≤ q → encode (.fin p) ≤ encode (.fin q)
  /-- The clamp never acts on a value that the range check accepts, so all that is lost of it
  is its fraction, towards zero. -/
  accepted : ∀ x, inRange x = true → ∃ q, x = .fin q ∧ (lo ≤ scale * q ∧ scale * q ≤ hi) ∧
    |(encode x : ℚ) - scale * q| < 1 ∧ |(encode x : ℚ)| ≤ |scale * q|
  /-- Every integer between the limits is the encoding of its decoding. -/
  encode_decode : ∀ n : ℤ, lo ≤ n → n ≤ hi → encode (.fin (decodeScaled scale n)) = n
  /-- A value decoded and encoded again is the same on the wire. -/
  recode : ∀ x, x.isFinite = true → encode (.fin (decodeScaled scale (encode x))) = encode x
  /-- The conversion to the result type does not wrap. -/
  noWrap : ∀ x, x.isFinite = true →
    encode x = convert (clampTruncate lo hi (x.scale scale)) ∧
      convert (clampTruncate lo hi (x.scale scale)) = clampTruncate lo hi (x.scale scale)

namespace ScaledEncoder

variable (e : ScaledEncoder)

/-- The encoder. -/
def encode (x : CFloat) : ℤ := encodeScaled e.unknown e.lo e.hi e.scale e.convert x

/-- The range check. -/
def inRange (x : CFloat) : Bool := x.within e.minimum e.maximum

/-- On a finite value the encoder is the clamp: the conversion finds nothing to change. -/
theorem encode_fin (q : ℚ) : e.encode (.fin q) = clampTruncate e.lo e.hi (.fin (e.scale * q)) := by
  have hmem := clampTruncate_mem e.lo_le_hi (e.scale * q)
  rw [← e.convert_eq _ hmem.1 hmem.2, mul_comm]
  rfl

theorem encode_mem {x : CFloat} (h : x.isFinite = true) :
    e.lo ≤ e.encode x ∧ e.encode x ≤ e.hi :=
  encodeScaled_mem_of_isFinite e.lo_le_hi e.convert_eq h

/-- No sentinel lies between the limits. -/
theorem ne_unknown {n : ℤ} (hlo : e.lo ≤ n) (hhi : n ≤ e.hi) :
    n ≠ ESS_UNKNOWN_S16 ∧ n ≠ ESS_UNKNOWN_U16 := by
  obtain ⟨hS16, hU16⟩ := e.known
  omega

theorem encode_mono {p q : ℚ} (h : p ≤ q) : e.encode (.fin p) ≤ e.encode (.fin q) := by
  rw [e.encode_fin, e.encode_fin]
  exact clampTruncate_mono e.lo_le_hi (mul_le_mul_of_nonneg_left h e.scale_pos.le)

/-- Between the limits the encoder truncates the scaled value. -/
theorem encode_of_mem {q : ℚ} (hlo : (e.lo : ℚ) ≤ e.scale * q) (hhi : e.scale * q ≤ e.hi) :
    e.encode (.fin q) = (CFloat.fin (e.scale * q)).truncate := by
  rw [e.encode_fin, clampTruncate_of_mem hlo hhi]

/-- The range check and the limits meet: scaling maps the one interval onto the other. -/
theorem inRange_iff {x : CFloat} :
    e.inRange x = true ↔ ∃ q, x = .fin q ∧ (e.lo : ℚ) ≤ e.scale * q ∧ e.scale * q ≤ e.hi := by
  have hpos := e.scale_pos
  rw [inRange, CFloat.within_iff, ← e.scale_minimum, ← e.scale_maximum]
  simp only [mul_le_mul_iff_right₀ hpos]

/-- A value is accepted and encoded by a negative integer exactly if, scaled, it lies within one
below that integer. -/
theorem inRange_and_encode_eq_iff (x : CFloat) {n : ℤ} (hlo : e.lo < n) (hneg : n < 0)
    (hhi : 0 ≤ e.hi) :
    e.inRange x = true ∧ e.encode x = n ↔
      ∃ q, x = .fin q ∧ (n : ℚ) - 1 < e.scale * q ∧ e.scale * q ≤ n := by
  constructor
  · rintro ⟨hrange, hencoded⟩
    obtain ⟨q, rfl, hmin, hmax⟩ := e.inRange_iff.mp hrange
    rw [e.encode_of_mem hmin hmax] at hencoded
    exact ⟨q, rfl, (CFloat.truncate_eq_iff_of_neg hneg).mp hencoded⟩
  · rintro ⟨q, rfl, hlt, hle⟩
    have hmin : (e.lo : ℚ) ≤ e.scale * q := by
      have hlo' : (e.lo : ℚ) + 1 ≤ n := by exact_mod_cast hlo
      linarith
    have hmax : e.scale * q ≤ e.hi := by
      have hhi' : (n : ℚ) ≤ e.hi := by exact_mod_cast hneg.le.trans hhi
      linarith
    refine ⟨e.inRange_iff.mpr ⟨q, rfl, hmin, hmax⟩, ?_⟩
    rw [e.encode_of_mem hmin hmax]
    exact (CFloat.truncate_eq_iff_of_neg hneg).mpr ⟨hlt, hle⟩

theorem encode_decode {n : ℤ} (hlo : e.lo ≤ n) (hhi : n ≤ e.hi) :
    e.encode (.fin (decodeScaled e.scale n)) = n := by
  have hscaled : e.scale * decodeScaled e.scale n = n := mul_div_cancel₀ _ e.scale_pos.ne'
  have hlo' : (e.lo : ℚ) ≤ e.scale * decodeScaled e.scale n := by
    rw [hscaled]
    exact_mod_cast hlo
  have hhi' : e.scale * decodeScaled e.scale n ≤ e.hi := by
    rw [hscaled]
    exact_mod_cast hhi
  rw [e.encode_of_mem hlo' hhi', hscaled, CFloat.truncate_intCast]

/-- **Laws of an encoder**, for any scale and limits that fit together. -/
theorem laws : EncoderLaws e.encode e.inRange e.lo e.hi e.scale e.convert where
  limits _ := e.encode_mem
  known _ h := e.ne_unknown (e.encode_mem h).1 (e.encode_mem h).2
  monotone _ _ := e.encode_mono
  accepted x h := by
    obtain ⟨q, rfl, hlo, hhi⟩ := e.inRange_iff.mp h
    refine ⟨q, rfl, ⟨hlo, hhi⟩, ?_⟩
    rw [e.encode_of_mem hlo hhi]
    exact ⟨CFloat.abs_truncate_sub_lt _, CFloat.abs_truncate_le _⟩
  encode_decode _ := e.encode_decode
  recode _ h := e.encode_decode (e.encode_mem h).1 (e.encode_mem h).2
  noWrap x h := by
    obtain ⟨q, rfl⟩ := CFloat.isFinite_iff.mp h
    have hmem := clampTruncate_mem e.lo_le_hi (q * e.scale)
    exact ⟨rfl, e.convert_eq _ hmem.1 hmem.2⟩

end ScaledEncoder

/-! ### The three encoders -/

theorem hundred_mul_div (n : ℤ) : (100 : ℚ) * (n / 100) = n :=
  mul_div_cancel₀ _ (by norm_num)

theorem hundred_pos : (0 : ℚ) < 100 := by norm_num

theorem temperature_limits :
    ESS_TEMP_MIN_E_2C ≤ ESS_TEMP_MAX_E_2C ∧ ESS_UNKNOWN_S16 < ESS_TEMP_MIN_E_2C ∧
      (ESS_TEMP_MAX_E_2C < ESS_UNKNOWN_U16 ∨ ESS_UNKNOWN_U16 < ESS_TEMP_MIN_E_2C) := by
  decide

/-- `ess_encode_temperature` and `ess_temperature_in_range`. -/
def temperatureEncoder : ScaledEncoder where
  unknown := ESS_UNKNOWN_S16
  lo := ESS_TEMP_MIN_E_2C
  hi := ESS_TEMP_MAX_E_2C
  scale := 100
  convert := toSigned 16
  minimum := ESS_TEMP_MIN_E_2C / 100
  maximum := ESS_TEMP_MAX_E_2C / 100
  scale_pos := hundred_pos
  lo_le_hi := temperature_limits.1
  known := temperature_limits.2
  scale_minimum := hundred_mul_div ESS_TEMP_MIN_E_2C
  scale_maximum := hundred_mul_div ESS_TEMP_MAX_E_2C
  convert_eq := toSigned_temperature

theorem humidity_scale_minimum : (100 : ℚ) * 0 = ESS_HUM_MIN_E_2PCT := by
  norm_num [ESS_HUM_MIN_E_2PCT]

theorem humidity_limits :
    ESS_HUM_MIN_E_2PCT ≤ ESS_HUM_MAX_E_2PCT ∧ ESS_UNKNOWN_S16 < ESS_HUM_MIN_E_2PCT ∧
      (ESS_HUM_MAX_E_2PCT < ESS_UNKNOWN_U16 ∨ ESS_UNKNOWN_U16 < ESS_HUM_MIN_E_2PCT) := by
  decide

/-- `ess_encode_humidity` and `ess_humidity_in_range`. -/
def humidityEncoder : ScaledEncoder where
  unknown := ESS_UNKNOWN_U16
  lo := ESS_HUM_MIN_E_2PCT
  hi := ESS_HUM_MAX_E_2PCT
  scale := 100
  convert n := toUnsigned 16 n
  minimum := 0
  maximum := ESS_HUM_MAX_E_2PCT / 100
  scale_pos := hundred_pos
  lo_le_hi := humidity_limits.1
  known := humidity_limits.2
  scale_minimum := humidity_scale_minimum
  scale_maximum := hundred_mul_div ESS_HUM_MAX_E_2PCT
  convert_eq := toUnsigned_humidity

theorem pressure_scale_pos : (0 : ℚ) < 10000 := by norm_num

theorem pressure_scale_minimum : (10000 : ℚ) * 26 = ESS_PRESS_MIN_DPA := by
  norm_num [ESS_PRESS_MIN_DPA]

theorem pressure_scale_maximum : (10000 : ℚ) * 126 = ESS_PRESS_MAX_DPA := by
  norm_num [ESS_PRESS_MAX_DPA]

theorem pressure_limits :
    ESS_PRESS_MIN_DPA ≤ ESS_PRESS_MAX_DPA ∧ ESS_UNKNOWN_S16 < ESS_PRESS_MIN_DPA ∧
      (ESS_PRESS_MAX_DPA < ESS_UNKNOWN_U16 ∨ ESS_UNKNOWN_U16 < ESS_PRESS_MIN_DPA) := by
  decide

/-- `ess_encode_pressure` and `ess_pressure_in_range`. The characteristic has no sentinel: what
is not finite is encoded by the lower limit. -/
def pressureEncoder : ScaledEncoder where
  unknown := ESS_PRESS_MIN_DPA
  lo := ESS_PRESS_MIN_DPA
  hi := ESS_PRESS_MAX_DPA
  scale := 10000
  convert n := toUnsigned 32 n
  minimum := 26
  maximum := 126
  scale_pos := pressure_scale_pos
  lo_le_hi := pressure_limits.1
  known := pressure_limits.2
  scale_minimum := pressure_scale_minimum
  scale_maximum := pressure_scale_maximum
  convert_eq := toUnsigned_pressure

/-- **The float encoders over exact arithmetic.** Each of them meets the laws with the range
check that `ess_service.c` makes before it encodes. -/
theorem ess_encoder_laws :
    EncoderLaws essEncodeTemperature essTemperatureInRange ESS_TEMP_MIN_E_2C ESS_TEMP_MAX_E_2C
        100 (toSigned 16) ∧
      EncoderLaws essEncodeHumidity essHumidityInRange ESS_HUM_MIN_E_2PCT ESS_HUM_MAX_E_2PCT
        100 (fun n => toUnsigned 16 n) ∧
      EncoderLaws essEncodePressure essPressureInRange ESS_PRESS_MIN_DPA ESS_PRESS_MAX_DPA
        10000 (fun n => toUnsigned 32 n) :=
  ⟨temperatureEncoder.laws, humidityEncoder.laws, pressureEncoder.laws⟩

end EnvMonitor
