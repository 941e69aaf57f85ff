import EnvMonitor.Ess.EncoderLaws
import EnvMonitor.Ess.ValidRange

/-!
# Getters and `-ENODATA`

Each getter of `ess_service.h` returns the cached value, or `-ENODATA` while none is known: the
error shares its `int` with the values. For a characteristic that is never negative that is
harmless. A temperature may be: what the encoder truncates to `-ENODATA`, in 0.01 °C, passes the
range check and is then indistinguishable from no data. `gettersTell_iff` is what the getters can
be trusted with in any reachable state, and `getters_tell_of_run` says which snapshots lead
there.
-/

namespace EnvMonitor

/-! ### The getters -/

/-- The body that the getters share, with the `ENODATA` of the C library. -/
def essServiceGet (enodata : ℤ) (c : EssCharId) (s : EssState) : ℤ :=
  if (s.sensor c).valueKnown then (s.sensor c).value else -enodata

/-- `ess_service_get_temperature`. -/
def essServiceGetTemperature (enodata : ℤ) (s : EssState) : ℤ :=
  essServiceGet enodata .temperature s

/-- `ess_service_get_humidity`. -/
def essServiceGetHumidity (enodata : ℤ) (s : EssState) : ℤ := essServiceGet enodata .humidity s

/-- `ess_service_get_pressure`. -/
def essServiceGetPressure (enodata : ℤ) (s : EssState) : ℤ := essServiceGet enodata .pressure s

/-- `ess_service_get_co2`. -/
def essServiceGetCo2 (enodata : ℤ) (s : EssState) : ℤ := essServiceGet enodata .co2 s

/-- `ess_service_get_tvoc`. -/
def essServiceGetTvoc (enodata : ℤ) (s : EssState) : ℤ := essServiceGet enodata .tvoc s

/-- Each getter returns `-ENODATA` exactly when its value is not known. -/
structure GettersTell (enodata : ℤ) (s : EssState) : Prop where
  temperature : essServiceGetTemperature enodata s = -enodata ↔
    (s.sensor .temperature).valueKnown = false
  humidity : essServiceGetHumidity enodata s = -enodata ↔
    (s.sensor .humidity).valueKnown = false
  pressure : essServiceGetPressure enodata s = -enodata ↔
    (s.sensor .pressure).valueKnown = false
  co2 : essServiceGetCo2 enodata s = -enodata ↔ (s.sensor .co2).valueKnown = false
  tvoc : essServiceGetTvoc enodata s = -enodata ↔ (s.sensor .tvoc).valueKnown = false

/-- The temperature of the snapshot is valid and, in 0.01 °C, truncates to `-ENODATA`. -/
def TemperatureHits (enodata : ℤ) (data : SensorData) : Prop :=
  data.isValid .temperature = true ∧
    ∃ q : ℚ, data.temperature = .fin q ∧ -(enodata : ℚ) - 1 < 100 * q ∧ 100 * q ≤ -enodata

/-! ### One state -/

/-- A getter tells unless the value that is known is `-ENODATA`. -/
theorem essServiceGet_tells_iff (enodata : ℤ) (c : EssCharId) (s : EssState) :
    (essServiceGet enodata c s = -enodata ↔ (s.sensor c).valueKnown = false) ↔
      ((s.sensor c).valueKnown = true → (s.sensor c).value ≠ -enodata) := by
  rw [essServiceGet]
  cases hknown : (s.sensor c).valueKnown with
  | false => simp
  | true => simp

/-- Only a temperature is negative. -/
theorem EssCharId.Fits.nonneg {c : EssCharId} {v : ℤ} (h : c.Fits v) (hc : c ≠ .temperature) :
    0 ≤ v := by
  rcases h with ⟨hlo, -⟩ | ⟨-, rfl⟩
  · have hlimit : 0 ≤ c.lowerLimit := by
      cases c with
      | temperature => exact absurd rfl hc
      | _ => decide
    exact hlimit.trans hlo
  · decide

/-- **What the getters can be trusted with.** While the known values are in range, the getters
tell unless the temperature is known to be `-ENODATA` hundredths of a degree. -/
theorem gettersTell_iff {enodata : ℤ} (hpos : 0 < enodata) {s : EssState} (hs : s.Fits) :
    GettersTell enodata s ↔
      ((s.sensor .temperature).valueKnown = true →
        (s.sensor .temperature).value ≠ -enodata) := by
  have hother : ∀ c, c ≠ .temperature →
      (essServiceGet enodata c s = -enodata ↔ (s.sensor c).valueKnown = false) := by
    intro c hc
    refine (essServiceGet_tells_iff enodata c s).mpr fun hknown hvalue => ?_
    have hnonneg := (hs c hknown).nonneg hc
    omega
  rw [← essServiceGet_tells_iff]
  constructor
  · exact GettersTell.temperature
  · intro htemperature
    exact ⟨htemperature, hother .humidity (by decide), hother .pressure (by decide),
      hother .co2 (by decide), hother .tvoc (by decide)⟩

/-! ### Snapshots -/

/-- The temperature of a snapshot is read as `-ENODATA` exactly if it hits. The range check lets
all of these through. -/
theorem temperatureReading_eq_iff {enodata : ℤ} (hpos : 0 < enodata) (hlt : enodata < 27315)
    (data : SensorData) :
    temperatureReading data = .value (-enodata) ↔ TemperatureHits enodata data := by
  have hlo : temperatureEncoder.lo < -enodata := by
    have hmin : temperatureEncoder.lo = -27315 := rfl
    omega
  have hneg : -enodata < 0 := by omega
  have hhi : 0 ≤ temperatureEncoder.hi := by decide
  have hencoded := temperatureEncoder.inRange_and_encode_eq_iff data.temperature hlo hneg hhi
  rw [Int.cast_neg] at hencoded
  rw [temperatureReading, fieldReading_eq_value, TemperatureHits]
  exact and_congr_right fun _ => hencoded

/-- Snapshots that do not hit offer no temperature of `-ENODATA`. -/
theorem offers_of_misses {enodata : ℤ} (hpos : 0 < enodata) (hlt : enodata < 27315) :
    Offers (fun data => ¬ TemperatureHits enodata data)
      (fun c v => c = .temperature → v ≠ -enodata) where
  update hmiss gate c v hv := by
    rintro rfl rfl
    exact hmiss ((temperatureReading_eq_iff hpos hlt _).mp hv)
  read hmiss c v hv := by
    rintro rfl rfl
    exact hmiss ((temperatureReading_eq_iff hpos hlt _).mp hv)
  sentinel := by
    rintro c (rfl | rfl) <;> intro h <;> cases h

/-- An update of an initialised service caches a temperature that hits. -/
theorem essStep_update_hits {enodata : ℤ} (hpos : 0 < enodata) (hlt : enodata < 27315)
    {s : EssState} (hinit : s.initialized = true) (ready : Bool) {data : SensorData}
    (hhits : TemperatureHits enodata data) :
    ((essStep (.call (.update ready (some data))) s).1.sensor .temperature).valueKnown = true ∧
      ((essStep (.call (.update ready (some data))) s).1.sensor .temperature).value =
        -enodata := by
  have hreading := (temperatureReading_eq_iff hpos hlt data).mpr hhits
  have hsensor : (essStep (.call (.update ready (some data))) s).1.sensor .temperature =
      (temperatureReading data).updated (s.sensor .temperature) :=
    essServiceUpdate_sensor (u := ⟨s, [], ()⟩) hinit _ data .temperature
  rw [hsensor, hreading]
  exact ⟨rfl, rfl⟩

/-! ### Runs -/

/-- **Getters and runs.** In a run that hands the service no snapshot whose temperature hits,
every getter tells in every state reached. In any run at all the getters tell in the state
reached unless its temperature is known to be `-ENODATA`, and any snapshot that hits brings an
initialised service there. -/
theorem getters_tell_of_run {enodata : ℤ} (hpos : 0 < enodata) (hlt : enodata < 27315) :
    (∀ (es : List EssEvent) (s : EssState) (os : List EssReply),
      (∀ e ∈ es, e.Hands fun data => ¬ TemperatureHits enodata data) →
        essMachine.run es essStart = some (s, os) → GettersTell enodata s) ∧
      (∀ (es : List EssEvent) (s : EssState) (os : List EssReply),
        essMachine.run es essStart = some (s, os) →
          (GettersTell enodata s ↔
            ((s.sensor .temperature).valueKnown = true →
              (s.sensor .temperature).value ≠ -enodata))) ∧
      ∀ (s : EssState) (ready : Bool) (data : SensorData), s.initialized = true →
        TemperatureHits enodata data →
          ¬ GettersTell enodata (essStep (.call (.update ready (some data))) s).1 := by
  have hfits : ∀ {es : List EssEvent} {s : EssState} {os : List EssReply},
      essMachine.run es essStart = some (s, os) → s.Fits :=
    fun hrun => essMachine_preserves_fits.run (fun _ _ => trivial) essStart_fits hrun
  refine ⟨?_, ?_, ?_⟩
  · intro es s os hmisses hrun
    have hstart : essStart.Known fun c v => c = .temperature → v ≠ -enodata := by
      intro c hknown
      cases c <;> exact absurd hknown Bool.false_ne_true
    have hknown := Machine.Preserves.run
      (essMachine_preserves_known (offers_of_misses hpos hlt)) hmisses hstart hrun
    exact (gettersTell_iff hpos (hfits hrun)).mpr fun h => hknown .temperature h rfl
  · intro es s os hrun
    exact gettersTell_iff hpos (hfits hrun)
  · intro s ready data hinit hhits htell
    obtain ⟨hknown, hvalue⟩ := essStep_update_hits hpos hlt hinit ready hhits
    exact (essServiceGet_tells_iff _ _ _).mp htell.temperature hknown hvalue

/-- The service starts and is updated with 40 % at the given temperature. -/
def updatedAt (tempCelsius : ℚ) : List EssEvent :=
  [.init, .call (.update false (some (humidityAt tempCelsius)))]

/-- `getters_tell_of_run` at -0.6 °C, with the `ENODATA` of Linux. -/
theorem getters_tell_of_run_frost :
    ∃ s os, essMachine.run (updatedAt (-3 / 5)) essStart = some (s, os) ∧
      (s.sensor .temperature).valueKnown = true ∧
      essServiceGetTemperature ENODATA s = -60 ∧ GettersTell ENODATA s := by
  have hrun : ∃ r ∈ essMachine.run (updatedAt (-3 / 5)) essStart,
      (r.1.sensor .temperature).valueKnown = true ∧
        essServiceGetTemperature ENODATA r.1 = -60 := by
    decide +kernel
  obtain ⟨⟨s, os⟩, hrun, hknown, hvalue⟩ := hrun
  have hmiss : ¬ TemperatureHits ENODATA (humidityAt (-3 / 5)) := by
    rintro ⟨-, q, hq, -, hle⟩
    obtain rfl := CFloat.fin.inj hq
    norm_num [ENODATA] at hle
  have hmisses : ∀ e ∈ updatedAt (-3 / 5),
      e.Hands fun data => ¬ TemperatureHits ENODATA data := by
    intro e he
    simp only [updatedAt, List.mem_cons, List.not_mem_nil, or_false] at he
    rcases he with rfl | rfl
    · exact trivial
    · intro data hdata
      obtain rfl := Option.some.inj hdata
      exact hmiss
  exact ⟨s, os, hrun, hknown, hvalue,
    (getters_tell_of_run (by decide) (by decide)).1 _ s os hmisses hrun⟩

/-- At -0.615 °C a known temperature reads as no data. -/
theorem getters_confuse_frost :
    0 < ENODATA ∧ ENODATA < 27315 ∧
      ∃ s os, essMachine.run (updatedAt (-123 / 200)) essStart = some (s, os) ∧
        (s.sensor .temperature).valueKnown = true ∧
        essServiceGetTemperature ENODATA s = -ENODATA ∧ ¬ GettersTell ENODATA s := by
  have hrun : ∃ r ∈ essMachine.run (updatedAt (-123 / 200)) essStart,
      (r.1.sensor .temperature).valueKnown = true ∧
        essServiceGetTemperature ENODATA r.1 = -ENODATA := by
    decide +kernel
  obtain ⟨⟨s, os⟩, hrun, hknown, hvalue⟩ := hrun
  refine ⟨by decide, by decide, s, os, hrun, hknown, hvalue, fun htell => ?_⟩
  have hunknown := htell.temperature.mp hvalue
  rw [hknown] at hunknown
  exact Bool.noConfusion hunknown

end EnvMonitor
