import EnvMonitor.Lib.Machine
import EnvMonitor.Lib.Signal
import EnvMonitor.Battery.Ble

/-!
# The charge pin and its polarity

The pin is sampled in two places, the poll `battery_service_is_charging` and the debounced
interrupt, and both compare with the one `last_charging_state`. `charge_run_reports` says what
comes out of any order of the two: every poll returns the flag it sampled, and the callback gets
the changes of the sampled flag, none lost and none repeated.

The flag is the logical level `0` of the pin. `gpio_pin_get_dt` has the devicetree flag of the pin
in its answer already, and the overlay of the board declares the pin active low, so there the
logical level is `0` while the line is high. What is reported is then the opposite of the
physical signal, which `production_reportsLow_iff` makes exact: the reports are right only if
there are none.
-/

namespace EnvMonitor

/-! ### Sampling the pin -/

/-- `gpio_pin_get_dt`: the logical level of a line that is `high` or not, for a pin declared
`GPIO_ACTIVE_LOW` or not. -/
def gpioPinGetDt (activeLow high : Bool) : ℤ := if high != activeLow then 1 else 0

/-- The devicetree flag of `charge_status` in the overlay of the board, `GPIO_ACTIVE_LOW`. -/
def chargeStatusActiveLow : Bool := true

/-- The charging flag that the service takes from the line. -/
def chargingFrom (activeLow high : Bool) : Bool := gpioPinGetDt activeLow high == 0

theorem chargingFrom_eq (activeLow high : Bool) :
    chargingFrom activeLow high = (high == activeLow) := by
  cases activeLow <;> cases high <;> rfl

/-- One sample of the line after the initialisation: a poll of `battery_service_is_charging` or a
run of `charge_status_debounce_work`. -/
inductive ChargeSample where
  | poll (high : Bool)
  | debounceWork (high : Bool)
deriving DecidableEq, Repr

/-- Whether the line was high at the sample. -/
def ChargeSample.high : ChargeSample → Bool
  | .poll high | .debounceWork high => high

/-- The level of the line at a poll. -/
def ChargeSample.polled? : ChargeSample → Option Bool
  | .poll high => some high
  | .debounceWork _ => none

/-- What the service lets its users see: a call of the registered callback with its argument, and
the value that a poll returns. -/
inductive ChargeReport where
  | callback (isCharging : Bool)
  | polled (isCharging : Bool)
deriving DecidableEq, Repr

/-- The argument of a call of the callback. -/
def ChargeReport.callback? : ChargeReport → Option Bool
  | .callback isCharging => some isCharging
  | .polled _ => none

/-- The value of a poll. -/
def ChargeReport.polled? : ChargeReport → Option Bool
  | .polled isCharging => some isCharging
  | .callback _ => none

/-- The edge detection, with the call of the callback that it makes. -/
def chargeEdge (isCharging : Bool) (bat : BatteryData) : BatteryData × List ChargeReport :=
  let (notify, bat') := reportCharging isCharging bat
  (bat', if notify then [.callback isCharging] else [])

/-- `battery_service_is_charging` and `charge_status_debounce_work`, with a callback that does not
re-enter the service. -/
def chargeStep (activeLow : Bool) : ChargeSample → BatteryData →
    Option (BatteryData × List ChargeReport)
  | .poll high, bat =>
    if !bat.initialized then some (bat, [.polled false])
    else
      let isCharging := gpioPinGetDt activeLow high == 0
      let (bat', edge) := chargeEdge isCharging bat
      some (bat', edge ++ [.polled isCharging])
  | .debounceWork high, bat => some (chargeEdge (gpioPinGetDt activeLow high == 0) bat)

/-- The charge detection as a machine. -/
def chargeMachine (activeLow : Bool) : Machine BatteryData ChargeSample ChargeReport :=
  ⟨chargeStep activeLow⟩

/-! ### Runs -/

/-- Both services have been set up: readings are taken and there is a callback. -/
structure ChargeReady (bat : BatteryData) : Prop where
  initialized : bat.initialized = true
  registered : bat.chargingChangedCb = true

/-- With a callback registered, the flag is remembered and the callback called if it is new. -/
theorem chargeEdge_eq {bat : BatteryData} (h : bat.chargingChangedCb = true) (isCharging : Bool) :
    chargeEdge isCharging bat = ({ bat with lastChargingState := isCharging },
      if isCharging ≠ bat.lastChargingState then [.callback isCharging] else []) := by
  by_cases hnew : isCharging = bat.lastChargingState
  · simp [chargeEdge, reportCharging, hnew]
  · simp [chargeEdge, reportCharging, hnew, h]

/-- **One sample.** It is remembered, the callback is called if it is new, and a poll returns
it. -/
theorem chargeStep_eq {bat : BatteryData} (h : ChargeReady bat) (activeLow : Bool)
    (sample : ChargeSample) :
    let isCharging := chargingFrom activeLow sample.high
    chargeStep activeLow sample bat = some ({ bat with lastChargingState := isCharging },
      (if isCharging ≠ bat.lastChargingState then [.callback isCharging] else []) ++
        (sample.polled?.map fun high => .polled (chargingFrom activeLow high)).toList) := by
  intro isCharging
  have hedge := chargeEdge_eq h.registered isCharging
  cases sample with
  | poll high =>
    rw [chargeStep, if_neg (by simp [h.initialized])]
    exact congrArg (fun p : BatteryData × List ChargeReport =>
      some (p.1, p.2 ++ [.polled isCharging])) hedge
  | debounceWork high =>
    rw [chargeStep, ChargeSample.polled?, Option.map_none, Option.toList_none, List.append_nil]
    exact congrArg some hedge

/-- **No loss and no repetition.** In any order of polls and debounced interrupts, every poll
returns the flag it sampled, and the callback gets the changes of the sampled flag. The induction
is on the samples, the flag remembered being the sample before. -/
theorem charge_run_reports {activeLow : Bool} {samples : List ChargeSample}
    {bat bat' : BatteryData} {reports : List ChargeReport} (h : ChargeReady bat)
    (hrun : (chargeMachine activeLow).run samples bat = some (bat', reports)) :
    reports.filterMap ChargeReport.polled? =
        (samples.filterMap ChargeSample.polled?).map (chargingFrom activeLow) ∧
      reports.filterMap ChargeReport.callback? =
        changes bat.lastChargingState
          (samples.map fun sample => chargingFrom activeLow sample.high) := by
  induction samples generalizing bat reports with
  | nil =>
    simp only [Machine.run_nil, Option.some.injEq, Prod.mk.injEq] at hrun
    simp [← hrun.2]
  | cons sample samples ih =>
    obtain ⟨bat₁, o₁, o₂, h₁, h₂, rfl⟩ := (Machine.run_cons_eq_some _).mp hrun
    obtain ⟨rfl, rfl⟩ :=
      Prod.mk.inj (Option.some.inj ((chargeStep_eq h activeLow sample).symm.trans h₁))
    have hready : ChargeReady
        { bat with lastChargingState := chargingFrom activeLow sample.high } := ⟨h.1, h.2⟩
    obtain ⟨hpolls, hcallbacks⟩ := ih hready h₂
    constructor
    · rw [List.filterMap_append, hpolls]
      cases sample <;> split_ifs <;> rfl
    · rw [List.filterMap_append, hcallbacks, List.map_cons, changes_cons]
      cases sample <;> split_ifs <;> rfl

/-! ### The physical signal -/

/-- The reports are those of a charger that pulls the line low: every poll returns whether it
found the line low, and the callback gets the changes of the sampled signal, which starts from
the level `high₀` of the initialisation. -/
def ReportsLow (high₀ : Bool) (samples : List ChargeSample) (reports : List ChargeReport) : Prop :=
  reports.filterMap ChargeReport.polled? =
      (samples.filterMap ChargeSample.polled?).map (fun high => !high) ∧
    reports.filterMap ChargeReport.callback? =
      changes (!high₀) (samples.map fun sample => !sample.high)

instance (high₀ : Bool) (samples : List ChargeSample) (reports : List ChargeReport) :
    Decidable (ReportsLow high₀ samples reports) :=
  inferInstanceAs (Decidable (_ ∧ _))

/-- A pin that is not active low is reported as it is. -/
theorem reportsLow_of_activeHigh {high₀ : Bool} {samples : List ChargeSample}
    {bat bat' : BatteryData} {reports : List ChargeReport} (h : ChargeReady bat)
    (hlast : bat.lastChargingState = chargingFrom false high₀)
    (hrun : (chargeMachine false).run samples bat = some (bat', reports)) :
    ReportsLow high₀ samples reports := by
  have hlow : chargingFrom false = fun high => !high := by
    funext high
    rw [chargingFrom_eq, beq_false]
  obtain ⟨hpolls, hcallbacks⟩ := charge_run_reports h hrun
  simp only [hlow, hlast] at hpolls hcallbacks
  exact ⟨hpolls, hcallbacks⟩

/-- Negating every flag of a list is seen unless there is none. -/
private theorem map_not_eq_iff {flags : List Bool} :
    flags = flags.map (fun flag => !flag) ↔ flags = [] := by
  cases flags <;> simp

/-- **When the board reports the physical signal.** After an initialisation that succeeds and a
registration of the callback, polls and callbacks report whether the line of the board is low
exactly if nothing is reported at all: there is no poll, and every debounced interrupt finds the
line at the level of the initialisation. -/
theorem production_reportsLow_iff {answers : BatteryInitAnswers} {high₀ : Bool}
    (hpin : answers.pin = gpioPinGetDt chargeStatusActiveLow high₀) {bat bat₁ bat' : BatteryData}
    (hinit : batteryServiceInit answers bat = (0, bat₁)) {samples : List ChargeSample}
    {reports : List ChargeReport}
    (hrun : (chargeMachine chargeStatusActiveLow).run samples
      (batteryServiceRegisterChargingCallback bat₁) = some (bat', reports)) :
    ReportsLow high₀ samples reports ↔
      ∀ sample ∈ samples, sample.polled? = none ∧ sample.high = high₀ := by
  obtain ⟨hready, hlast⟩ := batteryServiceInit_of_ok hinit
  have hflag : chargingFrom chargeStatusActiveLow = id := by
    funext high
    rw [chargingFrom_eq, chargeStatusActiveLow, beq_true, id]
  have hhigh₀ : bat₁.lastChargingState = high₀ := by
    rw [hlast, hpin]
    exact congrFun hflag high₀
  have hregistered : ChargeReady (batteryServiceRegisterChargingCallback bat₁) := ⟨hready, rfl⟩
  obtain ⟨hpolls, hcallbacks⟩ := charge_run_reports hregistered hrun
  simp only [hflag, List.map_id, id, batteryServiceRegisterChargingCallback, hhigh₀]
    at hpolls hcallbacks
  have hnot : Function.Injective fun flag : Bool => !flag := fun _ _ => Bool.not_inj
  have hnegated : changes (!high₀) (samples.map fun sample => !sample.high) =
      (changes high₀ (samples.map ChargeSample.high)).map (fun flag => !flag) := by
    rw [← changes_map hnot, List.map_map]
    rfl
  rw [ReportsLow, hpolls, hcallbacks, hnegated, map_not_eq_iff, map_not_eq_iff,
    changes_eq_nil_iff, List.filterMap_eq_nil_iff, List.forall_mem_map, ← forall₂_and]

/-- An initialisation on the board that succeeds while the line is high. -/
def lineHighAnswers : BatteryInitAnswers where
  voltageReady := true
  gpioReady := true
  configureRet := 0
  interruptRet := 0
  addCallbackRet := 0
  pin := gpioPinGetDt chargeStatusActiveLow true
  adc := ⟨0, 0, 3600⟩

/-- The hardware service after that initialisation. -/
def batteryDataLineHigh : BatteryData := (batteryServiceInit lineHighAnswers {}).2

/-- A charger pulls the line low; the debounced interrupt and then a poll find it so. -/
def pullLowSamples : List ChargeSample := [.debounceWork false, .poll false]

/-- Both report that the battery is not charging. -/
theorem pullLowSamples_run : ∃ bat', (chargeMachine chargeStatusActiveLow).run pullLowSamples
    (batteryServiceRegisterChargingCallback batteryDataLineHigh) =
      some (bat', [.callback false, .polled false]) := ⟨_, rfl⟩

/-- `production_reportsLow_iff` when a charger is attached. -/
theorem production_reportsLow_iff_pullLow : ∃ bat' reports,
    (chargeMachine chargeStatusActiveLow).run pullLowSamples
      (batteryServiceRegisterChargingCallback batteryDataLineHigh) = some (bat', reports) ∧
    (ReportsLow true pullLowSamples reports ↔
      ∀ sample ∈ pullLowSamples, sample.polled? = none ∧ sample.high = true) := by
  obtain ⟨bat', hrun⟩ := pullLowSamples_run
  have hpin : lineHighAnswers.pin = gpioPinGetDt chargeStatusActiveLow true := rfl
  have hinit : batteryServiceInit lineHighAnswers {} = (0, batteryDataLineHigh) := rfl
  exact ⟨bat', _, hrun, production_reportsLow_iff hpin hinit hrun⟩

/-- The board does not report the physical signal. -/
theorem production_not_reportsLow :
    ¬ ∀ (answers : BatteryInitAnswers) (high₀ : Bool) (bat bat₁ bat' : BatteryData)
      (samples : List ChargeSample) (reports : List ChargeReport),
      answers.pin = gpioPinGetDt chargeStatusActiveLow high₀ →
      batteryServiceInit answers bat = (0, bat₁) →
      (chargeMachine chargeStatusActiveLow).run samples
        (batteryServiceRegisterChargingCallback bat₁) = some (bat', reports) →
      ReportsLow high₀ samples reports := by
  intro hall
  obtain ⟨bat', hrun⟩ := pullLowSamples_run
  have hreports := hall lineHighAnswers true {} batteryDataLineHigh bat' pullLowSamples _
    rfl rfl hrun
  exact absurd hreports (by decide)

end EnvMonitor
