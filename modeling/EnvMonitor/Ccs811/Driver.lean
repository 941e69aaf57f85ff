import EnvMonitor.Errno
import EnvMonitor.SensorManager.Manager

/-!
# The CCS811 driver

`sensor_ccs811_driver.c`: the statics of the gas sensor's driver, with what the kernel and the
sensor hold of it, the uptime, the delayed conditioning work and the mode last set. A function
takes what the kernel and the sensor answer to it as arguments.

`ccs811_driver_read_air_quality` gives up the mutex in the middle, so it comes in pieces:
`ccs811ReadEntry` up to the wait, `ccs811ReadRelock` after it, and `ccs811ReadSample` from
`sensor_sample_fetch` on. Its callers in the firmware always ask for both gases. The
compensation it hands to the sensor and the baseline change nothing here.
-/

namespace EnvMonitor

/-! ### State -/

/-- `CCS811_CONDITIONING_TIME_MS`, 20 minutes. -/
def CCS811_CONDITIONING_TIME_MS : ℤ := 20 * 60 * 1000

/-- `MAX_CACHE_AGE_MS`, 5 minutes. -/
def MAX_CACHE_AGE_MS : ℤ := 5 * 60 * 1000

/-- The modes that the driver gives to `ccs811_mode_update`. -/
inductive Ccs811Mode where
  | idle
  | measurement1Sec
  | measurement10Sec
deriving DecidableEq, Repr

/-- The static variables of the driver. -/
structure Ccs811State where
  dev : Bool := false
  conditioningComplete : Bool := false
  initTime : ℤ := 0
  firstSampleObtained : Bool := false
  cachedCo2Ppm : UInt16 := 0
  cachedTvocPpb : UInt16 := 0
  lastSampleTime : ℤ := 0
  inIdleMode : Bool := false
  bleConnected : Bool := false
  awaitFirst1sSample : Bool := false
deriving DecidableEq, Repr

/-- What one call of `ccs811_driver_read_air_quality` obtained from the sensor, and when it
ended. -/
structure GasSample where
  co2Ppm : UInt16
  tvocPpb : Option UInt16
  endTime : ℤ
deriving DecidableEq, Repr

/-- The driver with its surroundings: the uptime, the mode last given to
`ccs811_mode_update`, the one last given to it with success, which is the sensor's, and the
time at which `conditioning_work` is due. `conditioningStart`, the time at which boot
conditioning was started, and `obtained`, latest first, are history. -/
structure Ccs811Run where
  drv : Ccs811State := {}
  now : ℤ
  mode : Option Ccs811Mode := none
  sensorMode : Option Ccs811Mode := none
  conditioningWork : Option ℤ := none
  conditioningStart : Option ℤ := none
  obtained : List GasSample := []
deriving DecidableEq, Repr

/-! ### Modes and conditioning -/

/-- `ccs811_mode_update`, which answers `ret`. A failed one leaves the sensor's mode alone. -/
def ccs811ModeUpdate (mode : Ccs811Mode) (ret : ℤ) (s : Ccs811Run) : ℤ × Ccs811Run :=
  (ret, { s with
    mode := some mode
    sensorMode := if ret = 0 then some mode else s.sensorMode })

/-- `ccs811_enter_1sec_mode`. -/
def ccs811Enter1SecMode (modeRet : ℤ) (s : Ccs811Run) : ℤ × Ccs811Run :=
  let (ret, s) := ccs811ModeUpdate .measurement1Sec modeRet s
  if ret = 0 then
    (ret, { s with drv := { s.drv with inIdleMode := false, awaitFirst1sSample := true } })
  else (ret, s)

/-- `ccs811_mode_update` to idle, with the flag that both of its callers keep. -/
def ccs811EnterIdleMode (modeRet : ℤ) (s : Ccs811Run) : ℤ × Ccs811Run :=
  let (ret, s) := ccs811ModeUpdate .idle modeRet s
  if ret = 0 then (ret, { s with drv := { s.drv with inIdleMode := true } }) else (ret, s)

/-- `ccs811_start_boot_conditioning`. -/
def ccs811StartBootConditioning (modeRet : ℤ) (s : Ccs811Run) : Ccs811Run :=
  let s := { s with drv := { s.drv with initTime := s.now, conditioningComplete := false } }
  let (ret, s) := ccs811ModeUpdate .measurement10Sec modeRet s
  let s := if ret = 0 then { s with drv := { s.drv with inIdleMode := false } } else s
  { s with
    conditioningWork := some (s.now + CCS811_CONDITIONING_TIME_MS)
    conditioningStart := some s.now }

/-- `ccs811_conditioning_work_handler`. -/
def ccs811ConditioningWorkHandler (lockRet modeRet : ℤ) (s : Ccs811Run) : Ccs811Run :=
  if lockRet ≠ 0 then s
  -- completed by a readiness poll: the mode stays what it is
  else if s.drv.conditioningComplete then s
  else
    let s := { s with drv := { s.drv with conditioningComplete := true } }
    if s.drv.bleConnected then (ccs811Enter1SecMode modeRet s).2
    else (ccs811EnterIdleMode modeRet s).2

/-- What `ccs811_driver_init` is answered: by `device_is_ready`, by the mutex, twice, and by
the mode update. -/
structure InitAnswers where
  deviceReady : Bool := true
  lockRet : ℤ := 0
  relockRet : ℤ := 0
  modeRet : ℤ := 0
deriving DecidableEq, Repr

/-- `ccs811_driver_init`, given a device. -/
def ccs811DriverInit (a : InitAnswers) (s : Ccs811Run) : ℤ × Ccs811Run :=
  if !a.deviceReady then (-ENODEV, s)
  else if a.lockRet ≠ 0 then (a.lockRet, s)
  else if s.drv.dev then (0, s)
  else
    let s := { s with drv := { dev := true } }
    if a.relockRet = 0 then (0, ccs811StartBootConditioning a.modeRet s) else (0, s)

/-- `ccs811_driver_on_connected`. -/
def ccs811DriverOnConnected (lockRet modeRet : ℤ) (s : Ccs811Run) : Ccs811Run :=
  if !s.drv.dev then s
  else if lockRet ≠ 0 then s
  else
    let s := { s with drv := { s.drv with bleConnected := true } }
    if s.drv.conditioningComplete then (ccs811Enter1SecMode modeRet s).2 else s

/-- `ccs811_driver_on_disconnected`. -/
def ccs811DriverOnDisconnected (lockRet modeRet : ℤ) (s : Ccs811Run) : Ccs811Run :=
  if !s.drv.dev then s
  else if lockRet ≠ 0 then s
  else
    let s := { s with drv := { s.drv with bleConnected := false, awaitFirst1sSample := false } }
    if !s.drv.conditioningComplete then s else (ccs811EnterIdleMode modeRet s).2

/-- `ccs811_driver_is_ready`, which takes no mutex. -/
def ccs811DriverIsReady (s : Ccs811Run) : Bool × Ccs811Run :=
  if s.drv.conditioningComplete then (true, s)
  else if s.drv.initTime = 0 then (false, s)
  else if s.now - s.drv.initTime ≥ CCS811_CONDITIONING_TIME_MS then
    (true, { s with drv := { s.drv with conditioningComplete := true } })
  else (false, s)

/-! ### Reading -/

/-- The status bits that the driver looks at, `CCS811_STATUS_DATA_READY` and
`CCS811_STATUS_ERROR`. -/
structure Ccs811Status where
  dataReady : Bool := true
  error : Bool := false
deriving DecidableEq, Repr

/-- What the sensor answers to one sample: `sensor_sample_fetch`, the time it all takes,
`ccs811_result`, and `sensor_channel_get` for each gas with its `val1`. -/
structure SampleAnswers where
  fetchRet : ℤ := 0
  fetchTime : ℕ := 0
  result : Option Ccs811Status := some {}
  co2Ret : ℤ := 0
  co2Val1 : ℤ := 0
  tvocRet : ℤ := 0
  tvocVal1 : ℤ := 0
deriving DecidableEq, Repr

/-- What one call of `ccs811_driver_read_air_quality` is answered. -/
structure ReadAirQualityAnswers where
  lockRet : ℤ := 0
  deviceReady : Bool := true
  relockRet : ℤ := 0
  sample : SampleAnswers := {}
deriving DecidableEq, Repr

/-- How far a read gets before `sensor_sample_fetch`. -/
inductive ReadEntry where
  /-- It has returned. -/
  | finished (ret : ℤ)
  /-- It has given up the mutex to wait for the first 1 s sample. -/
  | waiting
  /-- It goes on to the fetch. -/
  | fetching
deriving DecidableEq, Repr

/-- `ccs811_driver_read_air_quality` up to the wait. -/
def ccs811ReadEntry (a : ReadAirQualityAnswers) (s : Ccs811Run) : ReadEntry × Ccs811Run :=
  if !s.drv.dev then (.finished (-ENODEV), s)
  else if a.lockRet ≠ 0 then (.finished a.lockRet, s)
  else if !a.deviceReady then (.finished (-ENODEV), s)
  else
    let (isReady, s) := ccs811DriverIsReady s
    if !isReady then (.finished (-EAGAIN), s)
    -- not asked again after the wait
    else if s.drv.inIdleMode && !s.drv.bleConnected then (.finished (-EAGAIN), s)
    else if s.drv.awaitFirst1sSample then (.waiting, s)
    else (.fetching, s)

/-- The end of the wait: the mutex is taken again, and with or without it the flag is
cleared. -/
def ccs811ReadRelock (relockRet : ℤ) (s : Ccs811Run) : ℤ × Ccs811Run :=
  (relockRet, { s with drv := { s.drv with awaitFirst1sSample := false } })

/-- The return code of the fetch and of the checks of the result status. -/
def sampleStatus (a : SampleAnswers) : ℤ :=
  if a.fetchRet ≠ 0 then a.fetchRet
  else
    match a.result with
    | none => - EIO
    | some status => if !status.dataReady then -EAGAIN else if status.error then - EIO else 0

/-- The CO2 channel; `0` ppm counts as not ready. The comparisons of the source are unsigned,
and a negative value fails them either way. -/
def co2Channel (ret val1 : ℤ) : Except ℤ UInt16 :=
  if ret = 0 then
    if val1 = 0 then .error (-EAGAIN)
    else if val1 ≥ 400 ∧ val1 ≤ 8192 then .ok (UInt16.ofNat val1.toNat)
    else .error (-ERANGE)
  else .error ret

/-- The TVOC channel. -/
def tvocChannel (ret val1 : ℤ) : Except ℤ UInt16 :=
  if ret = 0 then
    if val1 ≥ 0 ∧ val1 ≤ 1187 then .ok (UInt16.ofNat val1.toNat) else .error (-ERANGE)
  else .error ret

/-- `ccs811_driver_read_air_quality` from `sensor_sample_fetch` on. `out` is what the two
output variables hold before; a failure of the TVOC channel leaves the CO2 assigned and
cached. -/
def ccs811ReadSample (a : SampleAnswers) (out : UInt16 × UInt16) (s : Ccs811Run) :
    GasAnswer × Ccs811Run :=
  let s := { s with now := s.now + a.fetchTime }
  if sampleStatus a ≠ 0 then (⟨sampleStatus a, out.1, out.2⟩, s)
  else
    match co2Channel a.co2Ret a.co2Val1 with
    | .error ret => (⟨ret, out.1, out.2⟩, s)
    | .ok co2Ppm =>
      -- cached before the TVOC is known
      let s := { s with drv := { s.drv with cachedCo2Ppm := co2Ppm } }
      match tvocChannel a.tvocRet a.tvocVal1 with
      | .error ret =>
        (⟨ret, co2Ppm, out.2⟩, { s with obtained := ⟨co2Ppm, none, s.now⟩ :: s.obtained })
      | .ok tvocPpb =>
        (⟨0, co2Ppm, tvocPpb⟩,
          { s with
            drv := { s.drv with
              cachedTvocPpb := tvocPpb, lastSampleTime := s.now, firstSampleObtained := true }
            obtained := ⟨co2Ppm, some tvocPpb, s.now⟩ :: s.obtained })

/-- `ccs811_driver_read_air_quality` after the wait. -/
def ccs811ReadResume (a : ReadAirQualityAnswers) (out : UInt16 × UInt16) (s : Ccs811Run) :
    GasAnswer × Ccs811Run :=
  let (ret, s) := ccs811ReadRelock a.relockRet s
  if ret ≠ 0 then (⟨ret, out.1, out.2⟩, s) else ccs811ReadSample a.sample out s

/-- `ccs811_driver_read_air_quality`, with `during` what happens in the wait. -/
def ccs811DriverReadAirQuality (a : ReadAirQualityAnswers) (during : Ccs811Run → Ccs811Run)
    (out : UInt16 × UInt16) (s : Ccs811Run) : GasAnswer × Ccs811Run :=
  let (entry, s) := ccs811ReadEntry a s
  match entry with
  | .finished ret => (⟨ret, out.1, out.2⟩, s)
  | .waiting => ccs811ReadResume a out (during s)
  | .fetching => ccs811ReadSample a.sample out s

/-- `ccs811_driver_read_for_ble`. A cached value of `0` is not copied: its output variable
stays as it is. -/
def ccs811DriverReadForBle (a : ReadAirQualityAnswers) (during : Ccs811Run → Ccs811Run)
    (out : UInt16 × UInt16) (s : Ccs811Run) : GasAnswer × Ccs811Run :=
  let (answer, s) := ccs811DriverReadAirQuality a during out s
  if answer.ret = 0 then (answer, s)
  else if (answer.ret = -EAGAIN ∨ answer.ret = -ETIME) ∧ s.drv.firstSampleObtained then
    if s.now - s.drv.lastSampleTime ≤ MAX_CACHE_AGE_MS then
      let answer := if s.drv.cachedCo2Ppm > 0 then
        { answer with co2Ppm := s.drv.cachedCo2Ppm } else answer
      let answer := if s.drv.cachedTvocPpb > 0 then
        { answer with tvocPpb := s.drv.cachedTvocPpb } else answer
      if s.drv.cachedCo2Ppm > 0 || s.drv.cachedTvocPpb > 0 then ({ answer with ret := 0 }, s)
      else (answer, s)
    else (answer, s)
  else (answer, s)

/-! ### What happens to a driver -/

/-- The steps that change the driver without reading it: time passes, a client connects or the
last one disconnects, someone asks for the readiness, the conditioning work runs. The latter
carry what the mutex and the sensor answer. -/
inductive Ccs811Event where
  | tick (ms : ℕ)
  | connected (lockRet modeRet : ℤ)
  | disconnected (lockRet modeRet : ℤ)
  | isReady
  | conditioningWork (lockRet modeRet : ℤ)
deriving DecidableEq, Repr

/-- One step. The work is run once, not before it is due. -/
def ccs811Step (s : Ccs811Run) : Ccs811Event → Ccs811Run
  | .tick ms => { s with now := s.now + ms }
  | .connected lockRet modeRet => ccs811DriverOnConnected lockRet modeRet s
  | .disconnected lockRet modeRet => ccs811DriverOnDisconnected lockRet modeRet s
  | .isReady => (ccs811DriverIsReady s).2
  | .conditioningWork lockRet modeRet =>
    match s.conditioningWork with
    | none => s
    | some due =>
      if due ≤ s.now then
        ccs811ConditioningWorkHandler lockRet modeRet { s with conditioningWork := none }
      else s

/-- Any number of steps. -/
def ccs811Steps (es : List Ccs811Event) (s : Ccs811Run) : Ccs811Run := es.foldl ccs811Step s

end EnvMonitor
