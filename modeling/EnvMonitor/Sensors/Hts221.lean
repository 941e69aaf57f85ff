import EnvMonitor.Errno
import EnvMonitor.Lib.CFloat
import EnvMonitor.Lib.Machine
import EnvMonitor.Lib.Semaphore

/-!
# The HTS221 driver

`hts221_driver_read_both` powers the sensor on, triggers a conversion, waits for the data-ready
handler to give `hts221_data_ready_sem`, and fetches the sample. The handler runs whenever the
sensor has something to say: after a call has timed out, between two calls, or twice. Nothing
takes back what it gave then, so a call can find the semaphore given before it has triggered
anything, and fetch at once. `lps22hb_driver_trigger_oneshot` resets its own first.

A call is cut at the points where the handler makes a difference: before the trigger, in the
wait, and before the fetch. `hts221_own_conversion` is about all runs: every reading belongs to
its own conversion as long as each trigger finds the semaphore empty, and from every state in
which one does not, the call can return a reading that does not.
-/

namespace EnvMonitor

/-! ### The driver's state -/

/-- What a call of `hts221_driver_read_both` asks for: which of its pointers are not null. -/
structure Hts221Args where
  temperature : Bool
  humidity : Bool
deriving DecidableEq, Repr

/-- Where a call of `hts221_driver_read_both` stands. -/
inductive Hts221Phase where
  /-- No call is under way. -/
  | idle
  /-- Powered on, ahead of `hts221_one_shoot_trigger_set`. -/
  | stabilizing (args : Hts221Args)
  /-- In `k_sem_take`. -/
  | waiting (args : Hts221Args)
  /-- Ahead of `sensor_sample_fetch`. -/
  | fetching (args : Hts221Args)
deriving DecidableEq, Repr

/-- The static variables, with the call under way. `ran` is history: the handler has run since
the last trigger. -/
structure Hts221 where
  dev : Bool := false
  i2cDev : Bool := false
  enabled : Bool := false
  dataReadySem : Semaphore 1 := Semaphore.reset
  phase : Hts221Phase := .idle
  ran : Bool := false
deriving DecidableEq, Repr

/-- How a call ends: its return code and what it wrote through its pointers, with the history at
that point. -/
structure Hts221Reply where
  ret : ℤ
  temperature : Option CFloat
  humidity : Option CFloat
  ran : Bool

/-! ### The functions -/

/-- `hts221_driver_init`. The two flags say that `i2c_device` is there and ready, and that the
sensor is ready; a trigger that cannot be set is only logged. -/
def hts221DriverInit (i2cReady devReady : Bool) (s : Hts221) : ℤ × Hts221 :=
  if !i2cReady then (-EINVAL, s)
  else
    let s := { s with dev := true }
    if !devReady then (-ENODEV, s) else (0, { s with i2cDev := true })

/-- `hts221_driver_power_on`; `ret` is the answer of `hts221_power_on_set`. -/
def hts221DriverPowerOn (ret : ℤ) (s : Hts221) : ℤ × Hts221 :=
  if !s.i2cDev then (-ENODEV, s)
  else if s.enabled then (0, s)
  else if ret ≠ 0 then (ret, s)
  else (0, { s with enabled := true })

/-- `hts221_driver_power_off`; `ret` is the answer of `hts221_power_on_set`. -/
def hts221DriverPowerOff (ret : ℤ) (s : Hts221) : ℤ × Hts221 :=
  if !s.i2cDev then (-ENODEV, s)
  else if !s.enabled then (0, s)
  else if ret ≠ 0 then (ret, s)
  else (0, { s with enabled := false })

/-- `hts221_data_ready_handler`. -/
def hts221DataReadyHandler (s : Hts221) : Hts221 :=
  { s with dataReadySem := s.dataReadySem.give, ran := true }

/-- The answers to the fetch and to the two `sensor_channel_get`, with the converted values. -/
structure Hts221Sample where
  fetchRet : ℤ
  temperatureRet : ℤ
  temperature : CFloat
  humidityRet : ℤ
  humidity : CFloat
deriving DecidableEq

/-- From `sensor_sample_fetch` to `power_down`: the return code and what was written. -/
def hts221Fetch (args : Hts221Args) (sample : Hts221Sample) : ℤ × Option CFloat × Option CFloat :=
  if sample.fetchRet ≠ 0 then (sample.fetchRet, none, none)
  else if args.temperature ∧ sample.temperatureRet ≠ 0 then (sample.temperatureRet, none, none)
  else
    let temperature := if args.temperature then some sample.temperature else none
    if args.humidity ∧ sample.humidityRet ≠ 0 then (sample.humidityRet, temperature, none)
    else (0, temperature, if args.humidity then some sample.humidity else none)

/-- The label `power_down`: the result of `hts221_driver_power_off` is only logged. -/
def hts221PowerDown (offRet ret : ℤ) (values : Option CFloat × Option CFloat) (s : Hts221) :
    Hts221 × List Hts221Reply :=
  let s := (hts221DriverPowerOff offRet s).2
  ({ s with phase := .idle }, [⟨ret, values.1, values.2, s.ran⟩])

/-! ### Runs -/

/-- What can happen: an initialisation, the pieces of a call with the answers they get, and the
handler at any point. -/
inductive Hts221Event where
  | init (i2cReady devReady : Bool)
  /-- Up to the trigger; `ready` is the answer of `device_is_ready`. -/
  | call (args : Hts221Args) (ready : Bool) (onRet : ℤ)
  /-- `hts221_one_shoot_trigger_set`. -/
  | trigger (ret offRet : ℤ)
  /-- `k_sem_take` succeeds. -/
  | take
  /-- `k_sem_take` times out. -/
  | timeout (offRet : ℤ)
  /-- The rest of the call. -/
  | fetch (sample : Hts221Sample) (offRet : ℤ)
  | handler

/-- One piece of a call, or the handler. -/
def hts221Step : Hts221Event → Hts221 → Option (Hts221 × List Hts221Reply)
  | .init i2cReady devReady, s =>
    if s.phase = .idle then some ((hts221DriverInit i2cReady devReady s).2, []) else none
  | .call args ready onRet, s =>
    if s.phase ≠ .idle then none
    else if !s.dev ∨ (!args.temperature ∧ !args.humidity) then
      some (s, [⟨-EINVAL, none, none, s.ran⟩])
    else if !ready then some (s, [⟨-ENODEV, none, none, s.ran⟩])
    else
      let (ret, s) := hts221DriverPowerOn onRet s
      if ret ≠ 0 then some (s, [⟨ret, none, none, s.ran⟩])
      else some ({ s with phase := .stabilizing args }, [])
  | .trigger ret offRet, s =>
    match s.phase with
    | .stabilizing args =>
      if ret ≠ 0 then some (hts221PowerDown offRet ret (none, none) s)
      else some ({ s with phase := .waiting args, ran := false }, [])
    | _ => none
  | .take, s =>
    match s.phase with
    | .waiting args =>
      s.dataReadySem.take.map fun sem =>
        ({ s with dataReadySem := sem, phase := .fetching args }, [])
    | _ => none
  | .timeout offRet, s =>
    match s.phase with
    | .waiting _ =>
      -- the wait only times out on an empty semaphore
      if s.dataReadySem.take.isSome then none
      else some (hts221PowerDown offRet (-ETIMEDOUT) (none, none) s)
    | _ => none
  | .fetch sample offRet, s =>
    match s.phase with
    | .fetching args =>
      let (ret, values) := hts221Fetch args sample
      some (hts221PowerDown offRet ret values s)
    | _ => none
  | .handler, s => some (hts221DataReadyHandler s, [])

/-- The driver as a machine. -/
def hts221Machine : Machine Hts221 Hts221Event Hts221Reply := ⟨hts221Step⟩

/-! ### Readings and conversions -/

/-- A trigger that goes through finds the semaphore empty. -/
def TriggerFindsEmpty (e : Hts221Event) (s : Hts221) : Prop :=
  match e with
  | .trigger ret _ => ret = 0 → s.dataReadySem.count = 0
  | _ => True

/-- A call that returns `0` fetched a sample that the handler announced after its trigger. -/
def Hts221Reply.Own (r : Hts221Reply) : Prop := r.ret = 0 → r.ran = true

/-- Past its trigger, a call only finds what the handler has given since. -/
def Hts221.Own (s : Hts221) : Prop :=
  match s.phase with
  | .waiting _ => s.dataReadySem.count ≠ 0 → s.ran = true
  | .fetching _ => s.ran = true
  | _ => True

/-- Powering off leaves nothing but `hts221_enabled` different. -/
theorem hts221DriverPowerOff_frame (ret : ℤ) (s : Hts221) :
    ∃ enabled, (hts221DriverPowerOff ret s).2 = { s with enabled := enabled } := by
  rw [hts221DriverPowerOff]
  split_ifs
  · exact ⟨_, rfl⟩
  · exact ⟨_, rfl⟩
  · exact ⟨_, rfl⟩
  · exact ⟨_, rfl⟩

/-- A call that ends leaves the driver idle, and replies with the history. -/
theorem hts221PowerDown_eq (offRet ret : ℤ) (values : Option CFloat × Option CFloat)
    (s : Hts221) : ∃ enabled, hts221PowerDown offRet ret values s =
      ({ s with enabled := enabled, phase := .idle }, [⟨ret, values.1, values.2, s.ran⟩]) := by
  obtain ⟨enabled, hoff⟩ := hts221DriverPowerOff_frame offRet s
  exact ⟨enabled, by rw [hts221PowerDown, hoff]⟩

/-- Neither initialising nor powering on moves the call under way. -/
theorem phase_hts221DriverInit (i2cReady devReady : Bool) (s : Hts221) :
    (hts221DriverInit i2cReady devReady s).2.phase = s.phase := by
  rw [hts221DriverInit]
  split_ifs <;> rfl

theorem phase_hts221DriverPowerOn (ret : ℤ) (s : Hts221) :
    (hts221DriverPowerOn ret s).2.phase = s.phase := by
  rw [hts221DriverPowerOn]
  split_ifs <;> rfl

/-- **One step** leaves no call under way, replying at most with an error, or it is a piece of a
call that goes on, the fetch, or the handler. -/
theorem hts221Step_cases {e : Hts221Event} {s s' : Hts221} {os : List Hts221Reply}
    (h : hts221Step e s = some (s', os)) :
    (s'.phase = .idle ∧ ∀ r ∈ os, r.ret ≠ 0) ∨
      (∃ args, s'.phase = .stabilizing args ∧ os = []) ∨
      (∃ args offRet, e = .trigger 0 offRet ∧ s' = { s with phase := .waiting args, ran := false } ∧
        os = []) ∨
      (∃ args, s.phase = .waiting args ∧ s.dataReadySem.count ≠ 0 ∧
        s'.phase = .fetching args ∧ s'.ran = s.ran ∧ os = []) ∨
      (∃ args, s.phase = .fetching args ∧ s'.phase = .idle ∧ ∀ r ∈ os, r.ran = s.ran) ∨
      (s' = hts221DataReadyHandler s ∧ os = []) := by
  have hinval : (-EINVAL : ℤ) ≠ 0 := by decide
  have hnodev : (-ENODEV : ℤ) ≠ 0 := by decide
  have htimedout : (-ETIMEDOUT : ℤ) ≠ 0 := by decide
  cases e with
  | init i2cReady devReady =>
    simp only [hts221Step] at h
    split_ifs at h with hidle
    obtain ⟨rfl, rfl⟩ := Prod.mk.inj (Option.some.inj h)
    exact Or.inl ⟨(phase_hts221DriverInit _ _ _).trans hidle, by simp⟩
  | call args ready onRet =>
    simp only [hts221Step] at h
    split_ifs at h with hidle hargs hready hon <;>
      obtain ⟨rfl, rfl⟩ := Prod.mk.inj (Option.some.inj h)
    · exact Or.inl ⟨not_not.mp hidle, by simpa using hinval⟩
    · exact Or.inl ⟨not_not.mp hidle, by simpa using hnodev⟩
    · exact Or.inl ⟨(phase_hts221DriverPowerOn onRet s).trans (not_not.mp hidle),
        by simpa using hon⟩
    · exact Or.inr (Or.inl ⟨args, rfl, rfl⟩)
  | trigger ret offRet =>
    cases hphase : s.phase with
    | stabilizing args =>
      simp only [hts221Step, hphase] at h
      split_ifs at h with hret
      · obtain ⟨enabled, hdown⟩ := hts221PowerDown_eq offRet ret (none, none) s
        obtain ⟨rfl, rfl⟩ := Prod.mk.inj (hdown.symm.trans (Option.some.inj h))
        exact Or.inl ⟨rfl, by simpa using hret⟩
      · obtain ⟨rfl, rfl⟩ := Prod.mk.inj (Option.some.inj h)
        obtain rfl := not_not.mp hret
        exact Or.inr (Or.inr (Or.inl ⟨args, offRet, rfl, rfl, rfl⟩))
    | _ => simp [hts221Step, hphase] at h
  | take =>
    cases hphase : s.phase with
    | waiting args =>
      simp only [hts221Step, hphase] at h
      obtain ⟨sem, htake, hs'⟩ := Option.map_eq_some_iff.mp h
      obtain ⟨rfl, rfl⟩ := Prod.mk.inj hs'
      have hcount : s.dataReadySem.count ≠ 0 := Semaphore.isSome_take.mp (by simp [htake])
      exact Or.inr (Or.inr (Or.inr (Or.inl ⟨args, rfl, hcount, rfl, rfl, rfl⟩)))
    | _ => simp [hts221Step, hphase] at h
  | timeout offRet =>
    cases hphase : s.phase with
    | waiting args =>
      simp only [hts221Step, hphase] at h
      split_ifs at h
      obtain ⟨enabled, hdown⟩ := hts221PowerDown_eq offRet (-ETIMEDOUT) (none, none) s
      obtain ⟨rfl, rfl⟩ := Prod.mk.inj (hdown.symm.trans (Option.some.inj h))
      exact Or.inl ⟨rfl, by simpa using htimedout⟩
    | _ => simp [hts221Step, hphase] at h
  | fetch sample offRet =>
    cases hphase : s.phase with
    | fetching args =>
      simp only [hts221Step, hphase] at h
      obtain ⟨enabled, hdown⟩ := hts221PowerDown_eq offRet (hts221Fetch args sample).1
        (hts221Fetch args sample).2 s
      obtain ⟨rfl, rfl⟩ := Prod.mk.inj (hdown.symm.trans (Option.some.inj h))
      exact Or.inr (Or.inr (Or.inr (Or.inr (Or.inl ⟨args, rfl, rfl, by simp⟩))))
    | _ => simp [hts221Step, hphase] at h
  | handler =>
    obtain ⟨rfl, rfl⟩ := Prod.mk.inj (Option.some.inj h)
    exact Or.inr (Or.inr (Or.inr (Or.inr (Or.inr ⟨rfl, rfl⟩))))

/-- Outside the wait and the fetch there is nothing to show. -/
theorem Hts221.own_of_idle {s : Hts221} (h : s.phase = .idle) : s.Own := by
  rw [Hts221.Own, h]
  trivial

/-- **Invariant.** A step whose trigger finds the semaphore empty keeps it, and replies with own
readings. -/
theorem Hts221.Own.step {e : Hts221Event} {s s' : Hts221} {os : List Hts221Reply}
    (hempty : TriggerFindsEmpty e s) (h : s.Own) (hstep : hts221Step e s = some (s', os)) :
    s'.Own ∧ ∀ r ∈ os, r.Own := by
  have hnone : ∀ r ∈ ([] : List Hts221Reply), r.Own := by simp
  rcases hts221Step_cases hstep with ⟨hidle, hfailed⟩ | ⟨args, hphase, rfl⟩ |
    ⟨args, offRet, rfl, rfl, rfl⟩ | ⟨args, hphase, hcount, hphase', hran, rfl⟩ |
    ⟨args, hphase, hidle, hran⟩ | ⟨rfl, rfl⟩
  · exact ⟨own_of_idle hidle, fun r hr hzero => absurd hzero (hfailed r hr)⟩
  · refine ⟨?_, hnone⟩
    rw [Hts221.Own, hphase]
    trivial
  · -- nothing can be taken that the handler does not give from here on
    exact ⟨fun hcount => absurd (hempty rfl) hcount, hnone⟩
  · rw [Hts221.Own, hphase] at h
    refine ⟨?_, hnone⟩
    rw [Hts221.Own, hphase']
    exact hran.trans (h hcount)
  · rw [Hts221.Own, hphase] at h
    exact ⟨own_of_idle hidle, fun r hr _ => (hran r hr).trans h⟩
  · refine ⟨?_, hnone⟩
    cases hphase : s.phase <;> simp [Hts221.Own, hts221DataReadyHandler, hphase]

/-- A sample of 20 °C and 40 %, all of whose calls succeed. -/
def goodSample : Hts221Sample := ⟨0, 0, .fin 20, 0, .fin 40⟩

theorem hts221Fetch_goodSample (args : Hts221Args) : (hts221Fetch args goodSample).1 = 0 := by
  simp [hts221Fetch, goodSample]

/-- **A trigger that does not find the semaphore empty.** The rest of the call can go through
without the handler. -/
theorem hts221_not_own {s : Hts221} {args : Hts221Args} (hphase : s.phase = .stabilizing args)
    (hcount : s.dataReadySem.count ≠ 0) :
    ∃ t r, hts221Machine.run [.trigger 0 0, .take, .fetch goodSample 0] s = some (t, [r]) ∧
      r.ret = 0 ∧ r.ran = false := by
  obtain ⟨sem, htake⟩ := Option.isSome_iff_exists.mp (Semaphore.isSome_take.mpr hcount)
  let waiting : Hts221 := { s with phase := .waiting args, ran := false }
  let fetching : Hts221 := { waiting with dataReadySem := sem, phase := .fetching args }
  have htrigger : hts221Step (.trigger 0 0) s = some (waiting, []) := by
    simp [hts221Step, hphase, waiting]
  have htaken : hts221Step .take waiting = some (fetching, []) := by
    simp [hts221Step, waiting, fetching, htake]
  obtain ⟨enabled, hdown⟩ := hts221PowerDown_eq 0 (hts221Fetch args goodSample).1
    (hts221Fetch args goodSample).2 fetching
  have hfetch : hts221Step (.fetch goodSample 0) fetching = some _ := congrArg some hdown
  have hrun : hts221Machine.run [.trigger 0 0, .take, .fetch goodSample 0] s = some (_, [_]) :=
    hts221Machine.run_cons_eq_some.mpr ⟨_, _, _, htrigger,
      hts221Machine.run_cons_eq_some.mpr ⟨_, _, _, htaken,
        hts221Machine.run_cons_eq_some.mpr ⟨_, _, _, hfetch, rfl, rfl⟩, rfl⟩, rfl⟩
  exact ⟨_, _, hrun, hts221Fetch_goodSample args, rfl⟩

/-- **Readings and their conversions.** In every run from program start, whatever fails and
whenever the handler runs: if each trigger finds the semaphore empty, every call that returns `0`
fetched after the handler had run since its own trigger. In a state in which a trigger is due and
the semaphore is not empty, the call can return `0` without it. -/
theorem hts221_own_conversion {es : List Hts221Event} {s : Hts221} {os : List Hts221Reply}
    (hrun : hts221Machine.run es {} = some (s, os)) :
    (hts221Machine.Along TriggerFindsEmpty es {} → ∀ r ∈ os, r.ret = 0 → r.ran = true) ∧
      ∀ args, s.phase = .stabilizing args → s.dataReadySem.count ≠ 0 →
        ∃ es' t r, hts221Machine.run es' s = some (t, [r]) ∧ r.ret = 0 ∧ r.ran = false := by
  refine ⟨fun halong => ?_, fun args hphase hcount => ⟨_, hts221_not_own hphase hcount⟩⟩
  exact halong.emits (I := Hts221.Own) (fun hc hi hs => (hi.step hc hs).1)
    (fun hc hi hs => (hi.step hc hs).2) (Hts221.own_of_idle rfl) hrun

/-- Both values are asked for. -/
def bothValues : Hts221Args := ⟨true, true⟩

/-- A call that times out, with its data-ready event after it. -/
def lateEvent : List Hts221Event :=
  [.init true true, .call bothValues true 0, .trigger 0 0, .timeout 0, .handler]

/-- A call whose conversion is announced in time. -/
def ownEvent : List Hts221Event :=
  [.call bothValues true 0, .trigger 0 0, .handler, .take, .fetch goodSample 0]

/-- The next call, without an event of its own. -/
def noEvent : List Hts221Event :=
  [.call bothValues true 0, .trigger 0 0, .take, .fetch goodSample 0]

theorem ownEvent_findsEmpty :
    hts221Machine.Along TriggerFindsEmpty (.init true true :: ownEvent) {} := by
  refine (Machine.along_cons_of_step rfl).mpr ⟨trivial, ?_⟩
  refine (Machine.along_cons_of_step rfl).mpr ⟨trivial, ?_⟩
  refine (Machine.along_cons_of_step rfl).mpr ⟨fun _ => rfl, ?_⟩
  exact Machine.Along.of_forall (by simp [TriggerFindsEmpty]) _

/-- `hts221_own_conversion` at a call that returns its own reading. -/
theorem hts221_own_conversion_inTime :
    ∃ s os, hts221Machine.run (.init true true :: ownEvent) {} = some (s, os) ∧
      (∃ r ∈ os, r.ret = 0) ∧
      hts221Machine.Along TriggerFindsEmpty (.init true true :: ownEvent) {} ∧
      (hts221Machine.Along TriggerFindsEmpty (.init true true :: ownEvent) {} →
        ∀ r ∈ os, r.ret = 0 → r.ran = true) ∧
      ∀ args, s.phase = .stabilizing args → s.dataReadySem.count ≠ 0 →
        ∃ es' t r, hts221Machine.run es' s = some (t, [r]) ∧ r.ret = 0 ∧ r.ran = false :=
  have hrun : hts221Machine.run (.init true true :: ownEvent) {} = some (_, [_]) := rfl
  ⟨_, _, hrun, ⟨_, List.mem_singleton_self _, rfl⟩, ownEvent_findsEmpty,
    hts221_own_conversion hrun⟩

/-- A late event of one call passes for the event of the next. -/
theorem hts221_stale_event :
    ¬ ∀ (es : List Hts221Event) (s : Hts221) (os : List Hts221Reply),
      hts221Machine.run es {} = some (s, os) → ∀ r ∈ os, r.ret = 0 → r.ran = true := by
  intro hall
  have hran := hall (lateEvent ++ noEvent) _ _ rfl _ (List.mem_cons_of_mem _ List.mem_cons_self) rfl
  exact Bool.false_ne_true hran

end EnvMonitor
