import Mathlib.Data.Fintype.Option
import EnvMonitor.Battery.ChargePin
import EnvMonitor.Lib.CancellableWork

/-!
# Debouncing the charge pin

Every edge of the line runs `charge_status_interrupt`, which cancels `charge_debounce_work` and
schedules it anew. The handler samples the line, compares the sample with `last_charging_state`,
stores it there if it is another, and runs the callback; the interrupt may come between any two of
these. Threads that poll `battery_service_is_charging` do the same four steps in between, and none
of this is locked. A poll that the callback makes comes after the call of the callback, and counts
as one of another thread.

The handler starts only after the line has been quiet for the debounce time, `debounce_quiet`. A
change of the line is never lost as long as no edge comes after the sample of a running handler,
which is being cancelled then and not scheduled, and no thread stores an old sample with nothing
under way; `debounce_tracks_iff` says that this is exact. As long as nobody compares between the
comparison and the callback of somebody else, the reports are those of the charge detection on the
samples that were compared, `chargeLine_simulates`, and the callback alternates,
`debounce_alternates`.
-/

namespace EnvMonitor

/-- `CHARGE_STATUS_DEBOUNCE_MS`. -/
def CHARGE_STATUS_DEBOUNCE_MS : ℕ := 300

/-! ### A check of the flag -/

/-- How far a check has come: what it does next is to compare its sample, to store it, or to run
the callback. -/
inductive ChargeCheck where
  | sampled (isCharging : Bool)
  /-- The sample is another than `last_charging_state` was. -/
  | changed (isCharging : Bool)
  /-- It is stored there. -/
  | stored (isCharging : Bool)
deriving DecidableEq, Repr

namespace ChargeCheck

/-- The sample. -/
def isCharging : ChargeCheck → Bool
  | sampled isCharging | changed isCharging | stored isCharging => isCharging

/-- The comparison is next. -/
def comparing : ChargeCheck → Bool
  | sampled _ => true
  | _ => false

/-- What is next, with what it leaves of the check. -/
def step (bat : BatteryData) : ChargeCheck → Option ChargeCheck × BatteryData × List ChargeReport
  | sampled isCharging =>
    (if isCharging ≠ bat.lastChargingState then some (changed isCharging) else none, bat, [])
  | changed isCharging =>
    (some (stored isCharging), { bat with lastChargingState := isCharging }, [])
  | stored isCharging =>
    (none, bat, if bat.chargingChangedCb then [.callback isCharging] else [])

end ChargeCheck

/-! ### The machine -/

/-- How far `charge_status_debounce_work` has come: it has yet to sample the line, is at a check,
or has checked the flag and is in the callback, if it calls that. -/
inductive DebouncePhase where
  | entered
  | checking (check : ChargeCheck)
  | checked
deriving DecidableEq, Repr

/-- The check that the handler is at. -/
def DebouncePhase.check? : DebouncePhase → Option ChargeCheck
  | checking check => some check
  | _ => none

/-- The line with the work item and the battery service. `polls` are the checks that `n` threads
are at inside `battery_service_is_charging`. The last two fields are history: when the last edge
was, and when the handler last started. -/
structure ChargeLine (n : ℕ) where
  now : ℕ := 0
  high : Bool
  work : CancellableWork DebouncePhase := {}
  bat : BatteryData
  polls : Fin n → Option ChargeCheck := fun _ => none
  lastEdge : Option ℕ := none
  lastStart : Option ℕ := none

/-- What happens to them. -/
inductive DebounceEvent (n : ℕ) where
  | tick (ms : ℕ)
  /-- The line changes its level, and interrupts. -/
  | edge
  /-- The work queue starts the handler. -/
  | enter
  /-- The handler samples the line. -/
  | sample
  /-- The handler, which is `none`, or a thread goes on with its check. -/
  | check (who : Option (Fin n))
  /-- The handler returns. -/
  | leave
  /-- A thread enters `battery_service_is_charging` and samples the line. -/
  | pollSample (k : Fin n)
deriving DecidableEq, Repr

/-- What matters for the tracking of the line: the flag that it shows, the one that is
remembered, and what is under way. -/
structure LineView where
  flag : Bool
  last : Bool
  pending : Bool
  phase : Option DebouncePhase
deriving DecidableEq, Repr

namespace ChargeLine

variable {n : ℕ}

/-- The flag that the line shows. -/
def flag (activeLow : Bool) (s : ChargeLine n) : Bool := chargingFrom activeLow s.high

/-- The view of a state. -/
def view (activeLow : Bool) (s : ChargeLine n) : LineView where
  flag := s.flag activeLow
  last := s.bat.lastChargingState
  pending := s.work.pending
  phase := s.work.running

/-- The check that the handler or a thread is at. -/
def checkOf (who : Option (Fin n)) (s : ChargeLine n) : Option ChargeCheck :=
  match who with
  | none => s.work.running.bind DebouncePhase.check?
  | some k => s.polls k

/-- It comes to another, or to its end. -/
def setCheck (who : Option (Fin n)) (next : Option ChargeCheck) (s : ChargeLine n) :
    ChargeLine n :=
  match who with
  | none => { s with work := s.work.setPhase (next.elim .checked .checking) }
  | some k => { s with polls := Function.update s.polls k next }

/-- `charge_status_interrupt`. -/
def chargeStatusInterrupt (s : ChargeLine n) : ChargeLine n :=
  { s with
    work := s.work.cancel.schedule s.now CHARGE_STATUS_DEBOUNCE_MS
    lastEdge := some s.now }

/-- What a poll returns, once its check has come to its end. -/
def returned (who : Option (Fin n)) (check : ChargeCheck) (next : Option ChargeCheck) :
    List ChargeReport :=
  if who.isSome && next.isNone then [.polled check.isCharging] else []

/-- One event, with what is reported. -/
def step (activeLow : Bool) (e : DebounceEvent n) (s : ChargeLine n) :
    Option (ChargeLine n × List ChargeReport) :=
  match e with
  | .tick ms => some ({ s with now := s.now + ms }, [])
  | .edge => some (({ s with high := !s.high } : ChargeLine n).chargeStatusInterrupt, [])
  | .enter => (s.work.start s.now .entered).map fun work =>
      ({ s with work := work, lastStart := some s.now }, [])
  | .sample =>
    match s.work.running with
    | some .entered =>
      let isCharging := gpioPinGetDt activeLow s.high == 0
      some ({ s with work := s.work.setPhase (.checking (.sampled isCharging)) }, [])
    | _ => none
  | .check who =>
    (s.checkOf who).map fun check =>
      let (next, bat, reports) := check.step s.bat
      (({ s with bat := bat } : ChargeLine n).setCheck who next,
        reports ++ returned who check next)
  | .leave =>
    match s.work.running with
    | some .checked => some ({ s with work := s.work.finish }, [])
    | _ => none
  | .pollSample k =>
    if (s.polls k).isSome then none
    else if !s.bat.initialized then some (s, [.polled false])
    else
      let isCharging := gpioPinGetDt activeLow s.high == 0
      some (s.setCheck (some k) (some (.sampled isCharging)), [])

end ChargeLine

/-- The line, the work item and the battery service as a machine that shows what is reported. -/
def chargeLineMachine (n : ℕ) (activeLow : Bool) :
    Machine (ChargeLine n) (DebounceEvent n) ChargeReport := ⟨ChargeLine.step activeLow⟩

/-- The same, with a view of every state. -/
def debounceMachine (n : ℕ) (activeLow : Bool) :
    Machine (ChargeLine n) (DebounceEvent n) LineView where
  step e s := (s.step activeLow e).map fun (s', _) => (s', [s'.view activeLow])

/-- The state after `battery_service_init`, which has sampled the line. -/
def chargeLineStart (n : ℕ) (high : Bool) (bat : BatteryData) : ChargeLine n :=
  { high := high, bat := bat }

namespace ChargeLine

variable {n : ℕ} {s : ChargeLine n}

/-- Only the check that goes on changes. -/
theorem checkOf_setCheck {who : Option (Fin n)} (hcheck : (s.checkOf who).isSome = true)
    (next : Option ChargeCheck) (who' : Option (Fin n)) :
    (s.setCheck who next).checkOf who' = if who' = who then next else s.checkOf who' := by
  cases who with
  | none =>
    cases who' with
    | none =>
      obtain ⟨check, hcheck⟩ := Option.isSome_iff_exists.mp hcheck
      obtain ⟨phase, hrunning, -⟩ := Option.bind_eq_some_iff.mp hcheck
      rw [if_pos rfl]
      cases next <;>
        simp [checkOf, setCheck, CancellableWork.setPhase, hrunning, DebouncePhase.check?]
    | some k => rfl
  | some k =>
    cases who' with
    | none => rfl
    | some k' => simp [checkOf, setCheck, Function.update_apply]

@[simp]
theorem bat_setCheck (who : Option (Fin n)) (next : Option ChargeCheck) :
    (s.setCheck who next).bat = s.bat := by cases who <;> rfl

/-- What one event does, case by case. -/
inductive Stepped (activeLow : Bool) (s : ChargeLine n) :
    DebounceEvent n → ChargeLine n → List ChargeReport → Prop where
  | tick {ms : ℕ} : Stepped activeLow s (.tick ms) { s with now := s.now + ms } []
  | edge : Stepped activeLow s .edge
      ({ s with high := !s.high } : ChargeLine n).chargeStatusInterrupt []
  | enter {work : CancellableWork DebouncePhase} (start : s.work.start s.now .entered = some work) :
    Stepped activeLow s .enter { s with work := work, lastStart := some s.now } []
  | sample (running : s.work.running = some .entered) :
    Stepped activeLow s .sample
      { s with work := s.work.setPhase (.checking (.sampled (s.flag activeLow))) } []
  | check {who : Option (Fin n)} {check : ChargeCheck} (checking : s.checkOf who = some check) :
    Stepped activeLow s (.check who)
      (({ s with bat := (check.step s.bat).2.1 } : ChargeLine n).setCheck who
        (check.step s.bat).1)
      ((check.step s.bat).2.2 ++ returned who check (check.step s.bat).1)
  | leave (running : s.work.running = some .checked) :
    Stepped activeLow s .leave { s with work := s.work.finish } []
  /-- A poll of a service that is not initialised. -/
  | polled {k : Fin n} (down : s.bat.initialized = false) :
    Stepped activeLow s (.pollSample k) s [.polled false]
  | pollSample {k : Fin n} (idle : s.polls k = none) :
    Stepped activeLow s (.pollSample k)
      (s.setCheck (some k) (some (.sampled (s.flag activeLow)))) []

/-- **One event** does nothing else. -/
theorem step_cases {activeLow : Bool} {e : DebounceEvent n} {s' : ChargeLine n}
    {reports : List ChargeReport} (hstep : s.step activeLow e = some (s', reports)) :
    Stepped activeLow s e s' reports := by
  cases e with
  | tick ms =>
    obtain ⟨rfl, rfl⟩ := Prod.mk.inj (Option.some.inj hstep)
    exact .tick
  | edge =>
    obtain ⟨rfl, rfl⟩ := Prod.mk.inj (Option.some.inj hstep)
    exact .edge
  | enter =>
    obtain ⟨work, hstart, hs'⟩ := Option.map_eq_some_iff.mp hstep
    obtain ⟨rfl, rfl⟩ := Prod.mk.inj hs'
    exact .enter hstart
  | sample =>
    simp only [step] at hstep
    split at hstep
    · rename_i hrunning
      obtain ⟨rfl, rfl⟩ := Prod.mk.inj (Option.some.inj hstep)
      exact .sample hrunning
    · cases hstep
  | check who =>
    obtain ⟨check, hcheck, hs'⟩ := Option.map_eq_some_iff.mp hstep
    obtain ⟨rfl, rfl⟩ := Prod.mk.inj hs'
    exact .check hcheck
  | leave =>
    simp only [step] at hstep
    split at hstep
    · rename_i hrunning
      obtain ⟨rfl, rfl⟩ := Prod.mk.inj (Option.some.inj hstep)
      exact .leave hrunning
    · cases hstep
  | pollSample k =>
    simp only [step] at hstep
    split_ifs at hstep with hbusy hdown
    · obtain ⟨rfl, rfl⟩ := Prod.mk.inj (Option.some.inj hstep)
      exact .polled (by simpa using hdown)
    · obtain ⟨rfl, rfl⟩ := Prod.mk.inj (Option.some.inj hstep)
      exact .pollSample (by simpa using hbusy)

end ChargeLine

/-! ### Tracking the line -/

/-- The remembered flag is that of the line, or will be: the handler is to start or to sample
the line, or has yet to store a sample, if it must, that is the flag of the line. -/
def LineView.Tracks (v : LineView) : Prop :=
  v.pending = true ∨
    match v.phase with
    | some .entered => True
    | some (.checking (.sampled isCharging)) | some (.checking (.changed isCharging)) =>
      isCharging = v.flag
    | some (.checking (.stored _)) | some .checked | none => v.last = v.flag

instance (v : LineView) : Decidable v.Tracks := by
  unfold LineView.Tracks
  rcases v with ⟨flag, last, pending, _ | _ | (_ | _ | _) | _⟩ <;> infer_instance

namespace ChargeLine

variable {n : ℕ}

/-- The handler is yet to sample the line, or to compare or store its sample. -/
def Busy (s : ChargeLine n) : Prop :=
  s.work.pending = true ∨ s.work.running = some .entered ∨
    ∃ isCharging, s.work.running = some (.checking (.sampled isCharging)) ∨
      s.work.running = some (.checking (.changed isCharging))

instance (s : ChargeLine n) : Decidable s.Busy := inferInstanceAs (Decidable (_ ∨ _ ∨ _))

/-- The state tracks the line, and an item whose handler runs is not pending. -/
structure Tracking (activeLow : Bool) (s : ChargeLine n) : Prop where
  tracks : (s.view activeLow).Tracks
  alone : s.work.running.isSome = true → s.work.due = none

end ChargeLine

/-- The event is no edge after the sample of a running handler, and no thread stores an old sample
with nothing under way. -/
def DebounceEvent.Heard {n : ℕ} (activeLow : Bool) (e : DebounceEvent n) (s : ChargeLine n) :
    Prop :=
  match e with
  | .edge => s.work.running = none ∨ s.work.running = some .entered
  | .check (some k) =>
    ∀ isCharging, s.polls k = some (.changed isCharging) →
      isCharging = s.flag activeLow ∨ s.Busy
  | _ => True

namespace ChargeLine

variable {n : ℕ} {activeLow : Bool} {s s' : ChargeLine n} {reports : List ChargeReport}

/-- The handler that runs alone has nothing pending behind it. -/
private theorem Tracking.not_pending (h : s.Tracking activeLow) {phase : DebouncePhase}
    (hphase : s.work.running = some phase) : s.work.pending = false := by
  rw [CancellableWork.pending, h.alone (by rw [hphase]; rfl)]
  rfl

/-- A change of the line turns its flag. -/
theorem view_edge (activeLow : Bool) (s : ChargeLine n) :
    (({ s with high := !s.high } : ChargeLine n).chargeStatusInterrupt).view activeLow =
      { s.view activeLow with flag := !s.flag activeLow, pending := s.work.running.isNone } := by
  have hflag : chargingFrom activeLow (!s.high) = !chargingFrom activeLow s.high := by
    rw [chargingFrom_eq, chargingFrom_eq]
    cases s.high <;> cases activeLow <;> rfl
  have hdue := CancellableWork.due_schedule_cancel s.now CHARGE_STATUS_DEBOUNCE_MS s.work
  have hpending : (s.work.cancel.schedule s.now CHARGE_STATUS_DEBOUNCE_MS).pending =
      s.work.running.isNone := by
    rw [CancellableWork.pending, hdue]
    cases s.work.running <;> rfl
  simp only [view, flag, chargeStatusInterrupt, hflag, hpending, CancellableWork.running_schedule]
  rfl

/-- **An edge** is heard unless the handler has sampled the line before it. -/
private theorem Tracking.edge (h : s.Tracking activeLow) :
    ((({ s with high := !s.high } : ChargeLine n).chargeStatusInterrupt).view activeLow).Tracks ↔
      (DebounceEvent.edge : DebounceEvent n).Heard activeLow s := by
  have htracks := h.tracks
  rw [view_edge, DebounceEvent.Heard, LineView.Tracks]
  cases hrunning : s.work.running with
  | none => simp
  | some phase =>
    have hpending := h.not_pending hrunning
    simp only [LineView.Tracks, view, hpending, hrunning, Bool.false_eq_true, false_or] at htracks
    rcases phase with _ | (_ | _ | _) | _ <;> simp_all [view]

/-- **A store** of the flag of the line, or of any other while the handler is yet to store. -/
private theorem Tracking.store (h : s.Tracking activeLow) (isCharging : Bool) :
    ({ s.view activeLow with last := isCharging } : LineView).Tracks ↔
      isCharging = s.flag activeLow ∨ s.Busy := by
  have htracks := h.tracks
  rw [LineView.Tracks, Busy]
  cases hrunning : s.work.running with
  | none => simp [view, hrunning, or_comm]
  | some phase =>
    have hpending := h.not_pending hrunning
    simp only [LineView.Tracks, view, hpending, hrunning, Bool.false_eq_true, false_or] at htracks
    rcases phase with _ | (_ | _ | _) | _ <;> simp_all [view]

/-- **The handler's check** loses nothing. -/
private theorem Tracking.ownCheck (h : s.Tracking activeLow) {check : ChargeCheck}
    (hrunning : s.work.running = some (.checking check)) :
    ((({ s with bat := (check.step s.bat).2.1 } : ChargeLine n).setCheck none
      (check.step s.bat).1).view activeLow).Tracks := by
  have htracks := h.tracks
  have hpending := h.not_pending hrunning
  simp only [LineView.Tracks, view, hpending, hrunning, Bool.false_eq_true, false_or] at htracks
  right
  cases check with
  | sampled isCharging =>
    have hflag : isCharging = s.flag activeLow := htracks
    by_cases hnew : isCharging = s.bat.lastChargingState
    · simp only [ChargeCheck.step, ne_eq, hnew, not_true_eq_false, if_false, setCheck, view,
        CancellableWork.setPhase, hrunning, Option.map_some, Option.elim_none]
      exact hnew ▸ hflag
    · simp only [ChargeCheck.step, ne_eq, hnew, not_false_eq_true, if_true, setCheck, view,
        CancellableWork.setPhase, hrunning, Option.map_some, Option.elim_some]
      exact hflag
  | changed isCharging =>
    simp only [ChargeCheck.step, setCheck, view, CancellableWork.setPhase, hrunning,
      Option.map_some, Option.elim_some]
    exact htracks
  | stored isCharging =>
    simp only [ChargeCheck.step, setCheck, view, CancellableWork.setPhase, hrunning,
      Option.map_some, Option.elim_none]
    exact htracks

/-- **A thread's check** matters where it stores. -/
private theorem Tracking.pollCheck (h : s.Tracking activeLow) {k : Fin n} {check : ChargeCheck}
    (hpoll : s.polls k = some check) :
    ((({ s with bat := (check.step s.bat).2.1 } : ChargeLine n).setCheck (some k)
      (check.step s.bat).1).view activeLow).Tracks ↔
        DebounceEvent.Heard activeLow (.check (some k)) s := by
  rw [DebounceEvent.Heard]
  cases check with
  | changed isCharging =>
    refine (h.store isCharging).trans ⟨fun hok isCharging' hpoll' => ?_, fun hall => hall _ hpoll⟩
    obtain rfl : isCharging = isCharging' :=
      ChargeCheck.changed.inj (Option.some.inj (hpoll.symm.trans hpoll'))
    exact hok
  | _ => exact iff_of_true h.tracks fun _ hpoll' => by rw [hpoll] at hpoll'; cases hpoll'

/-- **One event** leaves the line tracked exactly if it is heard. -/
theorem Tracking.step (h : s.Tracking activeLow) {e : DebounceEvent n}
    (hstep : s.step activeLow e = some (s', reports)) :
    ((s'.view activeLow).Tracks ↔ e.Heard activeLow s) ∧
      (s'.work.running.isSome = true → s'.work.due = none) := by
  have htracks := h.tracks
  cases step_cases hstep with
  | tick => exact ⟨iff_of_true htracks trivial, h.alone⟩
  | edge =>
    refine ⟨h.edge, fun hrunning => ?_⟩
    have hdue := CancellableWork.due_schedule_cancel s.now CHARGE_STATUS_DEBOUNCE_MS s.work
    have hrunning : s.work.running.isSome = true := by
      simpa only [chargeStatusInterrupt, CancellableWork.running_schedule,
        CancellableWork.running_cancel] using hrunning
    rwa [if_pos hrunning] at hdue
  | enter hstart =>
    obtain ⟨-, -, hdue, hrunning⟩ := CancellableWork.start_eq_some hstart
    refine ⟨iff_of_true (Or.inr ?_) trivial, fun _ => hdue⟩
    simp [view, hrunning]
  | sample hrunning =>
    refine ⟨iff_of_true (Or.inr ?_) trivial, fun _ => h.alone (by rw [hrunning]; rfl)⟩
    simp [view, CancellableWork.setPhase, hrunning, flag]
  | @check who check hcheck =>
    cases who with
    | none =>
      obtain ⟨phase, hrunning, hphase⟩ := Option.bind_eq_some_iff.mp hcheck
      cases phase with
      | checking check' =>
        obtain rfl := Option.some.inj hphase
        exact ⟨iff_of_true (h.ownCheck hrunning) trivial,
          fun _ => h.alone (by rw [hrunning]; rfl)⟩
      | _ => cases hphase
    | some k => exact ⟨h.pollCheck hcheck, h.alone⟩
  | leave hrunning =>
    have hpending := h.not_pending hrunning
    simp only [LineView.Tracks, view, hpending, hrunning, Bool.false_eq_true, false_or] at htracks
    exact ⟨iff_of_true (Or.inr htracks) trivial, fun hsome => absurd hsome Bool.false_ne_true⟩
  | polled _ => exact ⟨iff_of_true htracks trivial, h.alone⟩
  | pollSample _ => exact ⟨iff_of_true htracks trivial, h.alone⟩

end ChargeLine

/-! ### Runs -/

/-- **When a change of the line is lost.** In every run from an initialised service, every state
tracks the line, so that the flag is that of the line whenever nothing is under way, if and only
if no edge comes between the sample of a running handler and its return, and no thread stores a
sample that is no longer the flag of the line while the handler has no sample to take or to
store. -/
theorem debounce_tracks_iff {n : ℕ} {activeLow high : Bool} {bat : BatteryData}
    (hlast : bat.lastChargingState = chargingFrom activeLow high) {es : List (DebounceEvent n)}
    {s : ChargeLine n} {os : List LineView}
    (hrun : (debounceMachine n activeLow).run es (chargeLineStart n high bat) = some (s, os)) :
    (∀ view ∈ os, view.Tracks) ↔
      (debounceMachine n activeLow).Along (DebounceEvent.Heard activeLow) es
        (chargeLineStart n high bat) := by
  have hstart : (chargeLineStart n high bat).Tracking activeLow :=
    ⟨Or.inr hlast, fun hsome => absurd hsome Bool.false_ne_true⟩
  refine Machine.forall_emits_iff (I := ChargeLine.Tracking activeLow) ?_ ?_ hstart hrun
  · intro e s s' os hheard h hstep
    obtain ⟨⟨s₁, reports⟩, hs₁, hout⟩ := Option.map_eq_some_iff.mp hstep
    obtain ⟨rfl, -⟩ := Prod.mk.inj hout
    obtain ⟨htracks, halone⟩ := h.step hs₁
    exact ⟨htracks.mpr hheard, halone⟩
  · intro e s s' os h hstep
    obtain ⟨⟨s₁, reports⟩, hs₁, hout⟩ := Option.map_eq_some_iff.mp hstep
    obtain ⟨rfl, rfl⟩ := Prod.mk.inj hout
    rw [List.forall_mem_singleton]
    exact (h.step hs₁).1

/-- A charger is attached with a bouncing contact, and detached while the callback runs. -/
def bouncingCharger : List (DebounceEvent 0) :=
  [.edge, .tick 100, .edge, .tick 10, .edge, .tick 300, .enter, .sample] ++
    List.replicate 3 (.check none) ++ [.edge, .leave]

/-- The bounces are debounced, and the last edge is lost. -/
theorem bouncingCharger_run :
    ∃ r ∈ (debounceMachine 0 true).run bouncingCharger (chargeLineStart 0 true
        { initialized := true, lastChargingState := true }),
      r.2.map (fun view => decide view.Tracks) =
        List.replicate 11 true ++ List.replicate 2 false ∧
      r.1.work.pending = false := by
  decide +kernel

/-- `debounce_tracks_iff` for it. -/
theorem debounce_tracks_iff_bouncingCharger :
    ∃ s os, (debounceMachine 0 true).run bouncingCharger (chargeLineStart 0 true
        { initialized := true, lastChargingState := true }) = some (s, os) ∧
      ((∀ view ∈ os, view.Tracks) ↔
        (debounceMachine 0 true).Along (DebounceEvent.Heard true) bouncingCharger
          (chargeLineStart 0 true { initialized := true, lastChargingState := true })) := by
  obtain ⟨⟨s, os⟩, hrun, -⟩ := bouncingCharger_run
  exact ⟨s, os, hrun, debounce_tracks_iff rfl hrun⟩

/-! ### The debounce time -/

namespace ChargeLine

variable {n : ℕ}

/-- The item is due the debounce time after the last edge, and at least as long after the handler
last started. -/
structure Timed (s : ChargeLine n) : Prop where
  edge : ∀ due, s.work.due = some due →
    ∃ t, s.lastEdge = some t ∧ due = t + CHARGE_STATUS_DEBOUNCE_MS
  start : ∀ due, s.work.due = some due →
    ∀ t, s.lastStart = some t → t + CHARGE_STATUS_DEBOUNCE_MS ≤ due
  past : ∀ t, s.lastStart = some t → t ≤ s.now

variable {activeLow : Bool} {s s' : ChargeLine n} {reports : List ChargeReport}

/-- Only the item and the times matter, and the item may stop being due. -/
private theorem Timed.congr (h : s.Timed) (hdue : s'.work.due = s.work.due ∨ s'.work.due = none)
    (hedge : s'.lastEdge = s.lastEdge) (hstart : s'.lastStart = s.lastStart)
    (hnow : s.now ≤ s'.now) : s'.Timed where
  edge due hdue' := by
    rcases hdue with hsame | hnone
    · rw [hedge]
      exact h.edge due (hsame ▸ hdue')
    · exact absurd (hnone.symm.trans hdue') (by simp)
  start due hdue' t ht := by
    rcases hdue with hsame | hnone
    · exact h.start due (hsame ▸ hdue') t (hstart ▸ ht)
    · exact absurd (hnone.symm.trans hdue') (by simp)
  past t ht := (h.past t (hstart ▸ ht)).trans hnow

/-- **One event.** -/
theorem Timed.step (h : s.Timed) {e : DebounceEvent n}
    (hstep : s.step activeLow e = some (s', reports)) : s'.Timed := by
  cases step_cases hstep with
  | tick => exact h.congr (Or.inl rfl) rfl rfl (Nat.le_add_right ..)
  | edge =>
    have hdue := CancellableWork.due_schedule_cancel s.now CHARGE_STATUS_DEBOUNCE_MS s.work
    constructor
    · intro due hdue'
      rw [chargeStatusInterrupt, hdue] at hdue'
      split_ifs at hdue'
      exact ⟨s.now, rfl, (Option.some.inj hdue').symm⟩
    · intro due hdue' t ht
      rw [chargeStatusInterrupt, hdue] at hdue'
      split_ifs at hdue'
      have hpast := h.past t ht
      have hsame := Option.some.inj hdue'
      omega
    · exact h.past
  | enter hstart =>
    obtain ⟨-, -, hnone, -⟩ := CancellableWork.start_eq_some hstart
    constructor
    · exact fun due hdue => absurd (hnone.symm.trans hdue) (by simp)
    · exact fun due hdue => absurd (hnone.symm.trans hdue) (by simp)
    · exact fun t ht => (Option.some.inj ht).ge
  | @check who _ _ => cases who <;> exact h.congr (Or.inl rfl) rfl rfl le_rfl
  | _ => exact h.congr (Or.inl rfl) rfl rfl le_rfl

end ChargeLine

/-- **The debounce time.** In every run, when the handler starts, there has been an edge, the last
one is the debounce time ago, and so is at least the last start of the handler. -/
theorem debounce_quiet {n : ℕ} {activeLow high : Bool} {bat : BatteryData}
    {es : List (DebounceEvent n)} {s s' : ChargeLine n} {os os' : List LineView}
    (hrun : (debounceMachine n activeLow).run es (chargeLineStart n high bat) = some (s, os))
    (hstart : (debounceMachine n activeLow).step .enter s = some (s', os')) :
    (∃ t, s.lastEdge = some t ∧ t + CHARGE_STATUS_DEBOUNCE_MS ≤ s.now) ∧
      ∀ t, s.lastStart = some t → t + CHARGE_STATUS_DEBOUNCE_MS ≤ s.now := by
  have hkeeps : (debounceMachine n activeLow).Preserves Machine.anyEvent ChargeLine.Timed := by
    intro e s s' os _ h hstep
    obtain ⟨⟨s₁, reports⟩, hs₁, hout⟩ := Option.map_eq_some_iff.mp hstep
    obtain ⟨rfl, -⟩ := Prod.mk.inj hout
    exact h.step hs₁
  have hfresh : (chargeLineStart n high bat).Timed :=
    ⟨fun _ h => absurd h (by simp [chargeLineStart]),
      fun _ h => absurd h (by simp [chargeLineStart]),
      fun _ h => absurd h (by simp [chargeLineStart])⟩
  have htimed := hkeeps.run (fun _ _ => trivial) hfresh hrun
  obtain ⟨r, hr, -⟩ := Option.map_eq_some_iff.mp hstart
  obtain ⟨work, hwork, -⟩ := Option.map_eq_some_iff.mp hr
  obtain ⟨⟨due, hle, hdue⟩, -⟩ := CancellableWork.start_eq_some hwork
  obtain ⟨t, ht, rfl⟩ := htimed.edge due hdue
  exact ⟨⟨t, ht, hle⟩, fun t' ht' => (htimed.start _ hdue t' ht').trans hle⟩

/-- The contact bounces three times before the handler starts. -/
def bouncingContact : List (DebounceEvent 0) :=
  [.edge, .tick 100, .edge, .tick 10, .edge, .tick 300]

/-- `debounce_quiet` for it. -/
theorem debounce_quiet_bouncingContact :
    ∃ s os s' os', (debounceMachine 0 true).run bouncingContact (chargeLineStart 0 true {}) =
        some (s, os) ∧ (debounceMachine 0 true).step .enter s = some (s', os') ∧
      (∃ t, s.lastEdge = some t ∧ t + CHARGE_STATUS_DEBOUNCE_MS ≤ s.now) ∧
      ∀ t, s.lastStart = some t → t + CHARGE_STATUS_DEBOUNCE_MS ≤ s.now := by
  have hstarts : ∃ r ∈ (debounceMachine 0 true).run bouncingContact (chargeLineStart 0 true {}),
      ∃ r' ∈ (debounceMachine 0 true).step .enter r.1, r'.1.lastStart = some 410 := by
    decide +kernel
  obtain ⟨⟨s, os⟩, hrun, ⟨s', os'⟩, hstart, -⟩ := hstarts
  exact ⟨s, os, s', os', hrun, hstart, debounce_quiet hrun hstart⟩

/-! ### What is reported -/

namespace ChargeLine

variable {n : ℕ}

/-- The check of the handler or of a thread, between its comparison and its callback. -/
def midway (who : Option (Fin n)) (s : ChargeLine n) : Option ChargeCheck :=
  (s.checkOf who).filter fun check => !check.comparing

/-- No check is there. -/
def Clear (s : ChargeLine n) : Prop := ∀ who, s.midway who = none

instance (s : ChargeLine n) : Decidable s.Clear := inferInstanceAs (Decidable (∀ _, _))

end ChargeLine

/-- Nobody compares between the comparison and the callback of somebody else. -/
def DebounceEvent.Serialized {n : ℕ} (e : DebounceEvent n) (s : ChargeLine n) : Prop :=
  match e with
  | .check who => (s.checkOf who).any ChargeCheck.comparing = true → s.Clear
  | _ => True

instance decidableSerialized {n : ℕ} :
    (e : DebounceEvent n) → (s : ChargeLine n) → Decidable (e.Serialized s)
  | .check who, s =>
    inferInstanceAs (Decidable ((s.checkOf who).any ChargeCheck.comparing = true → s.Clear))
  | .tick _, _ => isTrue trivial
  | .edge, _ => isTrue trivial
  | .enter, _ => isTrue trivial
  | .sample, _ => isTrue trivial
  | .leave, _ => isTrue trivial
  | .pollSample _, _ => isTrue trivial

/-- The sample of the charge detection that a check is. -/
def sampleOf {n : ℕ} (activeLow : Bool) (who : Option (Fin n)) (isCharging : Bool) : ChargeSample :=
  match who with
  | none => .debounceWork (isCharging == activeLow)
  | some _ => .poll (isCharging == activeLow)

/-- What the charge detection makes of it. -/
theorem chargeStep_sampleOf {n : ℕ} (activeLow : Bool) {bat : BatteryData} (h : ChargeReady bat)
    (who : Option (Fin n)) (check : ChargeCheck) :
    chargeStep activeLow (sampleOf activeLow who check.isCharging) bat =
      some ({ bat with lastChargingState := check.isCharging },
        (if check.isCharging ≠ bat.lastChargingState then [.callback check.isCharging] else []) ++
          ChargeLine.returned who check none) := by
  have hflag : chargingFrom activeLow (check.isCharging == activeLow) = check.isCharging := by
    rw [chargingFrom_eq]
    cases check.isCharging <;> cases activeLow <;> rfl
  rw [chargeStep_eq h]
  cases who with
  | none => simp [sampleOf, ChargeSample.high, ChargeSample.polled?, hflag, ChargeLine.returned]
  | some k => simp [sampleOf, ChargeSample.high, ChargeSample.polled?, hflag, ChargeLine.returned]

/-- The charge detection remembers `bat`: a check that has stored its sample and not run the
callback is to come there. -/
structure ChargeLine.Reporting {n : ℕ} (bat : BatteryData) (s : ChargeLine n) : Prop where
  ready : ChargeReady bat
  alone : ∀ {who who' check check'}, s.midway who = some check → s.midway who' = some check' →
    who = who'
  changed : ∀ {who isCharging}, s.midway who = some (.changed isCharging) →
    isCharging ≠ bat.lastChargingState
  stored : ∀ {who isCharging}, s.midway who = some (.stored isCharging) →
    isCharging ≠ bat.lastChargingState ∧ s.bat = { bat with lastChargingState := isCharging }
  same : (∀ who isCharging, s.midway who ≠ some (.stored isCharging)) → s.bat = bat

namespace ChargeLine

variable {n : ℕ} {activeLow : Bool} {s s' : ChargeLine n} {bat : BatteryData}

theorem midway_setCheck {who : Option (Fin n)} (hcheck : (s.checkOf who).isSome = true)
    (next : Option ChargeCheck) (who' : Option (Fin n)) :
    (s.setCheck who next).midway who' =
      if who' = who then next.filter fun check => !check.comparing else s.midway who' := by
  rw [midway, checkOf_setCheck hcheck]
  split_ifs <;> rfl

/-- Nothing has been stored early. -/
theorem Reporting.of_clear (hready : ChargeReady s.bat) (hclear : s.Clear) : s.Reporting s.bat where
  ready := hready
  alone {who _ _ _} h _ := absurd ((hclear who).symm.trans h) (by simp)
  changed {who _} h := absurd ((hclear who).symm.trans h) (by simp)
  stored {who _} h := absurd ((hclear who).symm.trans h) (by simp)
  same _ := rfl

/-- Only the checks midway and the service matter. -/
theorem Reporting.congr (h : s.Reporting bat) (hbat : s'.bat = s.bat)
    (hmidway : ∀ who, s'.midway who = s.midway who) : s'.Reporting bat where
  ready := h.ready
  alone hcheck hcheck' := h.alone (hmidway _ ▸ hcheck) (hmidway _ ▸ hcheck')
  changed hcheck := h.changed (hmidway _ ▸ hcheck)
  stored hcheck := hbat ▸ h.stored (hmidway _ ▸ hcheck)
  same hnone := hbat.trans (h.same fun who isCharging => hmidway who ▸ hnone who isCharging)

/-- The service is ready while a check is midway. -/
theorem Reporting.ready_bat (h : s.Reporting bat) : ChargeReady s.bat := by
  by_cases hnone : ∀ who isCharging, s.midway who ≠ some (.stored isCharging)
  · rw [h.same hnone]
    exact h.ready
  · simp only [not_forall, not_not] at hnone
    obtain ⟨who, isCharging, hstored⟩ := hnone
    rw [(h.stored hstored).2]
    exact ⟨h.ready.1, h.ready.2⟩

/-- What one event shows is what the charge detection shows of some samples, and it remembers what
it is to. -/
private def Shown (activeLow : Bool) (bat : BatteryData) (s : ChargeLine n)
    (reports : List ChargeReport) : Prop :=
  ∃ samples bat', (chargeMachine activeLow).run samples bat = some (bat', reports) ∧
    s.Reporting bat'

private theorem Shown.silent (h : s.Reporting bat) : Shown activeLow bat s [] :=
  ⟨[], bat, rfl, h⟩

private theorem Shown.sample (sample : ChargeSample) {bat' : BatteryData}
    {reports : List ChargeReport} (hsample : chargeStep activeLow sample bat = some (bat', reports))
    (h : s.Reporting bat') : Shown activeLow bat s reports :=
  ⟨[sample], bat', (Machine.run_cons_eq_some _).mpr
    ⟨bat', reports, [], hsample, rfl, (List.append_nil _).symm⟩, h⟩

/-- **A comparison**, with nobody midway: the charge detection takes a sample that is not new, and
waits for the callback of one that is. -/
private theorem Reporting.sampled (h : s.Reporting bat) (hclear : s.Clear) {who : Option (Fin n)}
    {isCharging : Bool} (hcheck : s.checkOf who = some (.sampled isCharging)) :
    let next := if isCharging ≠ s.bat.lastChargingState then some (.changed isCharging) else none
    Shown activeLow bat (s.setCheck who next) (returned who (.sampled isCharging) next) := by
  obtain rfl : s.bat = bat := h.same fun who' c hstored =>
    absurd ((hclear who').symm.trans hstored) (by simp)
  have hmidway := fun next => midway_setCheck (Option.isSome_of_eq_some hcheck) next
  intro next
  by_cases hnew : isCharging = s.bat.lastChargingState
  · have hnext : next = none := if_neg (not_not.mpr hnew)
    have hdone : (s.setCheck who none).Reporting s.bat := by
      refine h.congr (bat_setCheck who none) fun who' => ?_
      rw [hmidway, hclear who']
      exact ite_self none
    have hsample := chargeStep_sampleOf activeLow h.ready who (.sampled isCharging)
    rw [hnext]
    refine Shown.sample _ (hsample.trans ?_) hdone
    have hsame : (ChargeCheck.sampled isCharging).isCharging = s.bat.lastChargingState := hnew
    rw [hsame, if_neg (not_not.mpr rfl), List.nil_append]
  · have hnext : next = some (.changed isCharging) := if_pos hnew
    have hsilent : returned who (.sampled isCharging) next = [] := by
      rw [hnext, returned, Option.isNone_some, Bool.and_false]
      rfl
    have honly : ∀ {who' check}, (s.setCheck who next).midway who' = some check →
        who' = who ∧ check = .changed isCharging := by
      intro who' check hmid
      rw [hmidway, hclear who'] at hmid
      split_ifs at hmid with hwho
      rw [hnext] at hmid
      exact ⟨hwho, (Option.some.inj hmid).symm⟩
    rw [hsilent]
    refine Shown.silent ⟨h.ready, fun h₁ h₂ => (honly h₁).1.trans (honly h₂).1.symm,
      fun h₁ => ?_, fun h₁ => ?_, fun _ => bat_setCheck who next⟩
    · rw [ChargeCheck.changed.inj (honly h₁).2]
      exact hnew
    · exact absurd (honly h₁).2 (by simp)

/-- **A store** is not seen yet. -/
private theorem Reporting.changed_store (h : s.Reporting bat) {who : Option (Fin n)}
    {isCharging : Bool} (hcheck : s.checkOf who = some (.changed isCharging)) :
    (({ s with bat := { s.bat with lastChargingState := isCharging } } : ChargeLine n).setCheck who
      (some (.stored isCharging))).Reporting bat := by
  have hmid : s.midway who = some (.changed isCharging) := by rw [midway, hcheck]; rfl
  have hbat : s.bat = bat := h.same fun who' c hstored => by
    rw [h.alone hmid hstored, hstored] at hmid
    cases hmid
  have hmidway := midway_setCheck
    (s := { s with bat := { s.bat with lastChargingState := isCharging } })
    (Option.isSome_of_eq_some hcheck) (some (.stored isCharging))
  have honly : ∀ {who' check}, (({ s with
      bat := { s.bat with lastChargingState := isCharging } } : ChargeLine n).setCheck who
        (some (.stored isCharging))).midway who' = some check →
      who' = who ∧ check = .stored isCharging := by
    intro who' check hmid'
    rw [hmidway] at hmid'
    split_ifs at hmid' with hwho
    · exact ⟨hwho, (Option.some.inj hmid').symm⟩
    · exact absurd (h.alone hmid' hmid) hwho
  refine ⟨h.ready, fun h₁ h₂ => (honly h₁).1.trans (honly h₂).1.symm,
    fun h₁ => absurd (honly h₁).2 (by simp), fun h₁ => ?_, fun hnone => ?_⟩
  · rw [ChargeCheck.stored.inj (honly h₁).2, bat_setCheck, hbat]
    exact ⟨h.changed hmid, rfl⟩
  · exact absurd (by rw [hmidway, if_pos rfl]; rfl) (hnone who isCharging)

/-- **A callback** is that of the sample, which the charge detection takes now. -/
private theorem Reporting.stored_callback (h : s.Reporting bat) {who : Option (Fin n)}
    {isCharging : Bool} (hcheck : s.checkOf who = some (.stored isCharging)) :
    Shown activeLow bat (s.setCheck who none)
      (.callback isCharging :: returned who (.stored isCharging) none) := by
  have hmid : s.midway who = some (.stored isCharging) := by rw [midway, hcheck]; rfl
  obtain ⟨hnew, hbat⟩ := h.stored hmid
  have hclear : (s.setCheck who none).Clear := by
    intro who'
    rw [midway_setCheck (by rw [hcheck]; rfl)]
    split_ifs with hwho
    · rfl
    · by_contra hother
      obtain ⟨check, hmid'⟩ := Option.ne_none_iff_exists'.mp hother
      exact hwho (h.alone hmid' hmid)
  have hlast : (s.setCheck who none).bat = { bat with lastChargingState := isCharging } :=
    (bat_setCheck who none).trans hbat
  have hready : ChargeReady (s.setCheck who none).bat := by
    rw [bat_setCheck]
    exact h.ready_bat
  refine Shown.sample (sampleOf activeLow who isCharging) ?_
    (hlast ▸ Reporting.of_clear hready hclear)
  have hsample := chargeStep_sampleOf activeLow h.ready who (.stored isCharging)
  have hdiffers : (ChargeCheck.stored isCharging).isCharging ≠ bat.lastChargingState := hnew
  rw [if_pos hdiffers] at hsample
  exact hsample

/-- The handler comes from a phase without a check midway to another. -/
private theorem Reporting.phase (h : s.Reporting bat) (hbat : s'.bat = s.bat)
    (hbefore : s.midway none = none) (hafter : s'.midway none = none)
    (hpolls : s'.polls = s.polls) : s'.Reporting bat := by
  refine h.congr hbat fun who => ?_
  cases who with
  | none => exact hafter.trans hbefore.symm
  | some k => rw [midway, midway, checkOf, checkOf, hpolls]

/-- **One event.** -/
private theorem Reporting.step (h : s.Reporting bat) {e : DebounceEvent n}
    (he : e.Serialized s) {reports : List ChargeReport}
    (hstep : s.step activeLow e = some (s', reports)) : Shown activeLow bat s' reports := by
  have hready := h.ready_bat
  cases step_cases hstep with
  | tick => exact .silent (h.congr rfl fun _ => rfl)
  | edge =>
    refine .silent (h.congr rfl fun who => ?_)
    cases who with
    | none => simp [midway, checkOf, chargeStatusInterrupt]
    | some k => rfl
  | enter hstart =>
    obtain ⟨-, hidle, -, hrunning⟩ := CancellableWork.start_eq_some hstart
    exact .silent (h.phase rfl (by simp [midway, checkOf, hidle])
      (by simp [midway, checkOf, hrunning, DebouncePhase.check?]) rfl)
  | sample hrunning =>
    refine .silent (h.phase rfl ?_ ?_ rfl)
    · simp [midway, checkOf, hrunning, DebouncePhase.check?]
    · simp [midway, checkOf, CancellableWork.setPhase, hrunning, DebouncePhase.check?,
        ChargeCheck.comparing]
  | @check who check hcheck =>
    cases check with
    | sampled isCharging => exact h.sampled (he (by rw [hcheck]; rfl)) hcheck
    | changed isCharging =>
      have hsilent : returned who (.changed isCharging) (some (.stored isCharging)) = [] := by
        rw [returned, Option.isNone_some, Bool.and_false]
        rfl
      simp only [ChargeCheck.step, hsilent, List.append_nil]
      exact .silent (h.changed_store hcheck)
    | stored isCharging =>
      simp only [ChargeCheck.step, hready.registered, if_true, List.singleton_append]
      exact h.stored_callback hcheck
  | leave hrunning =>
    exact .silent (h.phase rfl (by simp [midway, checkOf, hrunning, DebouncePhase.check?]) rfl rfl)
  | polled hdown => exact absurd (hready.initialized.symm.trans hdown) (by decide)
  | @pollSample k hidle =>
    refine .silent (h.congr rfl fun who => ?_)
    cases who with
    | none => rfl
    | some k' =>
      simp only [midway, checkOf, setCheck, Function.update_apply]
      split_ifs with hsame
      · rw [hsame, hidle]
        rfl
      · rfl

end ChargeLine

/-- **Simulation.** As long as nobody compares while somebody else is between a comparison and the
callback, what is reported is what the charge detection reports, which takes one sample after the
other. -/
theorem chargeLine_simulates {n : ℕ} {activeLow : Bool} :
    (chargeLineMachine n activeLow).Simulates DebounceEvent.Serialized (chargeMachine activeLow)
      ChargeLine.Reporting id (fun _ => ([] : List Unit)) (fun _ => []) fun _ => [] := by
  intro e s s' os bat he h hstep
  obtain ⟨samples, bat', hrun, hnext⟩ := h.step he hstep
  exact ⟨samples, bat', by rwa [List.map_id], hnext, by simp⟩

/-- The charge detection remembers the flag of the last sample. -/
theorem charge_run_last {activeLow : Bool} {samples : List ChargeSample} {bat bat' : BatteryData}
    {reports : List ChargeReport} (h : ChargeReady bat)
    (hrun : (chargeMachine activeLow).run samples bat = some (bat', reports)) :
    bat'.lastChargingState =
      (samples.map fun sample => chargingFrom activeLow sample.high).getLastD
        bat.lastChargingState := by
  induction samples generalizing bat reports with
  | nil =>
    simp only [Machine.run_nil, Option.some.injEq, Prod.mk.injEq] at hrun
    rw [hrun.1]
    rfl
  | cons sample samples ih =>
    obtain ⟨bat₁, o₁, o₂, h₁, h₂, -⟩ := (Machine.run_cons_eq_some _).mp hrun
    obtain ⟨rfl, -⟩ :=
      Prod.mk.inj (Option.some.inj ((chargeStep_eq h activeLow sample).symm.trans h₁))
    have hready : ChargeReady
        { bat with lastChargingState := chargingFrom activeLow sample.high } := ⟨h.1, h.2⟩
    rw [ih hready h₂, List.map_cons, List.getLastD_cons]

/-- **The callback alternates.** In every run in which nobody compares between the comparison and
the callback of somebody else, with any edges and any other interleaving of the handler and the
threads, the callback is never called twice in a row with the same flag, nor at first with the
flag of the initialisation; and whenever no check is between the two, the last flag it has got is
the one that is remembered. -/
theorem debounce_alternates {n : ℕ} {activeLow high : Bool} {bat : BatteryData}
    (hready : ChargeReady bat) {es : List (DebounceEvent n)} {s : ChargeLine n}
    {os : List ChargeReport}
    (hserial : (chargeLineMachine n activeLow).Along DebounceEvent.Serialized es
      (chargeLineStart n high bat))
    (hrun : (chargeLineMachine n activeLow).run es (chargeLineStart n high bat) = some (s, os)) :
    let flags := os.filterMap ChargeReport.callback?
    (bat.lastChargingState :: flags).IsChain (· ≠ ·) ∧
      (s.Clear → flags.getLastD bat.lastChargingState = s.bat.lastChargingState) := by
  intro flags
  have hstart : (chargeLineStart n high bat).Reporting bat :=
    .of_clear (s := chargeLineStart n high bat) hready fun who => by cases who <;> rfl
  obtain ⟨samples, bat', hsamples, hend, -⟩ :=
    chargeLine_simulates.run hserial hstart hrun
  rw [List.map_id] at hsamples
  have hflags : flags = changes bat.lastChargingState
      (samples.map fun sample => chargingFrom activeLow sample.high) :=
    (charge_run_reports hready hsamples).2
  rw [hflags]
  refine ⟨isChain_changes .., fun hclear => ?_⟩
  have hsame : s.bat = bat' := hend.same fun who c hstored =>
    absurd ((hclear who).symm.trans hstored) (by simp)
  rw [getLastD_changes, hsame, charge_run_last hready hsamples]

/-- A poll finds the charger first, and the handler finds it detached. -/
def polledCharger : List (DebounceEvent 1) :=
  .edge :: .pollSample 0 :: List.replicate 3 (.check (some 0)) ++
    [.edge, .tick 300, .enter, .sample] ++ List.replicate 3 (.check none) ++ [.leave]

/-- `debounce_alternates` for it. -/
theorem debounce_alternates_polledCharger :
    ∃ s os, (chargeLineMachine 1 true).run polledCharger (chargeLineStart 1 true
        { initialized := true, lastChargingState := true, chargingChangedCb := true }) =
        some (s, os) ∧
      let flags := os.filterMap ChargeReport.callback?
      flags = [false, true] ∧ (true :: flags).IsChain (· ≠ ·) ∧
        flags.getLastD true = s.bat.lastChargingState := by
  have hruns : (∃ r ∈ (chargeLineMachine 1 true).run polledCharger (chargeLineStart 1 true
      { initialized := true, lastChargingState := true, chargingChangedCb := true }),
      r.2.filterMap ChargeReport.callback? = [false, true] ∧ r.1.Clear) ∧
      (chargeLineMachine 1 true).Along DebounceEvent.Serialized polledCharger
        (chargeLineStart 1 true
          { initialized := true, lastChargingState := true, chargingChangedCb := true }) := by
    decide +kernel
  obtain ⟨⟨⟨s, os⟩, hrun, hflags, hclear⟩, hserial⟩ := hruns
  obtain ⟨hchain, hlast⟩ := debounce_alternates ⟨rfl, rfl⟩ hserial hrun
  exact ⟨s, os, hrun, hflags, hchain, hlast hclear⟩

/-- The handler and a poll compare before either has stored its sample. -/
def racingChecks : List (DebounceEvent 1) :=
  [.edge, .tick 300, .enter, .sample, .pollSample 0] ++
    (List.replicate 3 [.check none, .check (some 0)]).flatten

/-- Then both call back with the same flag. -/
example : ∃ r ∈ (chargeLineMachine 1 true).run racingChecks (chargeLineStart 1 true
    { initialized := true, lastChargingState := true, chargingChangedCb := true }),
      r.2.filterMap ChargeReport.callback? = [false, false] := by
  decide +kernel

end EnvMonitor
