import EnvMonitor.Ccs811.Coherence
import EnvMonitor.Ccs811.Outcome

/-!
# The wait after a wake

A sensor that has been woken into its 1 s mode needs a full sample period before there is
anything to fetch. `ccs811_await_first_1s_sample` stands for that: a read that finds it up sleeps
for `CCS811_IDLE_WAKE_DELAY_MS` and lowers it. Here every `sensor_sample_fetch` is seen with the
last wake before it.

The flag does not say which wake it is up for. A wake that comes in the wait of a read raises it
again, and the read lowers it at the end of a wait that was for an earlier wake. A disconnect
lowers it too, for a sensor that may refuse to go to idle. `fetch_rested_iff`: a run fetches too
early exactly by such a read, or by one that starts while the flag is down for one of these
reasons.
-/

namespace EnvMonitor

/-- `CCS811_IDLE_WAKE_DELAY_MS`. -/
def CCS811_IDLE_WAKE_DELAY_MS : ℤ := 1500

/-! ### Wakes -/

theorem await_ccs811Enter1SecMode (modeRet : ℤ) (s : Ccs811Run) :
    (ccs811Enter1SecMode modeRet s).2.drv.awaitFirst1sSample =
      (s.drv.awaitFirst1sSample || modeRet == 0) := by
  by_cases hmode : modeRet = 0 <;> simp [ccs811Enter1SecMode, ccs811ModeUpdate, hmode]

theorem await_ccs811EnterIdleMode (modeRet : ℤ) (s : Ccs811Run) :
    (ccs811EnterIdleMode modeRet s).2.drv.awaitFirst1sSample = s.drv.awaitFirst1sSample := by
  rw [ccs811EnterIdleMode, ccs811ModeUpdate]
  dsimp only
  split_ifs <;> rfl

namespace Ccs811Event

/-- The step is a wake: it gets to `ccs811_enter_1sec_mode`, and that succeeds. -/
def wakes (s : Ccs811Run) : Ccs811Event → Bool
  | .connected lockRet modeRet =>
    s.drv.dev && lockRet == 0 && s.drv.conditioningComplete && modeRet == 0
  | .conditioningWork lockRet modeRet =>
    s.conditioningWork.any (· ≤ s.now) && lockRet == 0 && !s.drv.conditioningComplete &&
      s.drv.bleConnected && modeRet == 0
  | _ => false

variable {e : Ccs811Event} {s : Ccs811Run}

/-- A wake ends in a successful `ccs811_enter_1sec_mode`, once the conditioning is complete. -/
theorem step_of_wakes (h : e.wakes s = true) :
    ∃ s', ccs811Step s e = (ccs811Enter1SecMode 0 s').2 ∧ s'.now = s.now ∧
      s'.drv.conditioningComplete = true := by
  cases e with
  | connected lockRet modeRet =>
    simp only [wakes, Bool.and_eq_true, beq_iff_eq] at h
    obtain ⟨⟨⟨hdev, rfl⟩, hcomplete⟩, rfl⟩ := h
    refine ⟨{ s with drv := { s.drv with bleConnected := true } }, ?_, rfl, hcomplete⟩
    simp [ccs811Step, ccs811DriverOnConnected, hdev, hcomplete]
  | conditioningWork lockRet modeRet =>
    simp only [wakes, Bool.and_eq_true, beq_iff_eq, Bool.not_eq_true'] at h
    obtain ⟨⟨⟨⟨hdue, rfl⟩, hincomplete⟩, hlink⟩, rfl⟩ := h
    obtain ⟨due, hwork, hdue⟩ := (Option.any_eq_true _ _).mp hdue
    refine ⟨{ s with
      drv := { s.drv with conditioningComplete := true }
      conditioningWork := none }, ?_, rfl, rfl⟩
    simp [ccs811Step, ccs811ConditioningWorkHandler, hwork, of_decide_eq_true hdue,
      hincomplete, hlink]
  | tick ms => cases h
  | disconnected lockRet modeRet => cases h
  | isReady => cases h

/-- Any other step leaves the flag alone, or it is a disconnect and lowers it. -/
theorem await_of_not_wakes (h : e.wakes s = false) :
    (ccs811Step s e).drv.awaitFirst1sSample =
      (s.drv.awaitFirst1sSample && !(e.linkChange s == some .disconnected)) := by
  cases e with
  | tick ms => exact (Bool.and_true _).symm
  | connected lockRet modeRet =>
    have hlink : (linkChange s (.connected lockRet modeRet) == some .disconnected) = false := by
      rw [linkChange]
      split_ifs <;> rfl
    rw [hlink, Bool.not_false, Bool.and_true, ccs811Step, ccs811DriverOnConnected]
    dsimp only
    split_ifs with hdev hlock hcomplete
    · rfl
    · rfl
    · -- so the mode change fails
      have hdev : s.drv.dev = true := by simpa using hdev
      obtain rfl := not_not.mp hlock
      have hmode : (modeRet == 0) = false := by simpa [wakes, hdev, hcomplete] using h
      rw [await_ccs811Enter1SecMode, hmode, Bool.or_false]
    · rfl
  | disconnected lockRet modeRet =>
    rw [linkChange, ccs811Step, ccs811DriverOnDisconnected]
    cases hdev : s.drv.dev with
    | false => simp
    | true =>
      by_cases hlock : lockRet = 0
      · simp only [hlock, Bool.not_true, Bool.false_eq_true, if_false, ne_eq, not_true,
          beq_self_eq_true, Bool.and_self, if_true, Bool.and_false]
        split_ifs
        · rfl
        · rw [await_ccs811EnterIdleMode]
      · simp [hlock]
  | isReady =>
    rw [ccs811Step, ccs811DriverIsReady_eq]
    dsimp only
    split_ifs <;> exact (Bool.and_true _).symm
  | conditioningWork lockRet modeRet =>
    refine Eq.trans ?_ (Bool.and_true _).symm
    rw [ccs811Step]
    cases hwork : s.conditioningWork with
    | none => rfl
    | some due =>
      dsimp only
      rw [ccs811ConditioningWorkHandler]
      dsimp only
      split_ifs with hdue hlock hcomplete hlink
      · rfl
      · rfl
      · obtain rfl := not_not.mp hlock
        have hmode : (modeRet == 0) = false := by
          simpa [wakes, hwork, hdue, hcomplete, hlink] using h
        rw [await_ccs811Enter1SecMode, hmode, Bool.or_false]
      · rw [await_ccs811EnterIdleMode]
      · rfl

end Ccs811Event

/-! ### The machine -/

/-- The driver from program start on, with the time at which each reader has begun its last
wait. The rest is history: the last wake, whether the flag has been lowered for it by anything
but a wait for it, and which waits a wake has overtaken. -/
structure Ccs811Wakes where
  boot : Ccs811Boot
  since : ℕ → ℤ
  lastWake : Option ℤ
  dropped : Bool
  overtaken : ℕ → Bool

/-- What is seen at a `sensor_sample_fetch`: its time, and that of the last wake before it. -/
structure FetchTime where
  now : ℤ
  lastWake : Option ℤ
deriving DecidableEq, Repr

/-- At least `CCS811_IDLE_WAKE_DELAY_MS` have passed since the last wake. -/
def FetchTime.Rested (o : FetchTime) : Prop :=
  ∀ wake, o.lastWake = some wake → wake + CCS811_IDLE_WAKE_DELAY_MS ≤ o.now

namespace Ccs811Wakes

def run (w : Ccs811Wakes) : Ccs811Run := w.boot.threads.run

/-- A fetch now. -/
def fetchTime (w : Ccs811Wakes) : FetchTime := ⟨w.run.now, w.lastWake⟩

/-- The event is the end of a wait, and its reader is still asleep. -/
def asleep (w : Ccs811Wakes) : BootEvent → Bool
  | .thread (.readResume r _) => w.run.now < w.since r + CCS811_IDLE_WAKE_DELAY_MS
  | _ => false

/-- What is remembered of an event. -/
def note (e : BootEvent) (w : Ccs811Wakes) : Ccs811Wakes :=
  match e with
  | .thread (.step e) =>
    if e.wakes w.run then
      { w with lastWake := some w.run.now, dropped := false, overtaken := fun _ => true }
    else
      { w with dropped := w.dropped ||
          (w.run.drv.awaitFirst1sSample && e.linkChange w.run == some .disconnected) }
  | .thread (.readStart r _) =>
    { w with
      since := Function.update w.since r w.run.now
      overtaken := Function.update w.overtaken r false }
  | .thread (.readResume r _) =>
    { w with dropped := w.dropped || (w.run.drv.awaitFirst1sSample && w.overtaken r) }
  | _ => w

end Ccs811Wakes

/-- One critical section. A read sleeps in its wait. -/
def wakeStep (e : BootEvent) (w : Ccs811Wakes) : Option (Ccs811Wakes × List FetchTime) :=
  if w.asleep e then none
  else
    (bootStep e w.boot).map fun (boot, fetches) =>
      ({ w.note e with boot := boot }, fetches.map fun _ => w.fetchTime)

/-- The driver and its wakes as a machine. -/
def ccs811WakeMachine : Machine Ccs811Wakes BootEvent FetchTime := ⟨wakeStep⟩

/-- The state the program starts with. -/
def ccs811WakesStart (now : ℤ) : Ccs811Wakes where
  boot := ccs811BootStart now
  since _ := now
  lastWake := none
  dropped := false
  overtaken _ := false

/-- The sample period after the last wake is not over. -/
def Ccs811Wakes.early (w : Ccs811Wakes) : Bool :=
  w.lastWake.any fun wake => w.run.now < wake + CCS811_IDLE_WAKE_DELAY_MS

/-- In the sample period after a wake, no read takes the mutex again at the end of a wait that
the wake has overtaken, and none starts and gets past the checks at its entry once something
else than a wait for that wake has lowered the flag. -/
def BootEvent.HeedsWake (e : BootEvent) (w : Ccs811Wakes) : Prop :=
  match e with
  | .thread (.readStart _ a) =>
    ¬ (w.early = true ∧ w.dropped = true ∧ a.passes w.run = true)
  | .thread (.readResume r a) =>
    ¬ (w.early = true ∧ w.overtaken r = true ∧ a.relockRet = 0)
  | _ => True

/-! ### The invariant -/

/-- What holds of the wakes in every reachable state. -/
structure Ccs811Wakes.Inv (w : Ccs811Wakes) : Prop where
  boot : w.boot.Inv
  past : ∀ wake, w.lastWake = some wake → wake ≤ w.run.now
  complete : w.lastWake ≠ none → w.run.drv.conditioningComplete = true
  /-- The flag is up until it has been waited for, unless it is dropped. -/
  lowered : w.run.drv.awaitFirst1sSample = false → w.dropped = true ∨ w.fetchTime.Rested
  not_await : w.dropped = true → w.run.drv.awaitFirst1sSample = false
  /-- A wait that is not overtaken is for the last wake. -/
  waits : ∀ r last, w.boot.threads.reader r = .waiting last → w.overtaken r = false →
    ∀ wake, w.lastWake = some wake → wake ≤ w.since r

theorem Ccs811Wakes.rested_iff (w : Ccs811Wakes) : w.fetchTime.Rested ↔ w.early = false := by
  rw [FetchTime.Rested, fetchTime, early]
  cases w.lastWake with
  | none => simp
  | some wake => simp

/-- Time only helps. -/
theorem FetchTime.Rested.mono {o o' : FetchTime} (h : o.Rested) (hwake : o'.lastWake = o.lastWake)
    (hnow : o.now ≤ o'.now) : o'.Rested :=
  fun wake hlast => (h wake (hwake.symm.trans hlast)).trans hnow

/-- One section is one of the two of `ccs811_driver_init`, which changes the driver only before
its conditioning and leaves the flag down, or a piece of a thread. -/
theorem bootStep_cases {b b' : Ccs811Boot} (hb : b.Inv) {e : BootEvent} {os : List Fetch}
    (h : bootStep e b = some (b', os)) :
    ((∀ e', e ≠ .thread e') ∧ os = [] ∧ b'.threads.reader = b.threads.reader ∧
        (b'.threads.run = b.threads.run ∨
          b.threads.run.Unconditioned ∧ b'.threads.run.drv.awaitFirst1sSample = false)) ∨
      ∃ e', e = .thread e' ∧ threadStep e' b.threads = some (b'.threads, os) := by
  cases e with
  | init a =>
    refine Or.inl ⟨fun e' he => BootEvent.noConfusion he, ?_⟩
    rw [bootStep, ccs811InitSection] at h
    split_ifs at h with hdevice hlock hdev <;>
      obtain ⟨rfl, rfl⟩ := Prod.mk.inj (Option.some.inj h)
    · exact ⟨rfl, rfl, Or.inl rfl⟩
    · exact ⟨rfl, rfl, Or.inl rfl⟩
    · exact ⟨rfl, rfl, Or.inl rfl⟩
    · exact ⟨rfl, rfl, Or.inr ⟨hb.unconditioned (Or.inl (by simpa using hdev)), rfl⟩⟩
  | bootConditioning relockRet modeRet =>
    refine Or.inl ⟨fun e' he => BootEvent.noConfusion he, ?_⟩
    rw [bootStep] at h
    split_ifs at h with hstarting
    obtain ⟨rfl, rfl⟩ := Prod.mk.inj (Option.some.inj h)
    have hunconditioned := hb.unconditioned (Or.inr hstarting)
    have hawait := hb.coherent.not_await (Or.inl hunconditioned.incomplete)
    refine ⟨rfl, rfl, Or.inr ⟨hunconditioned, ?_⟩⟩
    rw [ccs811BootSection, ccs811StartBootConditioning, ccs811ModeUpdate]
    dsimp only
    split_ifs <;> exact hawait
  | thread e =>
    obtain ⟨⟨threads, fetches⟩, hthread, heq⟩ := Option.map_eq_some_iff.mp h
    obtain ⟨rfl, rfl⟩ := Prod.mk.inj heq
    exact Or.inr ⟨e, rfl, hthread⟩

theorem await_ccs811ReadEntry (a : ReadAirQualityAnswers) (s : Ccs811Run) :
    (ccs811ReadEntry a s).2.drv.awaitFirst1sSample = s.drv.awaitFirst1sSample := by
  rw [ccs811ReadEntry_run]
  split_ifs <;> rfl

/-- A read fetches at once exactly if it gets past its checks and finds the flag down. -/
theorem ccs811ReadEntry_fetching {a : ReadAirQualityAnswers} {s s' : Ccs811Run}
    {entry : ReadEntry} (h : ccs811ReadEntry a s = (entry, s')) :
    entry = .fetching ↔ a.passes s = true ∧ s.drv.awaitFirst1sSample = false := by
  have hentry := ccs811ReadEntry_passes a s
  rw [h] at hentry
  change entry = _ at hentry
  rw [hentry]
  split_ifs with hpasses hawait
  · simp [hawait]
  · simp [hpasses, hawait]
  · simp [hpasses]

namespace Ccs811Wakes.Inv

variable {w : Ccs811Wakes}

theorem start (now : ℤ) : (ccs811WakesStart now).Inv where
  boot := .start now
  past := nofun
  complete h := absurd rfl h
  lowered _ := Or.inr nofun
  not_await _ := rfl
  waits _ _ h := by cases h

/-- Without another wake only the flag and the waits are to be looked at. -/
theorem later (h : w.Inv) {w' : Ccs811Wakes} (hboot : w'.boot.Inv)
    (hwake : w'.lastWake = w.lastWake) (hnow : w.run.now ≤ w'.run.now)
    (hcomplete : w.run.drv.conditioningComplete = true →
      w'.run.drv.conditioningComplete = true)
    (hlowered : w'.run.drv.awaitFirst1sSample = false →
      w'.dropped = true ∨ w.fetchTime.Rested)
    (hnotAwait : w'.dropped = true → w'.run.drv.awaitFirst1sSample = false)
    (hwaits : ∀ r last, w'.boot.threads.reader r = .waiting last → w'.overtaken r = false →
      ∀ wake, w'.lastWake = some wake → wake ≤ w'.since r) : w'.Inv where
  boot := hboot
  past wake hlast := (h.past wake (hwake.symm.trans hlast)).trans hnow
  complete hne := by
    rw [hwake] at hne
    exact hcomplete (h.complete hne)
  lowered hawait := (hlowered hawait).imp_right fun hrested => hrested.mono hwake hnow
  not_await := hnotAwait
  waits := hwaits

/-- A step that wakes the sensor starts anew; any other one lowers the flag at most by dropping
it. -/
theorem step (h : w.Inv) {e : Ccs811Event} {b : Ccs811Boot} (hb : b.Inv)
    (hrun : b.threads.run = ccs811Step w.run e)
    (hreader : b.threads.reader = fun r => (w.boot.threads.reader r).see (e.linkChange w.run)) :
    ({ w.note (.thread (.step e)) with boot := b } : Ccs811Wakes).Inv := by
  have hnow : w.run.now ≤ b.threads.run.now := by
    rw [hrun]
    exact (Ccs811Run.now_keeps w.run.now).step e le_rfl
  cases hwakes : e.wakes w.run with
  | true =>
    obtain ⟨s, hstep, -, hcomplete⟩ := Ccs811Event.step_of_wakes hwakes
    simp only [note, hwakes, if_true]
    refine ⟨hb, fun wake hlast => ?_, fun _ => ?_, fun hawait => ?_,
      fun hdropped => absurd hdropped Bool.false_ne_true,
      fun _ _ _ hovertaken => absurd hovertaken.symm Bool.false_ne_true⟩
    · obtain rfl := Option.some.inj hlast
      exact hnow
    · change b.threads.run.drv.conditioningComplete = true
      rw [hrun, hstep]
      exact (congrArg (·.drv.conditioningComplete) (core_ccs811Enter1SecMode 0 s)).trans hcomplete
    · change b.threads.run.drv.awaitFirst1sSample = false at hawait
      rw [hrun, hstep, await_ccs811Enter1SecMode] at hawait
      simp at hawait
  | false =>
    have hawait : b.threads.run.drv.awaitFirst1sSample =
        (w.run.drv.awaitFirst1sSample && !(e.linkChange w.run == some .disconnected)) := by
      rw [hrun]
      exact Ccs811Event.await_of_not_wakes hwakes
    simp only [note, hwakes, Bool.false_eq_true, if_false]
    refine h.later hb rfl hnow ?_ (fun hlowered => ?_) (fun hdropped => ?_)
      fun r last hr hovertaken => ?_
    · change _ → b.threads.run.drv.conditioningComplete = true
      rw [hrun]
      exact conditioningComplete_keeps.step e
    · change b.threads.run.drv.awaitFirst1sSample = false at hlowered
      rw [hawait] at hlowered
      cases hbefore : w.run.drv.awaitFirst1sSample with
      | true =>
        rw [hbefore, Bool.true_and, Bool.not_eq_false'] at hlowered
        exact Or.inl (by simp [hlowered])
      | false => exact (h.lowered hbefore).imp_left fun hdropped => by simp [hdropped]
    · change b.threads.run.drv.awaitFirst1sSample = false
      rw [hawait]
      rcases Bool.or_eq_true_iff.mp hdropped with hdropped | hdropped
      · rw [h.not_await hdropped, Bool.false_and]
      · rw [(Bool.and_eq_true_iff.mp hdropped).2, Bool.not_true, Bool.and_false]
    · change b.threads.reader r = .waiting last at hr
      rw [hreader] at hr
      cases hphase : w.boot.threads.reader r with
      | outside => simp [hphase, ReaderPhase.see] at hr
      | waiting last => exact h.waits r last hphase hovertaken

/-- A read that starts does not touch the flag; its wait, if any, is for the last wake. -/
theorem readStart (h : w.Inv) {r : ℕ} {a : ReadAirQualityAnswers} {b : Ccs811Boot} (hb : b.Inv)
    (hnow : w.run.now ≤ b.threads.run.now)
    (hcomplete : w.run.drv.conditioningComplete = true →
      b.threads.run.drv.conditioningComplete = true)
    (hawait : b.threads.run.drv.awaitFirst1sSample = w.run.drv.awaitFirst1sSample)
    (hreader : ∀ r', r' ≠ r → b.threads.reader r' = w.boot.threads.reader r') :
    ({ w.note (.thread (.readStart r a)) with boot := b } : Ccs811Wakes).Inv := by
  refine h.later hb rfl hnow hcomplete (fun hlowered => h.lowered (hawait.symm.trans hlowered))
    (fun hdropped => hawait.trans (h.not_await hdropped)) fun r' last hr hovertaken wake hlast => ?_
  simp only [note] at hovertaken hlast ⊢
  by_cases hr' : r' = r
  · rw [hr', Function.update_self]
    exact h.past wake hlast
  · rw [Function.update_of_ne hr'] at hovertaken ⊢
    exact h.waits r' last ((hreader r' hr').symm.trans hr) hovertaken wake hlast

/-- A read whose wait no wake has overtaken has slept through the sample period. -/
theorem rested_of_waited (h : w.Inv) {r : ℕ} {a : ReadAirQualityAnswers} {last : Option LinkChange}
    (hphase : w.boot.threads.reader r = .waiting last)
    (hawake : w.asleep (.thread (.readResume r a)) = false) (hovertaken : w.overtaken r = false) :
    w.fetchTime.Rested := by
  intro wake hlast
  have hsince := h.waits r last hphase hovertaken wake hlast
  have hslept : ¬ w.run.now < w.since r + CCS811_IDLE_WAKE_DELAY_MS := of_decide_eq_false hawake
  change wake + CCS811_IDLE_WAKE_DELAY_MS ≤ w.run.now
  omega

/-- The end of a wait lowers the flag, and drops it if the wait was for an earlier wake. -/
theorem readResume (h : w.Inv) {r : ℕ} {a : ReadAirQualityAnswers} {b : Ccs811Boot} (hb : b.Inv)
    {last : Option LinkChange} (hphase : w.boot.threads.reader r = .waiting last)
    (hawake : w.asleep (.thread (.readResume r a)) = false)
    (hnow : w.run.now ≤ b.threads.run.now)
    (hcomplete : w.run.drv.conditioningComplete = true →
      b.threads.run.drv.conditioningComplete = true)
    (hawait : b.threads.run.drv.awaitFirst1sSample = false)
    (hreader : b.threads.reader = Function.update w.boot.threads.reader r .outside) :
    ({ w.note (.thread (.readResume r a)) with boot := b } : Ccs811Wakes).Inv := by
  refine h.later hb rfl hnow hcomplete (fun _ => ?_) (fun _ => hawait)
    fun r' last hr hovertaken => ?_
  · cases hovertaken : w.overtaken r with
    | false => exact Or.inr (h.rested_of_waited hphase hawake hovertaken)
    | true =>
      cases hbefore : w.run.drv.awaitFirst1sSample with
      | true => exact Or.inl (by simp [note, hovertaken, hbefore])
      | false =>
        exact (h.lowered hbefore).imp_left fun hdropped => by simp [note, hdropped]
  · change b.threads.reader r' = .waiting last at hr
    rw [hreader] at hr
    by_cases hr' : r' = r
    · rw [hr', Function.update_self] at hr
      cases hr
    · rw [Function.update_of_ne hr'] at hr
      exact h.waits r' last hr hovertaken

/-- **Invariant.** Every piece of a thread keeps it. -/
theorem thread (h : w.Inv) {e : ThreadEvent} {b : Ccs811Boot} {os : List Fetch} (hb : b.Inv)
    (hthread : threadStep e w.boot.threads = some (b.threads, os))
    (hawake : w.asleep (.thread e) = false) :
    ({ w.note (.thread e) with boot := b } : Ccs811Wakes).Inv := by
  have hnow : w.run.now ≤ b.threads.run.now :=
    (Ccs811Run.now_keeps w.run.now).thread hthread h.boot.waits le_rfl
  have hcomplete : w.run.drv.conditioningComplete = true →
      b.threads.run.drv.conditioningComplete = true :=
    conditioningComplete_keeps.thread hthread h.boot.waits
  have hentry {a : ReadAirQualityAnswers} {entry : ReadEntry} {s : Ccs811Run}
      (hread : ccs811ReadEntry a w.run = (entry, s)) :
      s.drv.awaitFirst1sSample = w.run.drv.awaitFirst1sSample := by
    have hawait := await_ccs811ReadEntry a w.run
    rwa [hread] at hawait
  rcases threadStep_cases hthread with ⟨e', rfl, hrun, hreader, -⟩ |
    ⟨r, a, ret, rfl, hread, hreader, -⟩ | ⟨r, a, rfl, hread, hreader, -⟩ |
    ⟨r, a, s, rfl, hread, hrun, hreader, -⟩ | ⟨r, a, last, rfl, hphase, hrun, hreader, -⟩
  · exact h.step hb hrun hreader
  · exact h.readStart hb hnow hcomplete (hentry hread) fun r' _ => by rw [hreader]
  · exact h.readStart hb hnow hcomplete (hentry hread) fun r' hr' => by
      rw [hreader, Function.update_of_ne hr']
  · refine h.readStart hb hnow hcomplete ?_ fun r' _ => by rw [hreader]
    have hcontrol := control_ccs811ReadSample a.sample (0, 0) s
    rw [hrun]
    exact (congrArg (·.drv.awaitFirst1sSample) hcontrol).trans (hentry hread)
  · refine h.readResume hb hphase hawake hnow hcomplete ?_ hreader
    have hcontrol := control_ccs811ReadResume a (0, 0) w.run
    rw [hrun]
    exact congrArg (·.drv.awaitFirst1sSample) hcontrol

/-- **Invariant.** Every critical section keeps it. -/
theorem preserves : ccs811WakeMachine.Preserves Machine.anyEvent Ccs811Wakes.Inv := by
  intro e w w' os _ h hstep
  simp only [ccs811WakeMachine, wakeStep] at hstep
  split_ifs at hstep with hasleep
  obtain ⟨⟨b, fetches⟩, hboot, heq⟩ := Option.map_eq_some_iff.mp hstep
  obtain ⟨rfl, -⟩ := Prod.mk.inj heq
  have hboot' : ccs811BootMachine.step e w.boot = some (b, fetches) := hboot
  have hb : b.Inv := Ccs811Boot.Inv.preserves trivial h.boot hboot'
  rcases bootStep_cases h.boot hboot with ⟨hnot, -, hreader, hrun⟩ | ⟨e', rfl, hthread⟩
  · have hnote : w.note e = w := by
      cases e with
      | thread e' => exact absurd rfl (hnot e')
      | init a => rfl
      | bootConditioning relockRet modeRet => rfl
    rw [hnote]
    have hwaits : ∀ r last, b.threads.reader r = .waiting last → w.overtaken r = false →
        ∀ wake, w.lastWake = some wake → wake ≤ w.since r := by
      rw [hreader]
      exact h.waits
    rcases hrun with hrun | ⟨hunconditioned, hawait⟩
    · have hsame : b.threads.run = w.run := hrun
      refine h.later hb rfl (congrArg (·.now) hsame).ge ?_ ?_ ?_ hwaits
      · exact fun hcomplete => (congrArg (·.drv.conditioningComplete) hsame).trans hcomplete
      · exact fun hlowered => h.lowered
          ((congrArg (·.drv.awaitFirst1sSample) hsame).symm.trans hlowered)
      · exact fun hdropped => (congrArg (·.drv.awaitFirst1sSample) hsame).trans
          (h.not_await hdropped)
    · -- there has been no wake yet
      have hnone : w.lastWake = none := by
        by_contra hwoken
        exact absurd (hunconditioned.incomplete.symm.trans (h.complete hwoken))
          Bool.false_ne_true
      refine ⟨hb, fun wake hlast => ?_, fun hwoken => absurd hnone hwoken, fun _ => Or.inr ?_,
        fun _ => hawait, hwaits⟩
      · cases hnone.symm.trans hlast
      · exact fun wake hlast => by cases hnone.symm.trans hlast
  · exact h.thread hb hthread (by simpa using hasleep)

/-- **One section** fetches too early exactly if it does not heed the last wake. -/
theorem rested_iff_heedsWake (h : w.Inv) {e : BootEvent} {w' : Ccs811Wakes}
    {os : List FetchTime} (hstep : wakeStep e w = some (w', os)) :
    (∀ o ∈ os, o.Rested) ↔ e.HeedsWake w := by
  rw [wakeStep] at hstep
  split_ifs at hstep with hasleep
  obtain ⟨⟨b, fetches⟩, hboot, heq⟩ := Option.map_eq_some_iff.mp hstep
  obtain ⟨-, rfl⟩ := Prod.mk.inj heq
  rcases bootStep_cases h.boot hboot with ⟨hnot, hnone, -⟩ | ⟨e', rfl, hthread⟩
  · refine iff_of_true (by simp [hnone]) ?_
    cases e with
    | thread e' => exact absurd rfl (hnot e')
    | init a => trivial
    | bootConditioning relockRet modeRet => trivial
  rcases threadStep_cases hthread with ⟨e', rfl, -, -, -, hfetches⟩ |
    ⟨r, a, ret, rfl, hread, -, -, hfetches⟩ | ⟨r, a, rfl, hread, -, -, hfetches⟩ |
    ⟨r, a, s, rfl, hread, -, -, -, hfetches⟩ | ⟨r, a, last, rfl, hphase, -, -, -, hfetches⟩
  · exact iff_of_true (by simp [hfetches]) trivial
  · refine iff_of_true (by simp [hfetches]) ?_
    rintro ⟨-, hdropped, hpasses⟩
    cases (ccs811ReadEntry_fetching hread).mpr ⟨hpasses, h.not_await hdropped⟩
  · refine iff_of_true (by simp [hfetches]) ?_
    rintro ⟨-, hdropped, hpasses⟩
    cases (ccs811ReadEntry_fetching hread).mpr ⟨hpasses, h.not_await hdropped⟩
  · have hpasses : a.passes w.run = true ∧ w.run.drv.awaitFirst1sSample = false :=
      (ccs811ReadEntry_fetching hread).mp rfl
    rw [hfetches, BootEvent.HeedsWake]
    simp only [List.map_cons, List.map_nil, List.forall_mem_singleton, rested_iff,
      hpasses.1, and_true]
    constructor
    · rintro hrested ⟨hearly, -⟩
      exact absurd (hrested.symm.trans hearly) Bool.false_ne_true
    · intro hheeds
      rcases h.lowered hpasses.2 with hdropped | hrested
      · simpa [hdropped] using hheeds
      · exact w.rested_iff.mp hrested
  · by_cases hrelock : a.relockRet = 0
    · rw [hfetches, if_pos hrelock, BootEvent.HeedsWake]
      simp only [List.map_cons, List.map_nil, List.forall_mem_singleton, rested_iff, hrelock,
        and_true]
      constructor
      · rintro hrested ⟨hearly, -⟩
        exact absurd (hrested.symm.trans hearly) Bool.false_ne_true
      · intro hheeds
        cases hovertaken : w.overtaken r with
        | true => simpa [hovertaken] using hheeds
        | false =>
          exact w.rested_iff.mp
            (h.rested_of_waited hphase (by simpa using hasleep) hovertaken)
    · refine iff_of_true (by simp [hfetches, hrelock]) ?_
      rintro ⟨-, -, hrelock'⟩
      exact hrelock hrelock'

end Ccs811Wakes.Inv

/-! ### Every run -/

/-- **A full sample period.** In every interleaving of the critical sections of the driver from
program start on, whatever the mutex and the sensor answer, at least
`CCS811_IDLE_WAKE_DELAY_MS` pass between each wake and the fetches after it, if and only if in
no such period a read takes the mutex again whose wait the wake has overtaken, and none gets
past its checks after the flag was lowered by a disconnect or by a wait for an earlier wake. -/
theorem fetch_rested_iff {now : ℤ} {es : List BootEvent} {w : Ccs811Wakes}
    {os : List FetchTime}
    (hrun : ccs811WakeMachine.run es (ccs811WakesStart now) = some (w, os)) :
    (∀ o ∈ os, o.Rested) ↔
      ccs811WakeMachine.Along BootEvent.HeedsWake es (ccs811WakesStart now) :=
  Machine.forall_emits_iff (fun _ h hstep => Ccs811Wakes.Inv.preserves trivial h hstep)
    (fun h hstep => h.rested_iff_heedsWake hstep) (.start now) hrun

/-- The sensor refuses to go to idle at a disconnect, and a read fetches 20 ms after the wake. -/
example :
    ∃ r ∈ ccs811WakeMachine.run
      [.init {}, .bootConditioning 0 0, .thread (.step (.tick 1200000)),
        .thread (.step (.conditioningWork 0 0)), .thread (.step (.connected 0 0)),
        .thread (.step (.disconnected 0 (-5))), .thread (.step (.tick 20)),
        .thread (.readStart 0 {})] (ccs811WakesStart 1),
      r.2 = [⟨1200021, some 1200001⟩] := by
  decide +kernel

/-- A client connects and a read waits; 1400 ms later the client disconnects and connects again,
and the read goes on to fetch when its wait is over. -/
def reconnectInWait : List BootEvent :=
  [.init {}, .bootConditioning 0 0, .thread (.step (.tick 1200000)),
    .thread (.step (.conditioningWork 0 0)), .thread (.step (.connected 0 0)),
    .thread (.readStart 0 {}), .thread (.step (.tick 1400)),
    .thread (.step (.disconnected 0 0)), .thread (.step (.connected 0 0)),
    .thread (.step (.tick 100)), .thread (.readResume 0 {})]

theorem reconnectInWait_fetch :
    ∃ r ∈ ccs811WakeMachine.run reconnectInWait (ccs811WakesStart 1),
      r.2 = [⟨1201501, some 1201401⟩] := by
  decide +kernel

/-- `fetch_rested_iff` where no wait is overtaken. -/
theorem fetch_rested_iff_sampledOnce :
    ∃ w os, ccs811WakeMachine.run (sampledOnce 500 0) (ccs811WakesStart 1) = some (w, os) ∧
      os = [⟨1201501, some 1200001⟩] ∧
        ((∀ o ∈ os, o.Rested) ↔
          ccs811WakeMachine.Along BootEvent.HeedsWake (sampledOnce 500 0)
            (ccs811WakesStart 1)) := by
  have hfetch : ∃ r ∈ ccs811WakeMachine.run (sampledOnce 500 0) (ccs811WakesStart 1),
      r.2 = [⟨1201501, some 1200001⟩] := by
    decide +kernel
  obtain ⟨⟨w, os⟩, hrun, hos⟩ := hfetch
  exact ⟨w, os, hrun, hos, fetch_rested_iff hrun⟩

/-- A fetch can follow a wake by less than the sample period. -/
theorem fetch_not_rested :
    ¬ ∀ (now : ℤ) (es : List BootEvent) (w : Ccs811Wakes) (os : List FetchTime),
      ccs811WakeMachine.run es (ccs811WakesStart now) = some (w, os) → ∀ o ∈ os, o.Rested := by
  intro hall
  obtain ⟨⟨w, os⟩, hrun, hos⟩ := reconnectInWait_fetch
  change os = _ at hos
  subst hos
  have hrested := hall _ _ w _ hrun _ List.mem_cons_self 1201401 rfl
  exact absurd hrested (by decide)

end EnvMonitor
