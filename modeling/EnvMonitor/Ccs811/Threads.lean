import EnvMonitor.Lib.Machine
import EnvMonitor.Ccs811.Pieces

/-!
# Threads inside the CCS811 driver

The critical sections under `ccs811_mutex` as the steps of a machine: connects, disconnects,
readiness polls, the conditioning work and the pieces of any number of reads, in any order,
with the passing of time in between. A read that waits for its first sample is between two of
its pieces, and the machine remembers the last change of the link that it slept through.

Two facts about power follow. `fetch_idle_iff`: a sample is fetched from an idle sensor without
a client exactly by a read whose wait a disconnect ended. `mode_after_conditioning_iff`: once
the conditioning work has run, the mode fits the link unless a readiness poll had come first
and the link has not changed since.
-/

namespace EnvMonitor

/-! ### The machine -/

/-- A change of the link that took the mutex. -/
inductive LinkChange where
  | connected
  | disconnected
deriving DecidableEq, Repr

/-- Where a reader is: outside, or in the wait of its read, with the last change of the link
since the wait began. -/
inductive ReaderPhase where
  | outside
  | waiting (last : Option LinkChange)
deriving DecidableEq, Repr

/-- The driver among its threads. `latchedEarly` is history: a readiness poll has completed
the conditioning, and the link has not changed since. -/
structure Ccs811Threads where
  run : Ccs811Run
  reader : ℕ → ReaderPhase
  latchedEarly : Bool

/-- The pieces that interleave. -/
inductive ThreadEvent where
  | step (e : Ccs811Event)
  | readStart (reader : ℕ) (a : ReadAirQualityAnswers)
  | readResume (reader : ℕ) (a : ReadAirQualityAnswers)

/-- What is seen at a `sensor_sample_fetch`: the two flags, and the last change of the link in
the wait of the read, if it waited and there was one. -/
structure Fetch where
  inIdleMode : Bool
  bleConnected : Bool
  last : Option LinkChange
deriving DecidableEq, Repr

/-- The change of the link that a step makes. -/
def Ccs811Event.linkChange (s : Ccs811Run) : Ccs811Event → Option LinkChange
  | .connected lockRet _ => if s.drv.dev && lockRet == 0 then some .connected else none
  | .disconnected lockRet _ => if s.drv.dev && lockRet == 0 then some .disconnected else none
  | _ => none

/-- A waiting reader sees a change of the link. -/
def ReaderPhase.see (change : Option LinkChange) : ReaderPhase → ReaderPhase
  | .outside => .outside
  | .waiting last => .waiting (change.or last)

/-- The fetch at the end of a read that gets there. -/
def fetchOf (s : Ccs811Run) (last : Option LinkChange) : Fetch :=
  ⟨s.drv.inIdleMode, s.drv.bleConnected, last⟩

/-- Whether the conditioning was completed early, after a piece that may poll the readiness
and may change the link. -/
def Ccs811Threads.latchedAfter (t : Ccs811Threads) (polls : Bool)
    (change : Option LinkChange) : Bool :=
  (polls && t.run.latches) || (change.isNone && t.latchedEarly)

/-- One piece. A read starts outside and resumes in its wait. -/
def threadStep (e : ThreadEvent) (t : Ccs811Threads) : Option (Ccs811Threads × List Fetch) :=
  match e with
  | .step e =>
    let change := e.linkChange t.run
    some ({ run := ccs811Step t.run e
            reader := fun r => (t.reader r).see change
            latchedEarly := t.latchedAfter (e == .isReady) change }, [])
  | .readStart r a =>
    if t.reader r = .outside then
      let latchedEarly := t.latchedAfter (a.polls t.run) none
      let (entry, s) := ccs811ReadEntry a t.run
      match entry with
      | .finished _ => some ({ t with run := s, latchedEarly := latchedEarly }, [])
      | .waiting =>
        some ({ run := s, reader := Function.update t.reader r (.waiting none),
                latchedEarly := latchedEarly }, [])
      | .fetching =>
        some ({ t with run := (ccs811ReadSample a.sample (0, 0) s).2,
                       latchedEarly := latchedEarly }, [fetchOf s none])
    else none
  | .readResume r a =>
    match t.reader r with
    | .outside => none
    | .waiting last =>
      let s := (ccs811ReadRelock a.relockRet t.run).2
      some ({ t with run := (ccs811ReadResume a (0, 0) t.run).2
                     reader := Function.update t.reader r .outside },
        if a.relockRet = 0 then [fetchOf s last] else [])

/-- The driver among its threads as a machine. -/
def ccs811Machine : Machine Ccs811Threads ThreadEvent Fetch := ⟨threadStep⟩

/-- Just after `ccs811_driver_init`. -/
def ccs811Booted (a : InitAnswers) (now : ℤ) : Ccs811Threads where
  run := (ccs811DriverInit a { now := now }).2
  reader _ := .outside
  latchedEarly := false

/-- The mode change that an event may ask for succeeds. -/
def ThreadEvent.ModeChangeSucceeds : ThreadEvent → Prop
  | .step (.connected _ modeRet) | .step (.disconnected _ modeRet)
  | .step (.conditioningWork _ modeRet) => modeRet = 0
  | _ => True

/-- Every acquisition of the mutex in an event succeeds. -/
def ThreadEvent.LockSucceeds : ThreadEvent → Prop
  | .step (.connected lockRet _) | .step (.disconnected lockRet _)
  | .step (.conditioningWork lockRet _) => lockRet = 0
  | .readStart _ a => a.lockRet = 0
  | .readResume _ a => a.relockRet = 0
  | _ => True

/-! ### What one piece does -/

/-- **One piece** of the driver is a step, the entry of a read, which may leave its reader
waiting, the entry and the sample of a read that does not wait, or the end of a wait. -/
theorem threadStep_cases {e : ThreadEvent} {t t' : Ccs811Threads} {os : List Fetch}
    (h : threadStep e t = some (t', os)) :
    (∃ e', e = .step e' ∧ t'.run = ccs811Step t.run e' ∧
        (t'.reader = fun r => (t.reader r).see (e'.linkChange t.run)) ∧
          t'.latchedEarly = t.latchedAfter (e' == .isReady) (e'.linkChange t.run) ∧
            os = []) ∨
      (∃ r a ret, e = .readStart r a ∧ ccs811ReadEntry a t.run = (.finished ret, t'.run) ∧
        t'.reader = t.reader ∧
          t'.latchedEarly = t.latchedAfter (a.polls t.run) none ∧ os = []) ∨
      (∃ r a, e = .readStart r a ∧ ccs811ReadEntry a t.run = (.waiting, t'.run) ∧
        t'.reader = Function.update t.reader r (.waiting none) ∧
          t'.latchedEarly = t.latchedAfter (a.polls t.run) none ∧ os = []) ∨
      (∃ r a s, e = .readStart r a ∧ ccs811ReadEntry a t.run = (.fetching, s) ∧
        t'.run = (ccs811ReadSample a.sample (0, 0) s).2 ∧ t'.reader = t.reader ∧
          t'.latchedEarly = t.latchedAfter (a.polls t.run) none ∧ os = [fetchOf s none]) ∨
      ∃ r a last, e = .readResume r a ∧ t.reader r = .waiting last ∧
        t'.run = (ccs811ReadResume a (0, 0) t.run).2 ∧
          t'.reader = Function.update t.reader r .outside ∧
            t'.latchedEarly = t.latchedEarly ∧
              os = if a.relockRet = 0 then
                [fetchOf (ccs811ReadRelock a.relockRet t.run).2 last] else [] := by
  cases e with
  | step e =>
    obtain ⟨rfl, rfl⟩ := Prod.mk.inj (Option.some.inj h)
    exact Or.inl ⟨e, rfl, rfl, rfl, rfl, rfl⟩
  | readStart r a =>
    rw [threadStep] at h
    split_ifs at h
    rcases hentry : ccs811ReadEntry a t.run with ⟨entry, s⟩
    rw [hentry] at h
    cases entry with
    | finished ret =>
      obtain ⟨rfl, rfl⟩ := Prod.mk.inj (Option.some.inj h)
      exact Or.inr (Or.inl ⟨r, a, ret, rfl, hentry, rfl, rfl, rfl⟩)
    | waiting =>
      obtain ⟨rfl, rfl⟩ := Prod.mk.inj (Option.some.inj h)
      exact Or.inr (Or.inr (Or.inl ⟨r, a, rfl, hentry, rfl, rfl, rfl⟩))
    | fetching =>
      obtain ⟨rfl, rfl⟩ := Prod.mk.inj (Option.some.inj h)
      exact Or.inr (Or.inr (Or.inr (Or.inl ⟨r, a, s, rfl, hentry, rfl, rfl, rfl, rfl⟩)))
  | readResume r a =>
    rw [threadStep] at h
    cases hphase : t.reader r with
    | outside => simp [hphase] at h
    | waiting last =>
      rw [hphase] at h
      obtain ⟨rfl, rfl⟩ := Prod.mk.inj (Option.some.inj h)
      exact Or.inr (Or.inr (Or.inr (Or.inr ⟨r, a, last, rfl, hphase, rfl, rfl, rfl, rfl⟩)))

/-- A reader waits only once the conditioning is complete. -/
def Ccs811Threads.WaitsComplete (t : Ccs811Threads) : Prop :=
  ∀ r last, t.reader r = .waiting last → t.run.drv.conditioningComplete = true

/-- **Pieces.** What survives each change of the core survives every piece. -/
theorem Ccs811Keeps.thread {Q : Ccs811Run → Prop} (hQ : Ccs811Keeps Q) {e : ThreadEvent}
    {t t' : Ccs811Threads} {os : List Fetch} (h : threadStep e t = some (t', os))
    (hwaits : t.WaitsComplete) (ht : Q t.run) : Q t'.run := by
  have hentry {a : ReadAirQualityAnswers} {entry : ReadEntry} {s : Ccs811Run}
      (hread : ccs811ReadEntry a t.run = (entry, s)) : Q s := by
    have hpolled := hQ.readEntry a ht
    rwa [hread] at hpolled
  rcases threadStep_cases h with ⟨e', -, hrun, -⟩ | ⟨r, a, ret, -, hread, -⟩ |
    ⟨r, a, -, hread, -⟩ | ⟨r, a, s, -, hread, hrun, -⟩ | ⟨r, a, last, -, hphase, hrun, -⟩
  · rw [hrun]
    exact hQ.step e' ht
  · exact hentry hread
  · exact hentry hread
  · rw [hrun]
    obtain ⟨hcomplete, -⟩ := ccs811ReadEntry_passed hread (by simp)
    exact hQ.sample a.sample (0, 0) hcomplete (hentry hread)
  · rw [hrun]
    exact hQ.readResume a (0, 0) (hwaits r last hphase) ht

/-- The wait of a read begins once the conditioning is complete, and that stays so. -/
theorem Ccs811Threads.WaitsComplete.step {e : ThreadEvent} {t t' : Ccs811Threads}
    {os : List Fetch} (hwaits : t.WaitsComplete) (h : threadStep e t = some (t', os)) :
    t'.WaitsComplete := by
  have hkeep : t.run.drv.conditioningComplete = true →
      t'.run.drv.conditioningComplete = true := conditioningComplete_keeps.thread h hwaits
  rcases threadStep_cases h with ⟨e', -, -, hreader, -⟩ | ⟨r, a, ret, -, -, hreader, -⟩ |
    ⟨r, a, -, hread, hreader, -⟩ | ⟨r, a, s, -, -, -, hreader, -⟩ |
    ⟨r, a, last, -, -, -, hreader, -⟩ <;> intro r' last' hr' <;> rw [hreader] at hr'
  · cases hphase : t.reader r' with
    | outside => simp [hphase, ReaderPhase.see] at hr'
    | waiting last => exact hkeep (hwaits r' last hphase)
  · exact hkeep (hwaits r' last' hr')
  · exact (ccs811ReadEntry_passed hread (by simp)).1
  · exact hkeep (hwaits r' last' hr')
  · by_cases hr : r' = r
    · subst hr
      rw [Function.update_self] at hr'
      cases hr'
    · rw [Function.update_of_ne hr] at hr'
      exact hkeep (hwaits r' last' hr')

/-! ### The other threads in a wait -/

/-- What the pieces `others` do to the driver in the wait of a read, where the threads are as
in `t`. Pieces that cannot follow each other do nothing. -/
def ccs811Others (others : List ThreadEvent) (t : Ccs811Threads) (s : Ccs811Run) : Ccs811Run :=
  match ccs811Machine.run others { t with run := s } with
  | some (t', _) => t'.run
  | none => s

namespace Ccs811Keeps

variable {Q : Ccs811Run → Prop} {s : Ccs811Run}

theorem others (h : Ccs811Keeps Q) (others : List ThreadEvent) (t : Ccs811Threads)
    (hcomplete : s.drv.conditioningComplete = true) (hs : Q s) : Q (ccs811Others others t s) := by
  have hI : ccs811Machine.Preserves Machine.anyEvent
      fun t => t.WaitsComplete ∧ Q t.run :=
    fun _ ht hstep => ⟨ht.1.step hstep, h.thread hstep ht.1 ht.2⟩
  rw [ccs811Others]
  rcases hrun : ccs811Machine.run others { t with run := s } with _ | ⟨t', fetches⟩
  · exact hs
  · exact (hI.run (fun _ _ => trivial) ⟨fun _ _ _ => hcomplete, hs⟩ hrun).2

/-- A read, with the other threads in its wait. -/
theorem readAirQuality_others (h : Ccs811Keeps Q) (a : ReadAirQualityAnswers)
    (others : List ThreadEvent) (t : Ccs811Threads) (out : UInt16 × UInt16) (hs : Q s) :
    Q (ccs811DriverReadAirQuality a (ccs811Others others t) out s).2 :=
  h.readAirQuality_during a
    (fun hcomplete hs => ⟨conditioningComplete_keeps.others others t hcomplete hcomplete,
      h.others others t hcomplete hs⟩) out hs

end Ccs811Keeps

/-! ### Steps with a successful mode change -/

section Succeeds

variable (lockRet : ℤ) (s : Ccs811Run)

theorem ccs811DriverOnConnected_succeeds :
    ccs811DriverOnConnected lockRet 0 s =
      if s.drv.dev && lockRet == 0 then
        if s.drv.conditioningComplete then
          { s with
            drv := { s.drv with
              bleConnected := true, inIdleMode := false, awaitFirst1sSample := true }
            mode := some .measurement1Sec
            sensorMode := some .measurement1Sec }
        else { s with drv := { s.drv with bleConnected := true } }
      else s := by
  cases hdev : s.drv.dev <;> by_cases hlock : lockRet = 0 <;>
    simp [ccs811DriverOnConnected, ccs811Enter1SecMode, ccs811ModeUpdate, hdev, hlock]

theorem ccs811DriverOnDisconnected_succeeds :
    ccs811DriverOnDisconnected lockRet 0 s =
      if s.drv.dev && lockRet == 0 then
        if s.drv.conditioningComplete then
          { s with
            drv := { s.drv with
              bleConnected := false, inIdleMode := true, awaitFirst1sSample := false }
            mode := some .idle
            sensorMode := some .idle }
        else
          { s with drv := { s.drv with bleConnected := false, awaitFirst1sSample := false } }
      else s := by
  cases hdev : s.drv.dev <;> by_cases hlock : lockRet = 0 <;>
    cases hcomplete : s.drv.conditioningComplete <;>
      simp [ccs811DriverOnDisconnected, ccs811EnterIdleMode, ccs811ModeUpdate, hdev, hlock,
        hcomplete]

theorem ccs811ConditioningWorkHandler_succeeds :
    ccs811ConditioningWorkHandler lockRet 0 s =
      if lockRet = 0 ∧ s.drv.conditioningComplete = false then
        if s.drv.bleConnected then
          { s with
            drv := { s.drv with
              conditioningComplete := true, inIdleMode := false, awaitFirst1sSample := true }
            mode := some .measurement1Sec
            sensorMode := some .measurement1Sec }
        else
          { s with
            drv := { s.drv with conditioningComplete := true, inIdleMode := true }
            mode := some .idle
            sensorMode := some .idle }
      else s := by
  by_cases hlock : lockRet = 0 <;> cases hcomplete : s.drv.conditioningComplete <;>
    simp [ccs811ConditioningWorkHandler, ccs811Enter1SecMode, ccs811EnterIdleMode,
      ccs811ModeUpdate, hlock, hcomplete]

end Succeeds

/-! ### Power and the link -/

/-- What holds of idle mode, the link and the awaited sample while mode changes succeed. -/
structure Ccs811Run.LinkOk (s : Ccs811Run) : Prop where
  complete_of_idle : s.drv.inIdleMode = true → s.drv.conditioningComplete = true
  awake_of_connected : s.drv.bleConnected = true → s.drv.inIdleMode = false
  connected_of_await : s.drv.awaitFirst1sSample = true → s.drv.bleConnected = true
  complete_of_await : s.drv.awaitFirst1sSample = true → s.drv.conditioningComplete = true

/-- What holds of a reader in its wait: the link is as the last change left it, and idle mode
with it. A wait begins connected. -/
structure Ccs811Run.WaitOk (s : Ccs811Run) (last : Option LinkChange) : Prop where
  complete : s.drv.conditioningComplete = true
  idle : last = some .disconnected → s.drv.inIdleMode = true ∧ s.drv.bleConnected = false
  connected : last ≠ some .disconnected → s.drv.bleConnected = true

/-- The steps whose mode change, if any, succeeds. -/
def Ccs811Event.ModeChangeSucceeds (e : Ccs811Event) : Prop :=
  (ThreadEvent.step e).ModeChangeSucceeds

section Link

variable {s : Ccs811Run}

theorem Ccs811Run.LinkOk.step (h : s.LinkOk) {e : Ccs811Event} (he : e.ModeChangeSucceeds) :
    (ccs811Step s e).LinkOk := by
  obtain ⟨hidle, hawake, hconnected, hcomplete⟩ := h
  cases e with
  | tick ms => exact ⟨hidle, hawake, hconnected, hcomplete⟩
  | connected lockRet modeRet =>
    obtain rfl : modeRet = 0 := he
    rw [ccs811Step, ccs811DriverOnConnected_succeeds]
    split_ifs with hlock hdone
    · exact ⟨fun h => absurd h Bool.false_ne_true, fun _ => rfl, fun _ => rfl, fun _ => hdone⟩
    · -- idle mode comes only after the conditioning
      have hmeasuring : s.drv.inIdleMode = false := Bool.eq_false_iff.mpr (mt hidle hdone)
      exact ⟨hidle, fun _ => hmeasuring, fun _ => rfl, hcomplete⟩
    · exact ⟨hidle, hawake, hconnected, hcomplete⟩
  | disconnected lockRet modeRet =>
    obtain rfl : modeRet = 0 := he
    rw [ccs811Step, ccs811DriverOnDisconnected_succeeds]
    split_ifs with hlock hdone
    · exact ⟨fun _ => hdone, fun h => absurd h Bool.false_ne_true,
        fun h => absurd h Bool.false_ne_true, fun h => absurd h Bool.false_ne_true⟩
    · exact ⟨hidle, fun h => absurd h Bool.false_ne_true,
        fun h => absurd h Bool.false_ne_true, fun h => absurd h Bool.false_ne_true⟩
    · exact ⟨hidle, hawake, hconnected, hcomplete⟩
  | isReady =>
    rw [ccs811Step, ccs811DriverIsReady_eq]
    dsimp only
    split_ifs
    · exact ⟨fun _ => rfl, hawake, hconnected, fun _ => rfl⟩
    · exact ⟨hidle, hawake, hconnected, hcomplete⟩
  | conditioningWork lockRet modeRet =>
    obtain rfl : modeRet = 0 := he
    rw [ccs811Step]
    cases s.conditioningWork with
    | none => exact ⟨hidle, hawake, hconnected, hcomplete⟩
    | some due =>
      dsimp only
      rw [ccs811ConditioningWorkHandler_succeeds]
      split_ifs with hdue hrun hlink
      · exact ⟨fun _ => rfl, fun _ => rfl, fun _ => hlink, fun _ => rfl⟩
      · exact ⟨fun _ => rfl, fun h => absurd h hlink, hconnected, fun _ => rfl⟩
      · exact ⟨hidle, hawake, hconnected, hcomplete⟩
      · exact ⟨hidle, hawake, hconnected, hcomplete⟩

/-- A change of the link while the conditioning is complete sets idle mode with it; nothing
else changes either. -/
theorem Ccs811Run.WaitOk.step {last : Option LinkChange} (h : s.WaitOk last)
    {e : Ccs811Event} (he : e.ModeChangeSucceeds) :
    (ccs811Step s e).WaitOk ((e.linkChange s).or last) := by
  obtain ⟨hcomplete, hidle, hconnected⟩ := h
  cases e with
  | tick ms => exact ⟨hcomplete, hidle, hconnected⟩
  | connected lockRet modeRet =>
    obtain rfl : modeRet = 0 := he
    rw [ccs811Step, ccs811DriverOnConnected_succeeds, Ccs811Event.linkChange]
    split_ifs
    · exact ⟨hcomplete, fun h => LinkChange.noConfusion (Option.some.inj h), fun _ => rfl⟩
    · exact ⟨hcomplete, hidle, hconnected⟩
  | disconnected lockRet modeRet =>
    obtain rfl : modeRet = 0 := he
    rw [ccs811Step, ccs811DriverOnDisconnected_succeeds, Ccs811Event.linkChange]
    split_ifs
    · exact ⟨hcomplete, fun _ => ⟨rfl, rfl⟩, fun h => absurd rfl h⟩
    · exact ⟨hcomplete, hidle, hconnected⟩
  | isReady =>
    rw [ccs811Step, ccs811DriverIsReady_eq]
    dsimp only
    split_ifs
    · exact ⟨rfl, hidle, hconnected⟩
    · exact ⟨hcomplete, hidle, hconnected⟩
  | conditioningWork lockRet modeRet =>
    obtain rfl : modeRet = 0 := he
    rw [ccs811Step]
    cases s.conditioningWork with
    | none => exact ⟨hcomplete, hidle, hconnected⟩
    | some due =>
      dsimp only
      rw [ccs811ConditioningWorkHandler_succeeds]
      split_ifs with hdue hrun
      -- the work finds the conditioning complete
      · exact absurd (hcomplete.symm.trans hrun.2) (by decide)
      · exact absurd (hcomplete.symm.trans hrun.2) (by decide)
      · exact ⟨hcomplete, hidle, hconnected⟩
      · exact ⟨hcomplete, hidle, hconnected⟩

/-- Both only look at what is left alone by the end of a read. -/
theorem Ccs811Run.LinkOk.congr {s' : Ccs811Run} (h : s.LinkOk)
    (hcontrol : s'.control = s.control) : s'.LinkOk := by
  have hidle : s'.drv.inIdleMode = s.drv.inIdleMode := congrArg (·.drv.inIdleMode) hcontrol
  have hlink : s'.drv.bleConnected = s.drv.bleConnected :=
    congrArg (·.drv.bleConnected) hcontrol
  have hawait : s'.drv.awaitFirst1sSample = s.drv.awaitFirst1sSample :=
    congrArg (·.drv.awaitFirst1sSample) hcontrol
  have hcomplete : s'.drv.conditioningComplete = s.drv.conditioningComplete :=
    congrArg (·.drv.conditioningComplete) hcontrol
  constructor
  · rw [hidle, hcomplete]
    exact h.complete_of_idle
  · rw [hlink, hidle]
    exact h.awake_of_connected
  · rw [hawait, hlink]
    exact h.connected_of_await
  · rw [hawait, hcomplete]
    exact h.complete_of_await

theorem Ccs811Run.WaitOk.congr {s' : Ccs811Run} {last : Option LinkChange}
    (h : s.WaitOk last) (hcontrol : s'.control = s.control) : s'.WaitOk last := by
  have hidle : s'.drv.inIdleMode = s.drv.inIdleMode := congrArg (·.drv.inIdleMode) hcontrol
  have hlink : s'.drv.bleConnected = s.drv.bleConnected :=
    congrArg (·.drv.bleConnected) hcontrol
  have hcomplete : s'.drv.conditioningComplete = s.drv.conditioningComplete :=
    congrArg (·.drv.conditioningComplete) hcontrol
  constructor
  · rw [hcomplete]
    exact h.complete
  · rw [hidle, hlink]
    exact h.idle
  · rw [hlink]
    exact h.connected

/-- A readiness poll at the entry of a read keeps both. -/
theorem Ccs811Run.LinkOk.readEntry (h : s.LinkOk) (a : ReadAirQualityAnswers) :
    (ccs811ReadEntry a s).2.LinkOk := by
  obtain ⟨hidle, hawake, hconnected, hcomplete⟩ := h
  rw [ccs811ReadEntry_run]
  split_ifs
  · exact ⟨fun _ => rfl, hawake, hconnected, fun _ => rfl⟩
  · exact ⟨hidle, hawake, hconnected, hcomplete⟩

theorem Ccs811Run.WaitOk.readEntry {last : Option LinkChange} (h : s.WaitOk last)
    (a : ReadAirQualityAnswers) : (ccs811ReadEntry a s).2.WaitOk last := by
  rw [ccs811ReadEntry_run]
  split_ifs
  · exact ⟨rfl, h.idle, h.connected⟩
  · exact h

/-- The end of a wait clears the awaited sample, which no condition needs. -/
theorem Ccs811Run.LinkOk.readRelock (h : s.LinkOk) (relockRet : ℤ) :
    (ccs811ReadRelock relockRet s).2.LinkOk :=
  ⟨h.complete_of_idle, h.awake_of_connected, fun h => absurd h Bool.false_ne_true,
    fun h => absurd h Bool.false_ne_true⟩

theorem Ccs811Run.WaitOk.readRelock {last : Option LinkChange} (h : s.WaitOk last)
    (relockRet : ℤ) : (ccs811ReadRelock relockRet s).2.WaitOk last :=
  ⟨h.complete, h.idle, h.connected⟩

/-- After its wait a reader finds the sensor idle without a client exactly if the last change
was a disconnect. -/
theorem Ccs811Run.WaitOk.idle_iff {last : Option LinkChange} (h : s.WaitOk last) :
    s.drv.inIdleMode = true ∧ s.drv.bleConnected = false ↔ last = some .disconnected := by
  constructor
  · rintro ⟨-, hlink⟩
    by_contra hlast
    exact absurd (hlink.symm.trans (h.connected hlast)) Bool.false_ne_true
  · exact h.idle

end Link

/-- What holds of every waiting reader still does when one reader moves to a phase for which
it holds. -/
private theorem waiting_update {reader : ℕ → ReaderPhase} {Q : Option LinkChange → Prop}
    (hold : ∀ r last, reader r = .waiting last → Q last) {phase : ReaderPhase}
    (hnew : ∀ last, phase = .waiting last → Q last) (r : ℕ) :
    ∀ r' last, Function.update reader r phase r' = .waiting last → Q last := by
  intro r' last hr'
  by_cases hr : r' = r
  · subst hr
    rw [Function.update_self] at hr'
    exact hnew last hr'
  · rw [Function.update_of_ne hr] at hr'
    exact hold r' last hr'

/-- The invariant of the machine. -/
structure Ccs811Threads.LinkInv (t : Ccs811Threads) : Prop where
  link : t.run.LinkOk
  wait : ∀ r last, t.reader r = .waiting last → t.run.WaitOk last

/-- What `ccs811_driver_init` leaves of a fresh driver: boot conditioning if it gets that far.
Whether the mode change succeeds shows in the sensor only. -/
theorem ccs811Booted_run (a : InitAnswers) (now : ℤ) :
    (ccs811Booted a now).run =
      if a.deviceReady = true ∧ a.lockRet = 0 then
        if a.relockRet = 0 then
          { drv := { dev := true, initTime := now }
            now := now
            mode := some .measurement10Sec
            sensorMode := if a.modeRet = 0 then some .measurement10Sec else none
            conditioningWork := some (now + CCS811_CONDITIONING_TIME_MS)
            conditioningStart := some now }
        else { drv := { dev := true }, now := now }
      else { now := now } := by
  have hboot : ccs811StartBootConditioning a.modeRet { drv := { dev := true }, now := now } =
      { drv := { dev := true, initTime := now }
        now := now
        mode := some .measurement10Sec
        sensorMode := if a.modeRet = 0 then some .measurement10Sec else none
        conditioningWork := some (now + CCS811_CONDITIONING_TIME_MS)
        conditioningStart := some now } := by
    by_cases hmode : a.modeRet = 0 <;>
      simp [ccs811StartBootConditioning, ccs811ModeUpdate, hmode]
  cases hdevice : a.deviceReady <;> by_cases hlock : a.lockRet = 0 <;>
    by_cases hrelock : a.relockRet = 0 <;>
      simp [ccs811Booted, ccs811DriverInit, hdevice, hlock, hrelock, hboot]

theorem ccs811Booted_linkInv (a : InitAnswers) (now : ℤ) : (ccs811Booted a now).LinkInv where
  link := by
    rw [ccs811Booted_run]
    split_ifs <;> constructor <;> simp
  wait r last h := by cases h

/-- **One piece** keeps the invariant while mode changes succeed, and what it fetches is
fetched from an idle sensor without a client exactly if a disconnect ended the wait. -/
theorem Ccs811Threads.LinkInv.step {t t' : Ccs811Threads} (h : t.LinkInv) {e : ThreadEvent}
    (he : e.ModeChangeSucceeds) {os : List Fetch}
    (hstep : threadStep e t = some (t', os)) :
    t'.LinkInv ∧ ∀ o ∈ os,
      (o.inIdleMode = true ∧ o.bleConnected = false ↔ o.last = some .disconnected) := by
  obtain ⟨hlink, hwait⟩ := h
  have hentry {a : ReadAirQualityAnswers} {entry : ReadEntry} {s : Ccs811Run}
      (hread : ccs811ReadEntry a t.run = (entry, s)) :
      s.LinkOk ∧ ∀ r last, t.reader r = .waiting last → s.WaitOk last := by
    have hs : (ccs811ReadEntry a t.run).2 = s := by rw [hread]
    exact hs ▸ ⟨hlink.readEntry a, fun r last hr => (hwait r last hr).readEntry a⟩
  rcases threadStep_cases hstep with ⟨e', rfl, hrun, hreader, -, rfl⟩ |
    ⟨r, a, ret, -, hread, hreader, -, rfl⟩ | ⟨r, a, -, hread, hreader, -, rfl⟩ |
    ⟨r, a, s, -, hread, hrun, hreader, -, rfl⟩ |
    ⟨r, a, last, -, hphase, hrun, hreader, -, rfl⟩
  · refine ⟨⟨hrun ▸ hlink.step he, fun r last hr => ?_⟩, fun o ho => absurd ho List.not_mem_nil⟩
    rw [hreader] at hr
    rw [hrun]
    cases hphase : t.reader r with
    | outside => simp [hphase, ReaderPhase.see] at hr
    | waiting last' =>
      simp only [hphase, ReaderPhase.see, ReaderPhase.waiting.injEq] at hr
      exact hr ▸ (hwait r last' hphase).step he
  · obtain ⟨hlink', hwait'⟩ := hentry hread
    exact ⟨⟨hlink', hreader ▸ hwait'⟩, fun o ho => absurd ho List.not_mem_nil⟩
  · obtain ⟨hlink', hwait'⟩ := hentry hread
    -- the first sample is awaited, so the wait begins connected
    obtain ⟨hcomplete, -, hawait⟩ := ccs811ReadEntry_passed hread (by simp)
    have hnew : t'.run.WaitOk none :=
      ⟨hcomplete, by simp, fun _ => hlink'.connected_of_await (hawait.mp rfl)⟩
    refine ⟨⟨hlink', hreader ▸ waiting_update hwait' (fun last hlast => ?_) r⟩,
      fun o ho => absurd ho List.not_mem_nil⟩
    exact ReaderPhase.waiting.inj hlast ▸ hnew
  · obtain ⟨hlink', hwait'⟩ := hentry hread
    obtain ⟨-, hawake, -⟩ := ccs811ReadEntry_passed hread (by simp)
    refine ⟨⟨hrun ▸ hlink'.congr (control_ccs811ReadSample ..), fun r' last hr' => ?_⟩,
      fun o ho => ?_⟩
    · rw [hrun]
      exact (hwait' r' last (hreader ▸ hr')).congr (control_ccs811ReadSample ..)
    · obtain rfl := List.mem_singleton.mp ho
      exact iff_of_false hawake (by simp [fetchOf])
  · -- neither the end of the wait nor the sample touches idle mode or the link
    have hcontrol := control_ccs811ReadResume a (0, 0) t.run
    have hwait' : ∀ r' last', t.reader r' = .waiting last' → t'.run.WaitOk last' :=
      fun r' last' hr' => hrun ▸ ((hwait r' last' hr').readRelock a.relockRet).congr hcontrol
    refine ⟨⟨hrun ▸ (hlink.readRelock a.relockRet).congr hcontrol,
      hreader ▸ waiting_update hwait' (fun last' hlast' => ?_) r⟩, fun o ho => ?_⟩
    · cases hlast'
    · split_ifs at ho
      · obtain rfl := List.mem_singleton.mp ho
        exact (hwait r last hphase).idle_iff
      · exact absurd ho List.not_mem_nil

/-- **When an idle sensor is read.** In every interleaving of reads, connects, disconnects,
readiness polls and the conditioning work in which the mode changes succeed, a sample is
fetched while the sensor is idle and no client connected exactly if the read waited for its
first sample and the last change of the link in its wait was a disconnect. -/
theorem fetch_idle_iff {a : InitAnswers} {now : ℤ} {es : List ThreadEvent}
    {t : Ccs811Threads} {fetches : List Fetch}
    (hes : ∀ e ∈ es, e.ModeChangeSucceeds)
    (hrun : ccs811Machine.run es (ccs811Booted a now) = some (t, fetches)) :
    ∀ fetch ∈ fetches, (fetch.inIdleMode = true ∧ fetch.bleConnected = false) ↔
      fetch.last = some .disconnected :=
  Machine.Preserves.run_emits (I := Ccs811Threads.LinkInv)
    (fun he h hs => (h.step he hs).1) (fun he h hs => (h.step he hs).2) hes
    (ccs811Booted_linkInv a now) hrun

/-- A client connects after the conditioning and a read waits for its first sample; the client
disconnects during the wait. -/
def disconnectInWait : List ThreadEvent :=
  [.step (.tick 1200000), .step (.conditioningWork 0 0), .step (.connected 0 0),
    .readStart 0 {}, .step (.disconnected 0 0), .readResume 0 {}]

theorem disconnectInWait_modeChangeSucceeds :
    ∀ e ∈ disconnectInWait, e.ModeChangeSucceeds := by
  simp [disconnectInWait, ThreadEvent.ModeChangeSucceeds]

/-- That read fetches its sample from an idle sensor without a client. -/
theorem disconnectInWait_fetch :
    ∃ r ∈ ccs811Machine.run disconnectInWait (ccs811Booted {} 1),
      r.2 = [⟨true, false, some .disconnected⟩] := by
  decide +kernel

/-- `fetch_idle_iff` at the read whose wait a disconnect ends. -/
theorem fetch_idle_iff_disconnectInWait :
    ∃ t fetches, ccs811Machine.run disconnectInWait (ccs811Booted {} 1) = some (t, fetches) ∧
      ∀ fetch ∈ fetches, (fetch.inIdleMode = true ∧ fetch.bleConnected = false) ↔
        fetch.last = some .disconnected := by
  obtain ⟨⟨t, fetches⟩, hrun, -⟩ := disconnectInWait_fetch
  exact ⟨t, fetches, hrun, fetch_idle_iff disconnectInWait_modeChangeSucceeds hrun⟩

/-- An idle sensor can be read without a client. -/
theorem fetch_idle_reachable :
    ¬ ∀ (a : InitAnswers) (now : ℤ) (es : List ThreadEvent) (t : Ccs811Threads)
      (fetches : List Fetch), (∀ e ∈ es, e.ModeChangeSucceeds) →
      ccs811Machine.run es (ccs811Booted a now) = some (t, fetches) →
      ∀ fetch ∈ fetches, ¬ (fetch.inIdleMode = true ∧ fetch.bleConnected = false) := by
  intro hall
  obtain ⟨⟨t, fetches⟩, hrun, hfetches⟩ := disconnectInWait_fetch
  refine hall _ _ _ t fetches disconnectInWait_modeChangeSucceeds hrun
    ⟨true, false, some .disconnected⟩ ?_ ⟨rfl, rfl⟩
  change _ ∈ (t, fetches).2
  rw [hfetches]
  exact List.mem_singleton_self _

/-! ### The mode after the conditioning -/

/-- The mode that fits the link once the sensor is conditioned. -/
def Ccs811Run.linkMode (s : Ccs811Run) : Ccs811Mode :=
  if s.drv.bleConnected then .measurement1Sec else .idle

/-- What holds of the mode while mode changes and acquisitions of the mutex succeed: it is
that of the conditioning until a change of the link or the conditioning work, whichever
completes the conditioning, sets the one that fits. -/
structure Ccs811Run.ModeOk (s : Ccs811Run) (latchedEarly : Bool) : Prop where
  dev : s.drv.dev = true
  pending : s.conditioningWork = none → s.drv.conditioningComplete = true
  conditioning : s.drv.conditioningComplete = false →
    s.mode = some .measurement10Sec ∧ latchedEarly = false
  early : latchedEarly = true → s.mode = some .measurement10Sec
  settled : s.drv.conditioningComplete = true → latchedEarly = false →
    s.mode = some s.linkMode

section Mode

variable {s : Ccs811Run} {latchedEarly : Bool}

/-- A readiness poll that completes the conditioning does so early. -/
theorem Ccs811Run.ModeOk.latch (h : s.ModeOk latchedEarly) (hlatches : s.latches = true) :
    ({ s with drv := { s.drv with conditioningComplete := true } } : Ccs811Run).ModeOk
      true := by
  have hincomplete : s.drv.conditioningComplete = false := by
    simp only [Ccs811Run.latches, Bool.and_eq_true, Bool.not_eq_true'] at hlatches
    exact hlatches.1.1
  obtain ⟨hmode, -⟩ := h.conditioning hincomplete
  constructor
  · exact h.dev
  · exact fun _ => rfl
  · exact fun h => absurd h.symm Bool.false_ne_true
  · exact fun _ => hmode
  · exact fun _ h => absurd h.symm Bool.false_ne_true

/-- Once the link or the work has had its say, only the two phases matter. -/
private theorem Ccs811Run.ModeOk.of_settled (hdev : s.drv.dev = true)
    (hpending : s.conditioningWork = none → s.drv.conditioningComplete = true)
    (hconditioning : s.drv.conditioningComplete = false → s.mode = some .measurement10Sec)
    (hsettled : s.drv.conditioningComplete = true → s.mode = some s.linkMode) :
    s.ModeOk false :=
  ⟨hdev, hpending, fun h => ⟨hconditioning h, rfl⟩, fun h => absurd h Bool.false_ne_true,
    fun h _ => hsettled h⟩

theorem Ccs811Run.ModeOk.step (h : s.ModeOk latchedEarly) {e : Ccs811Event}
    (hmode : e.ModeChangeSucceeds) (hlock : (ThreadEvent.step e).LockSucceeds) :
    (ccs811Step s e).ModeOk
      ((e == .isReady && s.latches) || ((e.linkChange s).isNone && latchedEarly)) := by
  have hs := h
  obtain ⟨hdev, hpending, hconditioning, hearly, hsettled⟩ := h
  have hlocked : (s.drv.dev && (0 : ℤ) == 0) = true := by
    rw [hdev]
    rfl
  cases e with
  | tick ms =>
    simp only [Ccs811Event.linkChange, Option.isNone_none, Bool.true_and]
    exact ⟨hdev, hpending, hconditioning, hearly, hsettled⟩
  | connected lockRet modeRet =>
    obtain rfl : modeRet = 0 := hmode
    obtain rfl : lockRet = 0 := hlock
    rw [ccs811Step, ccs811DriverOnConnected_succeeds, Ccs811Event.linkChange, if_pos hlocked,
      if_pos hlocked]
    split_ifs with hdone
    · exact .of_settled hdev (fun _ => hdone)
        (fun h => absurd (h.symm.trans hdone) Bool.false_ne_true) fun _ => rfl
    · exact .of_settled hdev hpending (fun h => (hconditioning h).1) fun h => absurd h hdone
  | disconnected lockRet modeRet =>
    obtain rfl : modeRet = 0 := hmode
    obtain rfl : lockRet = 0 := hlock
    rw [ccs811Step, ccs811DriverOnDisconnected_succeeds, Ccs811Event.linkChange, if_pos hlocked,
      if_pos hlocked]
    split_ifs with hdone
    · exact .of_settled hdev (fun _ => hdone)
        (fun h => absurd (h.symm.trans hdone) Bool.false_ne_true) fun _ => rfl
    · exact .of_settled hdev hpending (fun h => (hconditioning h).1) fun h => absurd h hdone
  | isReady =>
    simp only [ccs811Step, ccs811DriverIsReady_eq, Ccs811Event.linkChange, Option.isNone_none,
      Bool.true_and, beq_self_eq_true]
    cases hlatches : s.latches with
    | true => exact hs.latch hlatches
    | false => exact hs
  | conditioningWork lockRet modeRet =>
    obtain rfl : modeRet = 0 := hmode
    obtain rfl : lockRet = 0 := hlock
    simp only [Ccs811Event.linkChange, Option.isNone_none, Bool.true_and]
    rw [ccs811Step]
    cases s.conditioningWork with
    | none => exact hs
    | some due =>
      dsimp only
      rw [ccs811ConditioningWorkHandler_succeeds]
      split_ifs with hdue hrun hlink
      · -- the work completes the conditioning, so no poll has
        rw [(hconditioning hrun.2).2]
        refine .of_settled hdev (fun _ => rfl)
          (fun h => absurd h.symm Bool.false_ne_true) fun _ => ?_
        rw [Ccs811Run.linkMode, if_pos hlink]
      · rw [(hconditioning hrun.2).2]
        refine .of_settled hdev (fun _ => rfl)
          (fun h => absurd h.symm Bool.false_ne_true) fun _ => ?_
        rw [Ccs811Run.linkMode, if_neg hlink]
      · -- the conditioning was complete before, so the work leaves the mode as it is
        have hdone : s.drv.conditioningComplete = true := by
          by_contra hnot
          exact hrun ⟨rfl, Bool.eq_false_iff.mpr hnot⟩
        exact ⟨hdev, fun _ => hdone, hconditioning, hearly, hsettled⟩
      · exact hs

theorem Ccs811Run.ModeOk.congr {s' : Ccs811Run} (h : s.ModeOk latchedEarly)
    (hcontrol : s'.control = s.control) : s'.ModeOk latchedEarly := by
  have hdev : s'.drv.dev = s.drv.dev := congrArg (·.drv.dev) hcontrol
  have hcomplete : s'.drv.conditioningComplete = s.drv.conditioningComplete :=
    congrArg (·.drv.conditioningComplete) hcontrol
  have hwork : s'.conditioningWork = s.conditioningWork :=
    congrArg (·.conditioningWork) hcontrol
  have hmode : s'.mode = s.mode := congrArg (·.mode) hcontrol
  have hlink : s'.linkMode = s.linkMode := congrArg (·.linkMode) hcontrol
  constructor
  · rw [hdev]
    exact h.dev
  · rw [hwork, hcomplete]
    exact h.pending
  · rw [hcomplete, hmode]
    exact h.conditioning
  · rw [hmode]
    exact h.early
  · rw [hcomplete, hmode, hlink]
    exact h.settled

theorem Ccs811Run.ModeOk.readEntry (h : s.ModeOk latchedEarly) (a : ReadAirQualityAnswers) :
    (ccs811ReadEntry a s).2.ModeOk ((a.polls s && s.latches) || latchedEarly) := by
  rw [ccs811ReadEntry_run]
  cases hpolls : a.polls s <;> cases hlatches : s.latches
  · exact h
  · exact h
  · exact h
  · exact h.latch hlatches

end Mode

theorem ccs811Booted_modeOk (now : ℤ) : (ccs811Booted {} now).run.ModeOk false := by
  rw [ccs811Booted_run]
  constructor <;> simp

/-- **One piece** keeps what holds of the mode. -/
theorem Ccs811Threads.modeOk_step {t t' : Ccs811Threads} (h : t.run.ModeOk t.latchedEarly)
    {e : ThreadEvent} (hmode : e.ModeChangeSucceeds) (hlock : e.LockSucceeds) {os : List Fetch}
    (hstep : threadStep e t = some (t', os)) : t'.run.ModeOk t'.latchedEarly := by
  have hentry {a : ReadAirQualityAnswers} {entry : ReadEntry} {s : Ccs811Run}
      (hread : ccs811ReadEntry a t.run = (entry, s)) :
      s.ModeOk (t.latchedAfter (a.polls t.run) none) := by
    have hs : (ccs811ReadEntry a t.run).2 = s := by rw [hread]
    exact hs ▸ h.readEntry a
  rcases threadStep_cases hstep with ⟨e', rfl, hrun, -, hlatched, -⟩ |
    ⟨r, a, ret, -, hread, -, hlatched, -⟩ | ⟨r, a, -, hread, -, hlatched, -⟩ |
    ⟨r, a, s, -, hread, hrun, -, hlatched, -⟩ | ⟨r, a, last, -, -, hrun, -, hlatched, -⟩ <;>
    rw [hlatched]
  · rw [hrun]
    exact h.step hmode hlock
  · exact hentry hread
  · exact hentry hread
  · rw [hrun]
    exact (hentry hread).congr (control_ccs811ReadSample ..)
  · have hrelock : (ccs811ReadRelock a.relockRet t.run).2.ModeOk t.latchedEarly :=
      ⟨h.dev, h.pending, h.conditioning, h.early, h.settled⟩
    rw [hrun]
    exact hrelock.congr (control_ccs811ReadResume ..)

/-- **When the mode fits the link.** In every run after `ccs811_driver_init` in which the mutex
is always acquired and every mode change succeeds: once the conditioning work has run, the
mode last set is the one that fits the link, if and only if it was not a readiness poll that
completed the conditioning, before the work, with no change of the link since. -/
theorem mode_after_conditioning_iff {now : ℤ} {es : List ThreadEvent} {t : Ccs811Threads}
    {fetches : List Fetch} (hmode : ∀ e ∈ es, e.ModeChangeSucceeds)
    (hlock : ∀ e ∈ es, e.LockSucceeds)
    (hrun : ccs811Machine.run es (ccs811Booted {} now) = some (t, fetches))
    (hwork : t.run.conditioningWork = none) :
    t.run.mode = some t.run.linkMode ↔ t.latchedEarly = false := by
  have hI : ccs811Machine.Preserves (fun e => e.ModeChangeSucceeds ∧ e.LockSucceeds)
      fun t => t.run.ModeOk t.latchedEarly :=
    fun he h hs => Ccs811Threads.modeOk_step h he.1 he.2 hs
  have hmodeOk : t.run.ModeOk t.latchedEarly :=
    hI.run (fun e he => ⟨hmode e he, hlock e he⟩) (ccs811Booted_modeOk now) hrun
  have hcomplete := hmodeOk.pending hwork
  constructor
  · intro hfits
    by_contra hearly
    rw [hmodeOk.early (by simpa using hearly), Option.some.injEq] at hfits
    cases hlink : t.run.drv.bleConnected <;> simp [Ccs811Run.linkMode, hlink] at hfits
  · exact hmodeOk.settled hcomplete

/-- A readiness poll after 20 minutes, before the conditioning work gets to run. -/
def pollBeforeWork : List ThreadEvent :=
  [.step (.tick 1200000), .step .isReady, .step (.conditioningWork 0 0)]

theorem pollBeforeWork_succeeds :
    (∀ e ∈ pollBeforeWork, e.ModeChangeSucceeds) ∧ ∀ e ∈ pollBeforeWork, e.LockSucceeds := by
  simp [pollBeforeWork, ThreadEvent.ModeChangeSucceeds, ThreadEvent.LockSucceeds]

/-- The work finds the conditioning complete and leaves the sensor in its 10 s mode. -/
theorem pollBeforeWork_mode :
    ∃ r ∈ ccs811Machine.run pollBeforeWork (ccs811Booted {} 1),
      r.1.run.conditioningWork = none ∧ r.1.run.drv.bleConnected = false ∧
        r.1.run.mode = some .measurement10Sec := by
  decide +kernel

/-- `mode_after_conditioning_iff` at the poll that comes first. -/
theorem mode_after_conditioning_iff_pollBeforeWork :
    ∃ t fetches, ccs811Machine.run pollBeforeWork (ccs811Booted {} 1) = some (t, fetches) ∧
      t.run.conditioningWork = none ∧
      (t.run.mode = some t.run.linkMode ↔ t.latchedEarly = false) := by
  obtain ⟨⟨t, fetches⟩, hrun, hwork, -⟩ := pollBeforeWork_mode
  obtain ⟨hmode, hlock⟩ := pollBeforeWork_succeeds
  exact ⟨t, fetches, hrun, hwork, mode_after_conditioning_iff hmode hlock hrun hwork⟩

/-- The mode need not fit the link once the conditioning work has run. -/
theorem mode_after_conditioning_stuck :
    ¬ ∀ (now : ℤ) (es : List ThreadEvent) (t : Ccs811Threads) (fetches : List Fetch),
      (∀ e ∈ es, e.ModeChangeSucceeds) → (∀ e ∈ es, e.LockSucceeds) →
      ccs811Machine.run es (ccs811Booted {} now) = some (t, fetches) →
      t.run.conditioningWork = none →
      t.run.mode = some (if t.run.drv.bleConnected then .measurement1Sec else .idle) := by
  intro hall
  obtain ⟨⟨t, fetches⟩, hrun, hwork, hlink, hmode⟩ := pollBeforeWork_mode
  obtain ⟨hmodeSucceeds, hlock⟩ := pollBeforeWork_succeeds
  have hfits := hall _ _ t fetches hmodeSucceeds hlock hrun hwork
  rw [hmode, hlink] at hfits
  cases hfits

end EnvMonitor
