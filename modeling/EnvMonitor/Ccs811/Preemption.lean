import EnvMonitor.Ccs811.Conditioning
import EnvMonitor.Lib.LockedProgram
import EnvMonitor.Lib.Machine

/-!
# Readiness polls between any two steps

`ccs811_driver_is_ready` takes no mutex: it looks at `ccs811_conditioning_complete` and
`ccs811_init_time`, and may store the former, while a connect, a disconnect or the conditioning
work holds `ccs811_mutex` and is anywhere between its first load and its last store. Here all of
them go one load or store at a time. The reads of the air quality are not among the calls here;
each polls in the same way.

`ccs811_polls_serialize` says that this cannot be told from runs in which each of them is one
step, `ccs811Step`. It rests on the clock: a poll that returns `false` late would be found out if
the conditioning could be complete by then.
-/

namespace EnvMonitor

/-! ### The calls that take the mutex -/

/-- The functions that change the mode, under `ccs811_mutex`. -/
inductive LockedCall where
  | connected
  | disconnected
  | conditioningWork
deriving DecidableEq, Repr

/-- The call as a single step. -/
def LockedCall.event : LockedCall → ℤ → ℤ → Ccs811Event
  | .connected => .connected
  | .disconnected => .disconnected
  | .conditioningWork => .conditioningWork

/-- `ccs811_enter_1sec_mode`, up to the end of its callers. -/
def enter1SecProgram (modeRet : ℤ) : LockedProgram Ccs811Run :=
  .store (fun s => (ccs811ModeUpdate .measurement1Sec modeRet s).2) <|
    if modeRet = 0 then
      .store (fun s => { s with drv := { s.drv with inIdleMode := false } }) <|
        .store (fun s => { s with drv := { s.drv with awaitFirst1sSample := true } }) .unlock
    else .unlock

/-- The mode update to idle, with the flag, up to the end of its callers. -/
def enterIdleProgram (modeRet : ℤ) : LockedProgram Ccs811Run :=
  .store (fun s => (ccs811ModeUpdate .idle modeRet s).2) <|
    if modeRet = 0 then
      .store (fun s => { s with drv := { s.drv with inIdleMode := true } }) .unlock
    else .unlock

/-- What the call does from the taking of the mutex on; it looks at
`ccs811_conditioning_complete`. -/
def LockedCall.program (modeRet : ℤ) : LockedCall → LockedProgram Ccs811Run
  | .connected =>
    .store (fun s => { s with drv := { s.drv with bleConnected := true } }) <|
      .look (enter1SecProgram modeRet) .unlock
  | .disconnected =>
    .store (fun s => { s with drv := { s.drv with bleConnected := false } }) <|
      .store (fun s => { s with drv := { s.drv with awaitFirst1sSample := false } }) <|
        .look (enterIdleProgram modeRet) .unlock
  | .conditioningWork =>
    .look .unlock <|
      .store (fun s => { s with drv := { s.drv with conditioningComplete := true } }) <|
        .branch (fun s => s.drv.bleConnected) (enter1SecProgram modeRet)
          (enterIdleProgram modeRet)

/-- Ahead of the mutex: the work leaves its queue when it is due, and the others ask for the
device. -/
def LockedCall.begin (s : Ccs811Run) : LockedCall → Option Ccs811Run
  | .conditioningWork =>
    match s.conditioningWork with
    | none => none
    | some due => if due ≤ s.now then some { s with conditioningWork := none } else none
  | _ => some s

/-- The call returns without the mutex. -/
def LockedCall.gone (s : Ccs811Run) (lockRet : ℤ) : LockedCall → Bool
  | .conditioningWork => lockRet != 0
  | _ => !s.drv.dev || lockRet != 0

/-! ### The machine -/

/-- Where a thread is in `ccs811_driver_is_ready`. -/
inductive PollPhase where
  | outside
  /-- It has found the conditioning not complete. -/
  | incomplete
  /-- It has found the conditioning started. -/
  | started
  /-- It has found the time over, ahead of its store. -/
  | elapsed
deriving DecidableEq, Repr

/-- The driver's memory, who holds the mutex with what is left to do, and the polls. -/
structure Ccs811Preempted where
  mem : Ccs811Run
  holder : Option ((LockedCall × ℤ) × LockedProgram Ccs811Run) := none
  polls : ℕ → PollPhase := fun _ => .outside

/-- A call up to the taking of the mutex, one more step of the holder, or one of a poll. -/
inductive PreemptedEvent where
  | tick (ms : ℕ)
  | call (c : LockedCall) (lockRet modeRet : ℤ)
  | proceed
  | poll (thread : ℕ)

/-- One step of a poll, with the answer if it is the last. -/
def pollStep (s : Ccs811Run) : PollPhase → PollPhase × Ccs811Run × List Bool
  | .outside =>
    if s.drv.conditioningComplete then (.outside, s, [true]) else (.incomplete, s, [])
  | .incomplete => if s.drv.initTime = 0 then (.outside, s, [false]) else (.started, s, [])
  | .started =>
    if s.now - s.drv.initTime ≥ CCS811_CONDITIONING_TIME_MS then (.elapsed, s, [])
    else (.outside, s, [false])
  | .elapsed =>
    (.outside, { s with drv := { s.drv with conditioningComplete := true } }, [true])

/-- One step. -/
def ccs811PreemptedStep : PreemptedEvent → Ccs811Preempted →
    Option (Ccs811Preempted × List Bool)
  | .tick ms, s => some ({ s with mem := { s.mem with now := s.mem.now + ms } }, [])
  | .call c lockRet modeRet, s =>
    (c.begin s.mem).bind fun mem =>
      if c.gone mem lockRet then some ({ s with mem := mem }, [])
      else
        match s.holder with
        | none =>
          some ({ s with mem := mem, holder := some ((c, modeRet), c.program modeRet) }, [])
        | some _ => none
  | .proceed, s =>
    match s.holder with
    | none => none
    | some (_, .unlock) => some ({ s with holder := none }, [])
    | some (c, .store w next) => some ({ s with mem := w s.mem, holder := some (c, next) }, [])
    | some (c, .branch b yes no) =>
      some ({ s with holder := some (c, if b s.mem then yes else no) }, [])
    | some (c, .look yes no) =>
      some ({ s with
        holder := some (c, if s.mem.drv.conditioningComplete then yes else no) }, [])
  | .poll thread, s =>
    let (phase, mem, answer) := pollStep s.mem (s.polls thread)
    some ({ s with mem := mem, polls := Function.update s.polls thread phase }, answer)

/-- The machine whose calls can be preempted; it shows the answers of the polls. -/
def ccs811PreemptedMachine : Machine Ccs811Preempted PreemptedEvent Bool := ⟨ccs811PreemptedStep⟩

/-- The machine whose steps are calls. -/
def ccs811CallMachine : Machine Ccs811Run Ccs811Event Bool :=
  ⟨fun e s => some (ccs811Step s e,
    match e with
    | .isReady => [(ccs811DriverIsReady s).1]
    | _ => [])⟩

/-! ### What the programs do -/

/-- The look of the programs. -/
def Ccs811Run.complete (s : Ccs811Run) : Bool := s.drv.conditioningComplete

/-- What none of the programs changes. -/
def Ccs811Run.clock (s : Ccs811Run) : (ℤ × Option ℤ × Option ℤ) × Bool × ℤ :=
  ((s.now, s.conditioningStart, s.conditioningWork), s.drv.dev, s.drv.initTime)

/-- What happens in the driver without the mutex: time passes, a poll completes the conditioning,
the work leaves its queue. -/
inductive Bystander where
  | tick (ms : ℕ)
  | latch
  | dequeue

/-- What it does. -/
def Bystander.act : Bystander → Ccs811Run → Ccs811Run
  | .tick ms, s => { s with now := s.now + ms }
  | .latch, s => { s with drv := { s.drv with conditioningComplete := true } }
  | .dequeue, s => { s with conditioningWork := none }

variable {c : LockedCall} {modeRet : ℤ}

theorem LockedCall.program_orderly : (c.program modeRet).Orderly Ccs811Run.complete := by
  by_cases hret : modeRet = 0 <;> cases c <;>
    simp [program, enter1SecProgram, enterIdleProgram, hret, LockedProgram.Orderly,
      LockedProgram.looks, Ccs811Run.complete]

theorem LockedCall.program_tolerates (b : Bystander) : (c.program modeRet).Tolerates b.act := by
  by_cases hret : modeRet = 0 <;> cases c <;> cases b <;>
    simp [program, enter1SecProgram, enterIdleProgram, hret, LockedProgram.Tolerates,
      Bystander.act, ccs811ModeUpdate]

theorem LockedCall.program_keeps_clock (x : (ℤ × Option ℤ × Option ℤ) × Bool × ℤ) :
    (c.program modeRet).Keeps fun s => s.clock = x := by
  by_cases hret : modeRet = 0 <;> cases c <;>
    simp [program, enter1SecProgram, enterIdleProgram, hret, LockedProgram.Keeps,
      Ccs811Run.clock, ccs811ModeUpdate]

theorem LockedCall.program_keeps_complete :
    (c.program modeRet).Keeps fun s => s.complete = true := by
  by_cases hret : modeRet = 0 <;> cases c <;>
    simp [program, enter1SecProgram, enterIdleProgram, hret, LockedProgram.Keeps,
      Ccs811Run.complete, ccs811ModeUpdate]

theorem LockedCall.looks_program : (c.program modeRet).looks = true := by
  cases c <;> rfl

/-- The work is due when it begins. -/
theorem LockedCall.begin_conditioningWork {s begun : Ccs811Run}
    (h : LockedCall.conditioningWork.begin s = some begun) :
    ∃ due, s.conditioningWork = some due ∧ due ≤ s.now ∧
      begun = { s with conditioningWork := none } := by
  rw [begin] at h
  split at h
  · exact absurd h (by simp)
  · rename_i due hdue
    split_ifs at h with htime
    exact ⟨due, hdue, htime, (Option.some.inj h).symm⟩

/-- **In one go** the program is the function. -/
theorem LockedCall.run_program {s begun : Ccs811Run} (hdev : s.drv.dev = true)
    (hbegin : c.begin s = some begun) :
    (c.program modeRet).run Ccs811Run.complete begun = ccs811Step s (c.event 0 modeRet) := by
  cases c with
  | connected =>
    obtain rfl := Option.some.inj hbegin
    by_cases hret : modeRet = 0 <;> by_cases hcomplete : s.drv.conditioningComplete = true <;>
      simp [program, enter1SecProgram, LockedProgram.run, Ccs811Run.complete, event, ccs811Step,
        ccs811DriverOnConnected, ccs811Enter1SecMode, ccs811ModeUpdate, hdev, hret, hcomplete]
  | disconnected =>
    obtain rfl := Option.some.inj hbegin
    by_cases hret : modeRet = 0 <;> by_cases hcomplete : s.drv.conditioningComplete = true <;>
      simp [program, enterIdleProgram, LockedProgram.run, Ccs811Run.complete, event, ccs811Step,
        ccs811DriverOnDisconnected, ccs811EnterIdleMode, ccs811ModeUpdate, hdev, hret, hcomplete]
  | conditioningWork =>
    obtain ⟨due, hdue, htime, rfl⟩ := begin_conditioningWork hbegin
    by_cases hret : modeRet = 0 <;> by_cases hcomplete : s.drv.conditioningComplete = true <;>
      by_cases hlinked : s.drv.bleConnected = true <;>
      simp [program, enter1SecProgram, enterIdleProgram, LockedProgram.run, Ccs811Run.complete,
        event, ccs811Step, ccs811ConditioningWorkHandler, ccs811Enter1SecMode,
        ccs811EnterIdleMode, ccs811ModeUpdate, hdue, htime, hret, hcomplete, hlinked]

/-! ### Serialization -/

/-- What a poll has seen is still so. -/
def PollPhase.Holds (s : Ccs811Run) : PollPhase → Prop
  | .outside | .incomplete => True
  | .started => s.drv.initTime ≠ 0
  | .elapsed => s.drv.initTime ≠ 0 ∧ s.now - s.drv.initTime ≥ CCS811_CONDITIONING_TIME_MS

/-- The conditioning was not started at the uptime `0`, which would read as not started. -/
def Ccs811Run.StartSeen (s : Ccs811Run) : Prop :=
  s.drv.dev = true ∧ (s.drv.initTime = 0 → s.conditioningStart = none)

/-- How the memory stands to `a`, in which the holder has done nothing until it looks, and all
that it will do from then on. -/
def HeldBy (a mem : Ccs811Run) : Option ((LockedCall × ℤ) × LockedProgram Ccs811Run) → Prop
  | none => a = mem
  | some ((c, modeRet), rest) =>
    (rest.looks = true ∧ ∃ begun, c.begin a = some begun ∧
      (c.program modeRet).Reached begun rest mem) ∨
    (rest.looks = false ∧ a = rest.run Ccs811Run.complete mem ∧
      (∀ b : Bystander, rest.Tolerates b.act) ∧ rest.Orderly Ccs811Run.complete ∧
      (∀ x, rest.Keeps fun s => s.clock = x) ∧ rest.Keeps fun s => s.complete = true)

/-- The driver in one step for each call, and in pieces. -/
structure Serial (a : Ccs811Run) (s : Ccs811Preempted) : Prop where
  conditioned : a.Conditioned
  seen : a.StartSeen
  held : HeldBy a s.mem s.holder
  polls : ∀ thread, (s.polls thread).Holds a

/-- What both have in common at any time. -/
theorem HeldBy.frame {a mem : Ccs811Run}
    {holder : Option ((LockedCall × ℤ) × LockedProgram Ccs811Run)} (h : HeldBy a mem holder) :
    mem.now = a.now ∧ mem.drv.initTime = a.drv.initTime ∧ mem.drv.dev = a.drv.dev ∧
      (mem.complete = true → a.complete = true) ∧
      ∀ due, mem.conditioningWork = some due → a.conditioningWork = some due := by
  match holder with
  | none =>
    obtain rfl : a = mem := h
    exact ⟨rfl, rfl, rfl, id, fun _ => id⟩
  | some ((c, modeRet), rest) =>
    obtain ⟨hlooks, begun, hbegin, hreached⟩ | ⟨-, rfl, -, -, hclock, hcomplete⟩ := h
    · have hclock := hreached.keeps (LockedCall.program_keeps_clock begun.clock) rfl
      have hcomplete := (hreached.racy_eq LockedCall.program_orderly).1 hlooks
      simp only [Ccs811Run.clock, Prod.mk.injEq] at hclock
      obtain ⟨⟨hnow, -, hwork⟩, hdev, hinit⟩ := hclock
      cases c with
      | conditioningWork =>
        obtain ⟨due, -, -, rfl⟩ := LockedCall.begin_conditioningWork hbegin
        refine ⟨hnow, hinit, hdev, fun hc => hcomplete.symm.trans hc, fun due hdue => ?_⟩
        exact absurd (hwork.symm.trans hdue) (by simp)
      | connected | disconnected =>
        obtain rfl := Option.some.inj hbegin
        exact ⟨hnow, hinit, hdev, fun hc => hcomplete.symm.trans hc,
          fun due hdue => hwork.symm.trans hdue⟩
    · have hclock : (rest.run Ccs811Run.complete mem).clock = mem.clock :=
        LockedProgram.run_keeps (hclock mem.clock) rfl
      simp only [Ccs811Run.clock, Prod.mk.injEq] at hclock
      obtain ⟨⟨hnow, -, hwork⟩, hdev, hinit⟩ := hclock
      exact ⟨hnow.symm, hinit.symm, hdev.symm,
        fun hc => LockedProgram.run_keeps hcomplete hc, fun due hdue => hwork.trans hdue⟩

/-- What happens without the mutex is not in the holder's way. -/
theorem HeldBy.act {a mem : Ccs811Run}
    {holder : Option ((LockedCall × ℤ) × LockedProgram Ccs811Run)} (h : HeldBy a mem holder)
    (b : Bystander) (hb : b = .dequeue → mem.conditioningWork ≠ none) :
    HeldBy (b.act a) (b.act mem) holder := by
  match holder with
  | none => exact congrArg b.act (show a = mem from h)
  | some ((c, modeRet), rest) =>
    obtain ⟨hlooks, begun, hbegin, hreached⟩ | ⟨hlooks, rfl, htolerates, hrest⟩ := h
    · refine Or.inl ⟨hlooks, b.act begun, ?_, (hreached.map (c.program_tolerates b)).1⟩
      cases c with
      | connected | disconnected =>
        exact congrArg (fun s => some (b.act s)) (Option.some.inj hbegin)
      | conditioningWork =>
        obtain ⟨due, hdue, htime, rfl⟩ := LockedCall.begin_conditioningWork hbegin
        cases b with
        | tick ms =>
          have htime : due ≤ a.now + ms := by omega
          simp [LockedCall.begin, Bystander.act, hdue, htime]
        | latch => simp [LockedCall.begin, Bystander.act, hdue, htime]
        | dequeue =>
          -- it has left its queue already
          have hclock := hreached.keeps (LockedCall.program_keeps_clock _) rfl
          simp only [Ccs811Run.clock, Prod.mk.injEq] at hclock
          exact absurd hclock.1.2.2 (hb rfl)
    · exact Or.inr ⟨hlooks, (LockedProgram.run_comm hlooks (htolerates b) mem).symm, htolerates,
        hrest⟩

/-- A call that takes the mutex has done nothing yet. -/
theorem HeldBy.take {a begun : Ccs811Run} {c : LockedCall} (hbegin : c.begin a = some begun)
    (modeRet : ℤ) : HeldBy a begun (some ((c, modeRet), c.program modeRet)) :=
  Or.inl ⟨LockedCall.looks_program, begun, hbegin, .start⟩

/-- What is left to do looks at most once, ahead of every branch. -/
theorem HeldBy.orderly {a mem : Ccs811Run} {c : LockedCall × ℤ} {rest : LockedProgram Ccs811Run}
    (h : HeldBy a mem (some (c, rest))) : rest.Orderly Ccs811Run.complete := by
  obtain ⟨-, begun, -, hreached⟩ | ⟨-, -, -, horderly, -⟩ := h
  · exact (hreached.racy_eq LockedCall.program_orderly).2
  · exact horderly

/-- A store of the holder changes nothing for the single steps. -/
theorem HeldBy.store {a mem : Ccs811Run} {c : LockedCall × ℤ} {w : Ccs811Run → Ccs811Run}
    {next : LockedProgram Ccs811Run} (h : HeldBy a mem (some (c, .store w next))) :
    HeldBy a (w mem) (some (c, next)) := by
  obtain ⟨hlooks, begun, hbegin, hreached⟩ | ⟨hlooks, rfl, htolerates, horderly, hclock,
    hcomplete⟩ := h
  · exact Or.inl ⟨hlooks, begun, hbegin, hreached.store⟩
  · exact Or.inr ⟨hlooks, rfl, fun b => (htolerates b).2, horderly.2, fun x => (hclock x).2,
      hcomplete.2⟩

/-- Neither does a branch. -/
theorem HeldBy.branch {a mem : Ccs811Run} {c : LockedCall × ℤ} {b : Ccs811Run → Bool}
    {yes no : LockedProgram Ccs811Run} (h : HeldBy a mem (some (c, .branch b yes no))) :
    HeldBy a mem (some (c, if b mem then yes else no)) := by
  obtain ⟨⟨hyes, hno⟩, -⟩ := h.orderly
  obtain ⟨hlooks, -⟩ | ⟨-, rfl, htolerates, ⟨-, horderly⟩, hclock, hcomplete⟩ := h
  · exact absurd hlooks (by simp [LockedProgram.looks, hyes, hno])
  · by_cases hb : b mem = true
    · rw [if_pos hb]
      exact Or.inr ⟨hyes, by rw [LockedProgram.run, if_pos hb], fun b => (htolerates b).2.1,
        horderly.1, fun x => (hclock x).1, hcomplete.1⟩
    · rw [if_neg hb]
      exact Or.inr ⟨hno, by rw [LockedProgram.run, if_neg hb], fun b => (htolerates b).2.2,
        horderly.2, fun x => (hclock x).2, hcomplete.2⟩

/-- **The look** is where the call takes place. -/
theorem HeldBy.look {a mem : Ccs811Run} {c : LockedCall} {modeRet : ℤ}
    {yes no : LockedProgram Ccs811Run} (hdev : a.drv.dev = true)
    (h : HeldBy a mem (some ((c, modeRet), .look yes no))) :
    HeldBy (ccs811Step a (c.event 0 modeRet)) mem
      (some ((c, modeRet), if mem.drv.conditioningComplete then yes else no)) := by
  obtain ⟨⟨hyes, hno⟩, hyesorderly, hnoorderly⟩ := h.orderly
  obtain ⟨-, begun, hbegin, hreached⟩ | ⟨hlooks, -⟩ := h
  · have htolerates := fun b : Bystander => (hreached.map (c.program_tolerates b)).2
    have hclock := fun x => hreached.keeps_rest (LockedCall.program_keeps_clock x)
    have hcomplete := hreached.keeps_rest LockedCall.program_keeps_complete
    have hrun := (LockedCall.run_program hdev hbegin).symm.trans hreached.run
    by_cases hlook : mem.drv.conditioningComplete = true
    · rw [if_pos hlook]
      exact Or.inr ⟨hyes, by rw [hrun, LockedProgram.run]; exact if_pos hlook,
        fun b => (htolerates b).1, hyesorderly, fun x => (hclock x).1, hcomplete.1⟩
    · rw [if_neg hlook]
      exact Or.inr ⟨hno, by rw [hrun, LockedProgram.run]; exact if_neg hlook,
        fun b => (htolerates b).2, hnoorderly, fun x => (hclock x).2, hcomplete.2⟩
  · exact absurd hlooks (by simp [LockedProgram.looks])

/-- Every step leaves the device and the start of the conditioning alone, and time does not run
backwards. -/
theorem startTime_keeps (dev : Bool) (initTime now : ℤ) (start : Option ℤ) :
    Ccs811Keeps fun s => s.drv.dev = dev ∧ s.drv.initTime = initTime ∧
      s.conditioningStart = start ∧ now ≤ s.now where
  congr hcore hs := by
    have hdev := congrArg (·.drv.dev) hcore
    have hinit := congrArg (·.drv.initTime) hcore
    have hstart := congrArg (·.conditioningStart) hcore
    have hnow := congrArg (·.now) hcore
    exact ⟨hdev.trans hs.1, hinit.trans hs.2.1, hstart.trans hs.2.2.1, hs.2.2.2.trans_eq hnow.symm⟩
  tick ms s hs := ⟨hs.1, hs.2.1, hs.2.2.1, hs.2.2.2.trans (by dsimp only; omega)⟩
  latch _ hs := hs
  workRun hs := hs
  workDone _ _ hs := hs
  sample a out s _ hs := by
    rcases ccs811ReadSample_cases a out s with
      ⟨_, -, hsample⟩ | ⟨_, _, -, -, hsample⟩ | ⟨_, _, -, -, hsample⟩ <;> rw [hsample] <;>
      exact ⟨hs.1, hs.2.1, hs.2.2.1, hs.2.2.2.trans (by dsimp only; omega)⟩

/-- What a poll has seen stays so. -/
theorem PollPhase.Holds.step {phase : PollPhase} {a : Ccs811Run} (h : phase.Holds a)
    (e : Ccs811Event) : phase.Holds (ccs811Step a e) := by
  obtain ⟨-, hinit, -, hnow⟩ := (startTime_keeps a.drv.dev a.drv.initTime a.now
    a.conditioningStart).step e ⟨rfl, rfl, rfl, le_rfl⟩
  cases phase with
  | outside | incomplete => trivial
  | started =>
    rw [Holds, hinit]
    exact h
  | elapsed =>
    rw [Holds, hinit]
    exact ⟨h.1, h.2.trans (by omega)⟩

theorem Ccs811Run.StartSeen.step {a : Ccs811Run} (h : a.StartSeen) (e : Ccs811Event) :
    (ccs811Step a e).StartSeen := by
  obtain ⟨hdev, hinit, hstart, -⟩ := (startTime_keeps a.drv.dev a.drv.initTime a.now
    a.conditioningStart).step e ⟨rfl, rfl, rfl, le_rfl⟩
  rw [StartSeen, hdev, hinit, hstart]
  exact h

/-- A single step of the driver, and what it leaves of the pieces. -/
theorem Serial.step {a : Ccs811Run} {s : Ccs811Preempted} (h : Serial a s) (e : Ccs811Event)
    {mem : Ccs811Run} {holder : Option ((LockedCall × ℤ) × LockedProgram Ccs811Run)}
    (held : HeldBy (ccs811Step a e) mem holder) :
    Serial (ccs811Step a e) { s with mem := mem, holder := holder } :=
  ⟨Ccs811Run.conditioned_keeps.step e h.conditioned, h.seen.step e, held,
    fun thread => (h.polls thread).step e⟩

/-- The time is not over while the conditioning is not seen to be. -/
theorem Serial.incomplete {a : Ccs811Run} {s : Ccs811Preempted} (h : Serial a s)
    (htime : a.drv.initTime ≠ 0 → a.now - a.drv.initTime < CCS811_CONDITIONING_TIME_MS) :
    a.drv.conditioningComplete = false := by
  by_contra hcomplete
  obtain ⟨start, hstart, helapsed⟩ := h.conditioned.elapsed (by simpa using hcomplete)
  by_cases hinit : a.drv.initTime = 0
  · exact absurd ((h.seen.2 hinit).symm.trans hstart) (by simp)
  · have hsame : a.drv.initTime = start :=
      Option.some.inj ((h.conditioned.initTime hinit).symm.trans hstart)
    have hbefore := htime hinit
    omega

/-- A readiness poll that returns `true`. -/
theorem ccs811DriverIsReady_of_over {a : Ccs811Run}
    (h : a.drv.conditioningComplete = true ∨ a.drv.initTime ≠ 0 ∧
      a.now - a.drv.initTime ≥ CCS811_CONDITIONING_TIME_MS) :
    ccs811DriverIsReady a = (true, Bystander.latch.act a) := by
  rw [ccs811DriverIsReady]
  split_ifs with hcomplete hinit htime
  · simp [Bystander.act, ← hcomplete]
  · exact absurd h (by simp [hcomplete, hinit])
  · rfl
  · exact absurd h (by simp [hcomplete, htime])

/-- One that returns `false`. -/
theorem ccs811DriverIsReady_of_not {a : Ccs811Run} (hcomplete : a.drv.conditioningComplete = false)
    (h : a.drv.initTime ≠ 0 → a.now - a.drv.initTime < CCS811_CONDITIONING_TIME_MS) :
    ccs811DriverIsReady a = (false, a) := by
  rw [ccs811DriverIsReady]
  split_ifs with hyes hinit htime
  · exact absurd (hcomplete.symm.trans hyes) (by decide)
  · rfl
  · exact absurd (h hinit) (not_lt.mpr htime)
  · rfl

/-! ### The simulation -/

/-- The calls that take the mutex. -/
def PreemptedEvent.taken : PreemptedEvent → List (LockedCall × ℤ)
  | .call c lockRet modeRet => if lockRet = 0 then [(c, modeRet)] else []
  | _ => []

/-- The same of the single steps. -/
def Ccs811Event.taken : Ccs811Event → List (LockedCall × ℤ)
  | .connected lockRet modeRet => if lockRet = 0 then [(.connected, modeRet)] else []
  | .disconnected lockRet modeRet => if lockRet = 0 then [(.disconnected, modeRet)] else []
  | .conditioningWork lockRet modeRet => if lockRet = 0 then [(.conditioningWork, modeRet)] else []
  | _ => []

/-- The call that holds the mutex and has still to look. -/
def Ccs811Preempted.undecided (s : Ccs811Preempted) : List (LockedCall × ℤ) :=
  match s.holder with
  | none => []
  | some (c, rest) => if rest.looks then [c] else []

/-- What a step of the pieces is in single steps, from `a`. -/
def SerialStep (a : Ccs811Run) (taken : List (LockedCall × ℤ)) (s' : Ccs811Preempted)
    (os : List Bool) : Prop :=
  ∃ es a', ccs811CallMachine.run es a = some (a', os) ∧ Serial a' s' ∧
    taken = es.flatMap Ccs811Event.taken ++ s'.undecided

/-- Nothing. -/
theorem SerialStep.none {a : Ccs811Run} {taken : List (LockedCall × ℤ)} {s' : Ccs811Preempted}
    (h : Serial a s') (htaken : taken = s'.undecided) : SerialStep a taken s' [] :=
  ⟨[], a, rfl, h, htaken⟩

/-- One step. -/
theorem SerialStep.one {a : Ccs811Run} (e : Ccs811Event) {taken : List (LockedCall × ℤ)}
    {s' : Ccs811Preempted} {os : List Bool} (hos : ccs811CallMachine.step e a =
      some (ccs811Step a e, os)) (h : Serial (ccs811Step a e) s')
    (htaken : taken = e.taken ++ s'.undecided) : SerialStep a taken s' os := by
  refine ⟨[e], ccs811Step a e, ?_, h, by rw [List.flatMap_singleton, htaken]⟩
  exact (Machine.run_cons_eq_some _).mpr ⟨_, _, [], hos, rfl, (List.append_nil _).symm⟩

theorem step_of_not_isReady {a : Ccs811Run} {e : Ccs811Event} (h : e ≠ .isReady) :
    ccs811CallMachine.step e a = some (ccs811Step a e, []) := by
  cases e with
  | isReady => exact absurd rfl h
  | _ => rfl

/-- A poll that has answered `true`, with the store that it may have made. -/
theorem Serial.answerTrue {a : Ccs811Run} {s : Ccs811Preempted} (h : Serial a s)
    (hover : a.drv.conditioningComplete = true ∨ a.drv.initTime ≠ 0 ∧
      a.now - a.drv.initTime ≥ CCS811_CONDITIONING_TIME_MS)
    {polls : ℕ → PollPhase} (hpolls : ∀ thread, (polls thread).Holds a) :
    SerialStep a s.undecided { s with mem := Bystander.latch.act s.mem, polls := polls }
      [true] := by
  have hready := ccs811DriverIsReady_of_over hover
  have hstep : ccs811Step a .isReady = Bystander.latch.act a := congrArg Prod.snd hready
  have held := h.held.act .latch fun hb => absurd hb (by simp)
  rw [← hstep] at held
  have hserial := h.step .isReady held
  refine SerialStep.one .isReady ?_ ⟨hserial.conditioned, hserial.seen, held,
    fun thread => (hpolls thread).step .isReady⟩ rfl
  change some (ccs811Step a .isReady, [(ccs811DriverIsReady a).1]) = _
  rw [hready]

/-- A poll that has answered `false`. -/
theorem Serial.answerFalse {a : Ccs811Run} {s : Ccs811Preempted} (h : Serial a s)
    (htime : a.drv.initTime ≠ 0 → a.now - a.drv.initTime < CCS811_CONDITIONING_TIME_MS)
    {polls : ℕ → PollPhase} (hpolls : ∀ thread, (polls thread).Holds a) :
    SerialStep a s.undecided { s with polls := polls } [false] := by
  have hready := ccs811DriverIsReady_of_not (h.incomplete htime) htime
  have hstep : ccs811Step a .isReady = a := congrArg Prod.snd hready
  refine SerialStep.one .isReady ?_ ?_ rfl
  · change some (ccs811Step a .isReady, [(ccs811DriverIsReady a).1]) = _
    rw [hready]
  · rw [hstep]
    exact ⟨h.conditioned, h.seen, h.held, hpolls⟩

/-- A step of a poll. -/
theorem Serial.poll {a : Ccs811Run} {s : Ccs811Preempted} (h : Serial a s) (thread : ℕ)
    {phase : PollPhase} {mem : Ccs811Run} {answer : List Bool}
    (hstep : pollStep s.mem (s.polls thread) = (phase, mem, answer)) :
    SerialStep a s.undecided
      { s with mem := mem, polls := Function.update s.polls thread phase } answer := by
  obtain ⟨hnow, hinit, -, hcomplete, -⟩ := h.held.frame
  have hpolls : phase.Holds a → ∀ other, (Function.update s.polls thread phase other).Holds a := by
    intro hphase other
    rw [Function.update_apply]
    split_ifs
    · exact hphase
    · exact h.polls other
  have hseen := h.polls thread
  cases hphase : s.polls thread with
  | outside =>
    simp only [pollStep, hphase] at hstep
    split_ifs at hstep with hlook <;> obtain ⟨rfl, rfl, rfl⟩ := hstep
    · have hlatched : Bystander.latch.act s.mem = s.mem := by simp [Bystander.act, ← hlook]
      have hstep := h.answerTrue (Or.inl (hcomplete hlook)) (hpolls trivial)
      rwa [hlatched] at hstep
    · exact SerialStep.none ⟨h.conditioned, h.seen, h.held, hpolls trivial⟩ rfl
  | incomplete =>
    simp only [pollStep, hphase] at hstep
    split_ifs at hstep with hzero <;> obtain ⟨rfl, rfl, rfl⟩ := hstep
    · exact h.answerFalse (fun hne => absurd (hinit.symm.trans hzero) hne) (hpolls trivial)
    · have hne : a.drv.initTime ≠ 0 := fun hzero' => hzero (hinit.trans hzero')
      exact SerialStep.none ⟨h.conditioned, h.seen, h.held, hpolls hne⟩ rfl
  | started =>
    rw [hphase] at hseen
    simp only [pollStep, hphase, hnow, hinit] at hstep
    split_ifs at hstep with htime <;> obtain ⟨rfl, rfl, rfl⟩ := hstep
    · exact SerialStep.none ⟨h.conditioned, h.seen, h.held, hpolls ⟨hseen, htime⟩⟩ rfl
    · exact h.answerFalse (fun _ => not_le.mp htime) (hpolls trivial)
  | elapsed =>
    rw [hphase] at hseen
    simp only [pollStep, hphase] at hstep
    obtain ⟨rfl, rfl, rfl⟩ := hstep
    exact h.answerTrue (Or.inr hseen) (hpolls trivial)

/-- A step of the holder. -/
theorem Serial.proceed {a : Ccs811Run} {s s' : Ccs811Preempted} (h : Serial a s)
    {os : List Bool} (hstep : ccs811PreemptedStep .proceed s = some (s', os)) :
    SerialStep a s.undecided s' os := by
  obtain ⟨mem, holder, polls⟩ := s
  match holder with
  | none => exact absurd hstep (by simp [ccs811PreemptedStep])
  | some ((c, modeRet), .unlock) =>
    obtain ⟨rfl, rfl⟩ := Prod.mk.inj (Option.some.inj hstep)
    obtain ⟨hlooks, -⟩ | ⟨-, hsame, -⟩ := h.held
    · exact absurd hlooks (by simp [LockedProgram.looks])
    · exact SerialStep.none ⟨h.conditioned, h.seen, hsame, h.polls⟩ rfl
  | some ((c, modeRet), .store w next) =>
    obtain ⟨rfl, rfl⟩ := Prod.mk.inj (Option.some.inj hstep)
    exact SerialStep.none ⟨h.conditioned, h.seen, h.held.store, h.polls⟩ rfl
  | some ((c, modeRet), .branch b yes no) =>
    obtain ⟨rfl, rfl⟩ := Prod.mk.inj (Option.some.inj hstep)
    refine SerialStep.none ⟨h.conditioned, h.seen, h.held.branch, h.polls⟩ ?_
    obtain ⟨⟨hyes, hno⟩, -⟩ := h.held.orderly
    rw [Ccs811Preempted.undecided, Ccs811Preempted.undecided]
    simp [LockedProgram.looks, apply_ite LockedProgram.looks, hyes, hno]
  | some ((c, modeRet), .look yes no) =>
    obtain ⟨rfl, rfl⟩ := Prod.mk.inj (Option.some.inj hstep)
    have held := h.held.look h.seen.1
    refine SerialStep.one (c.event 0 modeRet) ?_ (h.step _ held) ?_
    · exact step_of_not_isReady (by cases c <;> simp [LockedCall.event])
    · obtain ⟨⟨hyes, hno⟩, -⟩ := h.held.orderly
      have hnone : ∀ mem polls, (⟨mem, some ((c, modeRet),
          if mem.drv.conditioningComplete then yes else no), polls⟩ : Ccs811Preempted).undecided =
          [] := by
        intro mem polls
        simp [Ccs811Preempted.undecided, apply_ite LockedProgram.looks, hyes, hno]
      rw [hnone]
      cases c <;> rfl

/-- A call up to the taking of the mutex. -/
theorem Serial.call {a : Ccs811Run} {s s' : Ccs811Preempted} (h : Serial a s) {c : LockedCall}
    {lockRet modeRet : ℤ} {os : List Bool}
    (hstep : ccs811PreemptedStep (.call c lockRet modeRet) s = some (s', os)) :
    SerialStep a (s.undecided ++ (PreemptedEvent.call c lockRet modeRet).taken) s' os := by
  obtain ⟨mem, holder, polls⟩ := s
  obtain ⟨begun, hbegin, hcall⟩ := Option.bind_eq_some_iff.mp hstep
  obtain ⟨hnow, -, hdev, -, hwork⟩ := h.held.frame
  have hdev : mem.drv.dev = true := hdev.trans h.seen.1
  split_ifs at hcall with hgone
  · -- without the mutex only the work leaves a trace
    obtain ⟨rfl, rfl⟩ := Prod.mk.inj (Option.some.inj hcall)
    cases c with
    | connected | disconnected =>
      obtain rfl := Option.some.inj hbegin
      have hlock : lockRet ≠ 0 := by simpa [LockedCall.gone, hdev] using hgone
      rw [PreemptedEvent.taken, if_neg hlock, List.append_nil]
      exact SerialStep.none h rfl
    | conditioningWork =>
      obtain ⟨due, hdue, htime, rfl⟩ := LockedCall.begin_conditioningWork hbegin
      have hlock : lockRet ≠ 0 := by simpa [LockedCall.gone] using hgone
      have hdue : mem.conditioningWork = some due := hdue
      have htime : due ≤ a.now := htime.trans_eq hnow
      have hlost : ccs811Step a (.conditioningWork lockRet modeRet) = Bystander.dequeue.act a := by
        simp [ccs811Step, hwork due hdue, htime, ccs811ConditioningWorkHandler, hlock,
          Bystander.act]
      have held := h.held.act .dequeue fun _ => by simp [hdue]
      rw [← hlost] at held
      refine SerialStep.one (.conditioningWork lockRet modeRet) rfl (h.step _ held) ?_
      rw [PreemptedEvent.taken, Ccs811Event.taken, if_neg hlock, List.append_nil]
      rfl
  · cases holder with
    | some _ => exact absurd hcall (by simp)
    | none =>
      obtain ⟨rfl, rfl⟩ := Prod.mk.inj (Option.some.inj hcall)
      obtain rfl : a = mem := h.held
      have hlock : lockRet = 0 := by
        cases c with
        | connected | disconnected =>
          obtain ⟨-, hlock⟩ : begun.drv.dev = true ∧ lockRet = 0 := by
            simpa [LockedCall.gone] using hgone
          exact hlock
        | conditioningWork => simpa [LockedCall.gone] using hgone
      refine SerialStep.none ⟨h.conditioned, h.seen, .take hbegin modeRet, h.polls⟩ ?_
      simp [PreemptedEvent.taken, hlock, Ccs811Preempted.undecided, LockedCall.looks_program]

/-- **Each step.** -/
theorem ccs811Preempted_simulates :
    ccs811PreemptedMachine.Simulates (fun _ _ => True) ccs811CallMachine Serial id
      PreemptedEvent.taken Ccs811Event.taken Ccs811Preempted.undecided := by
  intro e s s' os a _ h hstep
  replace hstep : ccs811PreemptedStep e s = some (s', os) := hstep
  rw [List.map_id]
  change SerialStep a (s.undecided ++ e.taken) s' os
  cases e with
  | tick ms =>
    obtain ⟨rfl, rfl⟩ := Prod.mk.inj (Option.some.inj hstep)
    have held := h.held.act (.tick ms) (fun hb => absurd hb (by simp))
    exact SerialStep.one (.tick ms) rfl (h.step (.tick ms) held) (List.append_nil _)
  | call c lockRet modeRet => exact h.call hstep
  | proceed =>
    rw [show PreemptedEvent.proceed.taken = [] from rfl, List.append_nil]
    exact h.proceed hstep
  | poll thread =>
    rw [show (PreemptedEvent.poll thread).taken = [] from rfl, List.append_nil]
    obtain ⟨rfl, rfl⟩ := Prod.mk.inj (Option.some.inj hstep)
    exact h.poll thread rfl

/-- The driver as `ccs811_driver_init` leaves it. -/
theorem Serial.of_init {a : InitAnswers} {now : ℤ} (hnow : now ≠ 0) {s : Ccs811Run}
    (hinit : ccs811DriverInit a { now := now } = (0, s)) : Serial s { mem := s } := by
  have hnodev : (-ENODEV : ℤ) ≠ 0 := by decide
  have hconditioned := ((Ccs811Run.conditioned_start now).init a).1
  rw [hinit] at hconditioned
  refine ⟨hconditioned, ?_, rfl, fun _ => trivial⟩
  rw [ccs811DriverInit] at hinit
  dsimp only at hinit
  split_ifs at hinit with hdevice hlock hdev hrelock
  · exact absurd (congrArg Prod.fst hinit) hnodev
  · exact absurd (congrArg Prod.fst hinit) hlock
  · exact absurd hdev (by simp)
  · obtain rfl := (Prod.mk.inj hinit).2
    refine ⟨?_, fun hzero => ?_⟩
    · simp only [ccs811StartBootConditioning, ccs811ModeUpdate]
      split_ifs <;> rfl
    · refine absurd ?_ hnow
      simp only [ccs811StartBootConditioning, ccs811ModeUpdate] at hzero
      split_ifs at hzero <;> exact hzero
  · obtain rfl := (Prod.mk.inj hinit).2
    exact ⟨rfl, fun _ => rfl⟩

/-- **Readiness polls need no mutex.** After an initialisation at an uptime other than `0`, let
connects, disconnects, the conditioning work and any number of readiness polls go one load or
store at a time, in any order that `ccs811_mutex` allows, whatever it, the sensor and the clock
do. If nobody holds the mutex at the end, the calls that took it can be made one after the other in
that order, and the polls between them, so that every poll has the same answer and the driver is
left the same. -/
theorem ccs811_polls_serialize {a : InitAnswers} {now : ℤ} (hnow : now ≠ 0) {s : Ccs811Run}
    (hinit : ccs811DriverInit a { now := now } = (0, s)) {es : List PreemptedEvent}
    {t : Ccs811Preempted} {os : List Bool}
    (hrun : ccs811PreemptedMachine.run es { mem := s } = some (t, os))
    (hfree : t.holder = none) :
    ∃ es', ccs811CallMachine.run es' s = some (t.mem, os) ∧
      es'.flatMap Ccs811Event.taken = es.flatMap PreemptedEvent.taken := by
  have hany : ccs811PreemptedMachine.Along (fun _ _ => True) es { mem := s } :=
    Machine.Along.of_forall (fun _ _ _ => trivial) _
  obtain ⟨es', t', hrun', h, htaken⟩ :=
    ccs811Preempted_simulates.run hany (Serial.of_init hnow hinit) hrun
  have held := h.held
  rw [hfree] at held
  obtain rfl : t' = t.mem := held
  rw [List.map_id] at hrun'
  refine ⟨es', hrun', ?_⟩
  have hundecided : t.undecided = [] := by rw [Ccs811Preempted.undecided, hfree]
  rw [hundecided, List.append_nil] at htaken
  exact htaken.symm

/-- A poll that has seen the time to be over, and stores that while a connect that has found the
conditioning not complete is about to release the mutex. -/
def lateStore : List PreemptedEvent :=
  [.tick 1200000, .poll 0, .poll 0, .poll 0, .call .connected 0 0, .proceed, .proceed, .poll 0,
    .proceed]

/-- `ccs811_polls_serialize` for it. -/
theorem ccs811_polls_serialize_lateStore :
    ∃ s t, ccs811DriverInit {} { now := 1 } = (0, s) ∧
      ccs811PreemptedMachine.run lateStore { mem := s } = some (t, [true]) ∧
      t.mem.drv.bleConnected = true ∧ t.mem.sensorMode = some .measurement10Sec ∧
      ∃ es', ccs811CallMachine.run es' s = some (t.mem, [true]) ∧
        es'.flatMap Ccs811Event.taken = [(.connected, 0)] := by
  have hinit : ccs811DriverInit {} { now := 1 } = (0, _) := rfl
  have hrun : ccs811PreemptedMachine.run lateStore
      { mem := (ccs811DriverInit {} { now := 1 }).2 } = some (_, [true]) := rfl
  exact ⟨_, _, hinit, hrun, rfl, rfl, ccs811_polls_serialize (by decide) hinit hrun rfl⟩

end EnvMonitor
