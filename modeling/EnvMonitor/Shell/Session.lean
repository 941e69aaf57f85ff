import EnvMonitor.Shell.Status
import EnvMonitor.System.Counting

/-!
# A session at the shell

The commands of `app_shell.c` that show the connections: `app gatt connect` and `app gatt
disconnect`, which report the count they leave, `app sm status`, and `app ccs811 status`, which
looks at the driver piece by piece while other threads run.

`session_counts` is about whole sessions on the running firmware, with clients coming and going
meanwhile: the counts that the tests parse are those that the two services have, command by
command. `ccs811_report_parsed` says what the tests can conclude from the status of the CCS811.
-/

namespace EnvMonitor

open Reader

variable {ρ : Type*}

/-! ### What the commands print -/

/-- `shell_print` and `shell_error`, as a text. -/
def printedLine (line : List Char) : List Char := line ++ ['\n']

/-- An answer of the shell: whether the command was `connect`, and its text. -/
structure ShellReply where
  connect : Bool
  text : List Char

/-- What `cmd_gatt_connect` and `cmd_gatt_disconnect` print at their end. -/
def LinkNext.reply (d : Device) : LinkNext → Option ShellReply
  | goOn _ => none
  | refused ret =>
    some ⟨true, printedLine ("sensor_manager_on_connected: ".toList ++ signedDecimal ret)⟩
  | connected rets =>
    some ⟨true,
      if rets.battery ≠ 0 then
        printedLine ("ble_battery_service_on_connected: ".toList ++ signedDecimal rets.battery)
      else
        printedLine ("simulated GATT connect (count=".toList ++
          (decimal d.sys.env.mgr.connectedCount.toNat ++ ")".toList))⟩
  | disconnected =>
    some ⟨false, printedLine ("simulated GATT disconnect (count=".toList ++
      (decimal d.sys.env.mgr.connectedCount.toNat ++ ")".toList))⟩

/-- What the shell answers when the event is the last piece of one of its commands. -/
def shellReply (e : FirmwareEvent) (f : Firmware) : Option ShellReply :=
  match e with
  | .resume .shell turns i readings =>
    (f.link .shell).bind fun phase =>
      (linkPiece .shell i readings phase (f.dev.begin turns)).bind fun (d, next) => next.reply d
  | _ => none

/-- The firmware, observed at the shell. -/
def shellMachine : Machine Firmware FirmwareEvent ShellReply :=
  ⟨fun e f => (firmwareStep e f).map fun r => (r.1, (shellReply e f).toList)⟩

/-- The count that the tests parse from an answer. -/
def ShellReply.count (o : ShellReply) : Option ℕ :=
  if o.connect then parseConnectCount o.text else parseDisconnectCount o.text

/-- The text of a `float` with so many decimals. -/
abbrev FloatText := ℕ → CFloat → List Char

/-- `%02x` of an `unsigned int`. -/
def hexPadded (n : ℕ) : List Char :=
  if n < 16 then '0' :: Nat.toDigits 16 n else Nat.toDigits 16 n

/-- `cmd_sm_status`. -/
def cmdSmStatus (fixed : FloatText) (D : Drivers ρ) (x : ManagerRun ρ) : ℤ × List Char :=
  let first := "armed=".toList ++ (yesNo x.mgr.armed ++ (" count=".toList ++
    decimal x.mgr.connectedCount.toNat))
  let (ret, data, _) := sensorManagerGetData D x
  if ret ≠ 0 then
    (ret, printedLine first ++
      printedLine ("sensor_manager_get_data: ".toList ++ signedDecimal ret))
  else
    (0, printedLine first ++
      printedLine ("valid_mask=0x".toList ++ hexPadded data.validMask.toNat ++ " ts=".toList ++
        signedDecimal data.timestamp) ++
      printedLine ("T=".toList ++ fixed 2 data.temperature ++ " C H=".toList ++
        fixed 2 data.humidity ++ " % P=".toList ++ fixed 3 data.pressure ++ " kPa CO2=".toList ++
        decimal data.eco2.toNat ++ " ppm TVOC=".toList ++ decimal data.tvoc.toNat ++
        " ppb bat=".toList ++ decimal data.batteryLevel.toNat ++ "% chg=".toList ++
        yesNo data.batteryCharging))

/-! ### Reading it back -/

theorem reads_connectRe (n : ℕ) :
    Reads never connectRe
      ("simulated GATT connect (count=".toList ++ (decimal n ++ ")".toList)) n :=
  (reads_word _).bind ((reads_number n).bind_of_head (c := ')') (by decide)
    ((reads_word ")".toList).map fun _ => n))

theorem reads_disconnectRe (n : ℕ) :
    Reads never disconnectRe
      ("simulated GATT disconnect (count=".toList ++ (decimal n ++ ")".toList)) n :=
  (reads_word _).bind ((reads_number n).bind_of_head (c := ')') (by decide)
    ((reads_word ")".toList).map fun _ => n))

/-- The tests read the armed flag and the count, whatever follows them. -/
theorem smStatus_parsed (fixed : FloatText) (D : Drivers ρ) (x : ManagerRun ρ) :
    parseSmStatus (cmdSmStatus fixed D x).2 =
      some ⟨x.mgr.armed, x.mgr.connectedCount.toNat⟩ := by
  have hreads : Reads Char.isDigit smStatusRe ("armed=".toList ++ (yesNo x.mgr.armed ++
      (" count=".toList ++ decimal x.mgr.connectedCount.toNat)))
      ⟨x.mgr.armed, x.mgr.connectedCount.toNat⟩ :=
    (reads_word _).bind ((reads_yesOrNo _).bind ((reads_word _).bind
      ((reads_number _).map (SmStatus.mk x.mgr.armed))))
  have hstop : ∀ rest : List Char, ∀ c ∈ ('\n' :: rest).head?, c.isDigit = false := by
    intro rest c hc
    obtain rfl : '\n' = c := Option.some.inj hc
    rfl
  rcases hget : sensorManagerGetData D x with ⟨ret, data, x'⟩
  simp only [cmdSmStatus, hget, printedLine]
  split_ifs
  · rw [List.append_assoc _ ['\n']]
    exact search_append hreads (hstop _)
  · rw [List.append_assoc _ ['\n'], List.append_assoc _ (['\n'] ++ _)]
    exact search_append hreads (hstop _)

/-! ### Counting -/

/-- The count that a command is to leave, if the event is one. -/
def FirmwareEvent.asked (n : UInt32) (e : FirmwareEvent) : List UInt32 :=
  match e with
  | .gattConnect | .gattDisconnect => [e.counted n]
  | _ => []

/-- The counts that the commands of a session leave, starting from `n`. -/
def shellCounts : UInt32 → List FirmwareEvent → List UInt32
  | _, [] => []
  | n, e :: es => e.asked n ++ shellCounts (e.counted n) es

/-- The count of a command that has not answered yet. -/
def Firmware.owed (f : Firmware) : List UInt32 :=
  if f.link .shell = none then [] else [f.settled.1]

/-- `main` has returned 0, nothing overlaps, and both services will have counted `n`
connections. -/
structure Firmware.Serving (n : UInt32) (f : Firmware) : Prop where
  safe : f.Safe
  returned : f.pc = .returned 0
  alone : f.Alone
  settled : f.settled = (n, n)

namespace Firmware.Serving

variable {n : UInt32} {f f' : Firmware}

theorem up (h : f.Serving n) (v : BootService) : f.isUp v = true :=
  h.safe.called (h.safe.returned h.returned) v

theorem owed_of_idle (hidle : f.link .shell = none) : f.owed = [] := if_pos hidle

theorem owed_of_busy (h : f.Serving n) (hbusy : f.link .shell ≠ none) : f.owed = [n] := by
  rw [Firmware.owed, if_neg hbusy, h.settled]

/-- At rest, both services have counted them. -/
theorem counts (h : f.Serving n) (hrest : f.AtRest) :
    f.dev.sys.env.mgr.connectedCount = n ∧ f.dev.app.connectedCount = n := by
  have hsettled := h.settled
  rw [hrest.settled_eq] at hsettled
  exact Prod.mk.inj hsettled

/-- `main` stays where it is. -/
private theorem pc_of_step (hpc : f.pc = .returned 0) {e : FirmwareEvent} {os : List ConnectRets}
    (hstep : firmwareStep e f = some (f', os)) : f'.pc = .returned 0 := by
  cases firmwareStep_cases hstep with
  | main hmain =>
    rw [mainStep, hpc] at hmain
    exact absurd hmain (by simp)
  | _ => exact hpc

/-- **One event** while the firmware serves is counted as said. -/
theorem step (h : f.Serving n) {e : FirmwareEvent} (hserial : e.Serial f)
    {os : List ConnectRets} (hstep : firmwareStep e f = some (f', os)) :
    f'.Serving (e.counted n) := by
  obtain ⟨halone, heffect⟩ := h.safe.counted h.alone hserial hstep
  refine ⟨(h.safe.step hstep).1, pc_of_step h.returned hstep, halone, ?_⟩
  cases heffect with
  | kept hsettled _ hentered => rw [hsettled, h.settled, hentered]
  | up hsettled hentered =>
    rw [hsettled, h.settled]
    rcases hentered with ⟨conn, stopRet, rfl, -⟩ | ⟨rfl, -⟩ <;> rfl
  | down hsettled hentered =>
    rw [hsettled, h.settled]
    rcases hentered with ⟨conn, rfl, -⟩ | ⟨rfl, -⟩ <;> rfl
  | refused _ _ harmed _ => exact absurd ((h.up .armed).symm.trans harmed) (by decide)

/-- The last piece of a command answers with the count that it leaves. -/
private theorem reply_count {phase : LinkPhase} (haccepted : phase.Accepted true) {d : Device}
    {next : LinkNext} (hnext : next = phase.next .shell true true) (hlast : next.phase = none) :
    ∃ reply, next.reply d = some reply ∧
      reply.count = some d.sys.env.mgr.connectedCount.toNat := by
  subst hnext
  cases phase with
  | batteryUpdate ret =>
    exact ⟨_, rfl, search_append (reads_connectRe d.sys.env.mgr.connectedCount.toNat)
      fun _ _ => rfl⟩
  | batteryUntrack =>
    exact ⟨_, rfl, search_append (reads_disconnectRe d.sys.env.mgr.connectedCount.toNat)
      fun _ _ => rfl⟩
  | _ => cases hlast

/-- **One event**: what the shell answers, and owes after it, is what it has owed and has been
asked for. -/
theorem answer (h : f.Serving n) {e : FirmwareEvent} (hserial : e.Serial f)
    {os : List ConnectRets} (hstep : firmwareStep e f = some (f', os)) :
    (shellReply e f).toList.map ShellReply.count ++ f'.owed.map (some ·.toNat) =
      (f.owed ++ e.asked n).map (some ·.toNat) := by
  have hserving := h.step hserial hstep
  -- an event that does not concern the shell
  have hother : f'.link .shell = f.link .shell →
      (f.link .shell = none ∨ e.counted n = n) → e.asked n = [] → shellReply e f = none →
        (shellReply e f).toList.map ShellReply.count ++ f'.owed.map (some ·.toNat) =
          (f.owed ++ e.asked n).map (some ·.toNat) := by
    intro hlink hcounted hasked hreply
    rw [hreply, hasked, List.append_nil]
    by_cases hshell : f.link .shell = none
    · rw [owed_of_idle hshell, owed_of_idle (hlink.trans hshell)]
      rfl
    · have hsame : e.counted n = n := hcounted.resolve_left hshell
      rw [h.owed_of_busy hshell, hserving.owed_of_busy (hlink ▸ hshell), hsame]
      rfl
  -- the beginning of a command
  have hentered : ∀ phase, f' = f.enter .shell phase → f.AtRest → e.asked n = [e.counted n] →
      shellReply e f = none → (shellReply e f).toList.map ShellReply.count ++
        f'.owed.map (some ·.toNat) = (f.owed ++ e.asked n).map (some ·.toNat) := by
    intro phase hf' hrest hasked hreply
    have hbusy : f'.link .shell ≠ none := by
      rw [hf', link_enter, Function.update_self]
      exact Option.some_ne_none phase
    rw [hreply, hasked, owed_of_idle (hrest .shell), hserving.owed_of_busy hbusy]
    rfl
  cases firmwareStep_cases hstep with
  | main hmain =>
    rw [mainStep, h.returned] at hmain
    exact absurd hmain (by simp)
  | failed herr => exact hother rfl (Or.inr (if_pos herr)) rfl rfl
  | connected _ _ _ _ =>
    exact hother (update_host_shell f.link (some .track)) (Or.inl (hserial rfl .shell)) rfl rfl
  | disconnected _ _ =>
    exact hother (update_host_shell f.link (some .untrack)) (Or.inl (hserial .shell)) rfl rfl
  | gattConnect _ => exact hentered .track rfl hserial rfl rfl
  | gattDisconnect _ => exact hentered .untrack rfl hserial rfl rfl
  | @resume caller turns i readings hruntime phase d next hphase hpiece =>
    cases caller with
    | host => exact hother (update_host_shell f.link next.phase) (Or.inr rfl) rfl rfl
    | shell =>
      let f' : Firmware := { f with dev := d, link := Function.update f.link .shell next.phase }
      have hbusy : f.link .shell ≠ none := by rw [hphase]; exact Option.some_ne_none phase
      have hafter : f'.link .shell = next.phase :=
        Function.update_self (LinkCaller.shell) next.phase f.link
      have hnext : next = phase.next .shell true true := by
        have hspec := linkPiece_spec hruntime hpiece
        have harmed : f.dev.sys.env.mgr.armed = true := h.up .armed
        have hinit : f.dev.app.ble.initialized = true := h.up .battery
        rw [hspec.next_eq]
        exact congrArg₂ (phase.next .shell · ·) harmed hinit
      have hreply : shellReply (.resume .shell turns i readings) f = next.reply d := by
        rw [shellReply, hphase, Option.bind_some, hpiece]
        rfl
      rw [hreply, h.owed_of_busy hbusy]
      by_cases hlast : next.phase = none
      · -- the command has come to its end, and nothing else is under way
        have haccepted : phase.Accepted true := by
          have h' := h.safe.accepted .shell phase hphase
          rwa [h.up .armed] at h'
        have hhost : f.link .host = none := h.alone.resolve_right hbusy
        have hrest : f'.AtRest := fun caller => by
          cases caller with
          | host => exact (update_shell_host f.link next.phase).trans hhost
          | shell => exact hafter.trans hlast
        have hcount : d.sys.env.mgr.connectedCount = n := (hserving.counts hrest).1
        obtain ⟨reply, hsome, hparsed⟩ := reply_count haccepted (d := d) hnext hlast
        rw [hsome, owed_of_idle (hafter.trans hlast)]
        simp [hparsed, hcount, FirmwareEvent.asked]
      · have hnone : next.reply d = none := by
          cases next with
          | goOn phase' => rfl
          | _ => exact absurd rfl hlast
        rw [hnone, hserving.owed_of_busy (hafter ▸ hlast)]
        rfl
  | background _ _ => exact hother rfl (Or.inr rfl) rfl rfl
  | btReady => exact hother rfl (Or.inr rfl) rfl rfl
  | recycled _ => exact hother rfl (Or.inr rfl) rfl rfl

/-- **A session** while the firmware serves. -/
theorem session (h : f.Serving n) {es : List FirmwareEvent} {answers : List ShellReply}
    (hserial : shellMachine.Along FirmwareEvent.Serial es f)
    (hrun : shellMachine.run es f = some (f', answers)) :
    f'.Serving (es.foldl FirmwareEvent.counted n) ∧
      answers.map ShellReply.count ++ f'.owed.map (some ·.toNat) =
        (f.owed ++ shellCounts n es).map (some ·.toNat) := by
  induction es generalizing n f answers with
  | nil =>
    simp only [Machine.run_nil, Option.some.injEq, Prod.mk.injEq] at hrun
    obtain ⟨rfl, rfl⟩ := hrun
    exact ⟨h, by rw [shellCounts, List.append_nil]; rfl⟩
  | cons e es ih =>
    obtain ⟨f₁, answers₁, answers₂, hone, hrest, rfl⟩ := (Machine.run_cons_eq_some _).mp hrun
    obtain ⟨hhere, hthere⟩ := (Machine.along_cons_of_step hone).mp hserial
    obtain ⟨⟨f₂, os⟩, hstep, heq⟩ := Option.map_eq_some_iff.mp hone
    obtain ⟨rfl, rfl⟩ := Prod.mk.inj heq
    obtain ⟨hlast, hanswers⟩ := ih (h.step hhere hstep) hthere hrest
    refine ⟨hlast, ?_⟩
    rw [List.map_append, List.append_assoc, hanswers, List.map_append, ← List.append_assoc,
      h.answer hhere hstep, shellCounts, ← List.map_append, List.append_assoc]

end Firmware.Serving

/-- After a boot that has succeeded, at rest. -/
theorem firmware_serving {now : ℤ} {bat : BatteryData} {es : List FirmwareEvent} {f : Firmware}
    {os : List ConnectRets} (hrun : firmwareMachine.run es (firmwareStart now bat) = some (f, os))
    (hserial : firmwareMachine.Along FirmwareEvent.Serial es (firmwareStart now bat))
    (hret : f.pc = .returned 0) (hrest : f.AtRest) : f.Serving f.dev.app.connectedCount := by
  obtain ⟨hsafe, hagreed⟩ := firmware_agreed hrun hserial
  have hcounts := hagreed.2
  rw [hrest.settled_eq] at hcounts
  refine ⟨hsafe, hret, hagreed.1, ?_⟩
  rw [hrest.settled_eq]
  exact Prod.ext hcounts rfl

/-- **The counts at the shell are the counts of the services.** In any session after `main` has
returned 0, with clients that come and go and other threads in between, and as long as no callback
of a connection and no command overlap: every `app gatt connect` and `app gatt disconnect`
succeeds, and the tests parse from its answer the count of connections that it leaves. What `app
sm status` reports when none is under way is that the sensor manager is armed, and the count,
which is also that of the battery service. -/
theorem session_counts {now : ℤ} {bat : BatteryData} {es₁ es₂ : List FirmwareEvent}
    {f₁ f₂ : Firmware} {os : List ConnectRets} {answers : List ShellReply}
    (hboot : firmwareMachine.run es₁ (firmwareStart now bat) = some (f₁, os))
    (hserial₁ : firmwareMachine.Along FirmwareEvent.Serial es₁ (firmwareStart now bat))
    (hret : f₁.pc = .returned 0) (hrest₁ : f₁.AtRest)
    (hsession : shellMachine.run es₂ f₁ = some (f₂, answers))
    (hserial₂ : shellMachine.Along FirmwareEvent.Serial es₂ f₁) (hrest₂ : f₂.AtRest) :
    answers.map ShellReply.count =
        (shellCounts f₁.dev.app.connectedCount es₂).map (fun count => some count.toNat) ∧
      f₂.dev.app.connectedCount = es₂.foldl FirmwareEvent.counted f₁.dev.app.connectedCount ∧
      ∀ fixed, parseSmStatus (cmdSmStatus fixed linkedDrivers f₂.dev.sys.env).2 =
        some ⟨true, f₂.dev.app.connectedCount.toNat⟩ := by
  have hserving := firmware_serving hboot hserial₁ hret hrest₁
  obtain ⟨hlast, hanswers⟩ := hserving.session hserial₂ hsession
  obtain ⟨hmanager, hbattery⟩ := hlast.counts hrest₂
  have harmed : f₂.dev.sys.env.mgr.armed = true := hlast.up .armed
  rw [Firmware.Serving.owed_of_idle (hrest₁ .shell),
    Firmware.Serving.owed_of_idle (hrest₂ .shell), List.map_nil, List.append_nil] at hanswers
  refine ⟨hanswers, hbattery, fun fixed => ?_⟩
  rw [smStatus_parsed, harmed, hmanager, hbattery]

/-- Nested connections at the shell, around one of a client. -/
def nestedConnections : List FirmwareEvent :=
  .gattConnect :: connectPieces .shell ++ .connected 1 0 0 :: connectPieces .host ++
    .gattConnect :: connectPieces .shell ++ .gattDisconnect :: disconnectPieces .shell

/-- Their ends. -/
def nestedEnds : List FirmwareEvent :=
  .disconnected 1 :: disconnectPieces .host ++ .gattDisconnect :: disconnectPieces .shell ++
    .gattDisconnect :: disconnectPieces .shell

/-- `session_counts` for them. -/
theorem session_counts_nestedConnections :
    ∃ f₁ os f₂ answers,
      firmwareMachine.run bootEarly (firmwareStart 1 { initialized := true }) = some (f₁, os) ∧
      shellMachine.run (nestedConnections ++ nestedEnds) f₁ = some (f₂, answers) ∧
      answers.map ShellReply.count = [some 1, some 3, some 2, some 0, some 0] ∧
      f₂.dev.app.connectedCount =
        (nestedConnections ++ nestedEnds).foldl FirmwareEvent.counted
          f₁.dev.app.connectedCount ∧
      ∀ fixed, parseSmStatus (cmdSmStatus fixed linkedDrivers f₂.dev.sys.env).2 =
        some ⟨true, f₂.dev.app.connectedCount.toNat⟩ := by
  have hboth : (∃ r ∈ firmwareMachine.run bootEarly (firmwareStart 1 { initialized := true }),
      (r.1.pc = .returned 0 ∧ r.1.AtRest ∧ r.1.dev.app.connectedCount = 0) ∧
        shellMachine.Along FirmwareEvent.Serial (nestedConnections ++ nestedEnds) r.1 ∧
        ∃ r' ∈ shellMachine.run (nestedConnections ++ nestedEnds) r.1, r'.1.AtRest) ∧
      firmwareMachine.Along FirmwareEvent.Serial bootEarly
        (firmwareStart 1 { initialized := true }) := by
    decide +kernel
  obtain ⟨⟨⟨f₁, os⟩, hboot, ⟨hret, hrest₁, hzero⟩, hserial₂, ⟨f₂, answers⟩, hsession, hrest₂⟩,
    hserial₁⟩ := hboth
  have hzero : f₁.dev.app.connectedCount = 0 := hzero
  have hcounts := session_counts hboot hserial₁ hret hrest₁ hsession hserial₂ hrest₂
  refine ⟨f₁, os, f₂, answers, hboot, hsession, ?_, hcounts.2⟩
  rw [hcounts.1, hzero]
  rfl

end EnvMonitor
