import EnvMonitor.Battery.Ble
import EnvMonitor.Ess.Wire
import EnvMonitor.Lib.TextReader
import EnvMonitor.Uptime

/-!
# The debug shell

`app_shell.c`: commands that make the calls a BLE client would cause and print what comes of
them. A command returns a code and appends to the text of its `ShellRun`; `shell_print` and
`shell_error` both end a line.

What a command meets is a `ShellEnv`: the sensor manager behind the reads, the battery service,
and whatever other threads do to the ESS before each of its reads. A number printed with
`%.2f` or `%.3f` is the text of a `double`, taken as any text without a newline, given for the
exact quotient.
-/

namespace EnvMonitor

variable {ρ : Type*}

/-! ### Names of characteristics -/

/-- `ess_char_names`. -/
def essCharNames : List (List Char × EssCharId) :=
  [("temp".toList, .temperature), ("humidity".toList, .humidity), ("pressure".toList, .pressure),
    ("co2".toList, .co2), ("tvoc".toList, .tvoc)]

/-- `parse_ess_char`. -/
def parseEssChar (name : List Char) : Except ℤ EssCharId :=
  match essCharNames.find? fun entry => entry.1 = name with
  | some entry => .ok entry.2
  | none => .error (-ENOENT)

/-- `ess_char_label`. -/
def essCharLabel (id : EssCharId) : List Char :=
  match essCharNames.find? fun entry => entry.2 = id with
  | some entry => entry.1
  | none => "?".toList

/-- The identifiers below `ESS_CHAR_COUNT`, in order. -/
def essCharIds : List EssCharId := [.temperature, .humidity, .pressure, .co2, .tvoc]

/-! ### Output -/

/-- A shell session: what has been printed, the service, and, as history, the GATT reads that
were answered, in order. -/
structure ShellRun (ρ : Type*) where
  text : List Char := []
  reads : List (EssCharId × List UInt8) := []
  run : EssRun ρ

/-- `shell_fprintf`. -/
def ShellRun.fprintf (part : List Char) (s : ShellRun ρ) : ShellRun ρ :=
  { s with text := s.text ++ part }

/-- `shell_print` and `shell_error`. -/
def ShellRun.print (line : List Char) (s : ShellRun ρ) : ShellRun ρ :=
  { s with text := s.text ++ line ++ ['\n'] }

/-- What the commands meet. -/
structure ShellEnv (ρ : Type*) where
  ops : ManagerOps ρ
  battery : ρ → BleBatteryState
  /-- The text of the `double` nearest to a quotient, with so many decimals. -/
  fixed : ℕ → ℚ → List Char
  fixed_line : ∀ decimals q, '\n' ∉ fixed decimals q
  /-- What other threads do to the ESS until the next read begins. -/
  others : EssRun ρ → EssRun ρ

/-- `flag ? "yes" : "no"`. -/
def yesNo (flag : Bool) : List Char := if flag then "yes".toList else "no".toList

/-- `%02x`. -/
def hexByte (b : UInt8) : List Char :=
  [Nat.digitChar (b.toNat / 16), Nat.digitChar (b.toNat % 16)]

/-- What `print_hex` prints, with a space between two bytes. -/
def hexText : List UInt8 → List Char
  | [] => []
  | [b] => hexByte b
  | b :: c :: buf => hexByte b ++ ' ' :: hexText (c :: buf)

/-- `print_hex`. -/
def printHex (buf : List UInt8) (s : ShellRun ρ) : ShellRun ρ := s.fprintf (hexText buf)

/-- A line of `print_ess_decoded` that begins with a number. -/
def decodedNumber (raw : ℤ) (rest : List Char) : List Char :=
  "  decoded: ".toList ++ Reader.signedDecimal raw ++ rest

/-- A line of `print_ess_decoded` for a gas, of which the largest value is no number. -/
def decodedGas (raw : ℤ) (unit : List Char) : List Char :=
  if raw = ESS_UNKNOWN_U16 then "  decoded: 0xFFFF (unknown)".toList else decodedNumber raw unit

/-- The line of `print_ess_decoded`. -/
def decodedLine (env : ShellEnv ρ) (id : EssCharId) (raw : ℤ) : List Char :=
  match id with
  | .temperature => decodedNumber raw (" (".toList ++ env.fixed 2 (raw / 100) ++ " C)".toList)
  | .humidity => decodedNumber raw (" (".toList ++ env.fixed 2 (raw / 100) ++ " %)".toList)
  | .pressure => decodedNumber raw (" (".toList ++ env.fixed 2 (raw / 1000) ++ " hPa)".toList)
  | .co2 => decodedGas raw " ppm".toList
  | .tvoc => decodedGas raw " ppb".toList

/-- `print_ess_decoded`. -/
def printEssDecoded (env : ShellEnv ρ) (id : EssCharId) (buf : List UInt8) (s : ShellRun ρ) :
    ShellRun ρ :=
  match essDecoded id buf with
  | some raw => s.print (decodedLine env id raw)
  | none => s

/-! ### Reads -/

/-- `BT_GATT_ERR` of an ATT error code. -/
def btGattErr : AttError → ℤ
  | .outOfRange => -0xFF
  | .valueNotAllowed => -0x13
  | .invalidOffset => -0x07

/-- `ess_service_local_read`, given a buffer of `len` bytes. -/
def essServiceLocalRead (ops : ManagerOps ρ) (id : EssCharId) (len : ℕ) (u : EssRun ρ) :
    Except ℤ (List UInt8) × EssRun ρ :=
  let (reply, u) := essRead ops id len 0 u
  (reply.mapError btGattErr, u)

/-- A command, or a part of one. -/
abbrev ShellCommand (ρ : Type*) := ShellRun ρ → ℤ × ShellRun ρ

/-- Go on if the first part has returned 0. -/
def ShellCommand.andThen (first rest : ShellCommand ρ) : ShellCommand ρ := fun s =>
  let (ret, s) := first s
  if ret ≠ 0 then (ret, s) else rest s

/-- `read_ess_char`. -/
def readEssChar (env : ShellEnv ρ) (id : EssCharId) : ShellCommand ρ := fun s =>
  match essServiceLocalRead env.ops id 8 (env.others s.run) with
  | (.error n, u) =>
    (n, { s with run := u }.print
      (essCharLabel id ++ " GATT read failed: ".toList ++ Reader.signedDecimal n))
  | (.ok buf, u) =>
    let s := { s with run := u, reads := s.reads ++ [(id, buf)] }.fprintf
      (essCharLabel id ++ " wire [".toList ++ Reader.decimal buf.length ++ "]: ".toList)
    (0, printEssDecoded env id buf ((printHex buf s).print []))

/-- `read_battery`. -/
def Shell.readBattery (env : ShellEnv ρ) : ShellCommand ρ := fun s =>
  let ble := env.battery s.run.env
  (0, s.print ("battery cache: ".toList ++
    Reader.decimal (bleBatteryServiceGetLevel ble).toNat ++ "% charging=".toList ++
    yesNo (bleBatteryServiceIsCharging ble)))

/-- `read_uptime` of the shell, at the uptime `now`. -/
def Shell.readUptime (now : ℤ) (uptime : UptimeService) : ShellCommand ρ := fun s =>
  match (EnvMonitor.readUptime now 8 0 uptime).1 with
  | .error e =>
    (btGattErr e, s.print
      ("uptime GATT read failed: ".toList ++ Reader.signedDecimal (btGattErr e)))
  | .ok buf =>
    let s := s.fprintf ("uptime wire [".toList ++ Reader.decimal buf.length ++ "]: ".toList)
    (0, ((printHex buf s).print []).print
      ("  decoded: ".toList ++ Reader.decimal (leValue buf) ++ " s".toList))

/-- `cmd_gatt_read` of a name, at the uptime `now`. -/
def cmdGattRead (env : ShellEnv ρ) (now : ℤ) (uptime : UptimeService) (name : List Char) :
    ShellCommand ρ := fun s =>
  if name = "uptime".toList then Shell.readUptime now uptime s
  else if name = "battery".toList then Shell.readBattery env s
  else
    match parseEssChar name with
    | .error ret => (ret, s.print ("unknown characteristic '".toList ++ name ++ "'".toList))
    | .ok id => readEssChar env id s

/-! ### Poll -/

/-- `poll_once`. -/
def pollOnce (env : ShellEnv ρ) : ShellCommand ρ :=
  let pollOrder : List EssCharId := [.temperature, .humidity, .pressure]
  let tail :=
    (Shell.readBattery env).andThen ((readEssChar env .co2).andThen (readEssChar env .tvoc))
  pollOrder.foldr (fun id rest => (readEssChar env id).andThen rest) tail

/-- The loop of `cmd_gatt_poll`, with `left` of `rounds` rounds to go. What happens while it
sleeps is what the other threads do before the next read. -/
def pollRounds (env : ShellEnv ρ) (rounds : ℕ) : ℕ → ShellCommand ρ
  | 0 => fun s => (0, s)
  | left + 1 => fun s =>
    (pollOnce env).andThen (pollRounds env rounds left)
      (s.print ("--- poll ".toList ++ Reader.decimal (rounds - left) ++ "/".toList ++
        Reader.decimal rounds ++ " ---".toList))

/-- The largest `unsigned long`. -/
def ULONG_MAX : ℕ := 2 ^ 32 - 1

/-- `isspace`. -/
def isSpace (c : Char) : Bool :=
  c == ' ' || c == '\t' || c == '\n' || c == '\r' || c.toNat == 11 || c.toNat == 12

/-- `strtoul` to base 10: blanks, a sign, digits, and what follows is not looked at. -/
def strtoul (text : List Char) : ℕ :=
  let value (digits : List Char) := Nat.ofDigitChars 10 (digits.takeWhile Char.isDigit) 0
  match text.dropWhile isSpace with
  | '-' :: digits =>
    if value digits > ULONG_MAX then ULONG_MAX
    else (ULONG_MAX + 1 - value digits) % (ULONG_MAX + 1)
  | '+' :: digits => min (value digits) ULONG_MAX
  | digits => min (value digits) ULONG_MAX

/-- The number of rounds that `cmd_gatt_poll` is asked for, by its arguments after its name. -/
def pollCount : List (List Char) → ℕ
  | [] => 1
  | count :: _ => strtoul count

/-- `cmd_gatt_poll`, with the arguments after its name. -/
def cmdGattPoll (env : ShellEnv ρ) (argv : List (List Char)) : ShellCommand ρ := fun s =>
  if pollCount argv = 0 then (-EINVAL, s.print "poll count must be >= 1".toList)
  else pollRounds env (pollCount argv) (pollCount argv) s

/-! ### Status -/

/-- `struct ess_char_status`, as `ess_service_get_char_status` copies it. -/
def essServiceGetCharStatus (id : EssCharId) (s : EssState) : EssSensor := s.sensor id

/-- A line of `cmd_ess_status`. -/
def essStatusLine (id : EssCharId) (st : EssSensor) : List Char :=
  essCharLabel id ++ " known=".toList ++ yesNo st.valueKnown ++ " notify=".toList ++
    yesNo st.notifyEnabled ++ " value=".toList ++ Reader.signedDecimal st.value

/-- `cmd_ess_status`, in which nothing can fail. -/
def cmdEssStatus (s : EssState) : List Char :=
  Reader.unlines (essCharIds.map fun id => essStatusLine id (essServiceGetCharStatus id s))

/-- `cmd_gatt_ccc` of a name and a switch: the code, the text and the service after it. -/
def cmdGattCcc (name switch : List Char) (s : EssState) : ℤ × List Char × EssState :=
  match parseEssChar name with
  | .error ret =>
    (ret, "unknown characteristic '".toList ++ name ++ "' (battery/uptime have no CCC)".toList
      ++ ['\n'], s)
  | .ok id =>
    if switch = "on".toList then
      (0, essCharLabel id ++ " CCC notify on".toList ++ ['\n'],
        cccCfgChanged id BT_GATT_CCC_NOTIFY s)
    else if switch = "off".toList then
      (0, essCharLabel id ++ " CCC notify off".toList ++ ['\n'], cccCfgChanged id 0 s)
    else (-EINVAL, "expected on|off, got '".toList ++ switch ++ "'".toList ++ ['\n'], s)

end EnvMonitor
