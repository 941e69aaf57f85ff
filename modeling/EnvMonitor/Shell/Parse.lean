import EnvMonitor.Lib.FixedDecimal

/-!
# Parsing the shell's output

`shell_parse.py`, with which the hardware tests read what the shell has printed. A regular
expression is a `Reader`: each of its alternatives and repetitions leaves one way to go on, so
that nothing is ever retried. One that is anchored to both ends of a line with `re.MULTILINE` is
matched against the lines of a text, the others are searched for. `\d` is taken for the digits
`0` to `9`, the only ones the firmware prints.
-/

namespace EnvMonitor

open Reader

/-! ### Results -/

/-- `EssCharStatus`. -/
structure EssCharStatus where
  name : List Char
  known : Bool
  notify : Bool
  value : ℤ
deriving DecidableEq, Repr

/-- `WireRead`. -/
structure WireRead where
  name : List Char
  nbytes : ℕ
  hexBytes : List UInt8
deriving DecidableEq, Repr

/-- `SmStatus`. -/
structure SmStatus where
  armed : Bool
  count : ℕ
deriving DecidableEq, Repr

/-- `Ccs811Status`. -/
structure Ccs811Report where
  ready : Bool
  enabled : Bool
  idle : Bool
  bleConnected : Bool
  awaitFirst1s : Bool
  mode : ℤ
  condMs : ℕ
deriving DecidableEq, Repr

/-! ### Expressions -/

/-- `(temp|humidity|pressure|co2|tvoc)`. -/
def charName : Reader (List Char) :=
  oneOf [("temp".toList, "temp".toList), ("humidity".toList, "humidity".toList),
    ("pressure".toList, "pressure".toList), ("co2".toList, "co2".toList),
    ("tvoc".toList, "tvoc".toList)]

/-- `(yes|no)`, through `_yes`. -/
def yesOrNo : Reader Bool := oneOf [("yes".toList, true), ("no".toList, false)]

/-- `[0-9a-fA-F ]`. -/
def isHexOrBlank (c : Char) : Bool :=
  c.isDigit || ('a' ≤ c && c ≤ 'f') || ('A' ≤ c && c ≤ 'F') || c == ' '

/-- `SM_STATUS_RE`. -/
def smStatusRe : Reader SmStatus := do
  word "armed=".toList
  let armed ← yesOrNo
  word " count=".toList
  return ⟨armed, ← number⟩

/-- `CONNECT_RE`. -/
def connectRe : Reader ℕ := do
  word "simulated GATT connect (count=".toList
  let count ← number
  word ")".toList
  return count

/-- `DISCONNECT_RE`. -/
def disconnectRe : Reader ℕ := do
  word "simulated GATT disconnect (count=".toList
  let count ← number
  word ")".toList
  return count

/-- `WIRE_RE`. -/
def wireRe : Reader (List Char × ℕ × List Char) := do
  let name ← charName
  word " wire [".toList
  let nbytes ← number
  word "]: ".toList
  return (name, nbytes, ← many1 isHexOrBlank)

/-- `CCS811_RE`. -/
def ccs811Re : Reader Ccs811Report := do
  word "ready=".toList
  let ready ← yesOrNo
  word " enabled=".toList
  let enabled ← yesOrNo
  word " idle=".toList
  let idle ← yesOrNo
  word " ble_connected=".toList
  let bleConnected ← yesOrNo
  word " await_1s=".toList
  let awaitFirst1s ← yesOrNo
  word " mode=".toList
  let mode ← integer
  word " cond_ms=".toList
  return ⟨ready, enabled, idle, bleConnected, awaitFirst1s, mode, ← number⟩

/-- `CCC_RE`. -/
def cccRe : Reader (List Char × Bool) := do
  let name ← charName
  word " CCC notify ".toList
  return (name, ← oneOf [("on".toList, true), ("off".toList, false)])

/-- `ESS_STATUS_RE`. -/
def essStatusRe : Reader EssCharStatus := do
  let name ← charName
  word " known=".toList
  let known ← yesOrNo
  word " notify=".toList
  let notify ← yesOrNo
  word " value=".toList
  return ⟨name, known, notify, ← integer⟩

/-- `BATTERY_RE`. -/
def batteryRe : Reader (ℕ × Bool) := do
  word "battery cache: ".toList
  let level ← number
  word "% charging=".toList
  return (level, ← yesOrNo)

/-- `DECODED_TEMP_RE`; the integer before the brackets is not used. -/
def decodedTempRe : Reader ℚ := do
  word "decoded: ".toList
  let _ ← integer
  word " (".toList
  let value ← signedFixedNumber
  word " C)".toList
  return value

/-- `DECODED_HUM_RE` and `DECODED_PRESS_RE`, which differ in the unit. -/
def decodedRe (unit : List Char) : Reader ℚ := do
  word "decoded: ".toList
  let _ ← number
  word " (".toList
  let value ← fixedNumber
  word (' ' :: (unit ++ [')']))
  return value

/-- `UPTIME_RE`. -/
def uptimeRe : Reader ℕ := do
  word "decoded: ".toList
  let seconds ← number
  word " s".toList
  return seconds

/-! ### Parsers -/

/-- The value of a hexadecimal digit. -/
def hexValue (c : Char) : Option ℕ :=
  if c.isDigit then some (c.toNat - '0'.toNat)
  else if 'a' ≤ c ∧ c ≤ 'f' then some (c.toNat - 'a'.toNat + 10)
  else if 'A' ≤ c ∧ c ≤ 'F' then some (c.toNat - 'A'.toNat + 10)
  else none

/-- `bytes.fromhex`: two digits a byte, and blanks between bytes; `none` is its `ValueError`. -/
def fromHex : List Char → Option (List UInt8)
  | [] => some []
  | [c] => if c = ' ' then some [] else none
  | c :: d :: rest =>
    if c = ' ' then fromHex (d :: rest)
    else do
      let high ← hexValue c
      let low ← hexValue d
      return UInt8.ofNat (16 * high + low) :: (← fromHex rest)

/-- `parse_sm_status`; a `ValueError` is `none`, here and below. -/
def parseSmStatus (text : List Char) : Option SmStatus := smStatusRe.search text

/-- `parse_connect_count`. -/
def parseConnectCount (text : List Char) : Option ℕ := connectRe.search text

/-- `parse_disconnect_count`. -/
def parseDisconnectCount (text : List Char) : Option ℕ := disconnectRe.search text

/-- `parse_ccs811_status`. -/
def parseCcs811Status (text : List Char) : Option Ccs811Report := ccs811Re.search text

/-- `parse_wire_reads`. -/
def parseWireReads (text : List Char) : Option (List WireRead) :=
  (wireRe.findAll text).mapM fun (name, nbytes, hex) => do
    return ⟨name, nbytes, ← fromHex hex⟩

/-- The dictionary that `parse_ess_status` builds: a later entry replaces an earlier one of the
same name. -/
def byName (found : List EssCharStatus) : List Char → Option EssCharStatus :=
  found.foldl (fun dict st => Function.update dict st.name (some st)) fun _ => none

/-- `parse_ess_status`. -/
def parseEssStatus (text : List Char) : List Char → Option EssCharStatus :=
  byName (essStatusRe.findAll text)

/-- `parse_ccc`. -/
def parseCcc (text : List Char) : Option (List Char × Bool) := (cccRe.findAll text).head?

/-- `parse_battery`. -/
def parseBattery (text : List Char) : Option (ℕ × Bool) := batteryRe.search text

/-- `parse_decoded_temp_c`, with the number that the text denotes for the `float`. -/
def parseDecodedTempC (text : List Char) : Option ℚ := decodedTempRe.search text

/-- `parse_decoded_humidity_pct`. -/
def parseDecodedHumidityPct (text : List Char) : Option ℚ := (decodedRe "%".toList).search text

/-- `parse_decoded_pressure_hpa`. -/
def parseDecodedPressureHpa (text : List Char) : Option ℚ := (decodedRe "hPa".toList).search text

/-- `parse_uptime_seconds`. -/
def parseUptimeSeconds (text : List Char) : Option ℕ := uptimeRe.search text

/-- `has_unknown_characteristic_error`. -/
def hasUnknownCharacteristicError (text : List Char) : Bool :=
  ((word "unknown characteristic".toList).search text).isSome

end EnvMonitor
