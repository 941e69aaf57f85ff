import EnvMonitor.Shell.Poll

/-!
# What the tests read of a read

`app gatt read` for every name. `gatt_read_parsed` says how the tests tell a name that the shell
does not know, what they parse for the uptime and the battery, and that for a characteristic that
was answered they parse the bytes that were served and, for those they look at, the value in its
unit: exactly for the two that have two decimals, and rounded for the pressure, which has three.
Of the C library it takes only that it prints the nearest decimal of the nearest `double`.
-/

namespace EnvMonitor

open Reader

variable {ρ : Type*}

/-! ### The uptime -/

/-- What `read_uptime` prints. -/
def uptimeText (now : ℤ) : List Char :=
  ("uptime wire [".toList ++ decimal 8 ++ "]: ".toList ++
    hexText (leBytes 8 (uptimeSeconds now))) ++
    '\n' :: ' ' :: ' ' ::
      ("decoded: ".toList ++ (decimal (uptimeSeconds now) ++ " s".toList) ++ ['\n'])

theorem readUptime_eq (now : ℤ) (uptime : UptimeService) (s : ShellRun ρ) :
    Shell.readUptime now uptime s = (0, { s with text := s.text ++ uptimeText now }) := by
  have hlt : uptimeSeconds now < 256 ^ 8 :=
    (Nat.div_le_self _ _).trans_lt (toUnsigned_lt 64 now)
  have hread : (EnvMonitor.readUptime now 8 0 uptime).1 =
      .ok (leBytes 8 (uptimeSeconds now)) := by
    simp only [EnvMonitor.readUptime, btGattAttrRead]
    rw [if_neg (by simp), List.drop_zero, List.take_of_length_le (by simp)]
  have hvalue : leValue (leBytes 8 (uptimeSeconds now)) = uptimeSeconds now :=
    leValue_leBytes_of_lt hlt
  have hwidth : (leBytes 8 (uptimeSeconds now)).length = 8 := length_leBytes ..
  unfold uptimeText
  generalize leBytes 8 (uptimeSeconds now) = buf at hread hvalue hwidth ⊢
  simp only [Shell.readUptime, hread, hvalue, hwidth, printHex, ShellRun.print, ShellRun.fprintf,
    List.append_assoc]
  rfl

/-- The second line is what the tests look for. -/
theorem parseUptimeSeconds_uptimeText (now : ℤ) :
    parseUptimeSeconds (uptimeText now) = some (uptimeSeconds now) := by
  have hreads : Reads never uptimeRe
      ("decoded: ".toList ++ (decimal (uptimeSeconds now) ++ " s".toList)) (uptimeSeconds now) :=
    (reads_word _).bind ((reads_number _).bind_of_head (c := ' ') (by decide)
      ((reads_word " s".toList).map fun _ => uptimeSeconds now))
  have hhex : 'o' ∉ hexText (leBytes 8 (uptimeSeconds now)) :=
    fun h => absurd (mem_hexText h).1 (by decide)
  have hline : 'o' ∉ "uptime wire [".toList ++ decimal 8 ++ "]: ".toList ++
      hexText (leBytes 8 (uptimeSeconds now)) := by
    simp only [List.mem_append, hhex, or_false]
    decide
  unfold uptimeText
  rw [parseUptimeSeconds, uptimeRe, search_skip (by decide) (c := 'o') (by decide) hline,
    search_cons rfl, search_cons rfl]
  exact search_append hreads fun _ _ => rfl

/-! ### The battery -/

/-- What `read_battery` prints. -/
def batteryText (ble : BleBatteryState) : List Char :=
  "battery cache: ".toList ++ (decimal (bleBatteryServiceGetLevel ble).toNat ++
    ("% charging=".toList ++ yesNo (bleBatteryServiceIsCharging ble))) ++ ['\n']

theorem readBattery_eq (env : ShellEnv ρ) (s : ShellRun ρ) :
    Shell.readBattery env s =
      (0, { s with text := s.text ++ batteryText (env.battery s.run.env) }) := by
  unfold batteryText
  simp only [Shell.readBattery, ShellRun.print, List.append_assoc]

theorem parseBattery_batteryText (ble : BleBatteryState) :
    parseBattery (batteryText ble) =
      some ((bleBatteryServiceGetLevel ble).toNat, bleBatteryServiceIsCharging ble) := by
  have hreads : Reads never batteryRe ("battery cache: ".toList ++
      (decimal (bleBatteryServiceGetLevel ble).toNat ++
        ("% charging=".toList ++ yesNo (bleBatteryServiceIsCharging ble))))
      ((bleBatteryServiceGetLevel ble).toNat, bleBatteryServiceIsCharging ble) :=
    (reads_word _).bind ((reads_number _).bind_of_head (c := '%') (by decide)
      ((reads_word "% charging=".toList).bind ((reads_yesOrNo _).map (_, ·))))
  exact search_append hreads fun _ _ => rfl

/-! ### A characteristic -/

/-- What an answered read prints. -/
def answerText (env : ShellEnv ρ) (id : EssCharId) (v : ℤ) : List Char :=
  wireLine id (id.payload v) ++ '\n' :: (decodedLine env id v ++ ['\n'])

/-- What the tests read of the value of a characteristic, if they look at it. -/
def parseDecoded : EssCharId → List Char → Option ℚ
  | .temperature => parseDecodedTempC
  | .humidity => parseDecodedHumidityPct
  | .pressure => parseDecodedPressureHpa
  | .co2 | .tvoc => fun _ => none

/-- The value as it should be read: in degrees, percent and hectopascal. -/
def DecodedAs (id : EssCharId) (v : ℤ) (parsed : Option ℚ) : Prop :=
  match id with
  | .temperature | .humidity => parsed = some ((v : ℚ) / 100)
  | .pressure =>
    ∃ q, parsed = some q ∧ |q - (v : ℚ) / 1000| ≤ 1 / 200 + |(v : ℚ) / 1000| / 2 ^ 53
  | .co2 | .tvoc => True

theorem notMem_hexText {c : Char} (h : isHexOrBlank c = false) (buf : List UInt8) :
    c ∉ hexText buf :=
  fun hmem => Bool.false_ne_true (h.symm.trans (mem_hexText hmem).1)

/-- A letter that is neither in the name nor in the words of a wire line. -/
theorem notMem_wireLine {c : Char} {id : EssCharId}
    (hwords : c ∉ essCharLabel id ++ " wire [".toList ++ "]: ".toList) (hdigit : c.isDigit = false)
    (hhex : isHexOrBlank c = false) (buf : List UInt8) : c ∉ wireLine id buf := by
  simp only [List.mem_append, not_or] at hwords
  simp only [wireLine, List.mem_append, not_or]
  exact ⟨⟨⟨hwords.1, notMem_decimal hdigit _⟩, hwords.2⟩, notMem_hexText hhex buf⟩

/-- The decoded line is what the tests look for, after a wire line without an `o`. -/
theorem search_answerText {r : Reader ℚ} {f : Unit → Reader ℚ}
    (hr : r = word "decoded: ".toList >>= f) {line text : List Char} (hline : 'o' ∉ line) {q : ℚ}
    (hreads : Reads never r ("decoded: ".toList ++ text) q) :
    r.search (line ++ '\n' :: (("  decoded: ".toList ++ text) ++ ['\n'])) = some q := by
  have htext : ("  decoded: ".toList ++ text) ++ ['\n'] =
      ' ' :: ' ' :: (("decoded: ".toList ++ text) ++ ['\n']) := rfl
  have hfound : r.search (("decoded: ".toList ++ text) ++ ['\n']) = some q :=
    search_append hreads fun _ _ => rfl
  subst hr
  rw [htext, search_skip (by decide) (c := 'o') (by decide) hline, search_cons rfl,
    search_cons rfl, hfound]

theorem reads_decodedRe (unit : List Char) (n k : ℕ) :
    Reads never (decodedRe unit) ("decoded: ".toList ++ (decimal n ++ (" (".toList ++
      (fixedDecimal 2 k ++ ' ' :: (unit ++ [')']))))) ((k : ℚ) / 10 ^ 2) := by
  refine (reads_word _).bind ((reads_number n).bind_of_head (c := ' ') (by decide) ?_)
  refine (reads_word " (".toList).bind ?_
  refine (reads_fixedNumber (by omega) k).bind_of_head (c := ' ') (by decide) ?_
  exact (reads_word (' ' :: (unit ++ [')']))).map fun _ => (k : ℚ) / 10 ^ 2

theorem reads_decodedTempRe (n k : ℤ) :
    Reads never decodedTempRe ("decoded: ".toList ++ (signedDecimal n ++ (" (".toList ++
      (signedFixedDecimal 2 k ++ " C)".toList)))) ((k : ℚ) / 10 ^ 2) := by
  refine (reads_word _).bind ((reads_integer n).bind_of_head (c := ' ') (by decide) ?_)
  refine (reads_word " (".toList).bind ?_
  refine (reads_signedFixedNumber (by omega) k).bind_of_head (c := ' ') (by decide) ?_
  exact (reads_word " C)".toList).map fun _ => (k : ℚ) / 10 ^ 2

theorem decodedNumber_eq (raw : ℤ) (number unit : List Char) :
    decodedNumber raw (" (".toList ++ number ++ unit) =
      "  decoded: ".toList ++ (signedDecimal raw ++ (" (".toList ++ (number ++ unit))) := by
  unfold decodedNumber
  simp only [List.append_assoc]

theorem signedDecimal_of_nonneg {i : ℤ} (h : 0 ≤ i) : signedDecimal i = decimal i.natAbs :=
  if_neg (not_lt.mpr h)

theorem signedFixedDecimal_of_nonneg {d : ℕ} {k : ℤ} (h : 0 ≤ k) :
    signedFixedDecimal d k = fixedDecimal d k.natAbs :=
  if_neg (not_lt.mpr h)

/-- **The value is read back** in its unit. -/
theorem decodedAs_parseDecoded {env : ShellEnv ρ} (hfixed : PrintsDoubles env.fixed)
    {id : EssCharId} {v : ℤ} (hv : id.InWire v) :
    DecodedAs id v (parseDecoded id (answerText env id v)) := by
  have hhundred : (v : ℚ) / 100 = (v : ℚ) / 10 ^ 2 := by norm_num
  cases id with
  | temperature =>
    obtain ⟨hlo, hhi⟩ : -32768 ≤ v ∧ v < 32768 := hv
    have hprinted : env.fixed 2 ((v : ℚ) / 100) = signedFixedDecimal 2 v := by
      rw [hhundred]
      exact hfixed.exact 2 (by rw [abs_lt]; omega)
    have hline : 'o' ∉ wireLine .temperature (EssCharId.temperature.payload v) :=
      notMem_wireLine (by decide) (by decide) (by decide) _
    change parseDecodedTempC _ = _
    rw [answerText, decodedLine, decodedNumber_eq, hprinted, hhundred]
    exact search_answerText rfl hline (reads_decodedTempRe v v)
  | humidity =>
    obtain ⟨hlo, hhi⟩ : 0 ≤ v ∧ v < 65536 := hv
    have hprinted : env.fixed 2 ((v : ℚ) / 100) = fixedDecimal 2 v.natAbs := by
      rw [hhundred, ← signedFixedDecimal_of_nonneg hlo]
      exact hfixed.exact 2 (by rw [abs_lt]; omega)
    have hline : 'o' ∉ wireLine .humidity (EssCharId.humidity.payload v) :=
      notMem_wireLine (by decide) (by decide) (by decide) _
    have hcast : ((v.natAbs : ℕ) : ℚ) = v := by
      rw [Nat.cast_natAbs, abs_of_nonneg hlo]
    change parseDecodedHumidityPct _ = _
    rw [answerText, decodedLine, decodedNumber_eq, hprinted, hhundred,
      signedDecimal_of_nonneg hlo, ← hcast]
    exact search_answerText rfl hline (reads_decodedRe "%".toList v.natAbs v.natAbs)
  | pressure =>
    obtain ⟨hlo, hhi⟩ : 0 ≤ v ∧ v < 2147483648 := hv
    have hq : (0 : ℚ) ≤ (v : ℚ) / 1000 := by positivity
    obtain ⟨k, hnear, htext⟩ := hfixed.near 2 ((v : ℚ) / 1000)
    have hk : 0 ≤ k := by
      have hlow := (abs_le.mp hnear).1
      rw [abs_of_nonneg hq] at hlow
      have hgt : (-1 : ℚ) < k := by linarith
      have hint : (-1 : ℤ) < k := by exact_mod_cast hgt
      omega
    have hprinted : env.fixed 2 ((v : ℚ) / 1000) = fixedDecimal 2 k.natAbs := by
      rw [htext (Or.inl hq), signedFixedDecimal_of_nonneg hk]
    have hline : 'o' ∉ wireLine .pressure (EssCharId.pressure.payload v) :=
      notMem_wireLine (by decide) (by decide) (by decide) _
    have hcast : ((k.natAbs : ℕ) : ℚ) = k := by
      rw [Nat.cast_natAbs, abs_of_nonneg hk]
    refine ⟨(k : ℚ) / 10 ^ 2, ?_, hnear.trans_eq (by norm_num)⟩
    change parseDecodedPressureHpa _ = _
    rw [answerText, decodedLine, decodedNumber_eq, hprinted, signedDecimal_of_nonneg hlo, ← hcast]
    exact search_answerText rfl hline (reads_decodedRe "hPa".toList v.natAbs k.natAbs)
  | co2 => trivial
  | tvoc => trivial

/-! ### Names that are not known -/

theorem hasUnknown_eq_false {c : Char} (hc : c ∈ "unknown characteristic".toList)
    {text : List Char} (h : c ∉ text) : hasUnknownCharacteristicError text = false := by
  have hword : word "unknown characteristic".toList =
      (word "unknown characteristic".toList >>= pure : Reader Unit) := (bind_pure _).symm
  rw [hasUnknownCharacteristicError, hword, search_eq_none hc h]
  rfl

theorem hasUnknown_append (rest : List Char) :
    hasUnknownCharacteristicError ("unknown characteristic".toList ++ rest) = true := by
  rw [hasUnknownCharacteristicError, search_append (reads_word _) fun _ _ => rfl]
  rfl

/-- What is printed with decimals has no letters. -/
theorem notMem_fixed {env : ShellEnv ρ} (hfixed : PrintsDoubles env.fixed) {q : ℚ}
    (hq : 0 ≤ q ∨ ∃ n : ℤ, |n| < 2 ^ 52 ∧ q = (n : ℚ) / 10 ^ 2) : 'k' ∉ env.fixed 2 q := by
  obtain ⟨k, hk⟩ : ∃ k, env.fixed 2 q = signedFixedDecimal 2 k := by
    rcases hq with hpos | ⟨n, hn, rfl⟩
    · obtain ⟨k, -, htext⟩ := hfixed.near 2 q
      exact ⟨k, htext (Or.inl hpos)⟩
    · exact ⟨n, hfixed.exact 2 hn⟩
  rw [hk]
  exact fun hmem => absurd (mem_signedFixedDecimal hmem) (by decide)

/-- A line of the value as a number lacks the letters that the words around it lack. -/
theorem notMem_decodedNumber {c : Char} (hdigit : c.isDigit = false) (hdash : c ≠ '-')
    (hwords : c ∉ "  decoded: ".toList) (raw : ℤ) {rest : List Char} (hrest : c ∉ rest) :
    c ∉ decodedNumber raw rest := by
  unfold decodedNumber
  exact List.not_mem_append
    (List.not_mem_append hwords (notMem_signedDecimal hdigit hdash raw)) hrest

/-- An answered read is not taken for a name that is not known. -/
theorem hasUnknown_answerText {env : ShellEnv ρ} (hfixed : PrintsDoubles env.fixed)
    {id : EssCharId} {v : ℤ} (hv : id.InWire v) :
    hasUnknownCharacteristicError (answerText env id v) = false := by
  have hnumber : ∀ {q : ℚ} {unit : List Char},
      (0 ≤ q ∨ ∃ n : ℤ, |n| < 2 ^ 52 ∧ q = (n : ℚ) / 10 ^ 2) → 'k' ∉ unit →
      'k' ∉ decodedNumber v (" (".toList ++ env.fixed 2 q ++ unit) := fun hq hunit =>
    notMem_decodedNumber (by decide) (by decide) (by decide) v
      (List.not_mem_append (List.not_mem_append (by decide) (notMem_fixed hfixed hq)) hunit)
  have hgas : ∀ {unit : List Char}, 'h' ∉ unit → 'h' ∉ decodedGas v unit := by
    intro unit hunit
    rw [decodedGas]
    split_ifs
    · decide
    · exact notMem_decodedNumber (by decide) (by decide) (by decide) v hunit
  have hanswer : ∀ {c : Char}, c ∈ "unknown characteristic".toList → c ≠ '\n' →
      c ∉ wireLine id (id.payload v) → c ∉ decodedLine env id v →
      hasUnknownCharacteristicError (answerText env id v) = false := by
    intro c hc hne hwire hdecoded
    refine hasUnknown_eq_false hc (List.not_mem_append hwire ?_)
    rw [List.mem_cons, List.mem_append, List.mem_singleton, not_or, not_or]
    exact ⟨hne, hdecoded, hne⟩
  cases id with
  | temperature =>
    obtain ⟨hlo, hhi⟩ : -32768 ≤ v ∧ v < 32768 := hv
    refine hanswer (c := 'k') (by decide) (by decide)
      (notMem_wireLine (by decide) (by decide) (by decide) _) (hnumber (Or.inr ?_) (by decide))
    exact ⟨v, by rw [abs_lt]; omega, by norm_num⟩
  | humidity =>
    obtain ⟨hlo, hhi⟩ : 0 ≤ v ∧ v < 65536 := hv
    exact hanswer (c := 'k') (by decide) (by decide)
      (notMem_wireLine (by decide) (by decide) (by decide) _)
      (hnumber (Or.inl (by positivity)) (by decide))
  | pressure =>
    obtain ⟨hlo, hhi⟩ : 0 ≤ v ∧ v < 2147483648 := hv
    exact hanswer (c := 'k') (by decide) (by decide)
      (notMem_wireLine (by decide) (by decide) (by decide) _)
      (hnumber (Or.inl (by positivity)) (by decide))
  | co2 =>
    exact hanswer (c := 'h') (by decide) (by decide)
      (notMem_wireLine (by decide) (by decide) (by decide) _) (hgas (by decide))
  | tvoc =>
    exact hanswer (c := 'h') (by decide) (by decide)
      (notMem_wireLine (by decide) (by decide) (by decide) _) (hgas (by decide))

/-- Nor is a read that failed. -/
theorem hasUnknown_failed (id : EssCharId) (e : AttError) :
    hasUnknownCharacteristicError (essCharLabel id ++ " GATT read failed: ".toList ++
      signedDecimal (btGattErr e) ++ ['\n']) = false := by
  refine hasUnknown_eq_false (c := 'k') (by decide) ?_
  simp only [List.mem_append, notMem_signedDecimal (c := 'k') (by decide) (by decide), or_false]
  cases id <;> decide

theorem hasUnknown_uptimeText (now : ℤ) :
    hasUnknownCharacteristicError (uptimeText now) = false := by
  refine hasUnknown_eq_false (c := 'k') (by decide) ?_
  unfold uptimeText
  simp only [List.mem_append, List.mem_cons, notMem_decimal (c := 'k') (by decide),
    notMem_hexText (c := 'k') (by decide), or_false]
  decide

theorem hasUnknown_batteryText (ble : BleBatteryState) :
    hasUnknownCharacteristicError (batteryText ble) = false := by
  refine hasUnknown_eq_false (c := 'k') (by decide) ?_
  unfold batteryText
  simp only [List.mem_append, notMem_decimal (c := 'k') (by decide), false_or]
  cases bleBatteryServiceIsCharging ble <;> decide

/-! ### The command -/

/-- The names that `app gatt read` takes. -/
def KnownName (name : List Char) : Prop :=
  name = "uptime".toList ∨ name = "battery".toList ∨ ∃ id, name = essCharLabel id

theorem label_ne (id : EssCharId) :
    essCharLabel id ≠ "uptime".toList ∧ essCharLabel id ≠ "battery".toList := by
  cases id <;> decide

theorem cmdGattRead_label (env : ShellEnv ρ) (now : ℤ) (uptime : UptimeService) (id : EssCharId)
    (s : ShellRun ρ) :
    cmdGattRead env now uptime (essCharLabel id) s = readEssChar env id s := by
  rw [cmdGattRead, if_neg (label_ne id).1, if_neg (label_ne id).2, parseEssChar_label]

/-- What the tests make of the read of a characteristic, of whose value the read guarantees `P`. -/
theorem readEssChar_parsed {env : ShellEnv ρ} (hfixed : PrintsDoubles env.fixed) {id : EssCharId}
    {u : EssRun ρ} {P : ρ → ℤ → Prop}
    (houtcome : ReadOutcome P id 8 0 (essRead env.ops id 8 0 (env.others u))) :
    let out := readEssChar env id { run := u }
    hasUnknownCharacteristicError out.2.text = false ∧ out.1 ≠ -ENOENT ∧
      (out.1 ≠ 0 ∧ parseWireReads out.2.text = some [] ∧
          (out.2.run.ess.sensor id).valueKnown = false ∨
        out.1 = 0 ∧ ∃ v, id.InWire v ∧ P out.2.run.env v ∧
          parseWireReads out.2.text = some [wireRead (id, id.payload v)] ∧
          DecodedAs id v (parseDecoded id out.2.text)) := by
  intro out
  obtain ⟨hfaithful, -⟩ := polls_readEssChar env id { run := u } (ShellRun.Faithful.start u)
  have hwire : parseWireReads out.2.text = some (out.2.reads.map wireRead) := hfaithful.parsed
  rw [hwire]
  rcases @readEssChar_cases _ env id { run := u } P houtcome with
    ⟨e, u', hunknown, hout⟩ | ⟨v, u', hv, hP, hout⟩
  · have hcode : btGattErr e ≠ -ENOENT := by cases e <;> decide
    rw [show out = _ from hout]
    exact ⟨hasUnknown_failed id e, hcode, Or.inl ⟨btGattErr_ne_zero e, rfl, hunknown⟩⟩
  · have htext : out.2.text = answerText env id v := by
      rw [show out = _ from hout]
      simp [ShellRun.print, answerText]
    rw [htext, show out = _ from hout]
    exact ⟨hasUnknown_answerText hfixed hv, show (0 : ℤ) ≠ -ENOENT by decide,
      Or.inr ⟨rfl, v, hv, hP, rfl, decodedAs_parseDecoded hfixed hv⟩⟩

/-- **What the tests read of a read.** For every name, with a C library that prints the nearest
decimal of the nearest `double`, and whatever the sensor manager answers and other threads do:
the tests find the error, and the command returns `-ENOENT`, exactly if the shell does not know
the name, and then nothing has happened to the service. The uptime and the battery are read, and
parsed as they are. A characteristic is either not answered, and then no read is parsed, or it is,
and then the tests parse the bytes of a value of the wire range and, where they look at it, the
value itself. -/
theorem gatt_read_parsed {env : ShellEnv ρ} (hfixed : PrintsDoubles env.fixed) (now : ℤ)
    (uptime : UptimeService) (name : List Char) (u : EssRun ρ) :
    let out := cmdGattRead env now uptime name { run := u }
    (hasUnknownCharacteristicError out.2.text = true ↔ ¬ KnownName name) ∧
      (out.1 = -ENOENT ↔ ¬ KnownName name) ∧
      (¬ KnownName name → out.2.run = u) ∧
      (name = "uptime".toList →
        out.1 = 0 ∧ parseUptimeSeconds out.2.text = some (uptimeSeconds now)) ∧
      (name = "battery".toList → out.1 = 0 ∧ parseBattery out.2.text =
        some ((bleBatteryServiceGetLevel (env.battery u.env)).toNat,
          bleBatteryServiceIsCharging (env.battery u.env))) ∧
      ∀ id, name = essCharLabel id →
        out.1 ≠ 0 ∧ parseWireReads out.2.text = some [] ∨
          out.1 = 0 ∧ ∃ v, id.InWire v ∧
            parseWireReads out.2.text = some [wireRead (id, id.payload v)] ∧
            DecodedAs id v (parseDecoded id out.2.text) := by
  intro out
  by_cases hknown : KnownName name
  · -- the command has found no error in the name
    suffices hread : hasUnknownCharacteristicError out.2.text = false ∧ out.1 ≠ -ENOENT ∧
        (name = "uptime".toList →
          out.1 = 0 ∧ parseUptimeSeconds out.2.text = some (uptimeSeconds now)) ∧
        (name = "battery".toList → out.1 = 0 ∧ parseBattery out.2.text =
          some ((bleBatteryServiceGetLevel (env.battery u.env)).toNat,
            bleBatteryServiceIsCharging (env.battery u.env))) ∧
        ∀ id, name = essCharLabel id →
          out.1 ≠ 0 ∧ parseWireReads out.2.text = some [] ∨
            out.1 = 0 ∧ ∃ v, id.InWire v ∧
              parseWireReads out.2.text = some [wireRead (id, id.payload v)] ∧
              DecodedAs id v (parseDecoded id out.2.text) from
      ⟨iff_of_false (by simp [hread.1]) (not_not.mpr hknown),
        iff_of_false hread.2.1 (not_not.mpr hknown), fun hno => absurd hknown hno, hread.2.2⟩
    rcases hknown with rfl | rfl | ⟨id, rfl⟩
    · have hout : out = (0, { run := u, text := uptimeText now }) := readUptime_eq now uptime _
      rw [hout]
      refine ⟨hasUnknown_uptimeText now, show (0 : ℤ) ≠ -ENOENT by decide,
        fun _ => ⟨rfl, parseUptimeSeconds_uptimeText now⟩, fun hno => absurd hno (by decide),
        fun id hid => absurd hid.symm (label_ne id).1⟩
    · have hout : out = (0, { ({ run := u } : ShellRun ρ) with
          text := batteryText (env.battery u.env) }) :=
        readBattery_eq env _
      rw [hout]
      refine ⟨hasUnknown_batteryText _, show (0 : ℤ) ≠ -ENOENT by decide,
        fun hno => absurd hno (by decide), fun _ => ⟨rfl, parseBattery_batteryText _⟩,
        fun id hid => absurd hid.symm (label_ne id).2⟩
    · have hout : out = readEssChar env id { run := u } := cmdGattRead_label ..
      rw [hout]
      obtain ⟨hno, hret, hparsed⟩ :=
        readEssChar_parsed hfixed (essRead_comesTo env.ops id (env.others u))
      refine ⟨hno, hret, fun h => absurd h (label_ne id).1, fun h => absurd h (label_ne id).2,
        fun id' hid => ?_⟩
      obtain rfl := essCharLabel_inj hid
      rcases hparsed with ⟨hcode, hreads, -⟩ | ⟨hcode, v, hv, -, hreads⟩
      · exact Or.inl ⟨hcode, hreads⟩
      · exact Or.inr ⟨hcode, v, hv, hreads⟩
  · -- the name is not looked at any further
    have hparse : parseEssChar name = .error (-ENOENT) := by
      cases hname : parseEssChar name with
      | ok id => exact absurd (Or.inr (Or.inr ⟨id, parseEssChar_eq_ok_iff.mp hname⟩)) hknown
      | error ret => rw [parseEssChar_eq_error hname]
    have hout : out = (-ENOENT, ({ run := u } : ShellRun ρ).print
        ("unknown characteristic '".toList ++ name ++ "'".toList)) := by
      change cmdGattRead env now uptime name { run := u } = _
      rw [cmdGattRead, if_neg fun h => hknown (Or.inl h),
        if_neg fun h => hknown (Or.inr (Or.inl h)), hparse]
    have htext : out.2.text =
        "unknown characteristic".toList ++ (" '".toList ++ name ++ "'".toList ++ ['\n']) := by
      rw [hout]
      rfl
    refine ⟨iff_of_true ?_ hknown, iff_of_true (by rw [hout]) hknown, fun _ => by rw [hout]; rfl,
      fun h => absurd (Or.inl h) hknown, fun h => absurd (Or.inr (Or.inl h)) hknown,
      fun id h => absurd (Or.inr (Or.inr ⟨id, h⟩)) hknown⟩
    rw [htext]
    exact hasUnknown_append _

/-- A shell of its own, over one snapshot with a pressure of 101.3255 kPa. -/
def steadyShell : ShellEnv Unit where
  ops := .fixed true { sensorDataZero with
    pressure := .fin (1013255 / 10000)
    validMask := SensorSelect.pressure }
  battery _ := { level := 80, initialized := true }
  fixed := nearestDecimal
  fixed_line := newline_notMem_nearestDecimal
  others := id

/-- `gatt_read_parsed` at the pressure. -/
theorem gatt_read_parsed_pressure :
    let out := cmdGattRead steadyShell 0 {} "pressure".toList { run := ⟨essInitialized, [], ()⟩ }
    hasUnknownCharacteristicError out.2.text = false ∧
      (out.1 ≠ 0 ∧ parseWireReads out.2.text = some [] ∨
        out.1 = 0 ∧ ∃ v, EssCharId.pressure.InWire v ∧
          parseWireReads out.2.text = some [wireRead (.pressure, EssCharId.pressure.payload v)] ∧
          DecodedAs .pressure v (parseDecodedPressureHpa out.2.text)) := by
  intro out
  have hfixed : PrintsDoubles steadyShell.fixed := printsDoubles_nearestDecimal
  obtain ⟨hunknown, -, -, -, -, hread⟩ := gatt_read_parsed hfixed 0 {}
    (essCharLabel .pressure) ⟨essInitialized, [], ()⟩
  refine ⟨Bool.eq_false_iff.mpr fun hyes => hunknown.mp hyes ?_, hread .pressure rfl⟩
  exact Or.inr (Or.inr ⟨.pressure, rfl⟩)

end EnvMonitor
