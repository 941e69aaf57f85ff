import EnvMonitor.Shell.Status

/-!
# What the tests read of a poll

`app gatt poll` reads the five characteristics in a fixed order, round after round, and stops at
the first failure. `poll_parsed` says what `parse_wire_reads` makes of its output: exactly the
reads that were answered, in order, byte for byte, and the command returns 0 if and only if these
are all reads of all rounds. Nothing is assumed of the sensor manager or of the other threads.

`ShellRun.Faithful` ties the text to the reads. `Polls ids command` is the rule for the parts of
the command: it answers the reads `ids`, or the first few of them and fails.
-/

namespace EnvMonitor

open Reader

variable {ρ : Type*}

/-! ### Bytes -/

theorem hexValue_digitChar {d : ℕ} (hd : d < 16) : hexValue (Nat.digitChar d) = some d := by
  have hall : ∀ d < 16, hexValue (Nat.digitChar d) = some d := by decide
  exact hall d hd

theorem isHexOrBlank_digitChar {d : ℕ} (hd : d < 16) :
    isHexOrBlank (Nat.digitChar d) = true ∧ Nat.digitChar d ≠ ' ' ∧ Nat.digitChar d ≠ '\n' := by
  have hall : ∀ d < 16, isHexOrBlank (Nat.digitChar d) = true ∧ Nat.digitChar d ≠ ' ' ∧
      Nat.digitChar d ≠ '\n' := by decide
  exact hall d hd

theorem nibbles_lt (b : UInt8) : b.toNat / 16 < 16 ∧ b.toNat % 16 < 16 := by
  have hb := b.toNat_lt
  omega

theorem fromHex_hexByte (b : UInt8) (rest : List Char) :
    fromHex (hexByte b ++ rest) = (fromHex rest).map (b :: ·) := by
  obtain ⟨hhigh, hlow⟩ := nibbles_lt b
  have hbyte : UInt8.ofNat (16 * (b.toNat / 16) + b.toNat % 16) = b := by
    rw [Nat.div_add_mod]
    exact UInt8.ofNat_toNat
  change fromHex (Nat.digitChar _ :: Nat.digitChar _ :: rest) = _
  rw [fromHex, if_neg (isHexOrBlank_digitChar hhigh).2.1, hexValue_digitChar hhigh,
    hexValue_digitChar hlow]
  cases fromHex rest with
  | none => rfl
  | some buf => exact congrArg (fun b => some (b :: buf)) hbyte

/-- **Bytes come back** from their hexadecimal text. -/
theorem fromHex_hexText (buf : List UInt8) : fromHex (hexText buf) = some buf := by
  induction buf using hexText.induct with
  | case1 => rfl
  | case2 b =>
    have hread := fromHex_hexByte b []
    rwa [List.append_nil] at hread
  | case3 b c buf ih =>
    have hblank : fromHex (' ' :: hexText (c :: buf)) = fromHex (hexText (c :: buf)) := by
      cases hexText (c :: buf) with
      | nil => rfl
      | cons d rest => rw [fromHex, if_pos rfl]
    rw [hexText, fromHex_hexByte, hblank, ih]
    rfl

theorem mem_hexText {buf : List UInt8} {c : Char} (h : c ∈ hexText buf) :
    isHexOrBlank c = true ∧ c ≠ '\n' := by
  have hbyte : ∀ {b : UInt8}, c ∈ hexByte b → isHexOrBlank c = true ∧ c ≠ '\n' := by
    intro b hc
    obtain ⟨hhigh, hlow⟩ := nibbles_lt b
    have hcases : c = Nat.digitChar (b.toNat / 16) ∨ c = Nat.digitChar (b.toNat % 16) := by
      simpa [hexByte] using hc
    rcases hcases with rfl | rfl
    · exact ⟨(isHexOrBlank_digitChar hhigh).1, (isHexOrBlank_digitChar hhigh).2.2⟩
    · exact ⟨(isHexOrBlank_digitChar hlow).1, (isHexOrBlank_digitChar hlow).2.2⟩
  induction buf using hexText.induct with
  | case1 => exact absurd h List.not_mem_nil
  | case2 b => exact hbyte h
  | case3 b d buf ih =>
    rcases List.mem_append.mp h with hfront | hback
    · exact hbyte hfront
    · rcases List.mem_cons.mp hback with rfl | hrest
      · decide
      · exact ih hrest

theorem hexText_ne_nil {buf : List UInt8} (h : buf ≠ []) : hexText buf ≠ [] := by
  induction buf using hexText.induct with
  | case1 => exact absurd rfl h
  | case2 b => simp [hexText, hexByte]
  | case3 b c buf _ => simp [hexText, hexByte]

/-! ### Lines -/

/-- The line in which `read_ess_char` prints the bytes. -/
def wireLine (id : EssCharId) (buf : List UInt8) : List Char :=
  essCharLabel id ++ " wire [".toList ++ decimal buf.length ++ "]: ".toList ++ hexText buf

theorem newline_notMem_wireLine (id : EssCharId) (buf : List UInt8) :
    '\n' ∉ wireLine id buf := by
  have hhex : '\n' ∉ hexText buf := fun h => (mem_hexText h).2 rfl
  simp only [wireLine, List.mem_append, newline_notMem_label, newline_notMem_decimal, hhex,
    or_false, false_or]
  decide

theorem matchLine_wireLine (id : EssCharId) {buf : List UInt8} (h : buf ≠ []) :
    wireRe.matchLine (wireLine id buf) = some (essCharLabel id, buf.length, hexText buf) := by
  have hhex : Reads isHexOrBlank (many1 isHexOrBlank) (hexText buf) (hexText buf) :=
    reads_many1 (hexText_ne_nil h) fun _ hc => (mem_hexText hc).1
  have hreads : Reads isHexOrBlank wireRe (wireLine id buf)
      (essCharLabel id, buf.length, hexText buf) := by
    rw [wireLine]
    simp only [List.append_assoc]
    refine (reads_charName id).bind ((reads_word _).bind ?_)
    refine (reads_number buf.length).bind_of_head (c := ']') (by decide) ?_
    exact (reads_word "]: ".toList).bind (hhex.map (essCharLabel id, buf.length, ·))
  exact hreads.matchLine

/-- A line that does not begin like a name is no wire line. -/
theorem wireRe_matchLine_eq_none {c : Char} (hc : c = ' ' ∨ c = '-' ∨ c = 'b')
    (line : List Char) : wireRe.matchLine (c :: line) = none := by
  have hname : charName (c :: line) = none := by
    rcases hc with rfl | rfl | rfl <;> rfl
  have hfail : wireRe (c :: line) = none := by
    change (charName (c :: line)).bind _ = none
    rw [hname]
    rfl
  rw [matchLine, hfail]

/-- Nor is the report of a failed read. -/
theorem wireRe_matchLine_failed (id : EssCharId) (line : List Char) :
    wireRe.matchLine (essCharLabel id ++ " GATT read failed: ".toList ++ line) = none := by
  have hname : charName (essCharLabel id ++ (" GATT read failed: ".toList ++ line)) =
      some (essCharLabel id, " GATT read failed: ".toList ++ line) :=
    reads_charName id _ fun _ _ => rfl
  have hfail : wireRe (essCharLabel id ++ " GATT read failed: ".toList ++ line) = none := by
    change (charName _).bind _ = none
    rw [List.append_assoc, hname]
    rfl
  rw [matchLine, hfail]

theorem decodedNumber_spec (raw : ℤ) {rest : List Char} (h : '\n' ∉ rest) :
    '\n' ∉ decodedNumber raw rest ∧ wireRe.matchLine (decodedNumber raw rest) = none := by
  constructor
  · unfold decodedNumber
    simp only [List.mem_append, newline_notMem_signedDecimal, h, or_false]
    decide
  · exact wireRe_matchLine_eq_none (Or.inl rfl)
      (" decoded: ".toList ++ signedDecimal raw ++ rest)

theorem decodedGas_spec (raw : ℤ) {unit : List Char} (h : '\n' ∉ unit) :
    '\n' ∉ decodedGas raw unit ∧ wireRe.matchLine (decodedGas raw unit) = none := by
  by_cases hunknown : raw = ESS_UNKNOWN_U16
  · rw [decodedGas, if_pos hunknown]
    exact ⟨by decide, by decide⟩
  · rw [decodedGas, if_neg hunknown]
    exact decodedNumber_spec raw h

theorem decodedLine_spec (env : ShellEnv ρ) (id : EssCharId) (raw : ℤ) :
    '\n' ∉ decodedLine env id raw ∧ wireRe.matchLine (decodedLine env id raw) = none := by
  have hunit : ∀ {q : ℚ} {unit : List Char}, '\n' ∉ unit →
      '\n' ∉ " (".toList ++ env.fixed 2 q ++ unit := by
    intro q unit hunit
    simp only [List.mem_append, env.fixed_line, hunit, or_false]
    decide
  cases id with
  | temperature => exact decodedNumber_spec raw (hunit (by decide))
  | humidity => exact decodedNumber_spec raw (hunit (by decide))
  | pressure => exact decodedNumber_spec raw (hunit (by decide))
  | co2 => exact decodedGas_spec raw (by decide)
  | tvoc => exact decodedGas_spec raw (by decide)

/-! ### Text and reads -/

/-- What `parse_wire_reads` makes of a read. -/
def wireRead (read : EssCharId × List UInt8) : WireRead where
  name := essCharLabel read.1
  nbytes := read.2.length
  hexBytes := read.2

/-- The lines printed so far hold the reads answered so far and no others, and each of these
served a value of the wire range. -/
structure ShellRun.Faithful (s : ShellRun ρ) : Prop where
  lines : ∃ ls, s.text = unlines ls ∧ (∀ line ∈ ls, '\n' ∉ line) ∧
    ls.filterMap wireRe.matchLine =
      s.reads.map fun read => (essCharLabel read.1, read.2.length, hexText read.2)
  served : ∀ read ∈ s.reads, ∃ v, read.1.InWire v ∧ read.2 = read.1.payload v

namespace ShellRun.Faithful

variable {s : ShellRun ρ}

theorem start (u : EssRun ρ) : ShellRun.Faithful { run := u } where
  lines := ⟨[], rfl, fun _ h => absurd h List.not_mem_nil, rfl⟩
  served _ h := absurd h List.not_mem_nil

/-- What happens to the service is not printed. -/
theorem withRun (h : s.Faithful) (u : EssRun ρ) : ShellRun.Faithful { s with run := u } :=
  ⟨h.lines, h.served⟩

/-- Printing a line that is no wire line. -/
theorem print (h : s.Faithful) {line : List Char} (hline : '\n' ∉ line)
    (hnone : wireRe.matchLine line = none) : (s.print line).Faithful where
  lines := by
    obtain ⟨ls, htext, hls, hreads⟩ := h.lines
    refine ⟨ls ++ [line], ?_, ?_, ?_⟩
    · simp [ShellRun.print, htext, unlines]
    · intro l hl
      rcases List.mem_append.mp hl with hold | hnew
      · exact hls l hold
      · rwa [List.mem_singleton.mp hnew]
    · rw [List.filterMap_append, hreads]
      simp [hnone, ShellRun.print]
  served := h.served

/-- Printing the wire line of a read that served a value of the wire range. -/
theorem wire (h : s.Faithful) {id : EssCharId} {v : ℤ} (hv : id.InWire v) :
    ShellRun.Faithful
      { s with
        text := s.text ++ wireLine id (id.payload v) ++ ['\n']
        reads := s.reads ++ [(id, id.payload v)] } where
  lines := by
    obtain ⟨ls, htext, hls, hreads⟩ := h.lines
    have hne : id.payload v ≠ [] := by
      intro hnil
      have hlength := length_payload id v
      rw [hnil] at hlength
      cases id <;> exact absurd hlength (by decide)
    refine ⟨ls ++ [wireLine id (id.payload v)], ?_, ?_, ?_⟩
    · simp [htext, unlines]
    · intro l hl
      rcases List.mem_append.mp hl with hold | hnew
      · exact hls l hold
      · rw [List.mem_singleton.mp hnew]
        exact newline_notMem_wireLine id _
    · rw [List.filterMap_append, hreads, List.map_append]
      simp [matchLine_wireLine id hne]
  served := by
    intro read hread
    rcases List.mem_append.mp hread with hold | hnew
    · exact h.served read hold
    · obtain rfl := List.mem_singleton.mp hnew
      exact ⟨v, hv, rfl⟩

/-- The reads are what `parse_wire_reads` finds. -/
theorem parsed (h : s.Faithful) : parseWireReads s.text = some (s.reads.map wireRead) := by
  obtain ⟨ls, htext, hls, hreads⟩ := h.lines
  have hfound := findAll_unlines_append wireRe hls []
  have hnone : wireRe.findAll [] = [] := by decide
  rw [List.append_nil, hnone, List.append_nil, hreads] at hfound
  rw [parseWireReads, htext, hfound, List.mapM_map]
  simp only [Function.comp_def, fromHex_hexText]
  exact List.mapM_pure

end ShellRun.Faithful

/-! ### Parts of the command -/

/-- The command answers the reads `ids` and returns 0, or only some first ones and fails; it
prints what it reads. -/
def Polls (ids : List EssCharId) (command : ShellCommand ρ) : Prop :=
  ∀ s : ShellRun ρ, s.Faithful → (command s).2.Faithful ∧
    ∃ done, done <+: ids ∧ (command s).2.reads.map Prod.fst = s.reads.map Prod.fst ++ done ∧
      ((command s).1 = 0 ↔ done = ids)

theorem printed_wireLine (s : ShellRun ρ) (id : EssCharId) (buf : List UInt8) :
    (printHex buf (s.fprintf
      (essCharLabel id ++ " wire [".toList ++ decimal buf.length ++ "]: ".toList))).print [] =
      { s with text := s.text ++ wireLine id buf ++ ['\n'] } := by
  simp only [ShellRun.print, printHex, ShellRun.fprintf, wireLine, List.append_assoc,
    List.nil_append]

/-- Every local read comes to something. -/
theorem essRead_comesTo (ops : ManagerOps ρ) (id : EssCharId) (u : EssRun ρ) :
    ReadOutcome (fun _ _ => True) id 8 0 (essRead ops id 8 0 u) :=
  essRead_outcome (fun _ _ _ _ _ => trivial) (fun _ _ => trivial) 8 0

/-- A read fails and says so, or it prints the bytes of a value of the wire range and what they
mean. `P` is what the read guarantees of that value. -/
theorem readEssChar_cases {env : ShellEnv ρ} {id : EssCharId} {s : ShellRun ρ} {P : ρ → ℤ → Prop}
    (houtcome : ReadOutcome P id 8 0 (essRead env.ops id 8 0 (env.others s.run))) :
    (∃ e u, (u.ess.sensor id).valueKnown = false ∧ readEssChar env id s =
        (btGattErr e, ({ s with run := u } : ShellRun ρ).print
          (essCharLabel id ++ " GATT read failed: ".toList ++ signedDecimal (btGattErr e)))) ∨
      ∃ v u, id.InWire v ∧ P u.env v ∧ readEssChar env id s =
        (0, ({ text := s.text ++ wireLine id (id.payload v) ++ ['\n']
               reads := s.reads ++ [(id, id.payload v)]
               run := u } : ShellRun ρ).print (decodedLine env id v)) := by
  rcases hread : essRead env.ops id 8 0 (env.others s.run) with ⟨reply, u⟩
  rw [hread] at houtcome
  rcases houtcome with ⟨e, herror, hunknown⟩ | ⟨-, hwire, hP, hserved⟩
  · obtain rfl : reply = .error e := herror
    refine Or.inl ⟨e, u, hunknown, ?_⟩
    simp only [readEssChar, essServiceLocalRead, hread]
    rfl
  · have hall : id.served 8 0 (u.ess.sensor id) = .ok (id.payload (u.ess.sensor id).value) :=
      served_whole id (by omega) (u.ess.sensor id)
    obtain rfl : reply = .ok (id.payload (u.ess.sensor id).value) := hserved.trans hall
    have hdecoded := essDecoded_payload hwire
    refine Or.inr ⟨(u.ess.sensor id).value, u, hwire, hP, ?_⟩
    simp only [readEssChar, essServiceLocalRead, hread, Except.mapError]
    rw [printEssDecoded, hdecoded, printed_wireLine]

theorem btGattErr_ne_zero (e : AttError) : btGattErr e ≠ 0 := by
  cases e <;> decide

/-- One read. -/
theorem polls_readEssChar (env : ShellEnv ρ) (id : EssCharId) :
    Polls [id] (readEssChar env id) := by
  intro s hs
  rcases readEssChar_cases (essRead_comesTo env.ops id (env.others s.run)) with
    ⟨e, u, -, hfailed⟩ | ⟨v, u, hwire, -, hanswered⟩
  · rw [hfailed]
    refine ⟨(hs.withRun u).print ?_ (wireRe_matchLine_failed id _), [], List.nil_prefix, ?_, ?_⟩
    · simp only [List.mem_append, newline_notMem_label, newline_notMem_signedDecimal, or_false,
        false_or]
      decide
    · exact (List.append_nil _).symm
    · simp [btGattErr_ne_zero e]
  · obtain ⟨hline, hnone⟩ := decodedLine_spec env id v
    rw [hanswered]
    refine ⟨((hs.withRun u).wire hwire).print hline hnone, [id], List.prefix_rfl, ?_, ?_⟩
    · simp [ShellRun.print]
    · simp

/-- A part that reads nothing. -/
theorem polls_readBattery (env : ShellEnv ρ) : Polls [] (Shell.readBattery env) := by
  intro s hs
  refine ⟨hs.print ?_ ?_, [], List.prefix_rfl, (List.append_nil _).symm, iff_of_true rfl rfl⟩
  · simp only [List.mem_append, newline_notMem_decimal, newline_notMem_yesNo, or_false]
    decide
  · exact wireRe_matchLine_eq_none (Or.inr (Or.inr rfl)) ("attery cache: ".toList ++ _ ++ _ ++ _)

/-- **Sequence rule.** -/
theorem Polls.andThen {ids ids' : List EssCharId} {first rest : ShellCommand ρ}
    (h : Polls ids first) (h' : Polls ids' rest) : Polls (ids ++ ids') (first.andThen rest) := by
  intro s hs
  obtain ⟨hfaithful, done, hpre, hreads, hzero⟩ := h s hs
  by_cases hret : (first s).1 = 0
  · obtain rfl := hzero.mp hret
    obtain ⟨hfaithful', done', hpre', hreads', hzero'⟩ := h' (first s).2 hfaithful
    have heq : first.andThen rest s = rest (first s).2 := if_neg (not_not.mpr hret)
    rw [heq]
    refine ⟨hfaithful', done ++ done', (List.prefix_append_right_inj done).mpr hpre', ?_, ?_⟩
    · rw [hreads', hreads, List.append_assoc]
    · rw [hzero', List.append_cancel_left_eq]
  · have heq : first.andThen rest s = first s := if_pos hret
    rw [heq]
    refine ⟨hfaithful, done, hpre.trans (List.prefix_append ids ids'), hreads, ?_⟩
    refine iff_of_false hret fun hdone => hret (hzero.mpr ?_)
    -- a part that failed has not made all of its reads
    have hlength := hpre.length_le
    have hle : ids.length ≤ done.length := by simp [hdone]
    exact hpre.eq_of_length (le_antisymm hlength hle)

theorem polls_pollOnce (env : ShellEnv ρ) : Polls essCharIds (pollOnce env) :=
  (polls_readEssChar env .temperature).andThen ((polls_readEssChar env .humidity).andThen
    ((polls_readEssChar env .pressure).andThen ((polls_readBattery env).andThen
      ((polls_readEssChar env .co2).andThen (polls_readEssChar env .tvoc)))))

theorem polls_pollRounds (env : ShellEnv ρ) (rounds left : ℕ) :
    Polls (List.replicate left essCharIds).flatten (pollRounds env rounds left) := by
  induction left with
  | zero =>
    exact fun s hs => ⟨hs, [], List.prefix_rfl, (List.append_nil _).symm, iff_of_true rfl rfl⟩
  | succ left ih =>
    intro s hs
    rw [List.replicate_succ, List.flatten_cons]
    refine ((polls_pollOnce env).andThen ih) _ (hs.print ?_ ?_)
    · simp only [List.mem_append, newline_notMem_decimal, or_false]
      decide
    · exact wireRe_matchLine_eq_none (Or.inr (Or.inl rfl)) ("-- poll ".toList ++ _ ++ _ ++ _ ++ _)

/-- **Polling round trip.** Whatever the sensor manager answers and the other threads do,
`parse_wire_reads` recovers from the output of `app gatt poll` exactly the reads that were
answered, with all their bytes, which encode values of the wire range. They are the reads of the
rounds that were asked for, temperature, humidity, pressure, CO2 and TVOC, up to the first that
failed, and the command returns 0 if and only if none did and a round was asked for. -/
theorem poll_parsed (env : ShellEnv ρ) (argv : List (List Char)) (u : EssRun ρ) :
    parseWireReads (cmdGattPoll env argv { run := u }).2.text =
        some ((cmdGattPoll env argv { run := u }).2.reads.map wireRead) ∧
      (∀ read ∈ (cmdGattPoll env argv { run := u }).2.reads,
        ∃ v, read.1.InWire v ∧ read.2 = read.1.payload v) ∧
      (cmdGattPoll env argv { run := u }).2.reads.map Prod.fst <+:
        (List.replicate (pollCount argv) essCharIds).flatten ∧
      ((cmdGattPoll env argv { run := u }).1 = 0 ↔ pollCount argv ≠ 0 ∧
        (cmdGattPoll env argv { run := u }).2.reads.map Prod.fst =
          (List.replicate (pollCount argv) essCharIds).flatten) := by
  by_cases hcount : pollCount argv = 0
  · rw [cmdGattPoll, if_pos hcount]
    have hfaithful : (ShellRun.print "poll count must be >= 1".toList { run := u }).Faithful :=
      (ShellRun.Faithful.start u).print (by decide) (by decide)
    refine ⟨hfaithful.parsed, hfaithful.served, List.nil_prefix, ?_⟩
    exact iff_of_false (show -EINVAL ≠ 0 by decide) fun h => h.1 hcount
  · obtain ⟨hfaithful, done, hpre, hreads, hzero⟩ :=
      polls_pollRounds env (pollCount argv) (pollCount argv) _ (ShellRun.Faithful.start u)
    rw [cmdGattPoll, if_neg hcount]
    have hdone : (pollRounds env (pollCount argv) (pollCount argv) { run := u }).2.reads.map
        Prod.fst = done := hreads
    refine ⟨hfaithful.parsed, hfaithful.served, hdone ▸ hpre, ?_⟩
    rw [hzero, hdone]
    exact (and_iff_right hcount).symm

end EnvMonitor
