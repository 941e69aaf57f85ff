import EnvMonitor.Ess.ValidRange
import EnvMonitor.Ess.Writes
import EnvMonitor.Shell.Commands
import EnvMonitor.Shell.Parse

/-!
# What the tests read of the ESS

`ess_status_parsed`: `parse_ess_status` recovers from the output of `app ess status` the known
flag, the notify flag and the value of each characteristic, and nothing else. With it,
`ccc_confirmed` says what a tester can rely on after `app gatt ccc`: the confirmation is parsed
exactly if the command has succeeded, and it has then changed the one notify flag that it names.
`ccc_persists` carries that flag over any run without another CCC change of the characteristic.
-/

namespace EnvMonitor

open Reader

/-! ### Printed pieces -/

theorem newline_notMem_decimal (n : ℕ) : '\n' ∉ decimal n := notMem_decimal (by decide) n

theorem newline_notMem_signedDecimal (i : ℤ) : '\n' ∉ signedDecimal i :=
  notMem_signedDecimal (by decide) (by decide) i

theorem newline_notMem_yesNo (flag : Bool) : '\n' ∉ yesNo flag := by
  cases flag <;> decide

theorem newline_notMem_label (id : EssCharId) : '\n' ∉ essCharLabel id := by
  cases id <;> decide

theorem reads_charName (id : EssCharId) :
    Reads never charName (essCharLabel id) (essCharLabel id) := by
  refine reads_oneOf (by decide) ?_
  cases id <;> decide

theorem reads_yesOrNo (flag : Bool) : Reads never yesOrNo (yesNo flag) flag := by
  refine reads_oneOf (by decide) ?_
  cases flag <;> decide

/-- The names that the shell takes are those that it prints. -/
theorem parseEssChar_eq_ok_iff {name : List Char} {id : EssCharId} :
    parseEssChar name = .ok id ↔ name = essCharLabel id := by
  have htable : ∀ entry ∈ essCharNames, entry.1 = essCharLabel entry.2 := by decide
  constructor
  · intro h
    rw [parseEssChar] at h
    split at h
    next entry hentry =>
      have hname : entry.1 = name := by simpa using List.find?_some hentry
      have hid : entry.2 = id := Except.ok.inj h
      rw [← hname, ← hid]
      exact htable entry (List.mem_of_find?_eq_some hentry)
    next => exact absurd h (by simp)
  · rintro rfl
    cases id <;> decide

theorem parseEssChar_eq_error {name : List Char} {ret : ℤ} (h : parseEssChar name = .error ret) :
    ret = -ENOENT := by
  rw [parseEssChar] at h
  split at h
  · exact absurd h (by simp)
  · exact (Except.error.inj h).symm

@[simp]
theorem parseEssChar_label (id : EssCharId) : parseEssChar (essCharLabel id) = .ok id :=
  parseEssChar_eq_ok_iff.mpr rfl

theorem essCharLabel_inj {id id' : EssCharId} (h : essCharLabel id = essCharLabel id') :
    id = id' :=
  Except.ok.inj ((parseEssChar_label id).symm.trans (parseEssChar_eq_ok_iff.mpr h))

/-! ### Status -/

/-- What the tests keep of a characteristic. -/
def essCharStatus (id : EssCharId) (st : EssSensor) : EssCharStatus where
  name := essCharLabel id
  known := st.valueKnown
  notify := st.notifyEnabled
  value := st.value

theorem reads_essStatusLine (id : EssCharId) (st : EssSensor) :
    Reads Char.isDigit essStatusRe (essStatusLine id st) (essCharStatus id st) := by
  rw [essStatusLine]
  simp only [List.append_assoc]
  refine (reads_charName id).bind ((reads_word _).bind ?_)
  refine (reads_yesOrNo _).bind ((reads_word _).bind ?_)
  refine (reads_yesOrNo _).bind ((reads_word _).bind ?_)
  exact (reads_integer st.value).map (EssCharStatus.mk _ _ _)

/-- Looking a name up in the dictionary of entries of different names. -/
theorem byName_eq_find? {found : List EssCharStatus}
    (hnames : found.Pairwise fun x y => x.name ≠ y.name) (name : List Char) :
    byName found name = found.find? fun st => st.name = name := by
  have hfold : ∀ dict : List Char → Option EssCharStatus,
      found.foldl (fun (dict : List Char → Option EssCharStatus) st =>
        Function.update dict st.name (some st)) dict name =
        (found.find? fun st => st.name = name).or (dict name) := by
    induction found with
    | nil => exact fun dict => rfl
    | cons st found ih =>
      intro dict
      rw [List.foldl_cons, ih hnames.of_cons, List.find?_cons]
      by_cases hname : st.name = name
      · -- no later entry has this name
        have hlater : (found.find? fun st => st.name = name) = none := by
          rw [List.find?_eq_none]
          intro st' hmem heq
          exact List.rel_of_pairwise_cons hnames hmem (hname.trans (of_decide_eq_true heq).symm)
        simp [hlater, hname]
      · simp [Function.update_of_ne (Ne.symm hname), hname]
  rw [byName, hfold, Option.or_none]

/-- The lines of `app ess status` are found in order. -/
theorem essStatusRe_findAll (s : EssState) :
    essStatusRe.findAll (cmdEssStatus s) =
      essCharIds.map fun id => essCharStatus id (s.sensor id) := by
  have hlines : ∀ line ∈ essCharIds.map fun id => essStatusLine id (s.sensor id),
      '\n' ∉ line := by
    intro line hline
    obtain ⟨id, -, rfl⟩ := List.mem_map.mp hline
    simp only [essStatusLine, List.mem_append, newline_notMem_label, newline_notMem_yesNo,
      newline_notMem_signedDecimal, or_false, false_or]
    decide
  have hsplit := findAll_unlines_append essStatusRe hlines []
  rw [List.append_nil] at hsplit
  have hmatch : ∀ id, essStatusRe.matchLine (essStatusLine id (s.sensor id)) =
      some (essCharStatus id (s.sensor id)) := fun id => (reads_essStatusLine id _).matchLine
  have hnone : essStatusRe.findAll [] = [] := by decide
  rw [cmdEssStatus]
  simp only [essServiceGetCharStatus]
  rw [hsplit, hnone, List.append_nil, List.filterMap_map]
  simp only [Function.comp_def, hmatch]
  exact congrFun List.filterMap_eq_map _

/-- The entries of the characteristics are looked up as their names are parsed. -/
theorem byName_essCharStatus (sensor : EssCharId → EssSensor) (name : List Char) :
    byName (essCharIds.map fun id => essCharStatus id (sensor id)) name =
      (parseEssChar name).toOption.map fun id => essCharStatus id (sensor id) := by
  have hnames : (essCharIds.map fun id => essCharStatus id (sensor id)).Pairwise
      fun x y => x.name ≠ y.name := by
    rw [List.pairwise_map]
    change essCharIds.Pairwise fun id id' => essCharLabel id ≠ essCharLabel id'
    decide
  rw [byName_eq_find? hnames, List.find?_map]
  cases hname : parseEssChar name with
  | error ret =>
    have hno : essCharIds.find? ((fun st : EssCharStatus => decide (st.name = name)) ∘ fun id =>
        essCharStatus id (sensor id)) = none := by
      rw [List.find?_eq_none]
      intro id _ heq
      have hlabel : name = essCharLabel id := (of_decide_eq_true heq).symm
      rw [parseEssChar_eq_ok_iff.mpr hlabel] at hname
      cases hname
    rw [hno]
    rfl
  | ok id =>
    obtain rfl := parseEssChar_eq_ok_iff.mp hname
    have hfind : essCharIds.find? ((fun st : EssCharStatus =>
        decide (st.name = essCharLabel id)) ∘ fun id => essCharStatus id (sensor id)) =
        some id := by
      cases id <;> rfl
    rw [hfind]
    rfl

/-- **The status round trip.** From the output of `app ess status` the tests read back, for every
state of the service, the flags and the value of each characteristic under its name, and find no
other name. -/
theorem ess_status_parsed (s : EssState) (name : List Char) :
    parseEssStatus (cmdEssStatus s) name =
      (parseEssChar name).toOption.map fun id => essCharStatus id (s.sensor id) := by
  rw [parseEssStatus, essStatusRe_findAll, byName_essCharStatus]

/-! ### CCC -/

/-- `on` or `off`. -/
def onOff (flag : Bool) : List Char := if flag then "on".toList else "off".toList

/-- The line that confirms a CCC change. -/
def cccLine (id : EssCharId) (flag : Bool) : List Char :=
  essCharLabel id ++ " CCC notify ".toList ++ onOff flag

theorem newline_notMem_cccLine (id : EssCharId) (flag : Bool) : '\n' ∉ cccLine id flag := by
  cases id <;> cases flag <;> decide

theorem reads_cccLine (id : EssCharId) (flag : Bool) :
    Reads never cccRe (cccLine id flag) (essCharLabel id, flag) := by
  have hswitch : Reads never (oneOf [("on".toList, true), ("off".toList, false)]) (onOff flag)
      flag := by
    refine reads_oneOf (by decide) ?_
    cases flag <;> decide
  rw [cccLine]
  simp only [List.append_assoc]
  exact (reads_charName id).bind ((reads_word _).bind (hswitch.map (essCharLabel id, ·)))

/-- What the command does for a name of the table. -/
theorem cmdGattCcc_label (id : EssCharId) (flag : Bool) (s : EssState) :
    cmdGattCcc (essCharLabel id) (onOff flag) s =
      (0, unlines [cccLine id flag],
        cccCfgChanged id (if flag then BT_GATT_CCC_NOTIFY else 0) s) := by
  rw [cmdGattCcc, parseEssChar_label]
  cases flag
  · simp [onOff, cccLine, unlines]
  · simp [onOff, cccLine, unlines]

theorem parseCcc_line {line : List Char} (hline : '\n' ∉ line) :
    parseCcc (unlines [line]) = cccRe.matchLine line := by
  have hlines : ∀ l ∈ [line], '\n' ∉ l := by simpa using hline
  have hfound := findAll_unlines_append cccRe hlines []
  have hnone : cccRe.findAll [] = [] := by decide
  rw [List.append_nil, hnone, List.append_nil] at hfound
  rw [parseCcc, hfound]
  cases hmatch : cccRe.matchLine line with
  | none => simp [hmatch]
  | some v => simp [hmatch]

/-- Only a line that begins with a name can be a confirmation. -/
theorem cccRe_matchLine_eq_none {c : Char} (hc : c = 'u' ∨ c = 'e') (line : List Char) :
    cccRe.matchLine (c :: line) = none := by
  have hname : charName (c :: line) = none := by
    rcases hc with rfl | rfl <;> rfl
  have hfail : cccRe (c :: line) = none := by
    change (charName (c :: line)).bind _ = none
    rw [hname]
    rfl
  rw [matchLine, hfail]

/-- The status the tests have parsed, with one notify flag set. -/
def withNotify (flag : Bool) (id : EssCharId) (parsed : List Char → Option EssCharStatus) :
    List Char → Option EssCharStatus :=
  Function.update parsed (essCharLabel id)
    ((parsed (essCharLabel id)).map fun st => { st with notify := flag })

/-- After a CCC change the status differs in the flag that it names. -/
theorem parsed_cccCfgChanged (id : EssCharId) (flag : Bool) (s : EssState) :
    parseEssStatus (cmdEssStatus (cccCfgChanged id (if flag then BT_GATT_CCC_NOTIFY else 0) s)) =
      withNotify flag id (parseEssStatus (cmdEssStatus s)) := by
  have hflag : ((if flag then BT_GATT_CCC_NOTIFY else 0) == BT_GATT_CCC_NOTIFY) = flag := by
    cases flag <;> decide
  funext name
  simp only [parseEssStatus, essStatusRe_findAll]
  rw [byName_essCharStatus]
  by_cases hname : name = essCharLabel id
  · subst hname
    rw [withNotify, Function.update_self, byName_essCharStatus, parseEssChar_label]
    simp [cccCfgChanged, hflag, essCharStatus, Except.toOption]
  · rw [withNotify, Function.update_of_ne hname, byName_essCharStatus]
    cases hparse : parseEssChar name with
    | error ret => rfl
    | ok id' =>
      have hne : id' ≠ id := fun h => hname (h ▸ parseEssChar_eq_ok_iff.mp hparse)
      simp [cccCfgChanged, hne, Except.toOption]

/-- **A parsed confirmation is a change.** `app gatt ccc` either returns 0, and then the tests
parse the name and the switch from its confirmation, and of all that they would parse from
`app ess status` only the notify flag of that characteristic has changed, to what was asked for;
or it returns an error, there is no confirmation to parse, and the service is as it was. -/
theorem ccc_confirmed (s : EssState) {name switch : List Char} (hname : '\n' ∉ name)
    (hswitch : '\n' ∉ switch) :
    (∃ id flag, name = essCharLabel id ∧ switch = onOff flag ∧
        (cmdGattCcc name switch s).1 = 0 ∧
        parseCcc (cmdGattCcc name switch s).2.1 = some (name, flag) ∧
        parseEssStatus (cmdEssStatus (cmdGattCcc name switch s).2.2) =
          withNotify flag id (parseEssStatus (cmdEssStatus s))) ∨
      (cmdGattCcc name switch s).1 ≠ 0 ∧ parseCcc (cmdGattCcc name switch s).2.1 = none ∧
        (cmdGattCcc name switch s).2.2 = s := by
  have hrejected : ∀ (c : Char) (line : List Char), c = 'u' ∨ c = 'e' → '\n' ∉ c :: line →
      parseCcc (c :: (line ++ ['\n'])) = none := by
    intro c line hc hline
    have htext : c :: (line ++ ['\n']) = unlines [c :: line] := by simp [unlines]
    rw [htext, parseCcc_line hline, cccRe_matchLine_eq_none hc]
  cases hparse : parseEssChar name with
  | error ret =>
    refine Or.inr ?_
    simp only [cmdGattCcc, hparse]
    refine ⟨?_, ?_, trivial⟩
    · rw [parseEssChar_eq_error hparse]
      decide
    · exact hrejected 'u' ("nknown characteristic '".toList ++ name ++
        "' (battery/uptime have no CCC)".toList) (Or.inl rfl) (by simp [hname])
  | ok id =>
    obtain rfl := parseEssChar_eq_ok_iff.mp hparse
    by_cases hon : ∃ flag, switch = onOff flag
    · obtain ⟨flag, rfl⟩ := hon
      refine Or.inl ⟨id, flag, rfl, rfl, ?_⟩
      rw [cmdGattCcc_label]
      refine ⟨rfl, ?_, parsed_cccCfgChanged id flag s⟩
      rw [parseCcc_line (newline_notMem_cccLine id flag)]
      exact (reads_cccLine id flag).matchLine
    · refine Or.inr ?_
      have hne : switch ≠ "on".toList ∧ switch ≠ "off".toList :=
        ⟨fun h => hon ⟨true, h⟩, fun h => hon ⟨false, h⟩⟩
      simp only [cmdGattCcc, hparse, if_neg hne.1, if_neg hne.2]
      refine ⟨by decide, ?_, trivial⟩
      exact hrejected 'e' ("xpected on|off, got '".toList ++ switch ++ "'".toList)
        (Or.inr rfl) (by simp [hswitch])

/-- `ccc_confirmed` at a change that is carried out and at one that is not. -/
theorem ccc_confirmed_pressureOn :
    let on := cmdGattCcc "pressure".toList "on".toList essStart
    let rejected := cmdGattCcc "battery".toList "on".toList essStart
    (on.1 = 0 ∧ (on.2.2.sensor .pressure).notifyEnabled = true) ∧ rejected.1 = -ENOENT ∧
      ((∃ id flag, "battery".toList = essCharLabel id ∧ "on".toList = onOff flag ∧
          rejected.1 = 0 ∧ parseCcc rejected.2.1 = some ("battery".toList, flag) ∧
          parseEssStatus (cmdEssStatus rejected.2.2) =
            withNotify flag id (parseEssStatus (cmdEssStatus essStart))) ∨
        rejected.1 ≠ 0 ∧ parseCcc rejected.2.1 = none ∧ rejected.2.2 = essStart) :=
  ⟨by decide, by decide, ccc_confirmed essStart (by decide) (by decide)⟩

/-! ### A flag outlives everything but another change -/

/-- The call is no CCC change of the characteristic. -/
def ServiceCall.LeavesCcc (id : EssCharId) : ServiceCall → Prop
  | .update _ _ | .callback _ _ => True
  | .ccc c _ => c ≠ id

/-- None of the calls during a read is. -/
structure ManagerResults.LeavesCcc (id : EssCharId) (a : ManagerResults) : Prop where
  duringUpdate : ∀ k ∈ a.duringUpdate, k.LeavesCcc id
  duringGetData : ∀ k ∈ a.duringGetData, k.LeavesCcc id
  duringUpdateForBle : ∀ k ∈ a.duringUpdateForBle, k.LeavesCcc id

/-- Nothing in the event is. -/
def EssEvent.LeavesCcc (id : EssCharId) : EssEvent → Prop
  | .init => True
  | .call k => k.LeavesCcc id
  | .read _ _ _ results => results.LeavesCcc id

section Enabled

variable {ρ : Type*} {id : EssCharId} {flag : Bool}

@[simp]
theorem enabled_store (writer : EssWriter) (c : EssCharId) (value : ℤ)
    (attempt : Option (List UInt8)) (u : EssRun ρ) :
    (u.store writer c value attempt).ess.enabled = u.ess.enabled := by
  funext c'
  by_cases h : c' = c
  · subst h
    simp [EssRun.store, EssState.enabled]
  · simp [EssRun.store, EssState.enabled, h]

@[simp]
theorem enabled_invalidateSensor (c : EssCharId) (u : EssRun ρ) :
    (u.invalidateSensor c).ess.enabled = u.ess.enabled := (EssRun.follows_invalidateSensor c u).1

theorem enabled_updateSensorOf (c : EssCharId) (new : ℤ) (u : EssRun ρ) :
    (u.updateSensorOf c new).ess.enabled = u.ess.enabled := by
  cases c <;> exact enabled_store ..

/-- An update enables nothing. -/
theorem enabled_updateKeeps (ready : ρ → Bool × ρ) (data : SensorData) :
    UpdateKeeps ready data fun u => u.ess.enabled id = flag where
  asked hu := hu
  invalidate c {u} hu := by rwa [enabled_invalidateSensor]
  environment _ _ hu := by rwa [enabled_updateSensorOf]
  sentinel _ hu := by rwa [enabled_updateSensorOf]
  gas _ _ _ hu := by rwa [enabled_updateSensorOf]

/-- A call that is no CCC change of the characteristic. -/
theorem enabled_apply {u : EssRun Unit} (hu : u.ess.enabled id = flag) {k : ServiceCall}
    (hk : k.LeavesCcc id) : (k.apply u).ess.enabled id = flag := by
  cases k with
  | update ready data =>
    cases data with
    | none =>
      rw [ServiceCall.apply, essServiceUpdate_state_of_idle (Or.inr rfl)]
      exact hu
    | some d => exact (enabled_updateKeeps _ d).essServiceUpdate hu
  | callback ready data => exact sensorDataCallback_keeps (fun d _ => enabled_updateKeeps _ d) hu
  | ccc c value =>
    have hne : id ≠ c := Ne.symm hk
    simpa [ServiceCall.apply, EssState.enabled, cccCfgChanged, hne] using hu

theorem enabled_foldl {u : EssRun Unit} (hu : u.ess.enabled id = flag) {ks : List ServiceCall}
    (hks : ∀ k ∈ ks, k.LeavesCcc id) : (ks.foldl ServiceCall.apply u).ess.enabled id = flag := by
  induction ks generalizing u with
  | nil => exact hu
  | cons k ks ih =>
    exact ih (enabled_apply hu (hks k List.mem_cons_self))
      fun k' hk' => hks k' (List.mem_cons_of_mem k hk')

/-- Nor does a read. -/
theorem enabled_cacheKeeps {a : ManagerResults} (ha : a.LeavesCcc id) :
    CacheKeeps a.ops fun u => u.ess.enabled id = flag where
  updateSelective _ _ hu := enabled_foldl hu ha.duringUpdate
  getData hu := enabled_foldl hu ha.duringGetData
  updateAirQualityForBle hu := enabled_foldl hu ha.duringUpdateForBle
  withEnv _ _ hu := hu
  invalidate c {u} hu := by rwa [enabled_invalidateSensor]
  store _ hu := by rwa [enabled_store]

end Enabled

/-- **One step** without a CCC change of the characteristic keeps its notify flag. -/
theorem essMachine_preserves_enabled (id : EssCharId) (flag : Bool) :
    essMachine.Preserves (fun e => e.LeavesCcc id) fun s => s.enabled id = flag := by
  intro e s s' os he hs hstep
  obtain rfl : (essStep e s).1 = s' := congrArg Prod.fst (Option.some.inj hstep)
  cases e with
  | init => exact hs
  | call k => exact enabled_apply (u := ⟨s, [], ()⟩) hs he
  | read c len offset results =>
    exact (enabled_cacheKeeps he).essRead (u := ⟨s, [], ()⟩) c len offset hs

/-- **A confirmed switch holds.** After `app gatt ccc` has been confirmed, and whatever updates,
reads and CCC changes of other characteristics follow, `app ess status` reports the notify flag
of the characteristic as it was switched. -/
theorem ccc_persists {id : EssCharId} {flag : Bool} {s t : EssState} {es : List EssEvent}
    {os : List EssReply} (hes : ∀ e ∈ es, e.LeavesCcc id)
    (hrun : essMachine.run es (cmdGattCcc (essCharLabel id) (onOff flag) s).2.2 = some (t, os)) :
    ∃ st, parseEssStatus (cmdEssStatus t) (essCharLabel id) = some st ∧ st.notify = flag := by
  have hset : (cmdGattCcc (essCharLabel id) (onOff flag) s).2.2.enabled id = flag := by
    rw [cmdGattCcc_label]
    cases flag <;> simp [EssState.enabled, cccCfgChanged, BT_GATT_CCC_NOTIFY]
  have hkept : t.enabled id = flag :=
    Machine.Preserves.run (essMachine_preserves_enabled id flag) hes hset hrun
  refine ⟨essCharStatus id (t.sensor id), ?_, hkept⟩
  rw [parseEssStatus, essStatusRe_findAll, byName_essCharStatus, parseEssChar_label]
  rfl

/-- The temperature is switched on, and then a snapshot without a valid field is handed over and
the humidity is switched on and off. -/
def afterSwitch : List EssEvent :=
  [.init, .call (.update true (some sensorDataZero)), .call (.ccc .humidity 1),
    .call (.ccc .humidity 0)]

/-- `ccc_persists` over them. -/
theorem ccc_persists_afterSwitch :
    ∃ t, essMachine.run afterSwitch (cmdGattCcc "temp".toList "on".toList essStart).2.2 =
        some (t, []) ∧
      ∃ st, parseEssStatus (cmdEssStatus t) "temp".toList = some st ∧ st.notify = true := by
  have hes : ∀ e ∈ afterSwitch, e.LeavesCcc .temperature := by
    simp [afterSwitch, EssEvent.LeavesCcc, ServiceCall.LeavesCcc]
  exact ⟨_, rfl, @ccc_persists .temperature true essStart _ _ _ hes rfl⟩

end EnvMonitor
