import EnvMonitor.Ble.Identity
import EnvMonitor.Lib.TextReader

/-!
# Discovery

How the BLE test finds the device that it has just booted. `_extract_boot_identity` looks for an
address and a name in the boot log, and `discover_target_device` for a device of that address or
name among those in range, or, if it has been given neither, for one whose name begins with
`T52-`.

`boot_identity_discovered` joins this with what the firmware logs and advertises, whatever the
hardware answers: no address is ever found in the log, whose wording is a different one; the name
is found unless the naming service fails both at its initialisation and when the name is made, and
is the advertised one; and in either case the test finds a device if the booted one is in range.
-/

namespace EnvMonitor

open Reader

/-! ### What the firmware logs -/

/-- What `device_naming_get_name` logs. -/
def deviceNamingGetNameLog (nameBuffer : List Char) (hw : Option DeviceId) (s : DeviceNaming) :
    List (List Char) :=
  let (_, written, _) := deviceNamingGetName (some nameBuffer) hw s
  if nameBuffer.length < DEVICE_NAME_MIN_BUF ∨ s.initialized = true then []
  else if hw = none then ["Failed to get hardware ID, using fallback".toList]
  else ["Device name: ".toList ++ cString (written.getD nameBuffer)]

/-- What `device_naming_init` logs. -/
def deviceNamingInitLog (temp : Fin DEVICE_NAME_MAX_LEN → Char) (hw : Option DeviceId)
    (s : DeviceNaming) : List (List Char) :=
  let (ret, written, _) := deviceNamingGetName (some (List.ofFn temp)) hw s
  if s.initialized then []
  else
    deviceNamingGetNameLog (List.ofFn temp) hw s ++
      if ret < 0 then ["Failed to initialize device naming: ".toList ++ signedDecimal ret]
      else ["Device naming initialized: ".toList ++ cString (written.getD (List.ofFn temp))]

/-- An address as it is logged, from its last byte to its first. -/
def addrText (addr : BtAddrLe) : List Char :=
  [':'].intercalate ((List.ofFn addr.val).reverse.map fun byte => upperHex 2 byte.toNat)

/-- What `configure_static_ble_identity` logs. -/
def configureStaticBleIdentityLog (hw : Option DeviceId) (createRet : ℤ) : List (List Char) :=
  match hw with
  | none => ["Failed to get device ID, using stack default address".toList]
  | some id =>
    if createRet < 0 then
      ["Failed to preset BLE identity with static address: ".toList ++ signedDecimal createRet]
    else ["Static BLE identity configured: ".toList ++ addrText id.staticAddr]

/-- What `update_advertisement_data` logs. -/
def updateAdvertisementDataLog (hw hw' : Option DeviceId) (s : Announcer) : List (List Char) :=
  if s.nameGenerated then []
  else
    deviceNamingGetNameLog s.deviceName hw s.naming ++
      ["Generated unique device name: ".toList ++ (updateAdvertisementData hw hw' s).1]

/-- The answers that a boot gets to what concerns the identity: those of the hardware to the
initialisation of the naming service, to the address, to the name and to its fallback, and that
of `bt_id_create`. -/
structure IdentityAnswers where
  temp : Fin DEVICE_NAME_MAX_LEN → Char
  initHw : Option DeviceId
  addrHw : Option DeviceId
  createRet : ℤ
  nameHw : Option DeviceId
  fallbackHw : Option DeviceId

namespace IdentityAnswers

/-- What `update_advertisement_data` meets in `main`. -/
def announcer (a : IdentityAnswers) : Announcer :=
  { naming := (deviceNamingInit a.temp a.initHw {}).2 }

/-- The name that `main` ends up advertising. -/
def advertised (a : IdentityAnswers) : List Char :=
  (updateAdvertisementData a.nameHw a.fallbackHw a.announcer).1

/-- The messages of a boot, until it advertises. `others` are those of the rest of the firmware,
before, between and after the three calls. -/
def bootMessages (a : IdentityAnswers) (others : Fin 4 → List (List Char)) : List (List Char) :=
  others 0 ++ deviceNamingInitLog a.temp a.initHw {} ++
    others 1 ++ configureStaticBleIdentityLog a.addrHw a.createRet ++
    others 2 ++ updateAdvertisementDataLog a.nameHw a.fallbackHw a.announcer ++ others 3

end IdentityAnswers

/-- A line of the log: a message after the time, the level and the module, in none of which
there is a capital letter. -/
structure LogLine where
  header : List Char
  message : List Char
  plain : ∀ c ∈ header, c.isUpper = false

/-- The line as it is received. -/
def LogLine.text (line : LogLine) : List Char := line.header ++ line.message

/-! ### The test -/

/-- As many characters of a class. -/
def exactly (n : ℕ) (p : Char → Bool) : Reader (List Char) := fun text =>
  if (text.take n).length = n ∧ (text.take n).all p = true then
    some (text.take n, text.drop n)
  else none

/-- `[0-9A-F:]`. -/
def isAddressChar (c : Char) : Bool := c.isDigit || ('A' ≤ c && c ≤ 'F') || c == ':'

/-- `[A-Z0-9]`. -/
def isNameChar (c : Char) : Bool := c.isUpper || c.isDigit

/-- `BLE_ADDRESS_RE`. -/
def bleAddressRe : Reader (List Char) := do
  word "Static BLE address set: ".toList
  exactly 17 isAddressChar

/-- `DEVICE_NAME_RE`. -/
def deviceNameRe : Reader (List Char) := do
  word "Device name: ".toList
  word "T52-".toList
  return "T52-".toList ++ (← many1 isNameChar)

/-- One line in `_extract_boot_identity`, with the address and the name found so far. -/
def extractLine (found : List Char × List Char) (line : List Char) : List Char × List Char :=
  ((bleAddressRe.search line).getD found.1, (deviceNameRe.search line).getD found.2)

/-- `_extract_boot_identity`. -/
def extractBootIdentity (lines : List (List Char)) : List Char × List Char :=
  lines.foldl extractLine ([], [])

/-- A device in range; one without a name has the empty one here. -/
structure BleDevice where
  address : List Char
  name : List Char
deriving DecidableEq, Repr

/-- `DEFAULT_DEVICE_NAME_PREFIX`. -/
def DEFAULT_DEVICE_NAME_PREFIX : List Char := "T52-".toList

/-- `DEFAULT_SCAN_ATTEMPTS`. -/
def DEFAULT_SCAN_ATTEMPTS : ℕ := 6

/-- `THINGY52_BLE_ADDRESS`, `THINGY52_BLE_NAME` and `THINGY52_BLE_NAME_PREFIX`, empty if they are
not set. -/
structure ClientEnv where
  address : List Char := []
  name : List Char := []
  namePrefix : Option (List Char) := none

/-- White space of `str.strip`. -/
def isPySpace (c : Char) : Bool :=
  let n := c.toNat
  (9 ≤ n && n ≤ 13) || (28 ≤ n && n ≤ 32) || n == 0x85 || n == 0xA0 || n == 0x1680 ||
    (0x2000 ≤ n && n ≤ 0x200A) || n == 0x2028 || n == 0x2029 || n == 0x202F || n == 0x205F ||
    n == 0x3000

/-- `str.strip`. -/
def strip (text : List Char) : List Char :=
  ((text.dropWhile isPySpace).reverse.dropWhile isPySpace).reverse

/-- `or` of two strings. -/
def orElse (text alternative : List Char) : List Char := if text = [] then alternative else text

/-- What `discover_target_device` looks for. -/
structure Target where
  address : List Char
  name : List Char
  namePrefix : List Char
deriving DecidableEq, Repr

/-- The targets from the arguments and the environment. -/
def target (env : ClientEnv) (address name namePrefix : List Char) : Target where
  address := orElse ((strip address).map Char.toLower) ((strip env.address).map Char.toLower)
  name := orElse (strip name) (strip env.name)
  namePrefix := orElse (strip namePrefix)
    (strip (env.namePrefix.getD DEFAULT_DEVICE_NAME_PREFIX))

/-- The three tests of a device that has been found. -/
def Target.accepts (t : Target) (d : BleDevice) : Bool :=
  (t.address ≠ [] && d.address.map Char.toLower = t.address) ||
    (t.name ≠ [] && d.name = t.name) ||
    (t.address = [] && t.name = [] && t.namePrefix.isPrefixOf d.name)

/-- `_cached_bluez_device`; `tree` is what the object tree of BlueZ has for an address at the
time. -/
def cachedBluezDevice (tree : List Char → Option BleDevice) (address : List Char) :
    Option BleDevice :=
  if address = [] then none else tree address

/-- `discover_target_device`; `scans` are the results of the scans, `tree` and `tree'` are for
before and after them, and `none` is its `RuntimeError`. The handle that it returns is the device
here, without the object path. -/
def discoverTargetDevice (env : ClientEnv) (tree tree' : List Char → Option BleDevice)
    (address name namePrefix : List Char) (scanAttempts : ℕ) (scans : ℕ → List BleDevice) :
    Option BleDevice :=
  let t := target env address name namePrefix
  (cachedBluezDevice tree t.address).or
    (((List.range scanAttempts).findSome? fun attempt => (scans attempt).find? t.accepts).or
      (cachedBluezDevice tree' t.address))

/-! ### Searching the log -/

theorem bleAddressRe_eq :
    bleAddressRe = word ('S' :: "tatic BLE address set: ".toList) >>= fun _ =>
      exactly 17 isAddressChar := by
  rw [bleAddressRe]
  rfl

theorem deviceNameRe_eq :
    deviceNameRe = word ('D' :: "evice name: ".toList) >>= fun _ => do
      word "T52-".toList
      return "T52-".toList ++ (← many1 isNameChar) := by
  rw [deviceNameRe]
  rfl

theorem bleAddressRe_search_append {part : List Char} (h : 'S' ∉ part) (rest : List Char) :
    bleAddressRe.search (part ++ rest) = bleAddressRe.search rest := by
  rw [bleAddressRe_eq, search_append_of_notMem h]

theorem deviceNameRe_search_append {part : List Char} (h : 'D' ∉ part) (rest : List Char) :
    deviceNameRe.search (part ++ rest) = deviceNameRe.search rest := by
  rw [deviceNameRe_eq, search_append_of_notMem h]

theorem bleAddressRe_search_eq_none {c : Char} (hc : c ∈ "Static BLE address set: ".toList)
    {text : List Char} (h : c ∉ text) : bleAddressRe.search text = none :=
  search_eq_none hc h _

theorem deviceNameRe_search_eq_none {c : Char} (hc : c ∈ "Device name: ".toList)
    {text : List Char} (h : c ∉ text) : deviceNameRe.search text = none :=
  search_eq_none hc h _

/-- A header is passed over. -/
theorem extractLine_text (found : List Char × List Char) (line : LogLine) :
    extractLine found line.text = extractLine found line.message := by
  have hno : ∀ c : Char, c.isUpper = true → c ∉ line.header :=
    fun c hc hmem => Bool.false_ne_true ((line.plain c hmem).symm.trans hc)
  rw [extractLine, LogLine.text, bleAddressRe_search_append (hno 'S' rfl),
    deviceNameRe_search_append (hno 'D' rfl), extractLine]

/-- The message tells neither an address nor a name. -/
def IdentityQuiet (message : List Char) : Prop :=
  bleAddressRe.search message = none ∧ deviceNameRe.search message = none

theorem foldl_extractLine_of_quiet {messages : List (List Char)}
    (h : ∀ message ∈ messages, IdentityQuiet message) (found : List Char × List Char) :
    messages.foldl extractLine found = found := by
  induction messages with
  | nil => rfl
  | cons message messages ih =>
    obtain ⟨haddress, hname⟩ := h message List.mem_cons_self
    rw [List.foldl_cons, extractLine, haddress, hname]
    exact ih fun m hm => h m (List.mem_cons_of_mem message hm)

/-! ### Messages -/

/-- The characters of a name. -/
theorem mem_formatName {u : UInt32} {c : Char} (h : c ∈ formatName u) :
    c ∈ "T52-0123456789ABCDEF".toList := by
  rcases List.mem_append.mp h with hfront | hrest
  · exact (List.prefix_append DEVICE_PREFIX "-0123456789ABCDEF".toList).subset hfront
  · rcases List.mem_cons.mp hrest with rfl | hhex
    · decide
    · obtain ⟨d, hd, rfl⟩ := upperHex_digit hhex
      have hall : ∀ d < 16, hexDigit d ∈ "T52-0123456789ABCDEF".toList := by decide
      exact hall d hd

theorem notMem_formatName {c : Char} (h : c ∉ "T52-0123456789ABCDEF".toList) (u : UInt32) :
    c ∉ formatName u :=
  fun hmem => h (mem_formatName hmem)

theorem notMem_addrText {c : Char} (h : c ∉ ":0123456789ABCDEF".toList) (addr : BtAddrLe) :
    c ∉ addrText addr := by
  have hhex : ∀ n, c ∉ upperHex 2 n := by
    intro n hmem
    obtain ⟨d, hd, rfl⟩ := upperHex_digit hmem
    have hall : ∀ d < 16, hexDigit d ∈ ":0123456789ABCDEF".toList := by decide
    exact h (hall d hd)
  have hcolon : c ≠ ':' := by
    rintro rfl
    exact h (by decide)
  simp [addrText, List.intercalate, hhex, hcolon]

/-- The message that tells the name. -/
theorem extractLine_deviceName (found : List Char × List Char) (u : UInt32) :
    extractLine found ("Device name: ".toList ++ formatName u) = (found.1, formatName u) := by
  have haddress : bleAddressRe.search ("Device name: ".toList ++ formatName u) = none := by
    rw [bleAddressRe_search_append (by decide)]
    exact bleAddressRe_search_eq_none (c := 's') (by decide) (notMem_formatName (by decide) u)
  have hhex : ∀ c ∈ upperHex 8 u.toNat, isNameChar c = true := by
    intro c hc
    obtain ⟨d, hd, rfl⟩ := upperHex_digit hc
    have hall : ∀ d < 16, isNameChar (hexDigit d) = true := by decide
    exact hall d hd
  have hne : upperHex 8 u.toNat ≠ [] :=
    List.ne_nil_of_length_pos (by rw [length_upperHex]; omega)
  have hreads : Reads isNameChar deviceNameRe
      ("Device name: ".toList ++ ("T52-".toList ++ upperHex 8 u.toNat))
      ("T52-".toList ++ upperHex 8 u.toNat) :=
    (reads_word _).bind ((reads_word _).bind
      ((reads_many1 hne hhex).map fun suffix => "T52-".toList ++ suffix))
  have hname : formatName u = "T52-".toList ++ upperHex 8 u.toNat := rfl
  have hfound : deviceNameRe.search
      (("Device name: ".toList ++ ("T52-".toList ++ upperHex 8 u.toNat)) ++ []) = some _ :=
    search_append hreads fun c hc => absurd hc (Option.not_mem_none c)
  rw [List.append_nil, ← hname] at hfound
  rw [extractLine, haddress, hfound]
  rfl

/-- The initialisation tells it in other words. -/
theorem quiet_namingInitialized (u : UInt32) :
    IdentityQuiet ("Device naming initialized: ".toList ++ formatName u) := by
  constructor
  · rw [bleAddressRe_search_append (by decide)]
    exact bleAddressRe_search_eq_none (c := 's') (by decide) (notMem_formatName (by decide) u)
  · -- the words part after ten characters, and no later one begins the expression
    have hno : ¬ 'D' :: "evice name: ".toList <+:
        'D' :: ("evice naming initialized: ".toList ++ formatName u) := by
      intro hpre
      have hfront : 'D' :: "evice naming initialized: ".toList <+:
          'D' :: ("evice naming initialized: ".toList ++ formatName u) :=
        List.prefix_append ('D' :: "evice naming initialized: ".toList) (formatName u)
      exact (List.prefix_or_prefix_of_prefix hpre hfront).elim (by decide) (by decide)
    rw [deviceNameRe_eq]
    refine (search_cons (word_bind_eq_none hno _)).trans ?_
    rw [search_append_of_notMem (by decide)]
    exact search_eq_none (c := 'v') (by decide) (notMem_formatName (by decide) u) _

theorem quiet_generatedName (u : UInt32) :
    IdentityQuiet ("Generated unique device name: ".toList ++ formatName u) := by
  constructor
  · rw [bleAddressRe_search_append (by decide)]
    exact bleAddressRe_search_eq_none (c := 's') (by decide) (notMem_formatName (by decide) u)
  · rw [deviceNameRe_search_append (by decide)]
    exact deviceNameRe_search_eq_none (c := 'v') (by decide) (notMem_formatName (by decide) u)

theorem quiet_configureStaticBleIdentityLog (hw : Option DeviceId) (createRet : ℤ) :
    ∀ message ∈ configureStaticBleIdentityLog hw createRet, IdentityQuiet message := by
  cases hw with
  | none =>
    rw [configureStaticBleIdentityLog, List.forall_mem_singleton]
    exact ⟨bleAddressRe_search_eq_none (c := 'S') (by decide) (by decide),
      deviceNameRe_search_eq_none (c := 'm') (by decide) (by decide)⟩
  | some id =>
    simp only [configureStaticBleIdentityLog]
    split_ifs with hfailed
    · rw [List.forall_mem_singleton]
      constructor
      · rw [bleAddressRe_search_append (by decide)]
        exact bleAddressRe_search_eq_none (c := 's') (by decide)
          (notMem_signedDecimal (by decide) (by decide) _)
      · rw [deviceNameRe_search_append (by decide)]
        exact deviceNameRe_search_eq_none (c := 'v') (by decide)
          (notMem_signedDecimal (by decide) (by decide) _)
    · rw [List.forall_mem_singleton]
      constructor
      · refine bleAddressRe_search_eq_none (c := 's') (by decide) ?_
        exact List.not_mem_append (by decide) (notMem_addrText (by decide) _)
      · refine deviceNameRe_search_eq_none (c := 'm') (by decide) ?_
        exact List.not_mem_append (by decide) (notMem_addrText (by decide) _)

/-! ### The boot -/

/-- A call of the naming service that fails says so, and one that succeeds tells the name. -/
theorem deviceNamingGetNameLog_eq {s : DeviceNaming} (h : s.initialized = false)
    {nameBuffer : List Char} (hlarge : DEVICE_NAME_MIN_BUF ≤ nameBuffer.length)
    (hw : Option DeviceId) :
    deviceNamingGetNameLog nameBuffer hw s =
      hw.elim ["Failed to get hardware ID, using fallback".toList] fun id =>
        ["Device name: ".toList ++ formatName id.uniqueId] := by
  have hcalled : ¬ (nameBuffer.length < DEVICE_NAME_MIN_BUF ∨ s.initialized = true) := by
    simp [h, Nat.not_lt.mpr hlarge]
  simp only [deviceNamingGetNameLog, if_neg hcalled]
  cases hw with
  | none => rfl
  | some id =>
    obtain ⟨buf, -, hbuf, hholds, -⟩ := deviceNamingGetName_of_answered h hlarge id
    rw [if_neg (Option.some_ne_none id), hbuf]
    exact congrArg (fun name => ["Device name: ".toList ++ name]) hholds.2

theorem quiet_namingFailed : IdentityQuiet "Failed to get hardware ID, using fallback".toList :=
  ⟨bleAddressRe_search_eq_none (c := 'S') (by decide) (by decide),
    deviceNameRe_search_eq_none (c := 'v') (by decide) (by decide)⟩

/-- What the test takes from the initialisation of the naming service. -/
theorem foldl_deviceNamingInitLog (temp : Fin DEVICE_NAME_MAX_LEN → Char) (hw : Option DeviceId) :
    (deviceNamingInitLog temp hw {}).foldl extractLine ([], []) =
      ([], hw.elim [] fun id => formatName id.uniqueId) := by
  have hlarge : DEVICE_NAME_MIN_BUF ≤ (List.ofFn temp).length := by
    rw [List.length_ofFn]
    decide
  simp only [deviceNamingInitLog, Bool.false_eq_true, if_false]
  rw [deviceNamingGetNameLog_eq rfl hlarge]
  cases hw with
  | none =>
    obtain ⟨hret, -⟩ := deviceNamingGetName_of_unanswered (s := {}) rfl hlarge
    have hneg : (-ENODEV : ℤ) < 0 := by decide
    rw [hret, if_pos hneg]
    refine foldl_extractLine_of_quiet (List.forall_mem_append.mpr ⟨?_, ?_⟩) _
    · exact List.forall_mem_singleton.mpr quiet_namingFailed
    · rw [List.forall_mem_singleton]
      exact ⟨bleAddressRe_search_eq_none (c := 'S') (by decide) (by decide),
        deviceNameRe_search_eq_none (c := 'D') (by decide) (by decide)⟩
  | some id =>
    obtain ⟨buf, hzero, hbuf, hholds, -⟩ :=
      deviceNamingGetName_of_answered (s := {}) rfl hlarge id
    have hfirst : ["Device name: ".toList ++ formatName id.uniqueId].foldl extractLine ([], []) =
        ([], formatName id.uniqueId) := extractLine_deviceName _ _
    rw [hzero, if_neg (lt_irrefl 0), hbuf, Option.getD_some, hholds.2, Option.elim_some,
      List.foldl_append, hfirst]
    exact foldl_extractLine_of_quiet (List.forall_mem_singleton.mpr (quiet_namingInitialized _)) _

namespace IdentityAnswers

/-- What the naming service has come to when the name is made. -/
theorem announcer_cases (a : IdentityAnswers) :
    (∃ id, a.initHw = some id ∧ a.announcer.Agreed id.uniqueId) ∨
      a.initHw = none ∧ a.announcer = {} := by
  have hlarge : DEVICE_NAME_MIN_BUF ≤ (List.ofFn a.temp).length := by
    rw [List.length_ofFn]
    decide
  rw [announcer, deviceNamingInit_eq]
  cases a.initHw with
  | none =>
    obtain ⟨-, hkept⟩ := deviceNamingGetName_of_unanswered (s := {}) rfl hlarge
    exact Or.inr ⟨rfl, congrArg (Announcer.mk · _ _) hkept⟩
  | some id =>
    obtain ⟨buf, -, -, -, hcached⟩ := deviceNamingGetName_of_answered (s := {}) rfl hlarge id
    have hroom : DEVICE_NAME_MIN_BUF < ({} : Announcer).deviceName.length := by decide
    exact Or.inl ⟨id, rfl, hcached, fun hyes => absurd hyes Bool.false_ne_true, fun _ => hroom⟩

/-- The name that is advertised, and what the test has taken for it by then. -/
theorem advertised_cases (a : IdentityAnswers) :
    ∃ u, a.advertised = formatName u ∧
      (updateAdvertisementDataLog a.nameHw a.fallbackHw a.announcer).foldl extractLine
          ([], a.initHw.elim [] fun id => formatName id.uniqueId) =
        ([], if a.initHw = none ∧ a.nameHw = none then [] else formatName u) := by
  rcases a.announcer_cases with ⟨id, hinit, hagreed⟩ | ⟨hinit, hfresh⟩
  · -- nothing more is learned
    obtain ⟨-, hname⟩ := updateAdvertisementData_of_agreed hagreed a.nameHw a.fallbackHw
    have hlog : ∀ message ∈ updateAdvertisementDataLog a.nameHw a.fallbackHw a.announcer,
        IdentityQuiet message := by
      have hcached : deviceNamingGetNameLog a.announcer.deviceName a.nameHw a.announcer.naming =
          [] := by
        simp [deviceNamingGetNameLog, hagreed.cached.1]
      rw [updateAdvertisementDataLog, hcached, hname]
      split_ifs
      · exact fun _ hno => absurd hno List.not_mem_nil
      · exact List.forall_mem_singleton.mpr (quiet_generatedName _)
    refine ⟨id.uniqueId, hname, ?_⟩
    rw [foldl_extractLine_of_quiet hlog, hinit, if_neg (by simp)]
    rfl
  · have hroom : DEVICE_NAME_MIN_BUF < ({} : Announcer).deviceName.length := by decide
    rw [advertised, hfresh, hinit, updateAdvertisementDataLog, if_neg Bool.false_ne_true,
      deviceNamingGetNameLog_eq rfl hroom.le, List.foldl_append]
    rcases updateAdvertisementData_of_not_initialized (s := {}) rfl hroom rfl a.nameHw a.fallbackHw
      with ⟨id, hid, -, hname⟩ | ⟨hnone, -, hname⟩
    · have hfirst : ["Device name: ".toList ++ formatName id.uniqueId].foldl extractLine
          ([], []) = ([], formatName id.uniqueId) := extractLine_deviceName _ _
      refine ⟨id.uniqueId, hname, ?_⟩
      rw [hname, hid, Option.elim_some, Option.elim_none, hfirst, if_neg (by simp)]
      exact foldl_extractLine_of_quiet (List.forall_mem_singleton.mpr (quiet_generatedName _)) _
    · refine ⟨_, hname, ?_⟩
      rw [hname, hnone, Option.elim_none, Option.elim_none, if_pos ⟨rfl, rfl⟩,
        foldl_extractLine_of_quiet (List.forall_mem_singleton.mpr quiet_namingFailed)]
      exact foldl_extractLine_of_quiet (List.forall_mem_singleton.mpr (quiet_generatedName _)) _

end IdentityAnswers

/-- What the test makes of the log of a boot. -/
theorem extractBootIdentity_eq (a : IdentityAnswers) {others : Fin 4 → List (List Char)}
    (hothers : ∀ k, ∀ message ∈ others k, IdentityQuiet message) {log : List LogLine}
    (hlog : log.map LogLine.message = a.bootMessages others) :
    extractBootIdentity (log.map LogLine.text) =
      ([], if a.initHw = none ∧ a.nameHw = none then [] else a.advertised) := by
  obtain ⟨u, hname, hupdate⟩ := a.advertised_cases
  have hmessages : extractBootIdentity (log.map LogLine.text) =
      (log.map LogLine.message).foldl extractLine ([], []) := by
    simp only [extractBootIdentity, List.foldl_map, extractLine_text]
  have hquiet : ∀ k found, (others k).foldl extractLine found = found :=
    fun k found => foldl_extractLine_of_quiet (hothers k) found
  have haddress : ∀ found,
      (configureStaticBleIdentityLog a.addrHw a.createRet).foldl extractLine found = found :=
    fun found => foldl_extractLine_of_quiet (quiet_configureStaticBleIdentityLog _ _) found
  rw [hmessages, hlog, IdentityAnswers.bootMessages]
  simp only [List.foldl_append, hquiet, haddress]
  rw [foldl_deviceNamingInitLog, hupdate, hname]

/-! ### The search -/

/-- A device that meets the target is found, if there is one in range. -/
theorem discoverTargetDevice_of_accepts {env : ClientEnv} {address name namePrefix : List Char}
    {t : Target} (ht : target env address name namePrefix = t) (haddress : t.address = [])
    {scanAttempts : ℕ} {scans : ℕ → List BleDevice}
    (hsome : ∃ attempt < scanAttempts, ∃ d ∈ scans attempt, t.accepts d = true)
    (tree tree' : List Char → Option BleDevice) :
    ∃ d, discoverTargetDevice env tree tree' address name namePrefix scanAttempts scans = some d ∧
      (∃ attempt < scanAttempts, d ∈ scans attempt) ∧ t.accepts d = true := by
  have hscan : ((List.range scanAttempts).findSome? fun attempt =>
      (scans attempt).find? t.accepts).isSome = true := by
    obtain ⟨attempt, hlt, d, hd, hyes⟩ := hsome
    rw [List.findSome?_isSome_iff]
    exact ⟨attempt, List.mem_range.mpr hlt, List.find?_isSome.mpr ⟨d, hd, hyes⟩⟩
  obtain ⟨d, hd⟩ := Option.isSome_iff_exists.mp hscan
  obtain ⟨attempt, hmem, hfind⟩ := List.exists_of_findSome?_eq_some hd
  refine ⟨d, ?_, ⟨attempt, List.mem_range.mp hmem, List.mem_of_find?_eq_some hfind⟩,
    List.find?_some hfind⟩
  rw [discoverTargetDevice, ht]
  simp only [cachedBluezDevice, haddress, if_true, Option.none_or, hd, Option.some_or]

theorem strip_eq_self {text : List Char} (h : ∀ c ∈ text, isPySpace c = false) :
    strip text = text := by
  have hdrop : ∀ {l : List Char}, (∀ c ∈ l, isPySpace c = false) → l.dropWhile isPySpace = l := by
    intro l hl
    cases l with
    | nil => rfl
    | cons c l => exact List.dropWhile_cons_of_neg (by simp [hl c List.mem_cons_self])
  rw [strip, hdrop h, hdrop fun c hc => h c (List.mem_reverse.mp hc), List.reverse_reverse]

/-- The target of a test that was given nothing but a name. -/
theorem target_name (u : UInt32) :
    target {} [] (formatName u) DEFAULT_DEVICE_NAME_PREFIX =
      ⟨[], formatName u, DEFAULT_DEVICE_NAME_PREFIX⟩ := by
  have hstrip : strip (formatName u) = formatName u := by
    refine strip_eq_self fun c hc => ?_
    have hall : "T52-0123456789ABCDEF".toList.all (!isPySpace ·) = true := by decide
    exact (Bool.not_eq_true' _).mp (List.all_eq_true.mp hall c (mem_formatName hc))
  have hne : formatName u ≠ [] := List.ne_nil_of_length_pos (by rw [length_formatName]; omega)
  have hprefix : strip DEFAULT_DEVICE_NAME_PREFIX = DEFAULT_DEVICE_NAME_PREFIX := by decide
  have hunset : strip [] = [] := by decide
  simp only [target, orElse, hstrip, hprefix, hunset, if_neg hne, List.map_nil, if_true]
  rw [if_neg (by decide)]

/-- Of an empty address and an empty name only the beginning of the name is left to test. -/
theorem accepts_namePrefix (namePrefix : List Char) (d : BleDevice) :
    (⟨[], [], namePrefix⟩ : Target).accepts d = true ↔ namePrefix <+: d.name := by
  simp [Target.accepts]

theorem accepts_name {name namePrefix : List Char} (hne : name ≠ []) (d : BleDevice) :
    (⟨[], name, namePrefix⟩ : Target).accepts d = true ↔ d.name = name := by
  simp [Target.accepts, hne]

/-- **The test finds the booted device.** Whatever the hardware and the stack answer, and whatever
else is logged that tells neither an address nor a name: in the log of a boot the test finds no
address, and for the name the advertised one, or none if the naming service has failed twice. If
the device is in range in any scan, a device in range is discovered, and it has the advertised
name, or, if none was found, one that begins with `T52-`. -/
theorem boot_identity_discovered (a : IdentityAnswers) {others : Fin 4 → List (List Char)}
    (hothers : ∀ k, ∀ message ∈ others k, IdentityQuiet message) {log : List LogLine}
    (hlog : log.map LogLine.message = a.bootMessages others) :
    extractBootIdentity (log.map LogLine.text) =
        ([], if a.initHw = none ∧ a.nameHw = none then [] else a.advertised) ∧
      ∀ tree tree' scans,
        (∃ attempt < DEFAULT_SCAN_ATTEMPTS, ∃ d ∈ scans attempt, d.name = a.advertised) →
        let found := extractBootIdentity (log.map LogLine.text)
        ∃ d, discoverTargetDevice {} tree tree' found.1 found.2 DEFAULT_DEVICE_NAME_PREFIX
            DEFAULT_SCAN_ATTEMPTS scans = some d ∧
          (∃ attempt < DEFAULT_SCAN_ATTEMPTS, d ∈ scans attempt) ∧
          if a.initHw = none ∧ a.nameHw = none then DEFAULT_DEVICE_NAME_PREFIX <+: d.name
          else d.name = a.advertised := by
  have hfound := extractBootIdentity_eq a hothers hlog
  refine ⟨hfound, fun tree tree' scans hrange => ?_⟩
  obtain ⟨attempt, hlt, booted, hmem, hbooted⟩ := hrange
  obtain ⟨u, hname, -⟩ := a.advertised_cases
  rw [hname] at hbooted
  rw [hfound, hname]
  split_ifs with hfailed
  · have htarget : target {} [] [] DEFAULT_DEVICE_NAME_PREFIX =
        ⟨[], [], DEFAULT_DEVICE_NAME_PREFIX⟩ := by decide
    have hbegins : DEFAULT_DEVICE_NAME_PREFIX <+: booted.name := by
      rw [hbooted]
      exact List.prefix_append DEFAULT_DEVICE_NAME_PREFIX (upperHex 8 u.toNat)
    obtain ⟨d, hd, hin, hyes⟩ := discoverTargetDevice_of_accepts htarget rfl
      ⟨attempt, hlt, booted, hmem, (accepts_namePrefix _ booted).mpr hbegins⟩ tree tree'
    exact ⟨d, hd, hin, (accepts_namePrefix _ d).mp hyes⟩
  · have hne : formatName u ≠ [] := List.ne_nil_of_length_pos (by rw [length_formatName]; omega)
    obtain ⟨d, hd, hin, hyes⟩ := discoverTargetDevice_of_accepts (target_name u) rfl
      ⟨attempt, hlt, booted, hmem, (accepts_name hne booted).mpr hbooted⟩ tree tree'
    exact ⟨d, hd, hin, (accepts_name hne d).mp hyes⟩

/-- The hardware answers only when the name is made. -/
def lateAnswers : IdentityAnswers where
  temp := fun _ => nul
  initHw := none
  addrHw := some thingyId
  createRet := 0
  nameHw := some thingyId
  fallbackHw := none

/-- The log of such a boot, without times and levels. -/
def lateLog : List LogLine :=
  (lateAnswers.bootMessages fun _ => ["Settings loaded".toList]).map fun message =>
    ⟨[], message, fun _ h => absurd h List.not_mem_nil⟩

/-- `boot_identity_discovered` for it, with another device in range beside the booted one. -/
theorem boot_identity_discovered_late :
    let scans (_ : ℕ) : List BleDevice :=
      [⟨[], "T52-00000000".toList⟩, ⟨[], "T52-D4C3B2A1".toList⟩]
    let found := extractBootIdentity (lateLog.map LogLine.text)
    found = ([], if lateAnswers.initHw = none ∧ lateAnswers.nameHw = none then []
        else lateAnswers.advertised) ∧
      ∃ d, discoverTargetDevice {} (fun _ => none) (fun _ => none) found.1 found.2
          DEFAULT_DEVICE_NAME_PREFIX DEFAULT_SCAN_ATTEMPTS scans = some d ∧
        (∃ attempt < DEFAULT_SCAN_ATTEMPTS, d ∈ scans attempt) ∧
        if lateAnswers.initHw = none ∧ lateAnswers.nameHw = none then
          DEFAULT_DEVICE_NAME_PREFIX <+: d.name
        else d.name = lateAnswers.advertised := by
  have hothers : ∀ k : Fin 4, ∀ message ∈ ["Settings loaded".toList], IdentityQuiet message :=
    fun _ => List.forall_mem_singleton.mpr
      ⟨bleAddressRe_search_eq_none (c := 'L') (by decide) (by decide),
        deviceNameRe_search_eq_none (c := 'v') (by decide) (by decide)⟩
  have hlog : lateLog.map LogLine.message =
      lateAnswers.bootMessages fun _ => ["Settings loaded".toList] := by
    rw [lateLog, List.map_map]
    exact List.map_id _
  have hname : "T52-D4C3B2A1".toList = lateAnswers.advertised := by decide
  obtain ⟨hfound, hsearch⟩ := boot_identity_discovered lateAnswers hothers hlog
  exact ⟨hfound, hsearch _ _ _ ⟨0, by decide, _, List.mem_cons_of_mem _ List.mem_cons_self, hname⟩⟩

end EnvMonitor
