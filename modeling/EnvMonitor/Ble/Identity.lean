import EnvMonitor.Naming.Fallback

/-!
# The identity of the device

What a client can tell a device by: the static random address that `ble_advertiser_init` presets,
and the name in the advertising data. The address is made of the first six bytes of the hardware
ID, of which two bits are lost, the name of the last four. `identity_unique`: the two together
determine the ID, of up to eight bytes, although neither does alone.

The name is made once, by the first `update_advertisement_data`, and never again.
`advertised_name_stable` is about all runs, with any calls of the naming service before and after:
the advertised name never changes, and it is the one that the service gives out exactly as long
as the first advertisement did not have to fall back.
-/

namespace EnvMonitor

/-! ### The address -/

/-- `BLE_ADDR_LEN`. -/
abbrev BLE_ADDR_LEN : ℕ := 6

/-- `BLE_ADDR_MSB_IDX`. -/
abbrev BLE_ADDR_MSB_IDX : Fin BLE_ADDR_LEN := 5

/-- `BLE_STATIC_RANDOM_MSB_MASK`. -/
def BLE_STATIC_RANDOM_MSB_MASK : UInt8 := 0xC0

/-- `BLE_DEVICE_NAME_LEN`. -/
def BLE_DEVICE_NAME_LEN : ℕ := 32

/-- `bt_addr_le_t`. -/
structure BtAddrLe where
  random : Bool
  val : Fin BLE_ADDR_LEN → UInt8

/-- The address is a static random one: the two upper bits are set. -/
def BtAddrLe.IsStatic (addr : BtAddrLe) : Prop :=
  addr.random = true ∧
    addr.val BLE_ADDR_MSB_IDX &&& BLE_STATIC_RANDOM_MSB_MASK = BLE_STATIC_RANDOM_MSB_MASK

/-- `static_addr`: the first bytes of the ID, filled up with zeros. -/
def DeviceId.staticAddr (id : DeviceId) : BtAddrLe :=
  let bytesToUse := min id.bytes.length BLE_ADDR_LEN
  let val (i : Fin BLE_ADDR_LEN) : UInt8 := if i < bytesToUse then id.bytes.getD i 0 else 0
  { random := true
    val := Function.update val BLE_ADDR_MSB_IDX
      (val BLE_ADDR_MSB_IDX ||| BLE_STATIC_RANDOM_MSB_MASK) }

/-- `configure_static_ble_identity`: the return code and the identity that `bt_id_create`, which
answers `createRet`, has been given, if any. -/
def configureStaticBleIdentity (hw : Option DeviceId) (createRet : ℤ) : ℤ × Option BtAddrLe :=
  match hw with
  | none => (0, none)
  | some id => if createRet < 0 then (createRet, none) else (0, some id.staticAddr)

/-- The identity that a device has been given is the address of its ID. -/
theorem configureStaticBleIdentity_eq_some {hw : Option DeviceId} {createRet : ℤ}
    {addr : BtAddrLe} : (configureStaticBleIdentity hw createRet).2 = some addr ↔
      ∃ id, hw = some id ∧ 0 ≤ createRet ∧ addr = id.staticAddr := by
  cases hw with
  | none => simp [configureStaticBleIdentity]
  | some id =>
    rw [configureStaticBleIdentity]
    split_ifs with hneg
    · simp [hneg]
    · simp [not_lt.mp hneg, eq_comm]

namespace DeviceId

theorem staticAddr_val (id : DeviceId) (i : Fin BLE_ADDR_LEN) :
    id.staticAddr.val i = if i = BLE_ADDR_MSB_IDX then
      id.bytes.getD 5 0 ||| BLE_STATIC_RANDOM_MSB_MASK else id.bytes.getD i 0 := by
  have hpadded : ∀ j : Fin BLE_ADDR_LEN,
      (if (j : ℕ) < min id.bytes.length BLE_ADDR_LEN then id.bytes.getD j 0 else 0) =
        id.bytes.getD j 0 := by
    intro j
    split_ifs with hj
    · rfl
    · have hend : id.bytes.length ≤ j := by
        have hlt := j.isLt
        omega
      exact (List.getD_eq_default _ _ hend).symm
  simp only [staticAddr, hpadded, Function.update_apply]
  rfl

/-- Every address is valid as a static random one. -/
theorem isStatic_staticAddr (id : DeviceId) : id.staticAddr.IsStatic := by
  refine ⟨rfl, ?_⟩
  rw [staticAddr_val, if_pos rfl]
  have habsorb : ∀ b m : UInt8, (b ||| m) &&& m = m := by
    intro b m
    apply UInt8.toBitVec_inj.mp
    ext i hi
    simpa using fun hm => Or.inr hm
  exact habsorb _ _

/-- When two IDs give one address. -/
theorem staticAddr_inj (id id' : DeviceId) :
    id.staticAddr = id'.staticAddr ↔ (∀ i < 5, id.bytes.getD i 0 = id'.bytes.getD i 0) ∧
      id.bytes.getD 5 0 ||| BLE_STATIC_RANDOM_MSB_MASK =
        id'.bytes.getD 5 0 ||| BLE_STATIC_RANDOM_MSB_MASK := by
  have hext : id.staticAddr = id'.staticAddr ↔
      ∀ i, id.staticAddr.val i = id'.staticAddr.val i := by
    rw [BtAddrLe.mk.injEq, funext_iff]
    exact and_iff_right rfl
  rw [hext]
  simp only [staticAddr_val]
  constructor
  · intro h
    refine ⟨fun i hi => ?_, by simpa using h BLE_ADDR_MSB_IDX⟩
    have hne : (⟨i, by omega⟩ : Fin 6) ≠ BLE_ADDR_MSB_IDX :=
      fun heq => hi.ne (congrArg Fin.val heq)
    simpa only [hne, if_false] using h (⟨i, by omega⟩ : Fin 6)
  · rintro ⟨hfirst, hlast⟩ i
    split_ifs with hi
    · exact hlast
    · have hne : (i : ℕ) ≠ 5 := fun heq => hi (Fin.ext heq)
      exact hfirst i (lt_of_le_of_ne (Nat.le_of_lt_succ i.isLt) hne)

/-- The last four bytes of IDs of one length are found in either suffix. -/
theorem suffix_inj {id id' : DeviceId} (hlen : id.bytes.length = id'.bytes.length) :
    (id.uniqueId = id'.uniqueId ↔ id.lastBytes = id'.lastBytes) ∧
      (id.fallbackId = id'.fallbackId ↔ id.lastBytes = id'.lastBytes) := by
  have hlast : id.lastBytes.length = id'.lastBytes.length := by
    rw [length_lastBytes, length_lastBytes, hlen]
  constructor
  · have hrev : id.lastBytes.reverse.length = id'.lastBytes.reverse.length := by
      rw [List.length_reverse, List.length_reverse, hlast]
    rw [← UInt32.toNat_inj, toNat_uniqueId, toNat_uniqueId, leValue_inj hrev, List.reverse_inj]
  · rw [← UInt32.toNat_inj, toNat_fallbackId, toNat_fallbackId, leValue_inj hlast]

/-- No byte of an ID lies between the first five and the last four. -/
theorem ext_first_last {id id' : DeviceId} (hlen : id.bytes.length = id'.bytes.length)
    (hfirst : ∀ i < 5, id.bytes.getD i 0 = id'.bytes.getD i 0)
    (hlast : id.lastBytes = id'.lastBytes) : id = id' := by
  have hle := id.length_le
  have hbytes : id.bytes = id'.bytes := by
    refine List.ext_getElem hlen fun i hi hi' => ?_
    by_cases hsmall : i < 5
    · have hget := hfirst i hsmall
      rwa [List.getD_eq_getElem _ _ hi, List.getD_eq_getElem _ _ hi'] at hget
    · have hdrop := congrArg (·[i - (id.bytes.length - DEVICE_ID_BYTES_USED)]?) hlast
      have hindex : id.bytes.length - DEVICE_ID_BYTES_USED +
          (i - (id.bytes.length - DEVICE_ID_BYTES_USED)) = i := by
        rw [DEVICE_ID_BYTES_USED]
        omega
      simp only [lastBytes, List.getElem?_drop, ← hlen, hindex] at hdrop
      rwa [List.getElem?_eq_getElem hi, List.getElem?_eq_getElem hi', Option.some.injEq] at hdrop
  cases id
  cases id'
  congr

end DeviceId

/-- **Name and address determine the device.** For IDs of one length, whatever it is: the address
that is configured from an ID is a static random one, and two IDs have the same exactly if they
agree in the first five bytes and, up to its two upper bits, in the sixth; a name, be it that of
the service or of the fallback, tells the last four bytes; and with the address it tells the whole
ID. -/
theorem identity_unique {id id' : DeviceId} (hlen : id.bytes.length = id'.bytes.length) :
    (∀ createRet addr, (configureStaticBleIdentity (some id) createRet).2 = some addr →
        addr = id.staticAddr) ∧
      id.staticAddr.IsStatic ∧
      (id.staticAddr = id'.staticAddr ↔ (∀ i < 5, id.bytes.getD i 0 = id'.bytes.getD i 0) ∧
        id.bytes.getD 5 0 ||| BLE_STATIC_RANDOM_MSB_MASK =
          id'.bytes.getD 5 0 ||| BLE_STATIC_RANDOM_MSB_MASK) ∧
      (formatName id.uniqueId = formatName id'.uniqueId ∧ id.staticAddr = id'.staticAddr ↔
        id = id') ∧
      (formatName id.fallbackId = formatName id'.fallbackId ∧ id.staticAddr = id'.staticAddr ↔
        id = id') := by
  have haddr := id.staticAddr_inj id'
  obtain ⟨hservice, hfallback⟩ := DeviceId.suffix_inj hlen
  have hwhole : id.lastBytes = id'.lastBytes ∧ id.staticAddr = id'.staticAddr ↔ id = id' := by
    constructor
    · rintro ⟨hlast, hsame⟩
      exact DeviceId.ext_first_last hlen (haddr.mp hsame).1 hlast
    · rintro rfl
      exact ⟨rfl, rfl⟩
  refine ⟨fun createRet addr hgiven => ?_, id.isStatic_staticAddr, haddr, ?_, ?_⟩
  · obtain ⟨_, hid, -, rfl⟩ := configureStaticBleIdentity_eq_some.mp hgiven
    rw [Option.some.inj hid]
  · rw [formatName_inj, hservice, hwhole]
  · rw [formatName_inj, hfallback, hwhole]

/-- An ID that differs from `thingyId` in its first byte, which the name does not tell. -/
def otherId : DeviceId := ⟨[0xAB, 0xBB, 0xCC, 0xDD, 0xD4, 0xC3, 0xB2, 0xA1], by decide, by decide⟩

/-- `identity_unique` at two IDs of one name. -/
theorem identity_unique_thingy :
    formatName thingyId.uniqueId = formatName otherId.uniqueId ∧
      (∀ createRet addr, (configureStaticBleIdentity (some thingyId) createRet).2 = some addr →
        addr = thingyId.staticAddr) ∧
      thingyId.staticAddr.IsStatic ∧
      (thingyId.staticAddr = otherId.staticAddr ↔
        (∀ i < 5, thingyId.bytes.getD i 0 = otherId.bytes.getD i 0) ∧
        thingyId.bytes.getD 5 0 ||| BLE_STATIC_RANDOM_MSB_MASK =
          otherId.bytes.getD 5 0 ||| BLE_STATIC_RANDOM_MSB_MASK) ∧
      (formatName thingyId.uniqueId = formatName otherId.uniqueId ∧
        thingyId.staticAddr = otherId.staticAddr ↔ thingyId = otherId) ∧
      (formatName thingyId.fallbackId = formatName otherId.fallbackId ∧
        thingyId.staticAddr = otherId.staticAddr ↔ thingyId = otherId) :=
  ⟨by decide, identity_unique rfl⟩

/-! ### The name -/

/-- The suffix with which `generate_unique_device_name` fills the name if it has to fall back. -/
def fallbackSuffix (hw : Option DeviceId) : UInt32 := hw.elim 0 DeviceId.fallbackId

/-- With room for the name, a call that the hardware answers succeeds. -/
theorem deviceNamingGetName_of_answered {s : DeviceNaming} (h : s.initialized = false)
    {nameBuffer : List Char} (hlarge : DEVICE_NAME_MIN_BUF ≤ nameBuffer.length) (id : DeviceId) :
    let call := deviceNamingGetName (some nameBuffer) (some id) s
    ∃ buf, call.1 = 0 ∧ call.2.1 = some buf ∧ Holds buf (formatName id.uniqueId) ∧
      call.2.2.Cached (formatName id.uniqueId) := by
  rcases deviceNamingGetName_of_not_initialized h (some nameBuffer) (some id) with
    ⟨hneg, -⟩ | ⟨id', buf, hid, hzero, hbuf, hholds, hcached⟩
  · have hzero : (deviceNamingGetName (some nameBuffer) (some id) s).1 = 0 := by
      simp only [deviceNamingGetName, Nat.not_lt.mpr hlarge, h, if_false, Bool.false_eq_true]
    exact absurd (hzero ▸ hneg) (lt_irrefl 0)
  · obtain rfl := Option.some.inj hid
    exact ⟨buf, hzero, hbuf, hholds, hcached⟩

/-- One that it does not answer fails. -/
theorem deviceNamingGetName_of_unanswered {s : DeviceNaming} (h : s.initialized = false)
    {nameBuffer : List Char} (hlarge : DEVICE_NAME_MIN_BUF ≤ nameBuffer.length) :
    let call := deviceNamingGetName (some nameBuffer) none s
    call.1 = -ENODEV ∧ call.2.2 = s := by
  simp only [deviceNamingGetName, Nat.not_lt.mpr hlarge, h, if_false, Bool.false_eq_true,
    and_self]

/-- A name that the service has cached is taken over. -/
theorem generateUniqueDeviceName_of_cached {s : DeviceNaming} {u : UInt32}
    (h : s.Cached (formatName u)) {nameBuffer : List Char}
    (hlarge : DEVICE_NAME_MIN_BUF ≤ nameBuffer.length) (hw hw' : Option DeviceId) :
    let made := generateUniqueDeviceName nameBuffer hw hw' s
    Holds made.1 (formatName u) ∧ made.2 = s := by
  obtain ⟨hsame, hdelivers⟩ := deviceNamingGetName_of_cached h (some nameBuffer) hw
  have hzero : (deviceNamingGetName (some nameBuffer) hw s).1 = 0 := by
    simp [deviceNamingGetName, Nat.not_lt.mpr hlarge, h.1]
  obtain ⟨buf, hbuf, hholds⟩ := hdelivers hzero
  rw [generateUniqueDeviceName]
  simp only [hzero, hbuf, hsame, ne_eq, not_true_eq_false, if_false, Option.getD_some, and_true]
  exact hholds

/-- Otherwise it is made of the ID that the service reads, or else by the fallback. -/
theorem generateUniqueDeviceName_of_not_initialized {s : DeviceNaming}
    (h : s.initialized = false) {nameBuffer : List Char}
    (hlarge : DEVICE_NAME_MIN_BUF < nameBuffer.length) (hw hw' : Option DeviceId) :
    let made := generateUniqueDeviceName nameBuffer hw hw' s
    (∃ id, hw = some id ∧ Holds made.1 (formatName id.uniqueId) ∧
        made.2.Cached (formatName id.uniqueId)) ∨
      hw = none ∧ Holds made.1 (formatName (fallbackSuffix hw')) ∧ made.2 = s := by
  cases hw with
  | some id =>
    obtain ⟨buf, hzero, hbuf, hholds, hcached⟩ := deviceNamingGetName_of_answered h hlarge.le id
    refine Or.inl ⟨id, rfl, ?_⟩
    rw [generateUniqueDeviceName]
    simp only [hzero, hbuf, ne_eq, not_true_eq_false, if_false, Option.getD_some]
    exact ⟨hholds, hcached⟩
  | none =>
    have hnodev : (-ENODEV : ℤ) ≠ 0 := by decide
    have hkept : (generateUniqueDeviceName nameBuffer none hw' s).2 = s := by
      simp only [generateUniqueDeviceName, deviceNamingGetName, Nat.not_lt.mpr hlarge.le, h,
        if_false, Bool.false_eq_true]
      rw [if_pos hnodev]
      cases hw' <;> rfl
    refine Or.inr ⟨rfl, ?_, hkept⟩
    cases hw' with
    | some id => exact holds_generateUniqueDeviceName h hlarge.le id
    | none =>
      have hzeros : DEVICE_PREFIX ++ '-' :: List.replicate 8 '0' = formatName 0 := by decide
      simp only [generateUniqueDeviceName, deviceNamingGetName, Nat.not_lt.mpr hlarge.le, h,
        if_false, Bool.false_eq_true, Option.getD_some]
      rw [if_pos hnodev]
      have hlength : ∀ text, (snprintf nameBuffer.length text nameBuffer).length =
          nameBuffer.length := fun text => length_snprintf le_rfl
      rw [hzeros, hlength]
      refine holds_strncpy_text (nul_notMem_formatName 0) ?_ _
      rw [length_formatName]
      rw [DEVICE_NAME_MIN_BUF] at hlarge
      omega

/-- The static variables of `update_advertisement_data`, beside the naming service. -/
structure Announcer where
  naming : DeviceNaming := {}
  deviceName : List Char := List.replicate BLE_DEVICE_NAME_LEN nul
  nameGenerated : Bool := false

/-- `update_advertisement_data`: the complete local name in the advertising data. -/
def updateAdvertisementData (hw hw' : Option DeviceId) (s : Announcer) :
    List Char × Announcer :=
  if s.nameGenerated then (cString s.deviceName, s)
  else
    let (deviceName, naming) := generateUniqueDeviceName s.deviceName hw hw' s.naming
    (cString deviceName, { naming := naming, deviceName := deviceName, nameGenerated := true })

/-! ### Runs -/

/-- A call of the naming service, or advertising data that are made. -/
inductive AnnounceEvent where
  | naming (e : NamingEvent)
  | advertise (hw hw' : Option DeviceId)

/-- The call is one of the naming service. -/
def AnnounceEvent.isNaming : AnnounceEvent → Bool
  | .naming _ => true
  | .advertise _ _ => false

/-- The reply to a call of the naming service, or the name that is advertised. -/
inductive AnnounceReply where
  | naming (r : NamingReply)
  | advertised (name : List Char)

/-- One call. -/
def announceStep : AnnounceEvent → Announcer → Option (Announcer × List AnnounceReply)
  | .naming e, s =>
    (namingStep e s.naming).map fun (naming, rs) =>
      ({ s with naming := naming }, rs.map .naming)
  | .advertise hw hw', s =>
    let (name, s) := updateAdvertisementData hw hw' s
    some (s, [.advertised name])

/-- The naming service and the advertising data as a machine. -/
def announceMachine : Machine Announcer AnnounceEvent AnnounceReply := ⟨announceStep⟩

/-- Nothing but this name is delivered or advertised. -/
def AnnounceReply.Names (name : List Char) : AnnounceReply → Prop
  | .naming r => r.Delivers name
  | .advertised name' => name' = name

/-- The reply is that of a call that failed. -/
def AnnounceReply.Failed : AnnounceReply → Prop
  | .naming r => r.ret < 0
  | .advertised _ => False

/-- A call that failed has delivered no other name. -/
theorem AnnounceReply.Failed.names {r : AnnounceReply} (h : r.Failed) (name : List Char) :
    r.Names name := by
  cases r with
  | advertised name' => exact h.elim
  | naming r =>
    rintro b rfl
    exact absurd h (lt_irrefl (0 : ℤ))

/-- The name that is advertised has been made. -/
def Announcer.Made (name : List Char) (s : Announcer) : Prop :=
  s.nameGenerated = true ∧ cString s.deviceName = name

/-- The service has cached the name, and it is the one in the advertising data, if there is one
yet, or there is room for it. -/
structure Announcer.Agreed (u : UInt32) (s : Announcer) : Prop where
  cached : s.naming.Cached (formatName u)
  made : s.nameGenerated = true → cString s.deviceName = formatName u
  room : s.nameGenerated = false → DEVICE_NAME_MIN_BUF < s.deviceName.length

theorem updateAdvertisementData_of_made {s : Announcer} {name : List Char} (h : s.Made name)
    (hw hw' : Option DeviceId) : updateAdvertisementData hw hw' s = (name, s) := by
  rw [updateAdvertisementData, if_pos h.1, h.2]

theorem updateAdvertisementData_of_agreed {s : Announcer} {u : UInt32} (h : s.Agreed u)
    (hw hw' : Option DeviceId) :
    let made := updateAdvertisementData hw hw' s
    made.2.Agreed u ∧ made.1 = formatName u := by
  cases hmade : s.nameGenerated with
  | true =>
    rw [updateAdvertisementData_of_made ⟨hmade, h.made hmade⟩]
    exact ⟨h, rfl⟩
  | false =>
    obtain ⟨hholds, hkept⟩ :=
      generateUniqueDeviceName_of_cached h.cached (h.room hmade).le hw hw'
    simp only [updateAdvertisementData, hmade, Bool.false_eq_true, if_false]
    exact ⟨⟨hkept.symm ▸ h.cached, fun _ => hholds.2, fun hno => absurd hno (by simp)⟩, hholds.2⟩

theorem updateAdvertisementData_of_not_initialized {s : Announcer}
    (hfresh : s.nameGenerated = false) (hroom : DEVICE_NAME_MIN_BUF < s.deviceName.length)
    (h : s.naming.initialized = false) (hw hw' : Option DeviceId) :
    let made := updateAdvertisementData hw hw' s
    (∃ id, hw = some id ∧ made.2.Agreed id.uniqueId ∧ made.1 = formatName id.uniqueId) ∨
      hw = none ∧ made.2.Made (formatName (fallbackSuffix hw')) ∧
        made.1 = formatName (fallbackSuffix hw') := by
  simp only [updateAdvertisementData, hfresh, Bool.false_eq_true, if_false]
  rcases generateUniqueDeviceName_of_not_initialized h hroom hw hw' with
    ⟨id, hid, hholds, hcached⟩ | ⟨hnone, hholds, -⟩
  · refine Or.inl ⟨id, hid, ⟨hcached, fun _ => hholds.2, fun hno => ?_⟩, hholds.2⟩
    exact absurd hno (by simp)
  · exact Or.inr ⟨hnone, ⟨rfl, hholds.2⟩, hholds.2⟩

/-- **One call** after the advertised name has been made. -/
theorem announceStep_of_made {s s' : Announcer} {name : List Char} (h : s.Made name)
    {e : AnnounceEvent} {os : List AnnounceReply} (hstep : announceStep e s = some (s', os)) :
    s'.Made name ∧ ∀ name', .advertised name' ∈ os → name' = name := by
  cases e with
  | naming e =>
    obtain ⟨⟨naming, rs⟩, -, hout⟩ := Option.map_eq_some_iff.mp hstep
    obtain ⟨rfl, rfl⟩ := Prod.mk.inj hout
    refine ⟨h, fun name' hmem => ?_⟩
    obtain ⟨r, -, hr⟩ := List.mem_map.mp hmem
    cases hr
  | advertise hw hw' =>
    rw [announceStep, updateAdvertisementData_of_made h, Option.some.injEq,
      Prod.mk.injEq] at hstep
    obtain ⟨rfl, rfl⟩ := hstep
    refine ⟨h, fun name' hmem => ?_⟩
    exact AnnounceReply.advertised.inj (List.mem_singleton.mp hmem)

/-- **One call** while the service and the advertising data agree. -/
theorem announceStep_of_agreed {s s' : Announcer} {u : UInt32} (h : s.Agreed u)
    {e : AnnounceEvent} {os : List AnnounceReply} (hstep : announceStep e s = some (s', os)) :
    s'.Agreed u ∧ ∀ r ∈ os, r.Names (formatName u) := by
  cases e with
  | naming e =>
    obtain ⟨⟨naming, rs⟩, hnaming, hout⟩ := Option.map_eq_some_iff.mp hstep
    obtain ⟨rfl, rfl⟩ := Prod.mk.inj hout
    obtain ⟨rfl, hdelivers⟩ := namingStep_of_cached h.cached hnaming
    refine ⟨⟨h.cached, h.made, h.room⟩, fun r hr => ?_⟩
    obtain ⟨r, hmem, rfl⟩ := List.mem_map.mp hr
    exact hdelivers r hmem
  | advertise hw hw' =>
    obtain ⟨hkept, hname⟩ := updateAdvertisementData_of_agreed h hw hw'
    simp only [announceStep, Option.some.injEq, Prod.mk.injEq] at hstep
    obtain ⟨rfl, rfl⟩ := hstep
    exact ⟨hkept, List.forall_mem_singleton.mpr hname⟩

/-- A run after the advertised name has been made. -/
theorem announceMachine_run_of_made {s t : Announcer} {name : List Char} (h : s.Made name)
    {es : List AnnounceEvent} {os : List AnnounceReply}
    (hrun : announceMachine.run es s = some (t, os)) :
    ∀ name', .advertised name' ∈ os → name' = name := by
  have hkeeps : announceMachine.Preserves Machine.anyEvent (Announcer.Made name) :=
    fun _ hs hstep => (announceStep_of_made hs hstep).1
  have hemits : announceMachine.Emits Machine.anyEvent (Announcer.Made name)
      fun r => ∀ name', r = .advertised name' → name' = name := by
    rintro e s₁ s₂ os₁ - hs hstep r hr name' rfl
    exact (announceStep_of_made hs hstep).2 name' hr
  intro name' hmem
  exact hkeeps.run_emits hemits (fun _ _ => trivial) h hrun _ hmem name' rfl

/-- A run while the service and the advertising data agree. -/
theorem announceMachine_run_of_agreed {s t : Announcer} {u : UInt32} (h : s.Agreed u)
    {es : List AnnounceEvent} {os : List AnnounceReply}
    (hrun : announceMachine.run es s = some (t, os)) :
    t.Agreed u ∧ ∀ r ∈ os, r.Names (formatName u) := by
  have hkeeps : announceMachine.Preserves Machine.anyEvent (Announcer.Agreed u) :=
    fun _ hs hstep => (announceStep_of_agreed hs hstep).1
  have hemits : announceMachine.Emits Machine.anyEvent (Announcer.Agreed u)
      (AnnounceReply.Names (formatName u)) :=
    fun _ hs hstep => (announceStep_of_agreed hs hstep).2
  exact ⟨hkeeps.run (fun _ _ => trivial) h hrun,
    hkeeps.run_emits hemits (fun _ _ => trivial) h hrun⟩

/-- **Calls of the service** before the name is made. Either all have failed, or the service has
cached the name that it delivers. The induction finds the first that succeeds. -/
theorem announceMachine_run_naming {es : List AnnounceEvent}
    (hes : ∀ e ∈ es, e.isNaming = true) {s t : Announcer} (hfresh : s.nameGenerated = false)
    (hroom : DEVICE_NAME_MIN_BUF < s.deviceName.length) (h : s.naming.initialized = false)
    {os : List AnnounceReply} (hrun : announceMachine.run es s = some (t, os)) :
    (t = s ∧ ∀ r ∈ os, r.Failed) ∨
      ∃ u, t.Agreed u ∧ (∃ r, .naming r ∈ os ∧ r.ret = 0) ∧ ∀ r ∈ os, r.Names (formatName u) := by
  induction es generalizing s os with
  | nil =>
    simp only [Machine.run_nil, Option.some.injEq, Prod.mk.injEq] at hrun
    obtain ⟨rfl, rfl⟩ := hrun
    exact Or.inl ⟨rfl, fun r hr => absurd hr List.not_mem_nil⟩
  | cons e es ih =>
    obtain ⟨s₁, o₁, o₂, h₁, h₂, rfl⟩ := announceMachine.run_cons_eq_some.mp hrun
    have hlater : ∀ e ∈ es, e.isNaming = true := fun e he => hes e (List.mem_cons_of_mem _ he)
    cases e with
    | advertise hw hw' => exact absurd (hes _ List.mem_cons_self) Bool.false_ne_true
    | naming e =>
      obtain ⟨⟨naming, rs⟩, hnaming, hout⟩ := Option.map_eq_some_iff.mp h₁
      obtain ⟨rfl, rfl⟩ := Prod.mk.inj hout
      rcases namingStep_of_not_initialized h hnaming with
        ⟨rfl, hfail⟩ | ⟨id, -, hcached, hnow⟩
      · have hfailed : ∀ r ∈ rs.map AnnounceReply.naming, r.Failed := by
          intro r hr
          obtain ⟨r, hmem, rfl⟩ := List.mem_map.mp hr
          exact hfail r hmem
        rcases ih hlater hfresh hroom h h₂ with ⟨hsame, hall⟩ | ⟨u, hagreed, ⟨r, hr, hz⟩, hall⟩
        · exact Or.inl ⟨hsame, List.forall_mem_append.mpr ⟨hfailed, hall⟩⟩
        · refine Or.inr ⟨u, hagreed, ⟨r, List.mem_append_right _ hr, hz⟩, ?_⟩
          exact List.forall_mem_append.mpr ⟨fun r hr => (hfailed r hr).names _, hall⟩
      · have hagreed : ({ s with naming := naming } : Announcer).Agreed id.uniqueId :=
          ⟨hcached, fun hyes => absurd (hfresh.symm.trans hyes) Bool.false_ne_true, fun _ => hroom⟩
        obtain ⟨r, rfl⟩ := namingStep_reply hnaming
        have hzero : r.ret = 0 ∧ r.Delivers (formatName id.uniqueId) :=
          hnow r List.mem_cons_self
        obtain ⟨hend, hlaterNames⟩ := announceMachine_run_of_agreed hagreed h₂
        refine Or.inr ⟨id.uniqueId, hend,
          ⟨r, List.mem_append_left _ List.mem_cons_self, hzero.1⟩, fun r' hr => ?_⟩
        rcases List.mem_append.mp hr with hr₁ | hr₂
        · obtain rfl := List.mem_singleton.mp hr₁
          exact hzero.2
        · exact hlaterNames r' hr₂

/-- **The advertised name is stable.** Consider any run, with its first advertising data and what
comes before, which are calls of the naming service. All advertising data of the run carry one
name. If the service succeeded before, or the hardware answers it in the making of these data,
all that it ever gives out is that name too; otherwise the name is that of the fallback. -/
theorem advertised_name_stable {es₁ es₂ : List AnnounceEvent} {hw hw' : Option DeviceId}
    {s t : Announcer} {os₁ os₂ : List AnnounceReply} (hes : ∀ e ∈ es₁, e.isNaming = true)
    (hbefore : announceMachine.run es₁ {} = some (s, os₁))
    (hafter : announceMachine.run (.advertise hw hw' :: es₂) s = some (t, os₂)) :
    ∃ u, (∀ name, .advertised name ∈ os₂ → name = formatName u) ∧
      ((∃ r, .naming r ∈ os₁ ∧ r.ret = 0) ∨ hw ≠ none →
        ∀ r ∈ os₁ ++ os₂, r.Names (formatName u)) ∧
      (¬ ((∃ r, .naming r ∈ os₁ ∧ r.ret = 0) ∨ hw ≠ none) → u = fallbackSuffix hw') := by
  have hroom : DEVICE_NAME_MIN_BUF < ({} : Announcer).deviceName.length := by decide
  rcases announceMachine_run_naming hes rfl hroom rfl hbefore with
    ⟨rfl, hfail⟩ | ⟨u, hagreed, hsome, hnames⟩
  · have hnever : ¬ ∃ r, .naming r ∈ os₁ ∧ r.ret = 0 := by
      rintro ⟨r, hr, hzero⟩
      have hneg : r.ret < 0 := hfail _ hr
      exact hneg.ne hzero
    obtain ⟨s₁, o₁, o₂, h₁, h₂, rfl⟩ := announceMachine.run_cons_eq_some.mp hafter
    simp only [announceMachine, announceStep, Option.some.injEq, Prod.mk.injEq] at h₁
    obtain ⟨rfl, rfl⟩ := h₁
    rcases updateAdvertisementData_of_not_initialized (s := {}) rfl hroom rfl hw hw' with
      ⟨id, rfl, hagreed, hname⟩ | ⟨rfl, hmade, hname⟩
    · -- the service has cached the name from now on
      obtain ⟨-, hlater⟩ := announceMachine_run_of_agreed hagreed h₂
      have hnames : ∀ r ∈ .advertised (updateAdvertisementData (some id) hw' {}).1 :: o₂,
          r.Names (formatName id.uniqueId) := List.forall_mem_cons.mpr ⟨hname, hlater⟩
      refine ⟨id.uniqueId, fun name hmem => hnames _ hmem, fun _ => ?_,
        fun hno => absurd (Or.inr (by simp)) hno⟩
      exact List.forall_mem_append.mpr ⟨fun r hr => (hfail r hr).names _, hnames⟩
    · have hlater := announceMachine_run_of_made hmade h₂
      refine ⟨fallbackSuffix hw', fun name hmem => ?_,
        fun hyes => (hyes.elim hnever fun hne => hne rfl).elim, fun _ => rfl⟩
      rcases List.mem_cons.mp hmem with hfirst | hmem
      · exact (AnnounceReply.advertised.inj hfirst).trans hname
      · exact hlater name hmem
  · obtain ⟨-, hlater⟩ := announceMachine_run_of_agreed hagreed hafter
    refine ⟨u, fun name hmem => hlater _ hmem, fun _ => ?_, fun hno => absurd (Or.inl hsome) hno⟩
    exact List.forall_mem_append.mpr ⟨hnames, hlater⟩

/-- The hardware fails at first, the name is made without it, and then the service succeeds. -/
def lateService : List AnnounceEvent :=
  [.naming (.getName (some (List.replicate 32 nul)) (some thingyId)), .advertise none none]

/-- `advertised_name_stable` for a service that succeeds too late, after a fallback. -/
theorem advertised_name_stable_lateService :
    ∃ s t os₁ os₂, announceMachine.run [.naming (.init (fun _ => nul) none)] {} = some (s, os₁) ∧
      announceMachine.run (.advertise none (some thingyId) :: lateService) s = some (t, os₂) ∧
      ∃ u, (∀ name, .advertised name ∈ os₂ → name = formatName u) ∧
        ((∃ r, .naming r ∈ os₁ ∧ r.ret = 0) ∨ (none : Option DeviceId) ≠ none →
          ∀ r ∈ os₁ ++ os₂, r.Names (formatName u)) ∧
        (¬ ((∃ r, .naming r ∈ os₁ ∧ r.ret = 0) ∨ (none : Option DeviceId) ≠ none) →
          u = fallbackSuffix (some thingyId)) := by
  obtain ⟨⟨s, os₁⟩, hbefore⟩ : ∃ out,
      announceMachine.run [.naming (.init (fun _ => nul) none)] {} = some out := ⟨_, rfl⟩
  obtain ⟨⟨t, os₂⟩, hafter⟩ : ∃ out,
      announceMachine.run (.advertise none (some thingyId) :: lateService) s = some out :=
    ⟨_, rfl⟩
  exact ⟨s, t, os₁, os₂, hbefore, hafter,
    advertised_name_stable (by decide) hbefore hafter⟩

end EnvMonitor
