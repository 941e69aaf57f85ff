import EnvMonitor.Naming.DeviceNaming

/-!
# The fallback name

When `device_naming_get_name` fails, `generate_unique_device_name` asks the hardware once more
and packs the ID itself. Both loops run over the last four bytes from the end; the one of
`device_naming.c` puts the first byte it meets at the bottom, the one of `ble_advertiser.c` at the
top. `fallbackId_eq_uniqueId_iff` is what is left of the agreement: the two suffixes are equal
exactly if the last four bytes read the same backwards.
-/

namespace EnvMonitor

/-- `BLE_DEVICE_ID_BYTES_USED`. -/
def BLE_DEVICE_ID_BYTES_USED : ℕ := 4

/-- `unique_id` of the fallback: the bytes from the end are shifted in from below. -/
def DeviceId.fallbackId (id : DeviceId) : UInt32 :=
  (List.range (min BLE_DEVICE_ID_BYTES_USED id.bytes.length)).foldl
    (fun uniqueId i => uniqueId <<< 8 ||| (id.fromEnd i).toUInt32) 0

/-- `generate_unique_device_name`: the buffer afterwards and the naming service. `hw` and `hw'` are
the answers of `hwinfo_get_device_id` to the service and to the fallback. -/
def generateUniqueDeviceName (nameBuffer : List Char) (hw hw' : Option DeviceId)
    (s : DeviceNaming) : List Char × DeviceNaming :=
  let (ret, written, s) := deviceNamingGetName (some nameBuffer) hw s
  let nameBuffer := written.getD nameBuffer
  if ret ≠ 0 then
    match hw' with
    | some id => (snprintf nameBuffer.length (formatName id.fallbackId) nameBuffer, s)
    | none =>
      let zeros := DEVICE_PREFIX ++ '-' :: List.replicate 8 '0'
      let last := nameBuffer.length - 1
      ((strncpy last zeros nameBuffer).set last nul, s)
  else (nameBuffer, s)

/-! ### The suffix -/

/-- The suffix of the fallback is the little-endian number of the last four bytes. -/
theorem DeviceId.toNat_fallbackId (id : DeviceId) : id.fallbackId.toNat = leValue id.lastBytes := by
  have hused : min BLE_DEVICE_ID_BYTES_USED id.bytes.length ≤ 4 := Nat.min_le_left _ _
  have hseen : (List.range (min BLE_DEVICE_ID_BYTES_USED id.bytes.length)).map id.fromEnd =
      id.lastBytes.reverse := id.map_fromEnd
  rw [fallbackId, toNat_foldl_shiftLeft id.fromEnd hused, hseen, List.reverse_reverse]

/-- **When the suffixes agree.** -/
theorem DeviceId.fallbackId_eq_uniqueId_iff (id : DeviceId) :
    id.fallbackId = id.uniqueId ↔ id.lastBytes.reverse = id.lastBytes := by
  have hlen : id.lastBytes.length = id.lastBytes.reverse.length := List.length_reverse.symm
  rw [← UInt32.toNat_inj, toNat_fallbackId, toNat_uniqueId, leValue_inj hlen]
  exact eq_comm

/-! ### The name -/

/-- The fallback leaves the name of its own suffix in a buffer that has room for it. -/
theorem holds_generateUniqueDeviceName {s : DeviceNaming} (h : s.initialized = false)
    {nameBuffer : List Char} (hlarge : DEVICE_NAME_MIN_BUF ≤ nameBuffer.length) (id : DeviceId) :
    Holds (generateUniqueDeviceName nameBuffer none (some id) s).1 (formatName id.fallbackId) := by
  have hnodev : (-ENODEV : ℤ) ≠ 0 := by decide
  have hsmall : ¬ nameBuffer.length < DEVICE_NAME_MIN_BUF := Nat.not_lt.mpr hlarge
  simp only [generateUniqueDeviceName, deviceNamingGetName, hsmall, h, if_false,
    Bool.false_eq_true, Option.getD_some]
  rw [if_pos hnodev]
  refine holds_snprintf (nul_notMem_formatName _) ?_ _
  rw [length_snprintf le_rfl, length_formatName]
  rw [DEVICE_NAME_MIN_BUF] at hlarge
  omega

/-- **When the two paths agree.** For every ID and all buffers of the size that the naming service
asks for: the fallback, which runs after the service has failed, computes the suffix of the
service, and leaves the name of the service, exactly if the last four bytes of the ID, or all it
has, read the same backwards. -/
theorem fallback_agrees_iff (id : DeviceId) {nameBuffer nameBuffer' : List Char}
    (hlarge : DEVICE_NAME_MIN_BUF ≤ nameBuffer.length)
    (hlarge' : DEVICE_NAME_MIN_BUF ≤ nameBuffer'.length) :
    (id.fallbackId = id.uniqueId ↔ id.lastBytes.reverse = id.lastBytes) ∧
      ∃ name, (deviceNamingGetName (some nameBuffer') (some id) {}).2.1 = some name ∧
        (cString (generateUniqueDeviceName nameBuffer none (some id) {}).1 = cString name ↔
          id.lastBytes.reverse = id.lastBytes) := by
  have hid := id.fallbackId_eq_uniqueId_iff
  refine ⟨hid, ?_⟩
  rcases deviceNamingGetName_of_not_initialized (s := {}) rfl (some nameBuffer') (some id) with
    ⟨hneg, -⟩ | ⟨id', name, hsame, -, hname, hholds, -⟩
  · have hzero : (deviceNamingGetName (some nameBuffer') (some id) {}).1 = 0 := by
      simp [deviceNamingGetName, Nat.not_lt.mpr hlarge']
    exact absurd (hzero ▸ hneg) (lt_irrefl 0)
  · obtain rfl := Option.some.inj hsame
    refine ⟨name, hname, ?_⟩
    rw [(holds_generateUniqueDeviceName rfl hlarge id).2, hholds.2, formatName_inj, hid]

/-- `fallback_agrees_iff` at an ID of eight bytes and buffers of 32 and 64 characters. -/
theorem fallback_agrees_iff_thingy :
    (thingyId.fallbackId = thingyId.uniqueId ↔
        thingyId.lastBytes.reverse = thingyId.lastBytes) ∧
      ∃ name, (deviceNamingGetName (some (List.replicate 64 nul)) (some thingyId) {}).2.1 =
          some name ∧
        (cString (generateUniqueDeviceName (List.replicate 32 nul) none (some thingyId) {}).1 =
          cString name ↔ thingyId.lastBytes.reverse = thingyId.lastBytes) :=
  fallback_agrees_iff thingyId (by decide) (by decide)

/-- `D4C3B2A1` from the service, `A1B2C3D4` from the fallback. -/
theorem fallback_not_agrees : ¬ ∀ id : DeviceId, id.fallbackId = id.uniqueId := by
  intro hall
  have hservice : thingyId.uniqueId = 0xD4C3B2A1 := by decide
  have hfallback : thingyId.fallbackId = 0xA1B2C3D4 := by decide
  exact absurd (hfallback.symm.trans ((hall thingyId).trans hservice)) (by decide)

end EnvMonitor
