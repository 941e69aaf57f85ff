import EnvMonitor.Errno
import EnvMonitor.Lib.CInt
import EnvMonitor.Lib.CString
import EnvMonitor.Lib.Machine
import Mathlib.Data.List.GetD

/-!
# The device name

`device_naming.c` makes the name `T52-XXXXXXXX` of the last four bytes of the hardware ID, once,
and hands out copies of it. The buffers of the callers have arbitrary sizes and contents, and
`hwinfo_get_device_id` may fail or answer differently from one call to the next.

`deviceName_stable` is about all runs: every call that succeeds leaves one and the same
terminated string, a call that fails might as well not have happened, and two devices have the
same name exactly if the last four bytes of their IDs agree.
-/

namespace EnvMonitor

/-! ### The ID -/

/-- `DEVICE_PREFIX`. -/
def DEVICE_PREFIX : List Char := ['T', '5', '2']

/-- `DEVICE_NAME_MAX_LEN`. -/
def DEVICE_NAME_MAX_LEN : ℕ := 64

/-- `DEVICE_NAME_MIN_BUF`. -/
def DEVICE_NAME_MIN_BUF : ℕ := 16

/-- `DEVICE_ID_BYTES_USED`. -/
def DEVICE_ID_BYTES_USED : ℕ := 4

/-- An ID as `hwinfo_get_device_id` delivers it into `HWINFO_DEVICE_ID_LEN` bytes. -/
structure DeviceId where
  bytes : List UInt8
  nonempty : bytes ≠ []
  length_le : bytes.length ≤ 8
deriving DecidableEq

namespace DeviceId

/-- `device_id[id_len - 1 - i]`. -/
def fromEnd (id : DeviceId) (i : ℕ) : UInt8 := id.bytes.getD (id.bytes.length - 1 - i) 0

/-- `unique_id`: the bytes from the end are or-ed in from the bottom. -/
def uniqueId (id : DeviceId) : UInt32 :=
  (List.range (min DEVICE_ID_BYTES_USED id.bytes.length)).foldl
    (fun uniqueId i => uniqueId ||| (id.fromEnd i).toUInt32 <<< UInt32.ofNat (i * 8)) 0

/-- The last four bytes, or all there are. -/
def lastBytes (id : DeviceId) : List UInt8 :=
  id.bytes.drop (id.bytes.length - DEVICE_ID_BYTES_USED)

theorem length_lastBytes (id : DeviceId) :
    id.lastBytes.length = min DEVICE_ID_BYTES_USED id.bytes.length := by
  rw [lastBytes, List.length_drop]
  omega

/-- The bytes that a loop from the end gets to see. -/
theorem map_fromEnd (id : DeviceId) :
    (List.range (min DEVICE_ID_BYTES_USED id.bytes.length)).map id.fromEnd =
      id.lastBytes.reverse := by
  refine List.ext_getElem ?_ fun i hi hi' => ?_
  · rw [List.length_map, List.length_range, List.length_reverse, length_lastBytes]
  · rw [List.length_map, List.length_range] at hi
    have hlen : id.lastBytes.length = _ := id.length_lastBytes
    rw [List.getElem_map, List.getElem_range, fromEnd, List.getElem_reverse,
      List.getD_eq_getElem _ _ (by omega)]
    simp only [lastBytes, List.getElem_drop]
    congr 1
    rw [lastBytes] at hlen
    omega

/-- The suffix is the big-endian number of the last four bytes. -/
theorem toNat_uniqueId (id : DeviceId) : id.uniqueId.toNat = leValue id.lastBytes.reverse := by
  have hused : min DEVICE_ID_BYTES_USED id.bytes.length ≤ 4 := Nat.min_le_left _ _
  rw [uniqueId, toNat_foldl_or id.fromEnd hused, map_fromEnd]

/-- IDs of four bytes and more have the same suffix exactly if their last four bytes agree. -/
theorem uniqueId_inj {id id' : DeviceId} (h : DEVICE_ID_BYTES_USED ≤ id.bytes.length)
    (h' : DEVICE_ID_BYTES_USED ≤ id'.bytes.length) :
    id.uniqueId = id'.uniqueId ↔ id.lastBytes = id'.lastBytes := by
  have hlen : id.lastBytes.reverse.length = id'.lastBytes.reverse.length := by
    rw [List.length_reverse, List.length_reverse, length_lastBytes, length_lastBytes]
    omega
  rw [← UInt32.toNat_inj, toNat_uniqueId, toNat_uniqueId, leValue_inj hlen, List.reverse_inj]

end DeviceId

/-! ### The name -/

/-- `"%s-%08X"` of `DEVICE_PREFIX` and a suffix. -/
def formatName (uniqueId : UInt32) : List Char :=
  DEVICE_PREFIX ++ '-' :: upperHex 8 uniqueId.toNat

@[simp]
theorem length_formatName (uniqueId : UInt32) : (formatName uniqueId).length = 12 := by
  simp [formatName, DEVICE_PREFIX]

theorem nul_notMem_formatName (uniqueId : UInt32) : nul ∉ formatName uniqueId := by
  intro h
  rcases List.mem_append.mp h with hprefix | hrest
  · exact absurd hprefix (by decide)
  · rcases List.mem_cons.mp hrest with hdash | hhex
    · exact absurd hdash (by decide)
    · exact nul_notMem_upperHex _ _ hhex

theorem formatName_inj {u v : UInt32} : formatName u = formatName v ↔ u = v := by
  have hlt : ∀ w : UInt32, w.toNat < 16 ^ 8 := fun w => w.toNat_lt
  rw [formatName, formatName, List.append_right_inj, List.cons_inj_right,
    upperHex_inj (hlt u) (hlt v), UInt32.toNat_inj]

/-! ### The service -/

/-- `device_name_buffer` and `naming_initialized`. -/
structure DeviceNaming where
  buffer : List Char := List.replicate DEVICE_NAME_MAX_LEN nul
  initialized : Bool := false
deriving DecidableEq, Repr

/-- `device_naming_get_name`: the return code, the caller's buffer afterwards and the service. A
buffer has `buffer_size` characters, `none` is a null pointer. `hw` is the answer of
`hwinfo_get_device_id`, should it be asked: `none` if it is not positive. -/
def deviceNamingGetName (nameBuffer : Option (List Char)) (hw : Option DeviceId)
    (s : DeviceNaming) : ℤ × Option (List Char) × DeviceNaming :=
  match nameBuffer with
  | none => (-EINVAL, none, s)
  | some buf =>
    if buf.length < DEVICE_NAME_MIN_BUF then (-EINVAL, some buf, s)
    else if s.initialized then
      (0, some ((strncpy (buf.length - 1) s.buffer buf).set (buf.length - 1) nul), s)
    else
      match hw with
      | none =>
        let unknown := DEVICE_PREFIX ++ ['-', 'U', 'N', 'K', 'N', 'O', 'W', 'N']
        (-ENODEV, some (snprintf buf.length unknown buf), s)
      | some id =>
        let buf := snprintf buf.length (formatName id.uniqueId) buf
        let last := DEVICE_NAME_MAX_LEN - 1
        (0, some buf,
          { buffer := (strncpy last buf s.buffer).set last nul
            initialized := true })

/-- `device_naming_init`; `temp` is what its uninitialised buffer holds. -/
def deviceNamingInit (temp : Fin DEVICE_NAME_MAX_LEN → Char) (hw : Option DeviceId)
    (s : DeviceNaming) : ℤ × DeviceNaming :=
  if s.initialized then (0, s)
  else
    let (ret, _, s) := deviceNamingGetName (some (List.ofFn temp)) hw s
    if ret < 0 then (ret, s) else (0, s)

/-! ### One call -/

/-- The service has cached the name. -/
def DeviceNaming.Cached (s : DeviceNaming) (name : List Char) : Prop :=
  s.initialized = true ∧ Holds s.buffer name

/-- Once the name is cached, no call changes the service. -/
theorem deviceNamingGetName_state {s : DeviceNaming} (h : s.initialized = true)
    (nameBuffer : Option (List Char)) (hw : Option DeviceId) :
    (deviceNamingGetName nameBuffer hw s).2.2 = s := by
  rw [deviceNamingGetName.eq_def]
  cases nameBuffer with
  | none => rfl
  | some buf =>
    simp only [h, if_true]
    split_ifs <;> rfl

/-- A call on a service with a cached name changes nothing, and succeeds with that name if it is
given room for it. -/
theorem deviceNamingGetName_of_cached {s : DeviceNaming} {u : UInt32}
    (h : s.Cached (formatName u)) (nameBuffer : Option (List Char)) (hw : Option DeviceId) :
    let call := deviceNamingGetName nameBuffer hw s
    call.2.2 = s ∧ (call.1 = 0 → ∃ buf, call.2.1 = some buf ∧ Holds buf (formatName u)) := by
  obtain ⟨hinit, hholds⟩ := h
  have hinval : (-EINVAL : ℤ) ≠ 0 := by decide
  refine ⟨deviceNamingGetName_state hinit nameBuffer hw, ?_⟩
  cases nameBuffer with
  | none => exact fun hzero => absurd hzero hinval
  | some buf =>
    by_cases hsmall : buf.length < DEVICE_NAME_MIN_BUF
    · simp [deviceNamingGetName, hsmall, hinval]
    · have hfits : (formatName u).length < buf.length - 1 := by
        rw [length_formatName]
        rw [DEVICE_NAME_MIN_BUF] at hsmall
        omega
      simp only [deviceNamingGetName, hsmall, hinit, if_false, if_true]
      exact fun _ => ⟨_, rfl, holds_strncpy hholds (nul_notMem_formatName u) hfits buf⟩

/-- A call on a service without one either fails and leaves it so, or succeeds with the name of
the ID it reads, which is cached from then on. -/
theorem deviceNamingGetName_of_not_initialized {s : DeviceNaming} (h : s.initialized = false)
    (nameBuffer : Option (List Char)) (hw : Option DeviceId) :
    let call := deviceNamingGetName nameBuffer hw s
    (call.1 < 0 ∧ call.2.2 = s) ∨
      ∃ id buf, hw = some id ∧ call.1 = 0 ∧ call.2.1 = some buf ∧
        Holds buf (formatName id.uniqueId) ∧ call.2.2.Cached (formatName id.uniqueId) := by
  have hinval : 0 < EINVAL := by decide
  have hnodev : 0 < ENODEV := by decide
  cases nameBuffer with
  | none => exact Or.inl ⟨Int.neg_neg_of_pos hinval, rfl⟩
  | some buf =>
    by_cases hsmall : buf.length < DEVICE_NAME_MIN_BUF
    · exact Or.inl (by simp [deviceNamingGetName, hsmall, hinval])
    · cases hw with
      | none => exact Or.inl (by simp [deviceNamingGetName, hsmall, h, hnodev])
      | some id =>
        have hlen := length_formatName id.uniqueId
        have hnul := nul_notMem_formatName id.uniqueId
        have hfits : (formatName id.uniqueId).length < buf.length := by
          rw [DEVICE_NAME_MIN_BUF] at hsmall
          omega
        have hprinted := holds_snprintf hnul hfits buf
        have hcached := holds_strncpy (n := DEVICE_NAME_MAX_LEN - 1) hprinted hnul
          (by rw [hlen]; decide) s.buffer
        refine Or.inr ⟨id, snprintf buf.length (formatName id.uniqueId) buf, rfl, ?_⟩
        simp only [deviceNamingGetName, hsmall, h, if_false, Bool.false_eq_true]
        exact ⟨trivial, trivial, hprinted, rfl, hcached⟩

/-- `device_naming_init` does to the service what a `device_naming_get_name` with a large buffer
does. -/
theorem deviceNamingInit_eq (temp : Fin DEVICE_NAME_MAX_LEN → Char) (hw : Option DeviceId)
    (s : DeviceNaming) :
    deviceNamingInit temp hw s =
      ((deviceNamingGetName (some (List.ofFn temp)) hw s).1,
        (deviceNamingGetName (some (List.ofFn temp)) hw s).2.2) := by
  have hlarge : ¬ DEVICE_NAME_MAX_LEN < DEVICE_NAME_MIN_BUF := by decide
  rw [deviceNamingInit]
  by_cases h : s.initialized = true
  · rw [if_pos h]
    simp [deviceNamingGetName, hlarge, h]
  · rw [if_neg h]
    rcases deviceNamingGetName_of_not_initialized (Bool.not_eq_true _ ▸ h) (some (List.ofFn temp))
      hw with ⟨hneg, -⟩ | ⟨id, buf, -, hzero, -⟩
    · simp only [hneg, if_true]
    · simp only [hzero, lt_self_iff_false, if_false]

/-! ### Runs -/

/-- The calls of the service. -/
inductive NamingEvent where
  | init (temp : Fin DEVICE_NAME_MAX_LEN → Char) (hw : Option DeviceId)
  | getName (nameBuffer : Option (List Char)) (hw : Option DeviceId)

/-- The answer of `hwinfo_get_device_id` to a call. -/
def NamingEvent.hw : NamingEvent → Option DeviceId
  | .init _ hw | .getName _ hw => hw

/-- What a call leaves its caller with. -/
inductive NamingReply where
  | init (ret : ℤ)
  | getName (ret : ℤ) (nameBuffer : Option (List Char))
deriving DecidableEq, Repr

/-- The return code of a call. -/
def NamingReply.ret : NamingReply → ℤ
  | .init ret | .getName ret _ => ret

/-- One call. -/
def namingStep : NamingEvent → DeviceNaming → Option (DeviceNaming × List NamingReply)
  | .init temp hw, s =>
    let (ret, s) := deviceNamingInit temp hw s
    some (s, [.init ret])
  | .getName nameBuffer hw, s =>
    let (ret, nameBuffer, s) := deviceNamingGetName nameBuffer hw s
    some (s, [.getName ret nameBuffer])

/-- The service as a machine. -/
def namingMachine : Machine DeviceNaming NamingEvent NamingReply := ⟨namingStep⟩

/-- If the reply is that of a successful `device_naming_get_name`, it delivers the name. -/
def NamingReply.Delivers (name : List Char) (r : NamingReply) : Prop :=
  ∀ b, r = .getName 0 b → ∃ buf, b = some buf ∧ Holds buf name

/-- A call on a service with a cached name. -/
theorem namingStep_of_cached {s s' : DeviceNaming} {u : UInt32} (h : s.Cached (formatName u))
    {e : NamingEvent} {os : List NamingReply} (hstep : namingStep e s = some (s', os)) :
    s' = s ∧ ∀ r ∈ os, r.Delivers (formatName u) := by
  cases e with
  | init temp hw =>
    obtain ⟨hsame, -⟩ := deviceNamingGetName_of_cached h (some (List.ofFn temp)) hw
    simp only [namingStep, deviceNamingInit_eq, Option.some.injEq, Prod.mk.injEq] at hstep
    obtain ⟨rfl, rfl⟩ := hstep
    refine ⟨hsame, fun r hr b hb => ?_⟩
    rw [List.mem_singleton.mp hr] at hb
    cases hb
  | getName nameBuffer hw =>
    obtain ⟨hsame, hdelivers⟩ := deviceNamingGetName_of_cached h nameBuffer hw
    simp only [namingStep, Option.some.injEq, Prod.mk.injEq] at hstep
    obtain ⟨rfl, rfl⟩ := hstep
    refine ⟨hsame, fun r hr b hb => ?_⟩
    rw [List.mem_singleton.mp hr, NamingReply.getName.injEq] at hb
    obtain ⟨hzero, rfl⟩ := hb
    exact hdelivers hzero

/-- A call on a service without one: it fails and changes nothing, or the name of its ID is
cached from then on, and delivered. -/
theorem namingStep_of_not_initialized {s s' : DeviceNaming} (h : s.initialized = false)
    {e : NamingEvent} {os : List NamingReply} (hstep : namingStep e s = some (s', os)) :
    (s' = s ∧ ∀ r ∈ os, r.ret < 0) ∨
      ∃ id, e.hw = some id ∧ s'.Cached (formatName id.uniqueId) ∧
        ∀ r ∈ os, r.ret = 0 ∧ r.Delivers (formatName id.uniqueId) := by
  cases e with
  | init temp hw =>
    simp only [namingStep, deviceNamingInit_eq, Option.some.injEq, Prod.mk.injEq] at hstep
    obtain ⟨rfl, rfl⟩ := hstep
    simp only [List.mem_singleton, forall_eq]
    rcases deviceNamingGetName_of_not_initialized h (some (List.ofFn temp)) hw with
      ⟨hneg, hsame⟩ | ⟨id, buf, rfl, hzero, -, -, hcached⟩
    · exact Or.inl ⟨hsame, hneg⟩
    · exact Or.inr ⟨id, rfl, hcached, hzero, fun b hb => NamingReply.noConfusion hb⟩
  | getName nameBuffer hw =>
    simp only [namingStep, Option.some.injEq, Prod.mk.injEq] at hstep
    obtain ⟨rfl, rfl⟩ := hstep
    simp only [List.mem_singleton, forall_eq]
    rcases deviceNamingGetName_of_not_initialized h nameBuffer hw with
      ⟨hneg, hsame⟩ | ⟨id, buf, rfl, hzero, hbuf, hholds, hcached⟩
    · exact Or.inl ⟨hsame, hneg⟩
    · refine Or.inr ⟨id, rfl, hcached, hzero, fun b hb => ⟨buf, ?_, hholds⟩⟩
      obtain ⟨-, rfl⟩ := (NamingReply.getName.injEq ..).mp hb
      exact hbuf

/-- Every call has one reply. -/
theorem namingStep_reply {s s' : DeviceNaming} {e : NamingEvent} {os : List NamingReply}
    (hstep : namingStep e s = some (s', os)) : ∃ r, os = [r] := by
  cases e with
  | init temp hw =>
    obtain ⟨-, rfl⟩ := Prod.mk.inj (Option.some.inj hstep)
    exact ⟨_, rfl⟩
  | getName nameBuffer hw =>
    obtain ⟨-, rfl⟩ := Prod.mk.inj (Option.some.inj hstep)
    exact ⟨_, rfl⟩

/-- A call that fails leaves no trace. -/
theorem namingStep_of_failed {s s' : DeviceNaming} {e : NamingEvent} {os : List NamingReply}
    (hstep : namingStep e s = some (s', os)) (hfailed : ∃ r ∈ os, r.ret ≠ 0) : s' = s := by
  by_cases h : s.initialized = true
  · cases e with
    | init temp hw =>
      simp only [namingStep, deviceNamingInit, h, if_true, Option.some.injEq, Prod.mk.injEq]
        at hstep
      exact hstep.1.symm
    | getName nameBuffer hw =>
      simp only [namingStep, deviceNamingGetName_state h, Option.some.injEq, Prod.mk.injEq] at hstep
      exact hstep.1.symm
  · rw [Bool.not_eq_true] at h
    rcases namingStep_of_not_initialized h hstep with ⟨hsame, -⟩ | ⟨id, -, -, hall⟩
    · exact hsame
    · obtain ⟨r, hr, hne⟩ := hfailed
      exact absurd (hall r hr).1 hne

/-- A run from a cached name delivers nothing else. -/
theorem namingMachine_run_of_cached {s t : DeviceNaming} {u : UInt32}
    (h : s.Cached (formatName u)) {es : List NamingEvent} {os : List NamingReply}
    (hrun : namingMachine.run es s = some (t, os)) :
    t = s ∧ ∀ r ∈ os, r.Delivers (formatName u) := by
  have hkeeps : namingMachine.Preserves Machine.anyEvent (· = s) := by
    rintro e s₁ s₂ os₁ - rfl hstep
    exact (namingStep_of_cached h hstep).1
  refine ⟨hkeeps.run (fun _ _ => trivial) rfl hrun,
    hkeeps.run_emits ?_ (fun _ _ => trivial) rfl hrun⟩
  rintro e s₁ s₂ os₁ - rfl hstep
  exact (namingStep_of_cached h hstep).2

/-- **Every run.** Either no call has succeeded, or one ID that was read is the one whose name
all calls deliver. The induction finds the first call that succeeds. -/
theorem namingMachine_run {s t : DeviceNaming} (h : s.initialized = false)
    {es : List NamingEvent} {os : List NamingReply}
    (hrun : namingMachine.run es s = some (t, os)) :
    (∀ r ∈ os, r.ret < 0) ∨
      ∃ id, (∃ e ∈ es, e.hw = some id) ∧ ∀ r ∈ os, r.Delivers (formatName id.uniqueId) := by
  induction es generalizing s os with
  | nil =>
    simp only [Machine.run_nil, Option.some.injEq, Prod.mk.injEq] at hrun
    exact Or.inl (by simp [← hrun.2])
  | cons e es ih =>
    obtain ⟨s₁, o₁, o₂, h₁, h₂, rfl⟩ := namingMachine.run_cons_eq_some.mp hrun
    rcases namingStep_of_not_initialized h h₁ with ⟨rfl, hfail⟩ | ⟨id, hid, hcached, hnow⟩
    · have hquiet : ∀ {name : List Char}, ∀ r ∈ o₁, r.Delivers name := by
        intro name r hr b hb
        have hneg := hfail r hr
        rw [hb] at hneg
        exact absurd hneg (lt_irrefl 0)
      rcases ih h h₂ with hall | ⟨id, ⟨e', he', hid⟩, hall⟩
      · exact Or.inl fun r hr => (List.mem_append.mp hr).elim (hfail r) (hall r)
      · exact Or.inr ⟨id, ⟨e', List.mem_cons_of_mem e he', hid⟩,
          fun r hr => (List.mem_append.mp hr).elim (hquiet r) (hall r)⟩
    · obtain ⟨-, hlater⟩ := namingMachine_run_of_cached hcached h₂
      exact Or.inr ⟨id, ⟨e, List.mem_cons_self, hid⟩,
        fun r hr => (List.mem_append.mp hr).elim (fun hr₁ => (hnow r hr₁).2) (hlater r)⟩

/-! ### Names -/

/-- All that `hwinfo_get_device_id` delivers in the run is the ID of one device. -/
def OfDevice (id : DeviceId) (es : List NamingEvent) : Prop :=
  ∀ e ∈ es, ∀ id', e.hw = some id' → id' = id

/-- The name of a device is made of its ID. -/
theorem holds_of_device {es : List NamingEvent} {s : DeviceNaming} {os : List NamingReply}
    (hrun : namingMachine.run es {} = some (s, os)) {id : DeviceId} (hdevice : OfDevice id es)
    {buf : List Char} (hbuf : .getName 0 (some buf) ∈ os) :
    Holds buf (formatName id.uniqueId) := by
  rcases namingMachine_run rfl hrun with hfail | ⟨id', ⟨e, he, hid⟩, hall⟩
  · exact absurd (hfail _ hbuf) (lt_irrefl 0)
  · obtain rfl := hdevice e he id' hid
    obtain ⟨buf', hsame, hholds⟩ := hall _ hbuf _ rfl
    rwa [Option.some.inj hsame]

/-- **Names are stable and injective.** In every run of `device_naming_init` and
`device_naming_get_name` calls from program start: all calls that succeed leave one terminated
name of twelve characters, whatever the sizes of the buffers; a call that fails at the end of the
run changes nothing that later calls return; and in two such runs, of two devices whose IDs have
at least four bytes, the names are equal exactly if the last four bytes are. -/
theorem deviceName_stable {es : List NamingEvent} {s : DeviceNaming} {os : List NamingReply}
    (hrun : namingMachine.run es {} = some (s, os)) :
    (∃ suffix : List Char, suffix.length = 8 ∧ (∀ c ∈ suffix, ∃ d < 16, c = hexDigit d) ∧
        ∀ b, .getName 0 b ∈ os →
          ∃ buf, b = some buf ∧ Holds buf (['T', '5', '2', '-'] ++ suffix)) ∧
      (∀ e es' t r os', namingMachine.run (e :: es') s = some (t, r :: os') → r.ret ≠ 0 →
        namingMachine.run es' s = some (t, os')) ∧
      ∀ es' s' os', namingMachine.run es' {} = some (s', os') →
        ∀ id id' : DeviceId, 4 ≤ id.bytes.length → 4 ≤ id'.bytes.length →
          OfDevice id es → OfDevice id' es' →
            ∀ buf buf', .getName 0 (some buf) ∈ os → .getName 0 (some buf') ∈ os' →
              (cString buf = cString buf' ↔ id.lastBytes = id'.lastBytes) := by
  refine ⟨?_, fun e es' t r os' hrun' hfailed => ?_, ?_⟩
  · have hform : ∀ u : UInt32, formatName u = ['T', '5', '2', '-'] ++ upperHex 8 u.toNat :=
      fun _ => rfl
    rcases namingMachine_run rfl hrun with hfail | ⟨id, -, hall⟩
    · exact ⟨upperHex 8 0, length_upperHex _ _, fun _ => upperHex_digit,
        fun b hb => absurd (hfail _ hb) (lt_irrefl 0)⟩
    · exact ⟨upperHex 8 id.uniqueId.toNat, length_upperHex _ _, fun _ => upperHex_digit,
        fun b hb => hform id.uniqueId ▸ hall _ hb b rfl⟩
  · obtain ⟨s₁, o₁, o₂, h₁, h₂, hos⟩ := namingMachine.run_cons_eq_some.mp hrun'
    obtain ⟨r', rfl⟩ : ∃ r', o₁ = [r'] := namingStep_reply h₁
    obtain ⟨rfl, rfl⟩ := List.cons.inj hos
    obtain rfl := namingStep_of_failed h₁ ⟨r, List.mem_cons_self, hfailed⟩
    exact h₂
  · intro es' s' os' hrun' id id' hlong hlong' hdevice hdevice' buf buf' hbuf hbuf'
    rw [(holds_of_device hrun hdevice hbuf).2, (holds_of_device hrun' hdevice' hbuf').2,
      formatName_inj, DeviceId.uniqueId_inj hlong hlong']

/-- An ID of eight bytes. -/
def thingyId : DeviceId := ⟨[0xAA, 0xBB, 0xCC, 0xDD, 0xD4, 0xC3, 0xB2, 0xA1], by decide, by decide⟩

/-- A read that fails, one that succeeds, and a copy into a larger buffer. -/
def thingyCalls : List NamingEvent :=
  [.getName (some (List.replicate 20 'x')) none,
    .getName (some (List.replicate 16 'x')) (some thingyId),
    .getName (some (List.replicate 20 'x')) none]

/-- `deviceName_stable` at the calls above, the last of which delivers the name. -/
theorem deviceName_stable_thingy :
    ∃ s os, namingMachine.run thingyCalls {} = some (s, os) ∧
      .getName 0 (some (['T', '5', '2', '-', 'D', '4', 'C', '3', 'B', '2', 'A', '1'] ++
        List.replicate 8 nul)) ∈ os ∧
      (∃ suffix : List Char, suffix.length = 8 ∧ (∀ c ∈ suffix, ∃ d < 16, c = hexDigit d) ∧
        ∀ b, .getName 0 b ∈ os →
          ∃ buf, b = some buf ∧ Holds buf (['T', '5', '2', '-'] ++ suffix)) ∧
      (∀ e es' t r os', namingMachine.run (e :: es') s = some (t, r :: os') → r.ret ≠ 0 →
        namingMachine.run es' s = some (t, os')) ∧
      ∀ es' s' os', namingMachine.run es' {} = some (s', os') →
        ∀ id id' : DeviceId, 4 ≤ id.bytes.length → 4 ≤ id'.bytes.length →
          OfDevice id thingyCalls → OfDevice id' es' →
            ∀ buf buf', .getName 0 (some buf) ∈ os → .getName 0 (some buf') ∈ os' →
              (cString buf = cString buf' ↔ id.lastBytes = id'.lastBytes) := by
  have hdelivered : ∃ u ∈ namingMachine.run thingyCalls {},
      .getName 0 (some (['T', '5', '2', '-', 'D', '4', 'C', '3', 'B', '2', 'A', '1'] ++
        List.replicate 8 nul)) ∈ u.2 := by
    decide +kernel
  obtain ⟨⟨s, os⟩, hrun, hmem⟩ := hdelivered
  exact ⟨s, os, hrun, hmem, deviceName_stable hrun⟩

end EnvMonitor
