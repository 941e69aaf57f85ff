import EnvMonitor.Ess.Read

/-!
# The wire format of a read

A successful read serves the little-endian bytes of the value it leaves in the cache, which
are the bytes a notification of that value carries, and the shell decodes them back to the
cached value. The round trip goes through a mask, `int16_t` and `uint16_t`; it is exact
because every value a read leaves known is one of its characteristic's wire range, which
`essRead_outcome` carries.
-/

namespace EnvMonitor

variable {ρ ρ' : Type*}

/-- The number `print_ess_decoded` prints for the bytes of a characteristic: signed 16-bit
for temperature, unsigned otherwise, and nothing if there are too few. -/
def essDecoded (c : EssCharId) (buf : List UInt8) : Option ℤ :=
  if buf.length < c.width then none
  else
    let raw := leValue (buf.take c.width)
    match c with
    | .temperature => some (toSigned 16 raw)
    | _ => some raw

theorem length_payload (c : EssCharId) (v : ℤ) : (c.payload v).length = c.width :=
  length_leBytes ..

theorem width_le_four (c : EssCharId) : c.width ≤ 4 := by
  cases c <;> decide

/-- **Round trip.** The bytes of a value of the wire range decode to it. -/
theorem essDecoded_payload {c : EssCharId} {v : ℤ} (hv : c.InWire v) :
    essDecoded c (c.payload v) = some v := by
  have htake : (c.payload v).take c.width = c.payload v :=
    List.take_of_length_le (length_payload c v).le
  have hbytes : leValue (c.payload v) = toUnsigned (8 * c.width) v := by
    have hlt := toUnsigned_lt (8 * c.width) v
    rw [pow_mul] at hlt
    exact leValue_leBytes_of_lt hlt
  have hlength : ¬ (c.payload v).length < c.width := by
    rw [length_payload]
    exact lt_irrefl _
  have hu16 : 0 ≤ v ∧ v < 65536 → some (toUnsigned 16 v : ℤ) = some v :=
    fun h => congrArg some (toUnsigned_of_lt h.1 h.2)
  rw [essDecoded, if_neg hlength, htake, hbytes]
  -- on the wire range the conversions of each format are the identity
  cases c with
  | temperature =>
    change some (toSigned 16 (toUnsigned 16 v)) = some v
    rw [toSigned_toUnsigned, toSigned_of_le hv.1 hv.2]
  | humidity => exact hu16 hv
  | pressure =>
    obtain ⟨hv0, hv1⟩ := hv
    have hlt : v < 2 ^ 32 := by omega
    exact congrArg some (toUnsigned_of_lt hv0 hlt)
  | co2 => exact hu16 hv
  | tvoc => exact hu16 hv

/-- A buffer of 4 bytes holds every whole value. -/
theorem served_whole (c : EssCharId) {len : ℕ} (hlen : 4 ≤ len) (x : EssSensor) :
    c.served len 0 x = .ok (c.payload x.value) := by
  have hall : (c.payload x.value).take len = c.payload x.value :=
    List.take_of_length_le ((length_payload c _).le.trans ((width_le_four c).trans hlen))
  rw [EssCharId.served, btGattAttrRead, if_neg (by simp), List.drop_zero, hall]

/-- Whatever is stored, the payload of its notification is a function of the value it leaves
in the cache. -/
theorem attempt_updateSensorOf {c : EssCharId} {new : ℤ} {n : EssRun ρ} {w : EssWrite}
    (hw : (n.updateSensorOf c new).writes = n.writes ++ [w]) :
    w.attempt = none ∨ w.attempt = some (c.payload w.value) := by
  have hstore : ∀ {notify : Bool} {stored : ℤ} {payload : List UInt8},
      payload = c.payload stored →
      (n.updateSensor c notify stored payload).writes = n.writes ++ [w] →
      w.attempt = none ∨ w.attempt = some (c.payload w.value) := by
    intro notify stored payload hpayload h
    obtain rfl := List.singleton_inj.mp (List.append_cancel_left h)
    change (if _ then some payload else none) = none ∨
      (if _ then some payload else none) = some (c.payload stored)
    split_ifs
    · exact Or.inr (congrArg some hpayload)
    · exact Or.inl rfl
  cases c with
  | temperature => exact hstore rfl hw
  | humidity => exact hstore rfl hw
  | pressure =>
    refine hstore ?_ hw
    change leBytes 4 (toUnsigned 32 new) = leBytes 4 (toUnsigned 32 (toSigned 32 new))
    rw [toUnsigned_toSigned]
  | co2 => exact hstore rfl hw
  | tvoc => exact hstore rfl hw

/-- **Read result, cache and wire bytes agree.** Whatever the sensor manager answers and
whatever its callbacks do, a read at offset 0 into a buffer of at least 4 bytes fails and
leaves the characteristic unknown, or serves all bytes of its wire format: they decode to
the cached value, which is known, and any update that stores that value and notifies it
sends the same bytes. -/
theorem essRead_wire (ops : ManagerOps ρ) (c : EssCharId) {len : ℕ} (hlen : 4 ≤ len)
    (u : EssRun ρ) :
    (∃ e, (essRead ops c len 0 u).1 = .error e ∧
        ((essRead ops c len 0 u).2.ess.sensor c).valueKnown = false) ∨
      ∃ bytes, (essRead ops c len 0 u).1 = .ok bytes ∧
        bytes.length = c.width ∧
        ((essRead ops c len 0 u).2.ess.sensor c).valueKnown = true ∧
        essDecoded c bytes = some ((essRead ops c len 0 u).2.ess.sensor c).value ∧
        ∀ (n : EssRun ρ') (new : ℤ) (w : EssWrite),
          (n.updateSensorOf c new).writes = n.writes ++ [w] →
          w.value = ((essRead ops c len 0 u).2.ess.sensor c).value →
          w.attempt = none ∨ w.attempt = some bytes := by
  have houtcome : ReadOutcome (fun _ _ => True) c len 0 (essRead ops c len 0 u) :=
    essRead_outcome (fun _ _ _ _ _ => trivial) (fun _ _ => trivial) len 0
  rcases houtcome with herror | ⟨hknown, hwire, -, hserved⟩
  · exact Or.inl herror
  · refine Or.inr ⟨c.payload ((essRead ops c len 0 u).2.ess.sensor c).value, ?_, ?_, hknown,
      essDecoded_payload hwire, ?_⟩
    · rw [hserved, served_whole c hlen]
    · exact length_payload c _
    · intro n new w hw hvalue
      rw [← hvalue]
      exact attempt_updateSensorOf hw

/-- `essRead_wire` at a read of the CO2 while the CCS811 is conditioning, which serves the
sentinel. -/
theorem essRead_wire_conditioning :
    let u : EssRun Unit := ⟨essStart, [], ()⟩
    let read := essRead (.fixed false sensorDataZero) .co2 4 0 u
    read.1.toOption = some [0xFF, 0xFF] ∧
      ((∃ e, read.1 = .error e ∧ (read.2.ess.sensor .co2).valueKnown = false) ∨
        ∃ bytes, read.1 = .ok bytes ∧
          bytes.length = EssCharId.co2.width ∧
          (read.2.ess.sensor .co2).valueKnown = true ∧
          essDecoded .co2 bytes = some (read.2.ess.sensor .co2).value ∧
          ∀ (n : EssRun Unit) (new : ℤ) (w : EssWrite),
            (n.updateSensorOf .co2 new).writes = n.writes ++ [w] →
            w.value = (read.2.ess.sensor .co2).value →
            w.attempt = none ∨ w.attempt = some bytes) :=
  ⟨by decide, essRead_wire (.fixed false sensorDataZero) .co2 (by decide) ⟨essStart, [], ()⟩⟩

end EnvMonitor
