import Mathlib.Algebra.Order.Ring.Int
import Mathlib.Data.Nat.ModEq
import Mathlib.Tactic.NormNum
import Mathlib.Tactic.Ring

/-!
# C integers and their little-endian bytes

Machine integers are kept as mathematical ones, and every cast of the source is one of the
two conversions below: to the unsigned type of a width, which reduces, and to the signed
type, which reduces and recentres. Both are the identity on the values their type can hold.

`leBytes w n` is the little-endian representation of `n` in `w` bytes and `leValue` reads one
back, so writing a value and reading it is reduction modulo `256 ^ w`.
-/

namespace EnvMonitor

/-! ### Conversions -/

/-- The conversion to the unsigned type of `bits` bits. -/
def toUnsigned (bits : ℕ) (n : ℤ) : ℕ := (n % 2 ^ bits).toNat

/-- The conversion to the signed type of `bits` bits. -/
def toSigned (bits : ℕ) (n : ℤ) : ℤ := n.bmod (2 ^ bits)

theorem toUnsigned_lt (bits : ℕ) (n : ℤ) : toUnsigned bits n < 2 ^ bits := by
  have hpos : (0 : ℤ) < 2 ^ bits := by positivity
  have hlt := Int.emod_lt_of_pos n hpos
  have hnonneg := Int.emod_nonneg n hpos.ne'
  have hcast : ((2 ^ bits : ℕ) : ℤ) = 2 ^ bits := by push_cast; rfl
  rw [toUnsigned]
  omega

/-- A value of the unsigned type converts to itself. -/
theorem toUnsigned_of_lt {bits : ℕ} {n : ℤ} (h0 : 0 ≤ n) (h : n < 2 ^ bits) :
    (toUnsigned bits n : ℤ) = n := by
  rw [toUnsigned, Int.emod_eq_of_lt h0 h, Int.toNat_of_nonneg h0]

/-- The signed conversion only sees the value modulo `2 ^ bits`. -/
@[simp]
theorem toSigned_toUnsigned (bits : ℕ) (n : ℤ) :
    toSigned bits (toUnsigned bits n) = toSigned bits n := by
  have hpos : (0 : ℤ) < 2 ^ bits := by positivity
  rw [toSigned, toSigned, toUnsigned, Int.toNat_of_nonneg (Int.emod_nonneg n hpos.ne')]
  have hcast : (2 ^ bits : ℤ) = ((2 ^ bits : ℕ) : ℤ) := by push_cast; rfl
  rw [hcast, Int.emod_bmod]

/-- The unsigned conversion only sees the value modulo `2 ^ bits`. -/
@[simp]
theorem toUnsigned_toSigned (bits : ℕ) (n : ℤ) :
    toUnsigned bits (toSigned bits n) = toUnsigned bits n := by
  have hcast : (2 ^ bits : ℤ) = ((2 ^ bits : ℕ) : ℤ) := by push_cast; rfl
  rw [toUnsigned, toUnsigned, toSigned, hcast, Int.bmod_emod]

/-- An unsigned value of the same width converts to itself. -/
@[simp]
theorem toUnsigned_toUnsigned (bits : ℕ) (n : ℤ) :
    toUnsigned bits (toUnsigned bits n) = toUnsigned bits n := by
  rw [← toUnsigned_toSigned, toSigned_toUnsigned, toUnsigned_toSigned]

/-- A value of the signed type converts to itself. -/
theorem toSigned_of_le {bits : ℕ} {n : ℤ} (hlo : -2 ^ bits ≤ n) (hhi : n < 2 ^ bits) :
    toSigned (bits + 1) n = n := by
  have hcast : ((2 ^ (bits + 1) : ℕ) : ℤ) = 2 * 2 ^ bits := by push_cast; ring
  rw [toSigned]
  apply Int.bmod_eq_of_le
  · rw [hcast]
    omega
  · rw [hcast]
    omega

/-- The signed conversion is injective on the unsigned type. -/
theorem toSigned_inj_of_lt {bits : ℕ} {n m : ℤ} (hn : 0 ≤ n) (hn' : n < 2 ^ bits)
    (hm : 0 ≤ m) (hm' : m < 2 ^ bits) : toSigned bits n = toSigned bits m ↔ n = m := by
  constructor
  · intro h
    calc n = toUnsigned bits n := (toUnsigned_of_lt hn hn').symm
      _ = toUnsigned bits (toSigned bits n) := by rw [toUnsigned_toSigned]
      _ = toUnsigned bits (toSigned bits m) := by rw [h]
      _ = toUnsigned bits m := by rw [toUnsigned_toSigned]
      _ = m := toUnsigned_of_lt hm hm'
  · rintro rfl
    rfl

/-! ### Bytes -/

/-- The `w` little-endian bytes of `n`; what does not fit is dropped. -/
def leBytes : ℕ → ℕ → List UInt8
  | 0, _ => []
  | w + 1, n => UInt8.ofNat n :: leBytes w (n / 256)

/-- The number with the given little-endian bytes. -/
def leValue : List UInt8 → ℕ
  | [] => 0
  | b :: bs => b.toNat + 256 * leValue bs

@[simp]
theorem length_leBytes (w n : ℕ) : (leBytes w n).length = w := by
  induction w generalizing n with
  | zero => rfl
  | succ w ih => simp [leBytes, ih]

/-- **Round trip.** Reading back the bytes of `n` gives `n` modulo `256 ^ w`. -/
theorem leValue_leBytes (w n : ℕ) : leValue (leBytes w n) = n % 256 ^ w := by
  induction w generalizing n with
  | zero => simp [leBytes, leValue, Nat.mod_one]
  | succ w ih =>
    calc leValue (leBytes (w + 1) n)
        = (UInt8.ofNat n).toNat + 256 * leValue (leBytes w (n / 256)) := rfl
      _ = n % 256 + 256 * (n / 256 % 256 ^ w) := by
          rw [ih, UInt8.toNat_ofNat']
      _ = n % 256 ^ (w + 1) := by
          rw [pow_succ', Nat.mod_mul]

/-- The bytes of a value that fits are read back exactly. -/
theorem leValue_leBytes_of_lt {w n : ℕ} (h : n < 256 ^ w) : leValue (leBytes w n) = n := by
  rw [leValue_leBytes, Nat.mod_eq_of_lt h]

theorem leValue_append (bs cs : List UInt8) :
    leValue (bs ++ cs) = leValue bs + 256 ^ bs.length * leValue cs := by
  induction bs with
  | nil => simp [leValue]
  | cons b bs ih =>
    rw [List.cons_append, leValue, leValue, ih, List.length_cons, pow_succ']
    ring

theorem leValue_lt (bs : List UInt8) : leValue bs < 256 ^ bs.length := by
  induction bs with
  | nil => simp [leValue]
  | cons b bs ih =>
    have hb := b.toNat_lt
    rw [leValue, List.length_cons, pow_succ']
    omega

/-- Numbers of equally many bytes are equal exactly if the bytes are. -/
theorem leValue_inj {bs cs : List UInt8} (hlen : bs.length = cs.length) :
    leValue bs = leValue cs ↔ bs = cs := by
  refine ⟨fun h => ?_, fun h => h ▸ rfl⟩
  induction bs generalizing cs with
  | nil => exact (List.length_eq_zero_iff.mp hlen.symm).symm
  | cons b bs ih =>
    obtain ⟨c, cs, rfl⟩ := List.exists_cons_of_length_eq_add_one hlen.symm
    rw [leValue, leValue] at h
    have hb := b.toNat_lt
    have hc := c.toNat_lt
    have hhead : b = c := UInt8.toNat_inj.mp (by omega)
    have htail : bs = cs := ih (Nat.succ.inj hlen) (by omega)
    rw [hhead, htail]

/-! ### Packing bytes into a word -/

/-- Or-ing a byte in above the bits in use. -/
theorem toNat_or_shiftLeft {u : UInt32} {n : ℕ} (hn : n < 4) (hu : u.toNat < 256 ^ n) (b : UInt8) :
    (u ||| b.toUInt32 <<< UInt32.ofNat (n * 8)).toNat = u.toNat + 256 ^ n * b.toNat := by
  have hpow : (256 : ℕ) ^ n = 2 ^ (n * 8) := by
    rw [mul_comm, pow_mul]
    norm_num
  have hb := b.toNat_lt
  have hshift : (b.toUInt32 <<< UInt32.ofNat (n * 8)).toNat = b.toNat <<< (n * 8) := by
    have hle : 256 ^ n ≤ 256 ^ 3 := Nat.pow_le_pow_right (by omega) (by omega)
    have hlt : b.toNat <<< (n * 8) < 2 ^ 32 := by
      rw [Nat.shiftLeft_eq, ← hpow]
      calc b.toNat * 256 ^ n ≤ 255 * 256 ^ 3 := Nat.mul_le_mul (by omega) hle
        _ < 2 ^ 32 := by norm_num
    rw [UInt32.toNat_shiftLeft, UInt8.toNat_toUInt32, UInt32.toNat_ofNat',
      Nat.mod_mod_of_dvd _ (by norm_num), Nat.mod_eq_of_lt (show n * 8 < 32 by omega),
      Nat.mod_eq_of_lt hlt]
  rw [UInt32.toNat_or, hshift, Nat.or_comm, ← Nat.shiftLeft_add_eq_or_of_lt (hpow ▸ hu),
    Nat.shiftLeft_eq, ← hpow]
  ring

/-- Shifting the bits in use up by a byte and or-ing it in below. -/
theorem toNat_shiftLeft_or {u : UInt32} (hu : u.toNat < 256 ^ 3) (b : UInt8) :
    (u <<< 8 ||| b.toUInt32).toNat = b.toNat + 256 * u.toNat := by
  have hb := b.toNat_lt
  have hshift : (u <<< 8).toNat = u.toNat <<< 8 := by
    have hlt : u.toNat <<< 8 < 2 ^ 32 := by
      rw [Nat.shiftLeft_eq]
      omega
    rw [UInt32.toNat_shiftLeft]
    exact Nat.mod_eq_of_lt hlt
  rw [UInt32.toNat_or, hshift, UInt8.toNat_toUInt32, ← Nat.shiftLeft_add_eq_or_of_lt hb,
    Nat.shiftLeft_eq]
  ring

/-- A loop that ors byte after byte in above the ones before. -/
theorem toNat_foldl_or (f : ℕ → UInt8) {n : ℕ} (hn : n ≤ 4) :
    ((List.range n).foldl
      (fun (u : UInt32) i => u ||| (f i).toUInt32 <<< UInt32.ofNat (i * 8)) 0).toNat =
        leValue ((List.range n).map f) := by
  induction n with
  | zero => rfl
  | succ n ih =>
    have hlow := ih (by omega)
    have hlt := leValue_lt ((List.range n).map f)
    rw [List.length_map, List.length_range, ← hlow] at hlt
    rw [List.range_succ, List.foldl_append, List.map_append, leValue_append, ← hlow,
      List.length_map, List.length_range]
    simpa [leValue] using toNat_or_shiftLeft (by omega) hlt (f n)

/-- A loop that shifts the bytes before up and ors each one in below. -/
theorem toNat_foldl_shiftLeft (f : ℕ → UInt8) {n : ℕ} (hn : n ≤ 4) :
    ((List.range n).foldl (fun (u : UInt32) i => u <<< 8 ||| (f i).toUInt32) 0).toNat =
      leValue ((List.range n).map f).reverse := by
  induction n with
  | zero => rfl
  | succ n ih =>
    have hlow := ih (by omega)
    have hlt := leValue_lt ((List.range n).map f).reverse
    rw [List.length_reverse, List.length_map, List.length_range, ← hlow] at hlt
    have hlt3 : _ < 256 ^ 3 :=
      Nat.lt_of_lt_of_le hlt (Nat.pow_le_pow_right (by omega) (by omega))
    rw [List.range_succ, List.foldl_append, List.map_append, List.reverse_append]
    simpa [leValue, hlow] using toNat_shiftLeft_or hlt3 (f n)

end EnvMonitor
