/-!
# TwoParty.Bytes

Byte strings and the integers they spell.  Numbers are written at a fixed
width in either byte order; the little-endian codec is the primary one and the
big-endian codec is its reversal, so each read-back fact is proved once.

Also here: the exclusive or of a string with a pad.
-/

namespace TwoParty

/-- A byte string. -/
abbrev Bytes := List UInt8

namespace Bytes

/-! ## Integers at a fixed width -/

/-- The integer a little-endian string spells. -/
def natLE : Bytes → Nat
  | [] => 0
  | b :: bs => b.toNat + 256 * natLE bs

/-- The low `len` bytes of `n`, least significant first. -/
def ofNatLE : (len n : Nat) → Bytes
  | 0, _ => []
  | len + 1, n => UInt8.ofNat (n % 256) :: ofNatLE len (n / 256)

/-- The integer a big-endian string spells. -/
def natBE (bs : Bytes) : Nat := natLE bs.reverse

/-- The low `len` bytes of `n`, most significant first. -/
def ofNatBE (len n : Nat) : Bytes := (ofNatLE len n).reverse

theorem length_ofNatLE (len n : Nat) : (ofNatLE len n).length = len := by
  induction len generalizing n with
  | zero => rfl
  | succ len ih => simp [ofNatLE, ih]

theorem length_ofNatBE (len n : Nat) : (ofNatBE len n).length = len := by
  simp [ofNatBE, length_ofNatLE]

theorem ofNatLE_natLE (bs : Bytes) : ofNatLE bs.length (natLE bs) = bs := by
  induction bs with
  | nil => rfl
  | cons b bs ih =>
    have hb : b.toNat < 256 := b.toNat_lt
    have hm : (b.toNat + 256 * natLE bs) % 256 = b.toNat := by omega
    have hd : (b.toNat + 256 * natLE bs) / 256 = natLE bs := by omega
    simp [ofNatLE, natLE, hm, hd, ih]

/-- Writing back the number a string spells gives the string. -/
theorem ofNatBE_natBE (bs : Bytes) : ofNatBE bs.length (natBE bs) = bs := by
  have h := ofNatLE_natLE bs.reverse
  simp only [List.length_reverse] at h
  simp [natBE, ofNatBE, h]

/-! ## Widths -/

/-- The number of binary digits of `n`; zero has none. -/
def bitLength (n : Nat) : Nat := if n = 0 then 0 else Nat.log2 n + 1

/-- The number of bytes that hold `n`; zero needs none. -/
def byteLength (n : Nat) : Nat := (bitLength n + 7) / 8

/-- `n` at least `len` bytes wide, most significant byte first: shorter numbers
are padded on the left with zeros and longer ones are written in full. -/
def padBE (len n : Nat) : Bytes := ofNatBE (max len (byteLength n)) n

/-! ## Words in front of a string -/

/-- A 32-bit big-endian length or counter. -/
def word32BE (n : Nat) : Bytes := ofNatBE 4 n

/-- A 32-bit little-endian length. -/
def word32LE (n : Nat) : Bytes := ofNatLE 4 n

/-- A 64-bit little-endian word. -/
def word64LE (n : Nat) : Bytes := ofNatLE 8 n

/-! ## Pads -/

/-- Exclusive or of `data` with `pad`, byte by byte.  Bytes beyond the end of the
pad stay as they are, and a longer pad is cut. -/
def xorPad : (data pad : Bytes) → Bytes
  | [], _ => []
  | data, [] => data
  | d :: data, p :: pad => (d ^^^ p) :: xorPad data pad

@[simp] theorem length_xorPad (data pad : Bytes) : (xorPad data pad).length = data.length := by
  fun_induction xorPad data pad <;> simp_all

/-- A pad removes itself. -/
theorem xorPad_xorPad (data pad : Bytes) : xorPad (xorPad data pad) pad = data := by
  fun_induction xorPad data pad with
  | case1 => rfl
  | case2 data h => cases data <;> rfl
  | case3 d data p pad ih =>
    simp only [xorPad, ih, UInt8.xor_assoc, UInt8.xor_self, UInt8.xor_zero]

/-! ## Cutting and repeating -/

/-- The string in pieces of `k` bytes, the last one possibly shorter. -/
def chunks (k : Nat) (bs : Bytes) : List Bytes :=
  if 0 < k ∧ bs ≠ [] then bs.take k :: chunks k (bs.drop k) else []
termination_by bs.length
decreasing_by
  rename_i h
  have := List.length_pos_iff.2 h.2
  simp only [List.length_drop]
  omega

/-- The bytes of a text in UTF-8. -/
def ofText (s : String) : Bytes := s.toList.flatMap String.utf8EncodeChar

/-- `pattern` repeated and cut to `len` bytes; the empty pattern gives nothing. -/
def cycle (pattern : Bytes) (len : Nat) : Bytes :=
  (List.replicate ((len + pattern.length - 1) / pattern.length) pattern).flatten.take len

end Bytes

end TwoParty
