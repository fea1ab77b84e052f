import TwoParty.Bytes.Range

/-!
# TwoParty.Proofs.Bytes.Width

How many bits and bytes a number needs, and what follows for padded numbers: a
padded number always reads back (`natBE_padBE`), what was read is padded to where it was
read from (`padBE_natBE`), and up to a bound a number has the width of the bound
(`length_padBE`).
-/

namespace TwoParty

namespace Bytes

/-- A number fits into its own width in bits. -/
theorem lt_two_pow_bitLength (n : Nat) : n < 2 ^ bitLength n := by
  unfold bitLength
  split
  · next h => simp [h]
  · exact Nat.lt_log2_self

/-- A greater number has no fewer digits. -/
theorem bitLength_mono {m n : Nat} (h : m ≤ n) : bitLength m ≤ bitLength n := by
  unfold bitLength
  rcases Nat.eq_zero_or_pos m with rfl | hm
  · simp
  · rw [if_neg (by omega), if_neg (by omega)]
    have hle : 2 ^ m.log2 ≤ n := (Nat.log2_self_le (by omega)).trans h
    have := (Nat.le_log2 (by omega)).2 hle
    omega

/-- A number fits into its own width in bytes. -/
theorem lt_pow_byteLength (n : Nat) : n < 256 ^ byteLength n := by
  have hbits : bitLength n ≤ 8 * byteLength n := by
    unfold byteLength
    omega
  calc
    n < 2 ^ bitLength n := lt_two_pow_bitLength n
    _ ≤ 2 ^ (8 * byteLength n) := Nat.pow_le_pow_right (by decide) hbits
    _ = 256 ^ byteLength n := by rw [Nat.pow_mul]

/-- A number that fits a width is no wider. -/
theorem byteLength_le_of_lt {n width : Nat} (h : n < 256 ^ width) : byteLength n ≤ width := by
  have hbits : bitLength n ≤ 8 * width := by
    unfold bitLength
    split
    · exact Nat.zero_le _
    · next hn =>
      rw [show 256 = 2 ^ 8 from rfl, ← Nat.pow_mul] at h
      exact (Nat.log2_lt hn).2 h
  unfold byteLength
  omega

/-- Smaller numbers are not wider. -/
theorem byteLength_mono {m n : Nat} (h : m ≤ n) : byteLength m ≤ byteLength n := by
  have := bitLength_mono h
  unfold byteLength
  omega

/-- A padded number reads back, whatever the width asked for. -/
theorem natBE_padBE (len n : Nat) : natBE (padBE len n) = n := by
  have hle : 256 ^ byteLength n ≤ 256 ^ max len (byteLength n) :=
    Nat.pow_le_pow_right (by decide) (Nat.le_max_right _ _)
  rw [padBE, natBE_ofNatBE, Nat.mod_eq_of_lt ((lt_pow_byteLength n).trans_le hle)]

/-- The number that a string spells is padded to that string. -/
theorem padBE_natBE (bs : Bytes) : padBE bs.length (natBE bs) = bs := by
  rw [padBE, Nat.max_eq_left (byteLength_le_of_lt (natBE_lt bs)), ofNatBE_natBE]

/-- Numbers up to a bound are padded to the width of the bound. -/
theorem length_padBE {m n : Nat} (h : n ≤ m) : (padBE (byteLength m) n).length = byteLength m := by
  rw [padBE, length_ofNatBE, Nat.max_eq_left (byteLength_mono h)]

end Bytes

end TwoParty
