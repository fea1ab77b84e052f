import Mathlib.Tactic.Ring
import TwoParty.Bytes

/-!
# TwoParty.Bytes.Range

Which numbers a string of a given width can hold, and what remains of a number
that is written at a width too small for it.
-/

namespace TwoParty

namespace Bytes

theorem natLE_lt (bs : Bytes) : natLE bs < 256 ^ bs.length := by
  induction bs with
  | nil => simp [natLE]
  | cons b bs ih =>
    have hb : b.toNat < 256 := b.toNat_lt
    simp only [natLE, List.length_cons, Nat.pow_succ]
    omega

theorem natLE_ofNatLE (len n : Nat) : natLE (ofNatLE len n) = n % 256 ^ len := by
  induction len generalizing n with
  | zero => simp [ofNatLE, natLE, Nat.mod_one]
  | succ len ih =>
    have hb : (UInt8.ofNat (n % 256)).toNat = n % 256 := by simp
    simp only [ofNatLE, natLE, ih, hb]
    rw [Nat.pow_succ, Nat.mul_comm (256 ^ len) 256, Nat.mod_mul]

theorem natBE_lt (bs : Bytes) : natBE bs < 256 ^ bs.length := by
  simpa [natBE] using natLE_lt bs.reverse

/-- Reading back a number that fits its width. -/
theorem natBE_ofNatBE (len n : Nat) : natBE (ofNatBE len n) = n % 256 ^ len := by
  simp [natBE, ofNatBE, natLE_ofNatLE]

theorem natBE_word32BE {n : Nat} (h : n < UInt32.size) : natBE (word32BE n) = n :=
  (natBE_ofNatBE 4 n).trans (Nat.mod_eq_of_lt h)

end Bytes

end TwoParty
