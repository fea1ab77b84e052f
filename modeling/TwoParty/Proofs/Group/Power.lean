import Mathlib.Tactic.Ring
import TwoParty.Group.Power
import TwoParty.Proofs.Bytes.Width

/-!
# TwoParty.Proofs.Group.Power

What the square-and-multiply loop computes.  A sequence that turns sums of indices
into products is evaluated at `n` by `powBits` over the digits of `n`
(`powBits_bits`); for residues the sequence is `b ^ i % m` (`powMod_eq`).
-/

namespace TwoParty

/-- The number that binary digits spell behind the digits of `n`. -/
def digitsFrom (n : Nat) (digits : List Bool) : Nat :=
  digits.foldl (fun n digit => 2 * n + digit.toNat) n

/-- The `k` low digits of `m` behind the digits of `n`. -/
theorem digitsFrom_testBit (k m n : Nat) :
    digitsFrom n ((List.range k).reverse.map m.testBit) = n * 2 ^ k + m % 2 ^ k := by
  induction k generalizing n with
  | zero => simp [digitsFrom, Nat.mod_one]
  | succ k ih =>
    have hstep : digitsFrom n ((List.range (k + 1)).reverse.map m.testBit) =
        digitsFrom (2 * n + (m.testBit k).toNat) ((List.range k).reverse.map m.testBit) := by
      simp [digitsFrom, List.range_succ]
    rw [hstep, ih, Nat.mod_pow_succ, Nat.toNat_testBit]
    ring

/-- The digits of a number spell it. -/
theorem digitsFrom_bits (n : Nat) : digitsFrom 0 (bits n) = n := by
  rw [bits, digitsFrom_testBit, Nat.zero_mul, Nat.zero_add,
    Nat.mod_eq_of_lt (Bytes.lt_two_pow_bitLength n)]

section
variable {α : Type} {mul : α → α → α} {f : Nat → α}

/-- Squaring doubles the index of the sequence and multiplying adds one, as reading a digit does.
-/
theorem foldl_pow (hf : ∀ i j, mul (f i) (f j) = f (i + j)) (n : Nat) (digits : List Bool) :
    digits.foldl (fun acc digit =>
      let square := mul acc acc
      if digit then mul square (f 1) else square) (f n) = f (digitsFrom n digits) := by
  induction digits generalizing n with
  | nil => rfl
  | cons d ds ih =>
    have hstep : (let square := mul (f n) (f n)
        if d then mul square (f 1) else square) = f (2 * n + d.toNat) := by
      cases d <;> simp [hf, Nat.two_mul]
    rw [List.foldl_cons, hstep, ih]
    rfl

/-- Squaring and multiplying reaches `f n` from `f 0` and `f 1`. -/
theorem powBits_bits (hf : ∀ i j, mul (f i) (f j) = f (i + j)) (n : Nat) :
    powBits mul (f 0) (f 1) (bits n) = f n := by
  rw [powBits, foldl_pow hf, digitsFrom_bits]

end

/-- Modular exponentiation computes the power. -/
theorem powMod_eq (b e m : Nat) : powMod b e m = b ^ e % m := by
  have hf : ∀ i j, b ^ i % m * (b ^ j % m) % m = b ^ (i + j) % m := by
    intro i j
    rw [← Nat.mul_mod, ← Nat.pow_add]
  have h := @powBits_bits Nat (fun x y => x * y % m) (fun i => b ^ i % m) hf e
  simpa [powMod] using h

end TwoParty
