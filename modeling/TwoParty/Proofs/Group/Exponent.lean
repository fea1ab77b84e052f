import TwoParty.Proofs.Group.SafePrime

/-!
# TwoParty.Proofs.Group.Exponent

Exponents are reduced modulo `q` while powers are reduced modulo `p`.

That agrees on the residues whose `q`-th power is one (`IsRoot`), whether `p` and `q` are
prime or not: there a power depends on its exponent modulo `q` only (`IsRoot.pow_modEq`).
The laws of the exponents (`HasExponentLaws`) are read off this.
-/

namespace TwoParty

namespace SafePrime

variable {s : SafePrime}

/-! ## Roots of one -/

/-- A residue in reduced form. -/
def IsReduced (s : SafePrime) (x : Nat) : Prop := x < s.p

/-- A reduced residue whose `q`-th power is one. -/
structure IsRoot (s : SafePrime) (x : Nat) : Prop where
  one_le : 1 ≤ x
  isReduced : s.IsReduced x
  pow_q : x ^ s.q % s.p = 1

theorem isReduced_mod (h : s.Accepted) (n : Nat) : s.IsReduced (n % s.p) :=
  Nat.mod_lt n (Nat.zero_lt_of_lt (one_lt_p h))

/-- The members are the roots other than one. -/
theorem isRoot_iff (h : s.Accepted) {x : Nat} : s.IsRoot x ↔ x = 1 ∨ s.isMember x = true := by
  simp only [isMember, powMod_eq, Bool.and_eq_true, decide_eq_true_eq]
  constructor
  · intro hx
    rcases hx.one_le.eq_or_lt with h1 | hlt
    · exact .inl h1.symm
    · exact .inr ⟨⟨hlt, hx.isReduced⟩, hx.pow_q⟩
  · intro hx
    rcases hx with rfl | ⟨⟨hlt, hp⟩, hq⟩
    · exact ⟨Nat.le_refl 1, one_lt_p h, by rw [one_pow, one_mod_p h]⟩
    · exact ⟨hlt.le, hp, hq⟩

/-- A number whose `q`-th power is one modulo `p` leaves a root. -/
theorem isRoot_mod (h : s.Accepted) {n : Nat} (hn : n ^ s.q % s.p = 1) : s.IsRoot (n % s.p) where
  one_le := by
    refine Nat.one_le_iff_ne_zero.2 fun h0 => ?_
    have hq : s.q ≠ 0 := by have := two_lt_q h; omega
    rw [Nat.pow_mod, h0, zero_pow hq, Nat.zero_mod] at hn
    exact zero_ne_one hn
  isReduced := isReduced_mod h n
  pow_q := by rwa [← Nat.pow_mod]

theorem isRoot_base (h : s.Accepted) : s.IsRoot s.g := by
  obtain ⟨-, -, hg, hgp, hpow⟩ := accepted_iff.1 h
  exact ⟨hg.le, hgp, hpow⟩

/-- The powers of a root depend on the exponent modulo `q` only. -/
theorem IsRoot.pow_modEq {x m n : Nat} (hx : s.IsRoot x) (hmn : m ≡ n [MOD s.q]) :
    x ^ m ≡ x ^ n [MOD s.p] := by
  have hone : x ^ s.q ≡ 1 [MOD s.p] :=
    hx.pow_q.trans (Nat.mod_eq_of_lt (hx.one_le.trans_lt hx.isReduced)).symm
  have hmod : ∀ k, x ^ k ≡ x ^ (k % s.q) [MOD s.p] := fun k =>
    calc x ^ k = (x ^ s.q) ^ (k / s.q) * x ^ (k % s.q) := by
          rw [← pow_mul, ← pow_add, Nat.div_add_mod]
      _ ≡ 1 ^ (k / s.q) * x ^ (k % s.q) [MOD s.p] := (hone.pow _).mul_right _
      _ = x ^ (k % s.q) := by rw [one_pow, one_mul]
  exact (hmod m).trans (hmn ▸ (hmod n).symm)

/-- An exponent and its negative make a multiple of the order. -/
theorem add_neg_modEq (h : s.Accepted) (a : Nat) :
    a + (s.q - a % s.q) % s.q ≡ 0 [MOD s.q] := by
  have hlt : a % s.q < s.q := Nat.mod_lt a (by have := two_lt_q h; omega)
  calc a + (s.q - a % s.q) % s.q ≡ a % s.q + (s.q - a % s.q) [MOD s.q] :=
        (Nat.mod_modEq a s.q).symm.add (Nat.mod_modEq _ s.q)
    _ = s.q := Nat.add_sub_cancel' hlt.le
    _ ≡ 0 [MOD s.q] := Nat.modEq_zero_iff_dvd.2 (Nat.dvd_refl s.q)

/-! ## The laws of the exponents -/

/-- The operations on exponents do on the roots what they say.  The last four laws hold of
all numbers, in reduced form or not. -/
structure HasExponentLaws (s : SafePrime) : Prop where
  isRoot_iff : ∀ {x}, s.IsRoot x ↔ x = 1 ∨ s.isMember x = true
  isRoot_base : s.IsRoot s.g
  pow_add : ∀ {x}, s.IsRoot x → ∀ a b : Nat,
    s.group.pow x (s.group.add a b) = s.group.mul (s.group.pow x a) (s.group.pow x b)
  pow_times : ∀ {x}, s.IsRoot x → ∀ a b : Nat,
    s.group.pow x (s.group.times a b) = s.group.pow (s.group.pow x a) b
  pow_mul_neg : ∀ {x}, s.IsRoot x → ∀ a : Nat,
    s.group.mul (s.group.pow x a) (s.group.pow x (s.group.neg a)) = (1 : Nat)
  isRoot_mul : ∀ {x y}, s.IsRoot x → s.IsRoot y → s.IsRoot (s.group.mul x y)
  isRoot_pow : ∀ {x}, s.IsRoot x → ∀ a : Nat, s.IsRoot (s.group.pow x a)
  isReduced_mul : ∀ x y : Nat, s.IsReduced (s.group.mul x y)
  isReduced_pow : ∀ x a : Nat, s.IsReduced (s.group.pow x a)
  mul_congr : ∀ {x x' y y' : Nat}, x ≡ x' [MOD s.p] → y ≡ y' [MOD s.p] →
    s.group.mul x y = s.group.mul x' y'
  pow_congr : ∀ {x x' : Nat}, x ≡ x' [MOD s.p] → ∀ a : Nat,
    s.group.pow x a = s.group.pow x' a

/-- Accepted parameters have the laws of the exponents, prime or not. -/
theorem hasExponentLaws_of_accepted (h : s.Accepted) : s.HasExponentLaws where
  -- Exponents are reduced modulo `q`, so each law is that of the roots of unity.
  isRoot_iff := isRoot_iff h
  isRoot_base := isRoot_base h
  pow_add {x} hx a b := by
    show powMod x ((a + b) % s.q) s.p = powMod x a s.p * powMod x b s.p % s.p
    rw [powMod_eq, powMod_eq, powMod_eq, ← Nat.mul_mod, ← Nat.pow_add]
    exact hx.pow_modEq (Nat.mod_modEq (a + b) s.q)
  pow_times {x} hx a b := by
    show powMod x (a * b % s.q) s.p = powMod (powMod x a s.p) b s.p
    rw [powMod_eq, powMod_eq, powMod_eq, ← Nat.pow_mod, ← Nat.pow_mul]
    exact hx.pow_modEq (Nat.mod_modEq (a * b) s.q)
  pow_mul_neg {x} hx a := by
    show powMod x a s.p * powMod x ((s.q - a % s.q) % s.q) s.p % s.p = 1
    rw [powMod_eq, powMod_eq, ← Nat.mul_mod, ← Nat.pow_add]
    have hpow := hx.pow_modEq (add_neg_modEq h a)
    rwa [Nat.pow_zero, Nat.ModEq, one_mod_p h] at hpow
  isRoot_mul {x y} hx hy := by
    refine isRoot_mod h ?_
    rw [Nat.mul_pow, Nat.mul_mod, hx.pow_q, hy.pow_q, Nat.mul_one, one_mod_p h]
  isRoot_pow {x} hx a := by
    have hpow : (x ^ a) ^ s.q % s.p = 1 := by
      rw [Nat.pow_right_comm, Nat.pow_mod, hx.pow_q, Nat.one_pow, one_mod_p h]
    show s.IsRoot (powMod x a s.p)
    rw [powMod_eq]
    exact isRoot_mod h hpow
  isReduced_mul x y := isReduced_mod h (x * y)
  isReduced_pow x a := by
    show s.IsReduced (powMod x a s.p)
    rw [powMod_eq]
    exact isReduced_mod h (x ^ a)
  mul_congr hx hy := hx.mul hy
  pow_congr {x x'} hx a := by
    show powMod x a s.p = powMod x' a s.p
    rw [powMod_eq, powMod_eq]
    exact hx.pow a

/-- Neither 91 nor 45 is prime, and the check takes 9 for a generator. -/
theorem hasExponentLaws_of_accepted_composite :
    let s : SafePrime := ⟨91, 9⟩
    s.Accepted ∧ ¬ s.p.Prime ∧ ¬ s.q.Prime ∧
    ∀ a b : Nat, s.group.pow s.g (s.group.add a b) =
      s.group.mul (s.group.pow s.g a) (s.group.pow s.g b) :=
  have haccepted : Accepted ⟨91, 9⟩ := accepted_iff.2 (by decide)
  have hlaws := hasExponentLaws_of_accepted haccepted
  ⟨haccepted, by decide, by decide, hlaws.pow_add hlaws.isRoot_base⟩

end SafePrime

end TwoParty
