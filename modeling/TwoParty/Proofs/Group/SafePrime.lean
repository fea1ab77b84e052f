import Mathlib.Algebra.BigOperators.Associated
import Mathlib.Data.Nat.Totient
import Mathlib.RingTheory.RootsOfUnity.PrimitiveRoots
import TwoParty.Group.SafePrime
import TwoParty.Proofs.Group.Lawful
import TwoParty.Proofs.Group.Power

/-!
# TwoParty.Proofs.Group.SafePrime

Residues modulo a safe prime as a lawful group.

The parameter check looks at the shape of `p` and at one power of `g` only.  Once
`q` is prime that is enough: `p` is then prime too (`prime_p`), `g` has order `q`
modulo `p`, and the members are the powers of `g` other than one
(`isMember_iff_exists_pow`).  `lawful` collects the laws.
-/

namespace TwoParty

namespace SafePrime

variable {s : SafePrime}

/-! ## Accepted parameters -/

/-- The parameters pass the check. -/
def Accepted (s : SafePrime) : Prop := ofParameters s.p s.g = .ok s

/-- The check in the language of arithmetic. -/
theorem accepted_iff :
    s.Accepted ↔ 5 < s.p ∧ s.p % 4 = 3 ∧ 1 < s.g ∧ s.g < s.p ∧ s.g ^ s.q % s.p = 1 := by
  rw [← powMod_eq, q, Accepted, ofParameters]
  constructor
  · intro h
    split at h
    · contradiction
    · split at h
      · contradiction
      · omega
  · intro h
    obtain ⟨h5, h4, hg, hgp, hpow⟩ := h
    rw [if_neg (by omega), if_neg (by omega)]

/-- Parameters that were accepted are kept as they are. -/
theorem accepted_of_ofParameters {p g : Nat} (h : ofParameters p g = .ok s) : s.Accepted := by
  have hs : s = ⟨p, g⟩ := by
    unfold ofParameters at h
    split at h
    · contradiction
    · split at h
      · contradiction
      · exact (Except.ok.inj h).symm
  subst hs
  exact h

/-- The modulus of accepted parameters has the shape of a safe prime. -/
theorem p_eq (h : s.Accepted) : s.p = 2 * s.q + 1 := by
  have := accepted_iff.1 h
  unfold q
  omega

/-- Accepted parameters have an order of at least three. -/
theorem two_lt_q (h : s.Accepted) : 2 < s.q := by
  have := accepted_iff.1 h
  unfold q
  omega

theorem one_lt_p (h : s.Accepted) : 1 < s.p :=
  (by decide : 1 < 5).trans (accepted_iff.1 h).1

theorem one_mod_p (h : s.Accepted) : 1 % s.p = 1 := Nat.mod_eq_of_lt (one_lt_p h)

/-! ## The modulus -/

/-- The generator as a residue modulo `p`. -/
def base (s : SafePrime) : ZMod s.p := (s.g : ZMod s.p)

/-- Roots of unity modulo `p` are told by the remainder of a power. -/
theorem natCast_pow_eq_one_iff (h : s.Accepted) {x n : Nat} :
    (x : ZMod s.p) ^ n = 1 ↔ x ^ n % s.p = 1 := by
  rw [← Nat.cast_pow, ← Nat.cast_one (R := ZMod s.p), ZMod.natCast_eq_natCast_iff', one_mod_p h]

/-- The generator is a root of unity of order `q`. -/
theorem base_pow_q (h : s.Accepted) : s.base ^ s.q = 1 :=
  (natCast_pow_eq_one_iff h).2 (accepted_iff.1 h).2.2.2.2

theorem base_ne_one (h : s.Accepted) : s.base ≠ 1 := by
  obtain ⟨-, -, hg, hgp, -⟩ := accepted_iff.1 h
  intro he
  rw [base, ← Nat.cast_one (R := ZMod s.p), ZMod.natCast_eq_natCast_iff',
    Nat.mod_eq_of_lt hgp, one_mod_p h] at he
  omega

/-- The generator has order `q` as soon as that is prime. -/
theorem orderOf_base (h : s.Accepted) (hq : s.q.Prime) : orderOf s.base = s.q :=
  have := Fact.mk hq
  orderOf_eq_prime (base_pow_q h) (base_ne_one h)

/-- With a prime `q`, the modulus is prime: `q` divides the number of units, so some
prime factor `r` of `p` is one more than an even multiple of `q`. -/
theorem prime_p (h : s.Accepted) (hq : s.q.Prime) : s.p.Prime := by
  obtain ⟨h5, h4, -⟩ := accepted_iff.1 h
  have hp := p_eq h
  have : NeZero s.p := ⟨by omega⟩
  -- The order of the generator divides the number of units.
  have hdvd : s.q ∣ Nat.totient s.p := by
    have hu : IsUnit s.base := IsUnit.of_pow_eq_one (base_pow_q h) hq.ne_zero
    rw [← ZMod.card_units_eq_totient, ← orderOf_base h hq, ← hu.unit_spec, orderOf_units]
    exact orderOf_dvd_card
  rw [Nat.totient_eq_prod_factorization (by omega), Finsupp.prod] at hdvd
  obtain ⟨r, hr, hqr⟩ := hq.prime.exists_mem_finset_dvd hdvd
  rw [Nat.support_factorization, Nat.mem_primeFactors] at hr
  obtain ⟨hrprime, hrp, -⟩ := hr
  -- The factor that `q` divides is not a higher power of `r`, for `q` does not divide `p`.
  have hqp : ¬ s.q ∣ s.p := by
    rw [hp, Nat.dvd_add_right (Dvd.intro_left 2 rfl), Nat.dvd_one]
    exact hq.one_lt.ne'
  have hqr1 : s.q ∣ r - 1 := by
    refine (hq.dvd_mul.1 hqr).resolve_left fun hpow => hqp ?_
    exact (hq.dvd_of_dvd_pow hpow).trans hrp
  have hodd : ¬ 2 ∣ r := fun h2 => by
    have := h2.trans hrp
    omega
  have hr2 := hrprime.two_le
  have h2q : 2 * s.q ∣ r - 1 := by
    refine Nat.Coprime.mul_dvd_of_dvd_of_dvd ?_ (by omega) hqr1
    rw [Nat.coprime_comm, hq.coprime_iff_not_dvd]
    have := two_lt_q h
    exact fun h2 => by have := Nat.le_of_dvd (by omega) h2; omega
  -- A divisor of `2 * q + 1` that is one more than a multiple of `2 * q` is all of it.
  have hle : r = s.p := by
    have h1 := Nat.le_of_dvd (by omega) h2q
    have h2 := Nat.le_of_dvd (by omega) hrp
    omega
  exact hle ▸ hrprime

/-! ## Powers of the generator -/

/-- The remainder of a power is the power of the residue. -/
theorem natCast_pow_mod (x n : Nat) : ((x ^ n % s.p : Nat) : ZMod s.p) = (x : ZMod s.p) ^ n := by
  rw [ZMod.natCast_mod, Nat.cast_pow]

/-- Residues below `p` are equal when they are equal modulo `p`. -/
theorem eq_of_natCast_eq {x y : Nat} (hx : x < s.p) (hy : y < s.p)
    (h : (x : ZMod s.p) = (y : ZMod s.p)) : x = y := by
  rwa [ZMod.natCast_eq_natCast_iff', Nat.mod_eq_of_lt hx, Nat.mod_eq_of_lt hy] at h

/-- Powers of the generator are equal exactly if the exponents are congruent modulo `q`. -/
theorem pow_mod_eq_iff (h : s.Accepted) (hq : s.q.Prime) {m n : Nat} :
    s.g ^ m % s.p = s.g ^ n % s.p ↔ m ≡ n [MOD s.q] := by
  rw [← ZMod.natCast_eq_natCast_iff', Nat.cast_pow, Nat.cast_pow]
  have hfin : IsOfFinOrder s.base :=
    isOfFinOrder_iff_pow_eq_one.2 ⟨s.q, hq.pos, base_pow_q h⟩
  change s.base ^ m = s.base ^ n ↔ _
  rw [hfin.pow_eq_pow_iff_modEq, orderOf_base h hq]

/-- A member is a power of the generator other than one. -/
theorem isMember_iff_exists_pow (h : s.Accepted) (hq : s.q.Prime) {x : Nat} :
    s.isMember x = true ↔ ∃ k, 0 < k ∧ k < s.q ∧ s.g ^ k % s.p = x := by
  have hp : 0 < s.p := Nat.zero_lt_of_lt (one_lt_p h)
  simp only [isMember, powMod_eq, Bool.and_eq_true, decide_eq_true_eq]
  constructor
  · intro hmember
    obtain ⟨⟨hx1, hxp⟩, hx⟩ := hmember
    have := Fact.mk (prime_p h hq)
    have : NeZero s.q := ⟨hq.ne_zero⟩
    -- In a field the roots of unity of order `q` are the powers of a primitive one.
    have hroot : IsPrimitiveRoot s.base s.q := orderOf_base h hq ▸ IsPrimitiveRoot.orderOf s.base
    obtain ⟨k, hk, hkx⟩ := hroot.eq_pow_of_pow_eq_one ((natCast_pow_eq_one_iff h).2 hx)
    have hx' : s.g ^ k % s.p = x := by
      refine eq_of_natCast_eq (Nat.mod_lt _ hp) hxp ?_
      rw [natCast_pow_mod]
      exact hkx
    refine ⟨k, ?_, hk, hx'⟩
    rcases Nat.eq_zero_or_pos k with rfl | hpos
    · rw [pow_zero, one_mod_p h] at hx'
      omega
    · exact hpos
  · intro hpower
    obtain ⟨k, hk0, hkq, rfl⟩ := hpower
    -- A power in range is neither one nor zero, and it is a root of unity like the base.
    have hne1 : s.g ^ k % s.p ≠ 1 := by
      intro h1
      have h0 : s.g ^ k % s.p = s.g ^ 0 % s.p := by
        rw [h1, pow_zero, one_mod_p h]
      have := Nat.ModEq.eq_of_lt_of_lt ((pow_mod_eq_iff h hq).1 h0) hkq (by omega)
      omega
    have hne0 : s.g ^ k % s.p ≠ 0 := by
      intro h0
      have hz : s.base ^ k = 0 := by
        rw [base, ← natCast_pow_mod, h0, Nat.cast_zero]
      have h1 : s.base ^ (k * s.q) = 1 := by rw [mul_comm, pow_mul, base_pow_q h, one_pow]
      rw [pow_mul, hz, zero_pow hq.ne_zero] at h1
      have := Fact.mk (prime_p h hq)
      exact zero_ne_one h1
    refine ⟨⟨by omega, Nat.mod_lt _ hp⟩, ?_⟩
    rw [← natCast_pow_eq_one_iff h, natCast_pow_mod, ← pow_mul, mul_comm, pow_mul]
    change (s.base ^ s.q) ^ k = 1
    rw [base_pow_q h, one_pow]

/-- The power of the generator with a residue as exponent. -/
def power (s : SafePrime) (a : ZMod s.q) : Nat := s.g ^ a.val % s.p

/-- Powers with a natural exponent are powers of its residue. -/
theorem power_natCast (h : s.Accepted) (hq : s.q.Prime) (n : Nat) :
    s.power n = s.g ^ n % s.p := by
  rw [power, pow_mod_eq_iff h hq, ZMod.val_natCast]
  exact Nat.mod_modEq n s.q

theorem power_lt (h : s.Accepted) (a : ZMod s.q) : s.power a < s.p :=
  Nat.mod_lt _ (Nat.zero_lt_of_lt (one_lt_p h))

theorem power_one (h : s.Accepted) (hq : s.q.Prime) : s.power 1 = s.g := by
  have hone := power_natCast h hq 1
  rwa [Nat.cast_one, pow_one, Nat.mod_eq_of_lt (accepted_iff.1 h).2.2.2.1] at hone

/-- Products of powers add the exponents. -/
theorem power_add (h : s.Accepted) (hq : s.q.Prime) (a b : ZMod s.q) :
    s.power a * s.power b % s.p = s.power (a + b) := by
  have := NeZero.mk hq.ne_zero
  rw [power, power, power, ← Nat.mul_mod, ← pow_add, pow_mod_eq_iff h hq, ZMod.val_add]
  exact (Nat.mod_modEq _ _).symm

/-- Powers of powers multiply the exponents. -/
theorem power_mul (h : s.Accepted) (hq : s.q.Prime) (a : ZMod s.q) (n : Nat) :
    powMod (s.power a) n s.p = s.power (a * n) := by
  rw [powMod_eq, power, power, ← Nat.pow_mod, ← pow_mul, pow_mod_eq_iff h hq, ZMod.val_mul,
    ZMod.val_natCast]
  exact ((Nat.mod_modEq _ _).trans ((Nat.mod_modEq n s.q).mul_left _)).symm

/-- Different residues give different powers. -/
theorem power_injective (h : s.Accepted) (hq : s.q.Prime) : Function.Injective s.power := by
  have := NeZero.mk hq.ne_zero
  intro a b hab
  have hmod := (pow_mod_eq_iff h hq).1 hab
  exact ZMod.val_injective s.q (hmod.eq_of_lt_of_lt (ZMod.val_lt a) (ZMod.val_lt b))

/-- The members are the powers whose exponent is not zero. -/
theorem isMember_iff_power (h : s.Accepted) (hq : s.q.Prime) {x : Nat} :
    s.isMember x = true ↔ ∃ a, a ≠ 0 ∧ s.power a = x := by
  have := NeZero.mk hq.ne_zero
  rw [isMember_iff_exists_pow h hq]
  constructor
  · intro hpower
    obtain ⟨k, hk0, hkq, hkx⟩ := hpower
    refine ⟨k, ?_, by rw [power_natCast h hq, hkx]⟩
    rw [Ne, ZMod.natCast_eq_zero_iff]
    exact fun hdvd => absurd (Nat.le_of_dvd hk0 hdvd) (by omega)
  · intro hpower
    obtain ⟨a, ha, hax⟩ := hpower
    exact ⟨a.val, ZMod.val_pos.2 ha, ZMod.val_lt a, hax⟩

/-! ## Encodings and samples -/

/-- Reduced residues are read back. -/
theorem decodeElement_encodeElement {x : Nat} (hx : x < s.p) :
    s.group.decodeElement (s.group.encodeElement x) = .ok x := by
  have hlen : (Bytes.padBE s.elementLength x).length = s.elementLength := Bytes.length_padBE hx.le
  simp [group, hlen, Bytes.natBE_padBE]

/-- Reduced exponents are read back. -/
theorem decodeExponent_encodeExponent {n : Nat} (hn : n < s.q) :
    s.group.decodeExponent (s.group.encodeExponent n) = .ok n := by
  have hlen : (Bytes.padBE s.exponentLength n).length = s.exponentLength :=
    Bytes.length_padBE hn.le
  simp [group, hlen, hn, Bytes.natBE_padBE]

/-- A drawn exponent lies between one and the order less one, however often the sampler
tries. -/
theorem draw_range {limit : Nat} {t u : ByteSource} {n : Nat}
    (h : ByteSource.draw (4 * s.sampleWords) s.exponentOfWords limit t = some (n, u)) :
    0 < n ∧ n < s.q := by
  obtain ⟨bs, -, hbs⟩ := ByteSource.accepted_of_draw h
  simp only [exponentOfWords] at hbs
  split at hbs
  · next hlt =>
    have := Option.some.inj hbs
    omega
  · contradiction

/-- Sampled exponents lie between one and the order less one. -/
theorem sample_range {t u : ByteSource} {n : Nat} (h : s.group.sample t = some (n, u)) :
    0 < n ∧ n < s.q :=
  draw_range h

/-! ## The laws -/

/-- The negative of an exponent is the reduced negative of its residue. -/
theorem neg_eq_val (hq : s.q.Prime) (n : Nat) :
    (s.q - n % s.q) % s.q = (-(n : ZMod s.q)).val := by
  have := NeZero.mk hq.ne_zero
  have hcast : (((s.q - n % s.q : Nat) : ZMod s.q)) = -(n : ZMod s.q) := by
    rw [Nat.cast_sub (Nat.mod_lt _ hq.pos).le, ZMod.natCast_self, ZMod.natCast_mod, zero_sub]
  rw [← hcast, ZMod.val_natCast]

theorem add_eq_val (m n : Nat) : (m + n) % s.q = ((m : ZMod s.q) + (n : ZMod s.q)).val := by
  rw [← Nat.cast_add, ZMod.val_natCast]

theorem times_eq_val (m n : Nat) : m * n % s.q = ((m : ZMod s.q) * (n : ZMod s.q)).val := by
  rw [← Nat.cast_mul, ZMod.val_natCast]

/-- A sampled exponent is not a multiple of the order. -/
theorem natCast_ne_zero_of_sample {t u : ByteSource} {n : Nat}
    (h : s.group.sample t = some (n, u)) : (n : ZMod s.q) ≠ 0 := by
  obtain ⟨hn0, hnq⟩ := sample_range h
  rw [Ne, ZMod.natCast_eq_zero_iff]
  exact fun hdvd => absurd (Nat.le_of_dvd hn0 hdvd) (by omega)

/-- Accepted parameters with a prime `q` make a lawful group. -/
@[reducible] def lawful (h : s.Accepted) (hq : s.q.Prime) : LawfulGroup s.group :=
  have : NeZero s.q := ⟨hq.ne_zero⟩
  { prime := hq
    exp := s.power
    residue := Nat.cast (R := ZMod s.q)
    scalar := ZMod.val (n := s.q)
    exp_injective := power_injective h hq
    exp_one := power_one h hq
    mul_exp := power_add h hq
    pow_exp := power_mul h hq
    isMember_iff := fun _ => isMember_iff_power h hq
    decode_encode := fun a => decodeElement_encodeElement (power_lt h a)
    residue_scalar := fun z => ZMod.natCast_zmod_val (n := s.q) z
    neg_eq := neg_eq_val hq
    add_eq := add_eq_val
    times_eq := times_eq_val
    decode_encode_scalar := fun z => decodeExponent_encodeExponent (ZMod.val_lt (n := s.q) z)
    sample_spec := fun ht =>
      ⟨natCast_ne_zero_of_sample ht, ZMod.val_cast_of_lt (sample_range ht).2⟩ }

/-! ## A small group -/

/-- The squares modulo 23, with generator 4. -/
def small : SafePrime := ⟨23, 4⟩

/-- The small parameters pass the check. -/
theorem small_accepted : small.Accepted := accepted_iff.2 (by decide)

theorem small_prime : small.q.Prime := by decide

instance : LawfulGroup small.group := lawful small_accepted small_prime

/-- The first words of a source that are in range are taken. -/
theorem sample_of_exponentOfWords {t : ByteSource} {n : Nat}
    (h : s.exponentOfWords (t.peek (4 * s.sampleWords)) = some n) :
    s.group.sample t = some (n, t.advance (4 * s.sampleWords)) := by
  have hlimit : ByteSource.drawLimit = UInt32.size - 1 + 1 := rfl
  show ByteSource.draw _ _ ByteSource.drawLimit t = _
  rw [hlimit, ByteSource.draw, h]

def three : small.group.Exponent := (3 : Nat)

/-- A source that gives the exponent 3 again and again. -/
def threes (used : Nat) : ByteSource := ⟨fun _ => 0x20, used⟩

/-- The source gives the exponent 3 for four of its bytes. -/
theorem sample_threes (used : Nat) :
    small.group.sample (threes used) = some (three, threes (used + 4)) := by
  have hwords : 4 * small.sampleWords = 4 := by decide +kernel
  have hpeek : (threes used).peek 4 = List.replicate 4 0x20 := rfl
  have hthree : small.exponentOfWords (List.replicate 4 0x20) = some 3 := by decide +kernel
  have h := @sample_of_exponentOfWords small (threes used) 3 (by rw [hwords, hpeek, hthree])
  rwa [hwords] at h

/-- It gives it as often as is asked for. -/
theorem drawn_threes (n used : Nat) :
    small.group.Drawn (threes used) (List.replicate n three) (threes (used + 4 * n)) := by
  induction n generalizing used with
  | zero => rfl
  | succ n ih =>
    refine ⟨_, sample_threes used, ?_⟩
    have hn : used + 4 * (n + 1) = used + 4 + 4 * n := by omega
    rw [hn]
    exact ih (used + 4)

end SafePrime

end TwoParty
