import Mathlib.Data.Set.Card
import Mathlib.Order.Interval.Finset.Nat
import TwoParty.Proofs.Group.Member
import TwoParty.Proofs.Group.SafePrime

/-!
# TwoParty.Proofs.Group.Generator

The check of the parameters is enough for a cyclic group of prime order.

Nothing in the check sets the generator apart: a member passes it in its place
(`withBase_accepted_iff`).  So what holds of the generator holds of every member, and
`Generates` is shown once.
-/

namespace TwoParty

namespace SafePrime

variable {s : SafePrime}

/-! ## Another generator -/

def withBase (s : SafePrime) (x : Nat) : SafePrime := { s with g := x }

/-- The check takes exactly the members for generators. -/
theorem withBase_accepted_iff (h : s.Accepted) {x : Nat} :
    (s.withBase x).Accepted ↔ s.isMember x = true := by
  obtain ⟨h5, h4, -⟩ := accepted_iff.1 h
  rw [accepted_iff, isMember, powMod_eq]
  simp only [Bool.and_eq_true, decide_eq_true_eq, and_assoc]
  exact ⟨fun hx => hx.2.2, fun hx => ⟨h5, h4, hx⟩⟩

/-! ## Generators -/

theorem mem_Icc_iff {k : Nat} : k ∈ Set.Icc 1 (s.q - 1) ↔ 0 < k ∧ k < s.q := by
  rw [Set.mem_Icc]
  omega

/-- The members are the powers of an element, each with one exponent below the order. -/
structure Generates (s : SafePrime) (x : Nat) : Prop where
  orderOf_eq : orderOf (x : ZMod s.p) = s.q
  bijOn_pow : Set.BijOn (α := Nat) (β := Nat) (s.group.pow x) (Set.Icc 1 (s.q - 1))
    {y | s.isMember y = true}

/-- The fixed generator generates the members. -/
theorem generates_base (h : s.Accepted) (hq : s.q.Prime) : s.Generates s.g where
  orderOf_eq := orderOf_base h hq
  bijOn_pow := by
    have hpow : ∀ k : Nat, s.group.pow s.g k = s.g ^ k % s.p := fun k => powMod_eq s.g k s.p
    refine ⟨fun k hk => ?_, fun j hj k hk hjk => ?_, fun y hy => ?_⟩
    · obtain ⟨hk0, hkq⟩ := mem_Icc_iff.1 hk
      exact (isMember_iff_exists_pow h hq).2 ⟨k, hk0, hkq, (hpow k).symm⟩
    · simp only [hpow] at hjk
      exact ((pow_mod_eq_iff h hq).1 hjk).eq_of_lt_of_lt (mem_Icc_iff.1 hj).2 (mem_Icc_iff.1 hk).2
    · obtain ⟨k, hk0, hkq, hky⟩ := (isMember_iff_exists_pow h hq).1 hy
      exact ⟨k, mem_Icc_iff.2 ⟨hk0, hkq⟩, (hpow k).trans hky⟩

/-- Every member is a generator like the fixed one. -/
theorem generates_of_isMember (h : s.Accepted) (hq : s.q.Prime) {x : Nat}
    (hx : s.isMember x = true) : s.Generates x := by
  -- the modulus, the order and the members stay what they are
  obtain ⟨horder, hbij⟩ := generates_base ((withBase_accepted_iff h).2 hx) hq
  exact ⟨horder, hbij⟩

/-- Where something generates the members, there are one less than the order. -/
theorem Generates.ncard_members {x : Nat} (h : s.Generates x) :
    {y | s.isMember y = true}.ncard = s.q - 1 := by
  rw [← h.bijOn_pow.image_eq, h.bijOn_pow.injOn.ncard_image, ← Finset.coe_Icc,
    Set.ncard_coe_finset, Nat.card_Icc, Nat.add_sub_cancel]

/-- Powers of a generator with exponents in range are members. -/
theorem Generates.isMember_pow {x k : Nat} (h : s.Generates x) (hk : k ∈ Set.Icc 1 (s.q - 1)) :
    s.isMember (s.group.pow x k) = true :=
  h.bijOn_pow.mapsTo hk

/-! ## Prime order -/

/-- The encoding of a member denotes it. -/
theorem denotes_encode {x : Nat} (hx : s.isMember x = true) :
    s.group.Denotes (s.group.encodeElement x) x := by
  have hlt : x < s.p := by
    simp only [isMember, Bool.and_eq_true, decide_eq_true_eq] at hx
    exact hx.1.2
  exact ⟨decodeElement_encodeElement hlt, hx⟩

/-- The encoding of a member is decoded and let through. -/
theorem decode_of_isMember {x : Nat} (hx : s.isMember x = true) (field : String) :
    s.group.member field (s.group.encodeElement x) = .ok x ∧
    s.group.element true (s.group.encodeElement x) = .ok x :=
  ⟨(denotes_encode hx).member_eq field, (denotes_encode hx).element_eq true⟩

/-- A cyclic group of prime order, of which an honest party draws only members. -/
structure HasPrimeOrder (s : SafePrime) : Prop where
  prime_p : s.p.Prime
  generates : s.Generates s.g
  ncard_members : {x | s.isMember x = true}.ncard = s.q - 1
  generates_of_isMember : ∀ {x}, s.isMember x = true → s.Generates x
  /-- However often the sampler tries, what it gives is in range. -/
  draw_mem : ∀ {limit t u k},
    ByteSource.draw (4 * s.sampleWords) s.exponentOfWords limit t = some (k, u) →
    k ∈ Set.Icc 1 (s.q - 1)
  isMember_of_sampleGenerator : ∀ {t u} {x : Nat}, s.group.sampleGenerator t = some (x, u) →
    s.isMember x = true
  /-- Nobody turns away the power of the generator with an exponent in range. -/
  decode_gpow : ∀ {k : Nat}, k ∈ Set.Icc 1 (s.q - 1) → ∀ field,
    s.group.member field (s.group.encodeElement (s.group.gpow k)) = .ok (s.group.gpow k) ∧
    s.group.element true (s.group.encodeElement (s.group.gpow k)) = .ok (s.group.gpow k)

/-- Parameters that pass the check make a group of prime order as soon as the order is
prime. -/
theorem hasPrimeOrder_of_accepted (h : s.Accepted) (hq : s.q.Prime) : s.HasPrimeOrder where
  prime_p := prime_p h hq
  generates := generates_base h hq
  ncard_members := (generates_base h hq).ncard_members
  generates_of_isMember := generates_of_isMember h hq
  draw_mem hk := mem_Icc_iff.2 (draw_range hk)
  isMember_of_sampleGenerator {t u x} hx := by
    obtain ⟨⟨k, u'⟩, hk, hxu⟩ := Option.map_eq_some_iff.1 hx
    obtain ⟨rfl, -⟩ := Prod.mk.inj hxu
    exact (generates_base h hq).isMember_pow (mem_Icc_iff.2 (sample_range hk))
  decode_gpow hk field := decode_of_isMember ((generates_base h hq).isMember_pow hk) field

/-- The squares modulo 23: there are ten besides one, and 3 generates them too. -/
theorem hasPrimeOrder_of_accepted_small :
    small.Accepted ∧ small.q.Prime ∧ {x | small.isMember x = true}.ncard = 10 ∧
    small.Generates 3 :=
  have hsmall := hasPrimeOrder_of_accepted small_accepted small_prime
  ⟨small_accepted, small_prime, hsmall.ncard_members, hsmall.generates_of_isMember (by decide)⟩

end SafePrime

end TwoParty
