import Mathlib.Tactic.LinearCombination
import Mathlib.Tactic.Ring
import TwoParty.Proofs.Group.Lawful
import TwoParty.Sigma.Schnorr

/-!
# TwoParty.Proofs.Sigma.Completeness

What the verifiers make of a proof by an honest prover, over a lawful group and for any
challenger.  Everything is written in logarithms: the statement, the first message and
the challenge decide (`verifyDlog_dlogProof`, `verifyOpening_openingProof`).
-/

namespace TwoParty

namespace Sigma

open LawfulGroup

variable {G : DlogGroup} [LawfulGroup G] (draw : Challenger) (tr : Transcript)

/-! ## Discrete logarithms -/

/-- The challenge of a proof with this statement and first message. -/
def dlogChallenge (G : DlogGroup) (draw : Challenger) (tr : Transcript)
    (base image first : G.Element) : G.Exponent × Transcript :=
  challenge G draw (absorb G (absorbDlog G tr base image) "t" first)

/-- The verifier's decision on a proof that decodes. -/
theorem verifyDlog_of_decoded {b y f z : ZMod G.order} (hf : f ≠ 0) :
    verifyDlog G draw tr (exp b) (exp y)
        ⟨G.encodeElement (exp f), G.encodeExponent (scalar z)⟩ =
      (decide (b * z = f + y * residue (dlogChallenge G draw tr (exp b) (exp y) (exp f)).1),
        (dlogChallenge G draw tr (exp b) (exp y) (exp f)).2) := by
  have hfirst : G.element true (G.encodeElement (exp f)) = .ok (exp f) := by
    rw [element_encode, if_neg hf]
  rw [verifyDlog, hfirst, exponent_encode]
  simp only [pow_exp, mul_exp, residue_scalar, dlogChallenge]
  exact Prod.ext (decide_eq_decide.2 encode_exp_inj) rfl

/-- The proof with nonce `k` is accepted exactly when it proves a true statement or its
challenge is zero. -/
theorem verifyDlog_dlogProof {b y : ZMod G.order} (w : G.Exponent) {k : G.Exponent} (hb : b ≠ 0)
    (hk : residue k ≠ 0) :
    verifyDlog G draw tr (exp b) (exp y) (dlogProof G draw tr (exp b) (exp y) w k).1 =
      (decide (residue (dlogChallenge G draw tr (exp b) (exp y) (exp (b * residue k))).1 = 0 ∨
          y = b * residue w),
        (dlogProof G draw tr (exp b) (exp y) w k).2) := by
  have hf : b * residue k ≠ 0 := mul_ne_zero hb hk
  have hproof : dlogProof G draw tr (exp b) (exp y) w k =
      (⟨G.encodeElement (exp (b * residue k)), G.encodeExponent (scalar (residue k +
          residue (dlogChallenge G draw tr (exp b) (exp y) (exp (b * residue k))).1 * residue w))⟩,
        (dlogChallenge G draw tr (exp b) (exp y) (exp (b * residue k))).2) := by
    simp only [dlogProof, pow_exp, add_eq, times_eq, residue_scalar, dlogChallenge]
  rw [hproof, verifyDlog_of_decoded draw tr hf]
  refine Prod.ext (decide_eq_decide.2 ?_) rfl
  generalize residue (dlogChallenge G draw tr (exp b) (exp y) (exp (b * residue k))).1 = e
  constructor
  · intro h
    have hprod : e * (y - b * residue w) = 0 := by linear_combination -h
    exact (mul_eq_zero.1 hprod).imp_right sub_eq_zero.1
  · rintro (rfl | rfl)
    · ring
    · ring

/-- A true statement is proved. -/
theorem verifyDlog_of_image_eq {b : ZMod G.order} {w k : G.Exponent} (hb : b ≠ 0)
    (hk : residue k ≠ 0) :
    (verifyDlog G draw tr (exp b) (exp (b * residue w))
      (dlogProof G draw tr (exp b) (exp (b * residue w)) w k).1).1 = true := by
  rw [verifyDlog_dlogProof draw tr w hb hk]
  exact decide_eq_true (.inr rfl)

/-! ## Openings -/

/-- The logarithm of a commitment joins the randomness and the value. -/
theorem commit_exp (t : ZMod G.order) (r x : G.Exponent) :
    commit G (exp t) r x = exp (residue r + t * residue x) := by
  rw [commit, gpow_eq, pow_exp, mul_exp]

/-- The challenge of a proof with this statement and first message. -/
def openingChallenge (G : DlogGroup) (draw : Challenger) (tr : Transcript)
    (h commitment first : G.Element) : G.Exponent × Transcript :=
  challenge G draw (absorb G (absorbOpening G tr h commitment) "t" first)

/-- The proof with nonces `k₁` and `k₂` is accepted exactly when its first message is not
the identity, and it proves a true statement or its challenge is zero. -/
theorem verifyOpening_openingProof {t c : ZMod G.order} (r x k₁ k₂ : G.Exponent) :
    (verifyOpening G draw tr (exp t) (exp c)
        (openingProof G draw tr (exp t) (exp c) r x k₁ k₂).1).1 =
      decide (residue k₁ + t * residue k₂ ≠ 0 ∧
        (residue (openingChallenge G draw tr (exp t) (exp c)
            (exp (residue k₁ + t * residue k₂))).1 = 0 ∨
          c = residue r + t * residue x)) := by
  have hproof : (openingProof G draw tr (exp t) (exp c) r x k₁ k₂).1 =
      ⟨G.encodeElement (exp (residue k₁ + t * residue k₂)),
        G.encodeExponent (scalar (residue k₁ + residue (openingChallenge G draw tr (exp t) (exp c)
          (exp (residue k₁ + t * residue k₂))).1 * residue r)),
        G.encodeExponent (scalar (residue k₂ + residue (openingChallenge G draw tr (exp t) (exp c)
          (exp (residue k₁ + t * residue k₂))).1 * residue x))⟩ := by
    simp only [openingProof, commit_exp, add_eq, times_eq, residue_scalar, openingChallenge]
  rw [hproof, verifyOpening, element_encode, exponent_encode, exponent_encode]
  by_cases hf : residue k₁ + t * residue k₂ = 0
  · simp [hf]
  · simp only [if_neg hf, commit_exp, pow_exp, mul_exp, residue_scalar, openingChallenge]
    refine decide_eq_decide.2 (encode_exp_inj.trans ?_)
    generalize residue (challenge G draw (absorb G (absorbOpening G tr (exp t) (exp c)) "t"
      (exp (residue k₁ + t * residue k₂)))).1 = e
    constructor
    · intro h
      have hprod : e * (c - (residue r + t * residue x)) = 0 := by linear_combination -h
      exact ⟨hf, (mul_eq_zero.1 hprod).imp_right sub_eq_zero.1⟩
    · rintro ⟨-, rfl | rfl⟩
      · ring
      · ring

/-- A true statement is proved, unless the first message is the identity. -/
theorem verifyOpening_of_commitment_eq {t : ZMod G.order} (r x k₁ k₂ : G.Exponent) :
    (verifyOpening G draw tr (exp t) (commit G (exp t) r x)
        (openingProof G draw tr (exp t) (commit G (exp t) r x) r x k₁ k₂).1).1 =
      decide (residue k₁ + t * residue k₂ ≠ 0) := by
  rw [commit_exp, verifyOpening_openingProof]
  simp

end Sigma

end TwoParty
