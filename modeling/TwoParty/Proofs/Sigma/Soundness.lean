import TwoParty.Proofs.Sigma.Completeness

/-!
# TwoParty.Proofs.Sigma.Soundness

Special soundness of the two sigma protocols, over a lawful group.

An accepted proof puts its challenge and its response on a line that is fixed by the
statement and the first message.  Two accepted proofs with the same first message and
different challenges are two points of that line, and its slope is the witness:

* `DlogAcceptance.image_eq` — the logarithm of the image;
* `OpeningAcceptance.commitment_eq` — an opening of the commitment.

Nothing is assumed about who made the proofs, nor about the transcripts and the sources of
challenges under which they were accepted.
-/

namespace TwoParty

namespace Sigma

open LawfulGroup

/-- The slope of the line through two points. -/
def slope {F : Type} [Field F] (e₁ z₁ e₂ z₂ : F) : F := (z₁ - z₂) * (e₁ - e₂)⁻¹

/-- Two points of a line give its slope. -/
theorem eq_mul_slope {F : Type} [Field F] {b y f e₁ e₂ z₁ z₂ : F} (hne : e₁ ≠ e₂)
    (h₁ : b * z₁ = f + y * e₁) (h₂ : b * z₂ = f + y * e₂) : y = b * slope e₁ z₁ e₂ z₂ := by
  have hsub : e₁ - e₂ ≠ 0 := sub_ne_zero.2 hne
  have hline : y * (e₁ - e₂) = b * (z₁ - z₂) := by linear_combination h₂ - h₁
  rw [slope, ← mul_assoc, ← hline, mul_assoc, mul_inv_cancel₀ hsub, mul_one]

variable {G : DlogGroup}

/-! ## Discrete logarithms -/

/-- A proof of `image = base ^ x` that the verifier accepts, with its decoded parts. -/
structure DlogAcceptance (G : DlogGroup) (base image first : G.Element) where
  /-- Where the challenge came from. -/
  draw : Challenger
  /-- What the proof was bound to. -/
  transcript : Transcript
  proof : DlogProof
  response : G.Exponent
  first_eq : G.element true proof.t = .ok first
  response_eq : G.exponent proof.response = .ok response
  accepted : (verifyDlog G draw transcript base image proof).1 = true

namespace DlogAcceptance

variable [LawfulGroup G] {base image first : G.Element} {b y f : ZMod G.order}

def challenge (a : DlogAcceptance G base image first) : ZMod G.order :=
  residue (dlogChallenge G a.draw a.transcript base image first).1

/-- The verifier's equation in logarithms. -/
theorem equation (a : DlogAcceptance G (exp b) (exp y) (exp f)) :
    b * residue a.response = f + y * a.challenge := by
  have h := a.accepted
  rw [verifyDlog, a.first_eq, a.response_eq] at h
  simp only [pow_exp, mul_exp, decide_eq_true_eq] at h
  exact encode_exp_inj.1 h

/-- What two proofs with one first message give away. -/
def extracted (a₁ a₂ : DlogAcceptance G base image first) : ZMod G.order :=
  slope a₁.challenge (residue a₁.response) a₂.challenge (residue a₂.response)

/-- The extracted exponent is the logarithm of the image to the base. -/
theorem log_eq (a₁ a₂ : DlogAcceptance G base image first) (hbase : base = exp b)
    (himage : image = exp y) (hne : a₁.challenge ≠ a₂.challenge) :
    y = b * a₁.extracted a₂ := by
  subst hbase himage
  obtain ⟨f, -, rfl⟩ := exists_of_element a₁.first_eq
  exact eq_mul_slope hne a₁.equation a₂.equation

/-- The image is the power of the base with the extracted exponent. -/
theorem image_eq (a₁ a₂ : DlogAcceptance G (exp b) (exp y) first)
    (hne : a₁.challenge ≠ a₂.challenge) :
    exp y = G.pow (exp b) (scalar (a₁.extracted a₂)) := by
  rw [pow_exp, residue_scalar, ← a₁.log_eq a₂ rfl rfl hne]

/-- The proof that an honest prover makes with nonce `k` is accepted. -/
def honest (draw : Challenger) (tr : Transcript) {w k : G.Exponent} (hbase : base = exp b)
    (himage : image = exp (b * residue w)) (hb : b ≠ 0) (hk : residue k ≠ 0) :
    DlogAcceptance G base image (exp (b * residue k)) where
  draw := draw
  transcript := tr
  proof := (dlogProof G draw tr base image w k).1
  response := G.add k (G.times (dlogChallenge G draw tr base image (exp (b * residue k))).1 w)
  first_eq := by
    subst hbase
    simp only [dlogProof, pow_exp]
    rw [element_encode, if_neg (mul_ne_zero hb hk)]
  response_eq := by
    subst hbase
    simp only [dlogProof, pow_exp, add_eq, exponent_encode, dlogChallenge]
  accepted := by
    subst hbase himage
    exact verifyDlog_of_image_eq draw tr hb hk

end DlogAcceptance

/-! ## Openings -/

/-- A proof of `commitment = g ^ r * h ^ x` that the verifier accepts, with its decoded
parts. -/
structure OpeningAcceptance (G : DlogGroup) (h commitment first : G.Element) where
  /-- Where the challenge came from. -/
  draw : Challenger
  /-- What the proof was bound to. -/
  transcript : Transcript
  proof : OpeningProof
  responseR : G.Exponent
  responseX : G.Exponent
  first_eq : G.element true proof.t = .ok first
  responseR_eq : G.exponent proof.responseR = .ok responseR
  responseX_eq : G.exponent proof.responseX = .ok responseX
  accepted : (verifyOpening G draw transcript h commitment proof).1 = true

namespace OpeningAcceptance

variable [LawfulGroup G] {h commitment first : G.Element} {t c f : ZMod G.order}

def challenge (a : OpeningAcceptance G h commitment first) : ZMod G.order :=
  residue (openingChallenge G a.draw a.transcript h commitment first).1

/-- The verifier's equation in logarithms. -/
theorem equation (a : OpeningAcceptance G (exp t) (exp c) (exp f)) :
    residue a.responseR + t * residue a.responseX = f + c * a.challenge := by
  have hv := a.accepted
  rw [verifyOpening, a.first_eq, a.responseR_eq, a.responseX_eq] at hv
  simp only [commit_exp, pow_exp, mul_exp, decide_eq_true_eq] at hv
  exact encode_exp_inj.1 hv

/-- The randomness that two proofs with one first message give away. -/
def extractedR (a₁ a₂ : OpeningAcceptance G h commitment first) : ZMod G.order :=
  slope a₁.challenge (residue a₁.responseR) a₂.challenge (residue a₂.responseR)

def extractedX (a₁ a₂ : OpeningAcceptance G h commitment first) : ZMod G.order :=
  slope a₁.challenge (residue a₁.responseX) a₂.challenge (residue a₂.responseX)

/-- The extracted exponents open the commitment. -/
theorem log_eq (a₁ a₂ : OpeningAcceptance G (exp t) (exp c) first)
    (hne : a₁.challenge ≠ a₂.challenge) : c = a₁.extractedR a₂ + t * a₁.extractedX a₂ := by
  obtain ⟨f, -, rfl⟩ := exists_of_element a₁.first_eq
  -- the two responses together are a response for the base `g`
  have h₁ : 1 * (residue a₁.responseR + t * residue a₁.responseX) = f + c * a₁.challenge := by
    rw [one_mul, a₁.equation]
  have h₂ : 1 * (residue a₂.responseR + t * residue a₂.responseX) = f + c * a₂.challenge := by
    rw [one_mul, a₂.equation]
  refine (eq_mul_slope hne h₁ h₂).trans ?_
  rw [extractedR, extractedX, slope, slope, slope]
  ring

/-- The extracted pair opens the commitment. -/
theorem commitment_eq (a₁ a₂ : OpeningAcceptance G (exp t) (exp c) first)
    (hne : a₁.challenge ≠ a₂.challenge) :
    exp c = commit G (exp t) (scalar (a₁.extractedR a₂)) (scalar (a₁.extractedX a₂)) := by
  rw [commit_exp, residue_scalar, residue_scalar, ← a₁.log_eq a₂ hne]

/-- The proof that an honest prover makes with nonces `k₁` and `k₂` is accepted. -/
def honest (draw : Challenger) (tr : Transcript) {r x k₁ k₂ : G.Exponent}
    (hc : commitment = commit G (exp t) r x) (hk : residue k₁ + t * residue k₂ ≠ 0) :
    OpeningAcceptance G (exp t) commitment (exp (residue k₁ + t * residue k₂)) where
  draw := draw
  transcript := tr
  proof := (openingProof G draw tr (exp t) commitment r x k₁ k₂).1
  responseR := G.add k₁ (G.times (openingChallenge G draw tr (exp t) commitment
    (exp (residue k₁ + t * residue k₂))).1 r)
  responseX := G.add k₂ (G.times (openingChallenge G draw tr (exp t) commitment
    (exp (residue k₁ + t * residue k₂))).1 x)
  first_eq := by
    simp only [openingProof, commit_exp]
    rw [element_encode, if_neg hk]
  responseR_eq := by
    simp only [openingProof, commit_exp, add_eq, exponent_encode, openingChallenge]
  responseX_eq := by
    simp only [openingProof, commit_exp, add_eq, exponent_encode, openingChallenge]
  accepted := by
    subst hc
    rw [verifyOpening_of_commitment_eq]
    exact decide_eq_true hk

end OpeningAcceptance

end Sigma

end TwoParty
