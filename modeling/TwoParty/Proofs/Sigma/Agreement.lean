import TwoParty.Proofs.Group.SafePrime
import TwoParty.Proofs.Sigma.Completeness

/-!
# TwoParty.Proofs.Sigma.Agreement

Prover and verifier of a sigma protocol agree: on the transcript after a proof, whatever
the proof is worth, and on the statements that an honest prover can prove.

The two sides have a transcript in common until the first message, and the challenge is
drawn from what they have absorbed.  What is left is whether the proof decodes:

* `DlogProof.Decodes`, `OpeningProof.Decodes` — the verifier gets as far as the challenge;
* `decodes_dlogProof`, `decodes_openingProof` — an honest proof decodes unless its first
  message is the identity;
* `agrees_of_lawful` — the verdicts and the transcripts, for all statements and nonces.
-/

namespace TwoParty

/-- The parts of a proof decode, the first message to a member. -/
def DlogProof.Decodes (G : DlogGroup) (p : DlogProof) : Prop :=
  ∃ first z, G.element true p.t = .ok first ∧ G.exponent p.response = .ok z

/-- The parts of a proof decode, the first message to a member. -/
def OpeningProof.Decodes (G : DlogGroup) (p : OpeningProof) : Prop :=
  ∃ first z₁ z₂, G.element true p.t = .ok first ∧ G.exponent p.responseR = .ok z₁ ∧
    G.exponent p.responseX = .ok z₂

namespace Sigma

open LawfulGroup

variable {G : DlogGroup} {draw : Challenger} {tr : Transcript}

/-! ## What does not decode -/

/-- A proof that does not decode is refused before anything is absorbed. -/
theorem verifyDlog_of_not_decodes {base image : G.Element} {p : DlogProof}
    (hp : ¬ p.Decodes G) : verifyDlog G draw tr base image p = (false, tr) := by
  unfold verifyDlog
  split
  next first z hfirst hz => exact absurd ⟨first, z, hfirst, hz⟩ hp
  next => rfl

theorem verifyOpening_of_not_decodes {h commitment : G.Element} {p : OpeningProof}
    (hp : ¬ p.Decodes G) : verifyOpening G draw tr h commitment p = (false, tr) := by
  unfold verifyOpening
  split
  next first z₁ z₂ hfirst hz₁ hz₂ => exact absurd ⟨first, z₁, z₂, hfirst, hz₁, hz₂⟩ hp
  next => rfl

/-! ## Transcripts -/

/-- The verifier's transcript depends on the first message alone. -/
theorem transcript_verifyDlog {base image first : G.Element} {p : DlogProof}
    (hp : p.Decodes G) (hfirst : G.element true p.t = .ok first) :
    (verifyDlog G draw tr base image p).2 = (dlogChallenge G draw tr base image first).2 := by
  obtain ⟨first', z, hfirst', hz⟩ := hp
  obtain rfl : first' = first := Except.ok.inj (hfirst'.symm.trans hfirst)
  simp only [verifyDlog, hfirst, hz, dlogChallenge]

/-- A proof of an opening that decodes leaves the transcript behind its challenge. -/
theorem transcript_verifyOpening {h commitment first : G.Element} {p : OpeningProof}
    (hp : p.Decodes G) (hfirst : G.element true p.t = .ok first) :
    (verifyOpening G draw tr h commitment p).2 =
      (openingChallenge G draw tr h commitment first).2 := by
  obtain ⟨first', z₁, z₂, hfirst', hz₁, hz₂⟩ := hp
  obtain rfl : first' = first := Except.ok.inj (hfirst'.symm.trans hfirst)
  simp only [verifyOpening, hfirst, hz₁, hz₂, openingChallenge]

variable [LawfulGroup G]

/-- Only the identity fails to decode. -/
theorem element_encode_eq_ok {f : ZMod G.order} {x : G.Element} :
    G.element true (G.encodeElement (exp f)) = .ok x ↔ f ≠ 0 ∧ x = exp f := by
  rw [element_encode]
  by_cases hf : f = 0 <;> simp [hf, eq_comm]

/-- An honest proof decodes unless its first message is the identity. -/
theorem decodes_dlogProof {b : ZMod G.order} {image : G.Element} {w k : G.Exponent} :
    (dlogProof G draw tr (exp b) image w k).1.Decodes G ↔ G.pow (exp b) k ≠ one G := by
  simp [dlogProof, DlogProof.Decodes, pow_exp, element_encode_eq_ok, exponent_encode, add_eq,
    one, exp_inj]

theorem decodes_openingProof {t : ZMod G.order} {commitment : G.Element}
    {r x k₁ k₂ : G.Exponent} :
    (openingProof G draw tr (exp t) commitment r x k₁ k₂).1.Decodes G ↔
      commit G (exp t) k₁ k₂ ≠ one G := by
  simp [openingProof, OpeningProof.Decodes, commit_exp, element_encode_eq_ok, exponent_encode,
    add_eq, one, exp_inj]

/-! ## Agreement -/

/-- Prover and verifier of the two sigma protocols agree, with challenges from `draw` and
from the transcript `tr` on. -/
structure Agrees (G : DlogGroup) [LawfulGroup G] (draw : Challenger) (tr : Transcript) :
    Prop where
  /-- A prover draws one nonce, which is not zero, and makes the proof with it. -/
  dlog_run : ∀ {σ : Type} (desk : Party.Desk σ) {k : G.Exponent} {random : ByteSource},
    G.sample desk.random = some (k, random) → residue k ≠ 0 ∧ ∀ base image w,
      (proveDlog G draw tr base image w).run desk =
        (.finished (dlogProof G draw tr base image w k), { desk with random := random })
  /-- A proof with the nonce `k` is accepted for a true statement, and at a challenge of
  zero. -/
  dlog_accepts : ∀ {b : ZMod G.order}, b ≠ 0 → ∀ (y : ZMod G.order) (w : G.Exponent)
    {k : G.Exponent}, residue k ≠ 0 →
    ((verifyDlog G draw tr (exp b) (exp y)
        (dlogProof G draw tr (exp b) (exp y) w k).1).1 = true ↔
      exp y = G.pow (exp b) w ∨
      residue (dlogChallenge G draw tr (exp b) (exp y) (G.pow (exp b) k)).1 = 0)
  /-- If the proof decodes, the verifier ends with the prover's transcript. -/
  dlog_transcript : ∀ (b y : ZMod G.order) (w k : G.Exponent),
    (dlogProof G draw tr (exp b) (exp y) w k).1.Decodes G →
    (verifyDlog G draw tr (exp b) (exp y) (dlogProof G draw tr (exp b) (exp y) w k).1).2 =
      (dlogProof G draw tr (exp b) (exp y) w k).2
  /-- Whatever does not decode is refused, and the transcript is left alone. -/
  dlog_refuses : ∀ (base image : G.Element) (p : DlogProof), ¬ p.Decodes G →
    verifyDlog G draw tr base image p = (false, tr)
  /-- A prover draws two nonces and makes the proof with them. -/
  opening_run : ∀ {σ : Type} (desk : Party.Desk σ) {k₁ k₂ : G.Exponent} {random : ByteSource},
    G.Drawn desk.random [k₁, k₂] random → ∀ h commitment r x,
      (proveOpening G draw tr h commitment r x).run desk =
        (.finished (openingProof G draw tr h commitment r x k₁ k₂),
          { desk with random := random })
  /-- A proof with the nonces `k₁` and `k₂` is accepted if its first message is not the
  identity, for a true statement and at a challenge of zero. -/
  opening_accepts : ∀ (t c : ZMod G.order) (r x k₁ k₂ : G.Exponent),
    ((verifyOpening G draw tr (exp t) (exp c)
        (openingProof G draw tr (exp t) (exp c) r x k₁ k₂).1).1 = true ↔
      commit G (exp t) k₁ k₂ ≠ one G ∧
      (exp c = commit G (exp t) r x ∨
        residue (openingChallenge G draw tr (exp t) (exp c) (commit G (exp t) k₁ k₂)).1 = 0))
  /-- If the proof decodes, the verifier ends with the prover's transcript. -/
  opening_transcript : ∀ (t c : ZMod G.order) (r x k₁ k₂ : G.Exponent),
    (openingProof G draw tr (exp t) (exp c) r x k₁ k₂).1.Decodes G →
    (verifyOpening G draw tr (exp t) (exp c)
        (openingProof G draw tr (exp t) (exp c) r x k₁ k₂).1).2 =
      (openingProof G draw tr (exp t) (exp c) r x k₁ k₂).2
  /-- Whatever does not decode is refused, and the transcript is left alone. -/
  opening_refuses : ∀ (h commitment : G.Element) (p : OpeningProof), ¬ p.Decodes G →
    verifyOpening G draw tr h commitment p = (false, tr)

/-- Over a lawful group they agree, whatever the challenges are drawn from. -/
theorem agrees_of_lawful (G : DlogGroup) [LawfulGroup G] (draw : Challenger) (tr : Transcript) :
    Agrees G draw tr where
  dlog_run desk k random hk := by
    refine ⟨residue_ne_zero_of_sample hk, fun base image w => ?_⟩
    simp [proveDlog, Party.drawExponent, Party.bind, Party.run, hk]
  dlog_accepts hb y w k hk := by
    rw [verifyDlog_dlogProof draw tr w hb hk, decide_eq_true_eq, pow_exp, pow_exp, exp_inj,
      or_comm]
  dlog_transcript b y w k hp := by
    have hfirst : G.element true (dlogProof G draw tr (exp b) (exp y) w k).1.t =
        .ok (G.pow (exp b) k) := by
      have hne := decodes_dlogProof.1 hp
      simp only [dlogProof, pow_exp, one, ne_eq, exp_inj] at hne ⊢
      exact element_encode_eq_ok.2 ⟨hne, rfl⟩
    rw [transcript_verifyDlog hp hfirst]
    rfl
  dlog_refuses _ _ _ hp := verifyDlog_of_not_decodes hp
  opening_run desk k₁ k₂ random hdrawn := by
    obtain ⟨random₁, hk₁, random₂, hk₂, rfl⟩ := hdrawn
    intro h commitment r x
    simp [proveOpening, Party.drawExponent, Party.bind, Party.run, hk₁, hk₂]
  opening_accepts t c r x k₁ k₂ := by
    rw [verifyOpening_openingProof, decide_eq_true_eq, commit_exp, commit_exp, exp_inj, one,
      ne_eq, ne_eq, exp_inj, or_comm]
  opening_transcript t c r x k₁ k₂ hp := by
    have hfirst : G.element true (openingProof G draw tr (exp t) (exp c) r x k₁ k₂).1.t =
        .ok (commit G (exp t) k₁ k₂) := by
      have hne := decodes_openingProof.1 hp
      simp only [openingProof, commit_exp, one, ne_eq, exp_inj] at hne ⊢
      exact element_encode_eq_ok.2 ⟨hne, rfl⟩
    rw [transcript_verifyOpening hp hfirst]
    rfl
  opening_refuses _ _ _ hp := verifyOpening_of_not_decodes hp

/-- Modulo 23, with the base `g ^ 2`, the witness 3 and the nonce 3: the proof of the image
`g ^ 6` is accepted with the prover's transcript, and that of `g ^ 7` is refused. -/
theorem agrees_of_lawful_small :
    let draw : Challenger := fun _ _ n => List.replicate n 1
    let proof := fun image : ZMod 11 => dlogProof SafePrime.small.group draw ⟨[]⟩ (exp 2)
      (exp image) SafePrime.three SafePrime.three
    verifyDlog SafePrime.small.group draw ⟨[]⟩ (exp 2) (exp 6) (proof 6).1 = (true, (proof 6).2) ∧
      (verifyDlog SafePrime.small.group draw ⟨[]⟩ (exp 2) (exp 7) (proof 7).1).1 = false := by
  intro draw proof
  have h := agrees_of_lawful SafePrime.small.group draw ⟨[]⟩
  have hb : (2 : ZMod SafePrime.small.group.order) ≠ 0 := by decide
  have hk : residue (G := SafePrime.small.group) SafePrime.three ≠ 0 := by decide
  have hdecodes : (proof 6).1.Decodes SafePrime.small.group := decodes_dlogProof.2 (by decide)
  refine ⟨Prod.ext ?_ (h.dlog_transcript 2 6 SafePrime.three SafePrime.three hdecodes), ?_⟩
  · exact (h.dlog_accepts hb 6 SafePrime.three hk).2 (.inl (by decide))
  · have hrefused := (h.dlog_accepts hb 7 SafePrime.three hk).not.2 (by decide +kernel)
    exact Bool.eq_false_of_not_eq_true hrefused

end Sigma

end TwoParty
