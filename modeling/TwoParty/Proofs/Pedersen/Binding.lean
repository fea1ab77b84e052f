import TwoParty.Proofs.Group.SafePrime
import TwoParty.Proofs.Pedersen.Honest
import TwoParty.Proofs.Sigma.Soundness

/-!
# TwoParty.Proofs.Pedersen.Binding

A committer that can open one commitment in two ways knows the verifier's trapdoor.

A revealed value `x` is accepted with a proof that `c * h ^ (- x)` is a power of `g`.  Two
such proofs for one value give the exponent (`TwoParty.Proofs.Sigma.Soundness`), and the
exponents `r` and `r'` for two values `x` and `x'` give the logarithm of `h`:
`statements_of_acceptances`.
-/

namespace TwoParty

open LawfulGroup TwoParty.Sigma

namespace Pedersen

variable {G : DlogGroup} {x x' : G.Exponent}

/-- A value is revealed only if its proof about the stripped commitment is accepted. -/
theorem verifyDlog_of_revealed {draw : Challenger} {h c : G.Element} {id : CommitmentId}
    {m : DecommitMessage} (hm : Verifier.revealed G draw h c id m = some x) :
    (verifyDlog G draw (valueTranscript id) G.generator (stripValue G h c x) m.proof).1 = true := by
  unfold Verifier.revealed at hm
  split at hm
  · contradiction
  · split at hm
    · next hv =>
      obtain rfl := Option.some.inj hm
      exact hv
    · contradiction

variable [LawfulGroup G] {t c : ZMod G.order} {first first' : G.Element}

/-- Taking a value off a commitment takes its multiple of the base off the logarithm. -/
theorem stripValue_exp (t c : ZMod G.order) (x : G.Exponent) :
    stripValue G (exp t) (exp c) x = exp (c - t * residue x) := by
  rw [stripValue, neg_eq, pow_exp, residue_scalar, mul_exp, mul_neg, sub_eq_add_neg]

/-- What two proofs about a stripped commitment give away. -/
theorem strip_log_eq (a₁ a₂ : DlogAcceptance G G.generator (stripValue G (exp t) (exp c) x) first)
    (hne : a₁.challenge ≠ a₂.challenge) : c - t * residue x = a₁.extracted a₂ := by
  rw [a₁.log_eq a₂ exp_one.symm (stripValue_exp t c x) hne, one_mul]

/-- Openings of one commitment to two values give the trapdoor. -/
theorem base_eq (a₁ a₂ : DlogAcceptance G G.generator (stripValue G (exp t) (exp c) x) first)
    (b₁ b₂ : DlogAcceptance G G.generator (stripValue G (exp t) (exp c) x') first')
    (ha : a₁.challenge ≠ a₂.challenge) (hb : b₁.challenge ≠ b₂.challenge)
    (hx : residue x ≠ residue x') :
    exp t = G.gpow (scalar ((a₁.extracted a₂ - b₁.extracted b₂) * (residue x' - residue x)⁻¹)) := by
  have hsub : residue x' - residue x ≠ 0 := sub_ne_zero.2 hx.symm
  have hdiff : a₁.extracted a₂ - b₁.extracted b₂ = t * (residue x' - residue x) := by
    rw [← strip_log_eq a₁ a₂ ha, ← strip_log_eq b₁ b₂ hb]
    ring
  rw [gpow_eq, residue_scalar, hdiff, mul_assoc, mul_inv_cancel₀ hsub, mul_one]

/-- What pairs of accepted proofs with one first message and different challenges
establish: the logarithm of an image, the opening of a commitment, and, if proofs as they
come with revealed values were accepted for two values of one commitment, the trapdoor. -/
theorem statements_of_acceptances (G : DlogGroup) [LawfulGroup G] :
    (∀ {b y : ZMod G.order} {first : G.Element} (a₁ a₂ : DlogAcceptance G (exp b) (exp y) first),
      a₁.challenge ≠ a₂.challenge →
      exp y = G.pow (exp b) (scalar ((residue a₁.response - residue a₂.response) *
        (a₁.challenge - a₂.challenge)⁻¹))) ∧
    (∀ {t c : ZMod G.order} {first : G.Element}
      (a₁ a₂ : OpeningAcceptance G (exp t) (exp c) first), a₁.challenge ≠ a₂.challenge →
      exp c = Sigma.commit G (exp t)
        (scalar ((residue a₁.responseR - residue a₂.responseR) *
          (a₁.challenge - a₂.challenge)⁻¹))
        (scalar ((residue a₁.responseX - residue a₂.responseX) *
          (a₁.challenge - a₂.challenge)⁻¹))) ∧
    (∀ {draw : Challenger} {h c : G.Element} {id : CommitmentId} {m : DecommitMessage}
      {x : G.Exponent}, Verifier.revealed G draw h c id m = some x →
      (verifyDlog G draw (valueTranscript id) G.generator (stripValue G h c x) m.proof).1 = true) ∧
    ∀ {t c : ZMod G.order} {x x' : G.Exponent} {first first' : G.Element}
      (a₁ a₂ : DlogAcceptance G G.generator (stripValue G (exp t) (exp c) x) first)
      (b₁ b₂ : DlogAcceptance G G.generator (stripValue G (exp t) (exp c) x') first'),
      a₁.challenge ≠ a₂.challenge → b₁.challenge ≠ b₂.challenge → residue x ≠ residue x' →
      exp t = G.gpow (scalar ((a₁.extracted a₂ - b₁.extracted b₂) *
        (residue x' - residue x)⁻¹)) := by
  refine ⟨?_, ?_, ?_, ?_⟩
  · intro b y first a₁ a₂ hne
    exact a₁.image_eq a₂ hne
  · intro t c first a₁ a₂ hne
    exact a₁.commitment_eq a₂ hne
  · intro draw h c id m x hm
    exact verifyDlog_of_revealed hm
  · intro t c x x' first first' a₁ a₂ b₁ b₂ ha hb hx
    exact base_eq a₁ a₂ b₁ b₂ ha hb hx

/-- A source of challenges that repeats one byte. -/
def repeating (byte : UInt8) : Challenger := fun _ _ n => List.replicate n byte

/-- Modulo 11, repeated zeros and repeated ones are different challenges. -/
theorem challenge_repeating_ne (tr tr' : Transcript) :
    residue (challenge SafePrime.small.group (repeating 0) tr).1 ≠
      residue (challenge SafePrime.small.group (repeating 1) tr').1 := by
  show ((Bytes.natBE (List.replicate 64 0) % 11 : Nat) : ZMod 11) ≠
    ((Bytes.natBE (List.replicate 64 1) % 11 : Nat) : ZMod 11)
  decide +kernel

/-- Modulo 23, with `h = g ^ 3` and the commitment `g`, opened to 3 with randomness 3 and
to 1 with randomness 9. -/
theorem statements_of_acceptances_small :
    ∃ (first : SafePrime.small.group.Element)
      (a₁ a₂ : DlogAcceptance SafePrime.small.group (exp 2) (exp 6) first)
      (o₁ o₂ : OpeningAcceptance SafePrime.small.group (exp 3) (exp 1) first)
      (m : DecommitMessage)
      (b₁ b₂ : DlogAcceptance SafePrime.small.group SafePrime.small.group.generator
        (stripValue SafePrime.small.group (exp 3) (exp 1) SafePrime.three) first)
      (c₁ c₂ : DlogAcceptance SafePrime.small.group SafePrime.small.group.generator
        (stripValue SafePrime.small.group (exp 3) (exp 1) (1 : Nat)) first),
      exp 6 = SafePrime.small.group.pow (exp 2) (scalar (a₁.extracted a₂)) ∧
      exp 1 = Sigma.commit SafePrime.small.group (exp 3) (scalar (o₁.extractedR o₂))
        (scalar (o₁.extractedX o₂)) ∧
      (verifyDlog SafePrime.small.group (repeating 0) (valueTranscript 0)
        SafePrime.small.group.generator
        (stripValue SafePrime.small.group (exp 3) (exp 1) SafePrime.three) m.proof).1 = true ∧
      exp 3 = SafePrime.small.group.gpow (scalar ((b₁.extracted b₂ - c₁.extracted c₂) *
        (residue (G := SafePrime.small.group) (1 : Nat) - residue SafePrime.three)⁻¹)) := by
  let a := fun draw => @DlogAcceptance.honest SafePrime.small.group _ (exp 2) (exp 6) 2 draw ⟨[]⟩
    SafePrime.three SafePrime.three rfl rfl (by decide) (by decide)
  let o := fun draw => @OpeningAcceptance.honest SafePrime.small.group _ (exp 1) 3 draw ⟨[]⟩
    SafePrime.three SafePrime.three SafePrime.three (1 : Nat) (by decide +kernel) (by decide)
  let b := fun draw => @DlogAcceptance.honest SafePrime.small.group _
    SafePrime.small.group.generator
    (stripValue SafePrime.small.group (exp 3) (exp 1) SafePrime.three) 1 draw (valueTranscript 0)
    SafePrime.three (6 : Nat) (by decide +kernel) (by decide +kernel) (by decide) (by decide)
  let c := fun draw => @DlogAcceptance.honest SafePrime.small.group _
    SafePrime.small.group.generator
    (stripValue SafePrime.small.group (exp 3) (exp 1) (1 : Nat)) 1 draw (valueTranscript 0)
    (9 : Nat) (6 : Nat) (by decide +kernel) (by decide +kernel) (by decide) (by decide)
  have hcommitment : (exp 1 : SafePrime.small.group.Element) =
      Sigma.commit SafePrime.small.group (exp 3) SafePrime.three SafePrime.three := by
    decide +kernel
  let m := decommitMessage (repeating 0) (exp 3) 0
    (honestOpening (G := SafePrime.small.group) 3 SafePrime.three SafePrime.three) (6 : Nat)
  have hrevealed : Verifier.revealed SafePrime.small.group (repeating 0) (exp 3) (exp 1) 0 m =
      some SafePrime.three := by
    rw [hcommitment]
    exact revealed_decommitMessage rfl (by decide)
  obtain ⟨hdlog, hopening, hvalue, hbase⟩ := statements_of_acceptances SafePrime.small.group
  refine ⟨exp 6, a (repeating 0), a (repeating 1), o (repeating 0), o (repeating 1), m,
    b (repeating 0), b (repeating 1), c (repeating 0), c (repeating 1), ?_, ?_, ?_, ?_⟩
  · exact hdlog _ _ (challenge_repeating_ne _ _)
  · exact hopening _ _ (challenge_repeating_ne _ _)
  · exact hvalue hrevealed
  · exact hbase _ _ _ _ (challenge_repeating_ne _ _) (challenge_repeating_ne _ _) (by decide)

end Pedersen

end TwoParty
