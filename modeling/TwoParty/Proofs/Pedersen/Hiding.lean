import Mathlib.Tactic.LinearCombination
import Mathlib.Tactic.Ring
import TwoParty.Proofs.Group.SafePrime
import TwoParty.Proofs.Pedersen.Honest

/-!
# TwoParty.Proofs.Pedersen.Hiding

What a commitment and its proof of knowledge say about the value: nothing.

Over a lawful group and for a base `h = g ^ t`, the two messages are the logarithms
`r + t x` and `k₁ + t k₂` and the responses `k₁ + e r` and `k₂ + e x`.  The challenge `e`
depends on the first two only, so it stays the same when the value is exchanged, and what
is left is a linear system in `r`, `k₁` and `k₂` with exactly one solution
(`existsUnique_exponents`).
-/

namespace TwoParty

open LawfulGroup

namespace Pedersen

variable {G : DlogGroup} {draw : Challenger} {id : CommitmentId}

/-- What the verifier sees of a committed value before it is revealed, for a base, the
randomness of the commitment and the nonces of the knowledge proof. -/
def shown (draw : Challenger) (h : G.Element) (id : CommitmentId) (x r k₁ k₂ : G.Exponent) :
    CommitMessage × KnowledgeMessage :=
  let o : Opening G := ⟨Sigma.commit G h r x, x, r⟩
  (commitMessage id o, knowledgeMessage draw h id o k₁ k₂)

/-- The two messages as they are said by the committer at `side`. -/
def spoken (side : Side) (messages : CommitMessage × KnowledgeMessage) : Dialogue :=
  [(side, LawfulMessage.text messages.1), (side, LawfulMessage.text messages.2)]

/-- A committer that commits to a value and proves that it knows it says just that. -/
theorem Committer.says_shown {side : Side} {c : Committer G} {x r k₁ k₂ : G.Exponent}
    {random random' : ByteSource} (h : G.Drawn random [r, k₁, k₂] random') :
    Says side (spoken side (shown draw c.h c.nextId x r k₁ k₂)) (commit x >>= proveKnowledge draw)
      c random (.ok ()) (c.countId.keep c.nextId (c.openingWith x r)) random' := by
  obtain ⟨u, hr, hk⟩ := h
  refine (says_commit x hr).bind (D := [_]) (E := [_]) ?_
  exact says_proveKnowledge (opening_keep _ _) hk

variable [LawfulGroup G]

/-- The challenge of the knowledge proof, for the logarithms of the base, the commitment
and the first message. -/
def challengeLog (G : DlogGroup) [LawfulGroup G] (draw : Challenger) (id : CommitmentId)
    (t c f : ZMod G.order) : ZMod G.order :=
  residue (Sigma.openingChallenge G draw (knowledgeTranscript id) (exp t) (exp c) (exp f)).1

/-- What is shown, in logarithms. -/
theorem shown_eq (t : ZMod G.order) (x r k₁ k₂ : G.Exponent) :
    shown draw (exp t) id x r k₁ k₂ =
      let c := residue r + t * residue x
      let f := residue k₁ + t * residue k₂
      let e := challengeLog G draw id t c f
      (⟨id, G.encodeElement (exp c)⟩,
        ⟨id, G.encodeElement (exp f), G.encodeExponent (scalar (residue k₁ + e * residue r)),
          G.encodeExponent (scalar (residue k₂ + e * residue x))⟩) := by
  simp only [shown, commitMessage, knowledgeMessage, Sigma.openingProof, Sigma.commit_exp, add_eq,
    times_eq, residue_scalar, challengeLog, Sigma.openingChallenge]

/-- The same is shown exactly when both logarithms and both responses are the same. -/
theorem shown_eq_iff (t : ZMod G.order) (x r k₁ k₂ x' r' k₁' k₂' : G.Exponent) :
    shown draw (exp t) id x' r' k₁' k₂' = shown draw (exp t) id x r k₁ k₂ ↔
      residue r' + t * residue x' = residue r + t * residue x ∧
      residue k₁' + t * residue k₂' = residue k₁ + t * residue k₂ ∧
      let e := challengeLog G draw id t (residue r + t * residue x) (residue k₁ + t * residue k₂)
      residue k₁' + e * residue r' = residue k₁ + e * residue r ∧
        residue k₂' + e * residue x' = residue k₂ + e * residue x := by
  rw [shown_eq, shown_eq]
  constructor
  · intro h
    simp only [Prod.mk.injEq, CommitMessage.mk.injEq, KnowledgeMessage.mk.injEq,
      OpeningProof.mk.injEq, encode_exp_inj, encode_scalar_inj, true_and] at h
    obtain ⟨hc, hf, hr, hx⟩ := h
    rw [hc, hf] at hr hx
    exact ⟨hc, hf, hr, hx⟩
  · intro h
    obtain ⟨hc, hf, hr, hx⟩ := h
    simp only [hc, hf, hr, hx]

/-- For another value `x'`, one commitment and one pair of responses leave one choice of
randomness and nonces. -/
theorem existsUnique_exponents {F : Type} [Field F] (t e r x k₁ k₂ x' : F) :
    ∃! w : F × F × F, w.1 + t * x' = r + t * x ∧ w.2.1 + t * w.2.2 = k₁ + t * k₂ ∧
      w.2.1 + e * w.1 = k₁ + e * r ∧ w.2.2 + e * x' = k₂ + e * x := by
  obtain ⟨r', hr'⟩ : ∃ r', r' = r + t * (x - x') := ⟨_, rfl⟩
  refine ⟨(r', k₁ + e * (r - r'), k₂ + e * (x - x')), ⟨?_, ?_, ?_, ?_⟩, ?_⟩
  · rw [hr']
    ring
  · -- The changes of the two nonces cancel, because `r + t x` is what it was.
    rw [hr']
    ring
  · ring
  · ring
  · intro w hw
    obtain ⟨r₂, k₁₂, k₂₂⟩ := w
    obtain ⟨hc, -, hk₁, hk₂⟩ := hw
    have hr₂ : r₂ = r' := by
      rw [hr']
      linear_combination hc
    subst hr₂
    refine Prod.ext rfl (Prod.ext ?_ ?_)
    · linear_combination hk₁
    · linear_combination hk₂

/-- For each value there is exactly one choice of randomness and nonces that shows the
same, whatever was committed to; and what is shown is what a committer says that draws
this randomness and these nonces. -/
theorem existsUnique_shown_eq (draw : Challenger) (t : ZMod G.order) (id : CommitmentId)
    (x r k₁ k₂ x' : G.Exponent) :
    (∃! w : ZMod G.order × ZMod G.order × ZMod G.order,
      shown draw (exp t) id x' (scalar w.1) (scalar w.2.1) (scalar w.2.2) =
        shown draw (exp t) id x r k₁ k₂) ∧
    ∀ {side : Side} {c : Committer G} {y s l₁ l₂ : G.Exponent} {random random' : ByteSource},
      c.h = exp t → c.nextId = id → G.Drawn random [s, l₁, l₂] random' →
      Says side (spoken side (shown draw (exp t) id y s l₁ l₂))
        (Committer.commit y >>= Committer.proveKnowledge draw) c random (.ok ())
        (c.countId.keep id (c.openingWith y s)) random' := by
  constructor
  · simp only [shown_eq_iff, residue_scalar]
    exact existsUnique_exponents t _ _ _ _ _ _
  · intro side c y s l₁ l₂ random random' hh hid hdrawn
    rw [← hh, ← hid]
    exact Committer.says_shown hdrawn

/-- A committer of 3 modulo 23 might as well have committed to 5. -/
theorem existsUnique_shown_eq_small :
    let draw : Challenger := fun _ _ n => List.replicate n 0
    let messages := shown (G := SafePrime.small.group) draw (exp 3) 0 SafePrime.three
      SafePrime.three SafePrime.three SafePrime.three
    (∃! w : ZMod 11 × ZMod 11 × ZMod 11,
      shown (G := SafePrime.small.group) draw (exp 3) 0 (5 : Nat) (scalar w.1) (scalar w.2.1)
        (scalar w.2.2) = messages) ∧
    ∃ c', Says .one (spoken .one messages)
      (Committer.commit SafePrime.three >>= Committer.proveKnowledge draw)
      (⟨exp 3, 0, .empty⟩ : Committer SafePrime.small.group) (SafePrime.threes 0) (.ok ()) c'
      (SafePrime.threes 12) := by
  intro draw messages
  obtain ⟨hunique, hsays⟩ := existsUnique_shown_eq (G := SafePrime.small.group) draw 3 0
    SafePrime.three SafePrime.three SafePrime.three SafePrime.three (5 : Nat)
  exact ⟨hunique, _, hsays rfl rfl (SafePrime.drawn_threes 3 0)⟩

end Pedersen

end TwoParty
