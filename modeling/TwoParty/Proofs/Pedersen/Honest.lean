import TwoParty.Proofs.Pedersen.Says
import TwoParty.Proofs.Sigma.Completeness

/-!
# TwoParty.Proofs.Pedersen.Honest

The verifier's decisions about an honest committer, over a lawful group and for a base
`h = g ^ t`.

A value `x` with randomness `r` is committed to by `g ^ (r + t * x)`, and the first
message of its knowledge proof is `g ^ (k₁ + t * k₂)`.  Each of the two is refused if its
logarithm is zero, and nothing else is.
-/

namespace TwoParty

open LawfulGroup

namespace Pedersen

/-! ## Numbers and stores -/

/-- Up to the last word a number is told by how many there were before it. -/
theorem eq_ofNat_iff {id : CommitmentId} {n : Nat} (h : n < 2 ^ 64) :
    id = UInt64.ofNat n ↔ n = id.toNat := by
  rw [← UInt64.toNat_inj, UInt64.toNat_ofNat_of_lt' h, eq_comm]

namespace Store

variable {α : Type}

theorem find?_insert_self (s : Store α) (id : CommitmentId) (a : α) :
    (s.insert id a).find? id = some a := by
  rw [find?_insert, if_pos rfl]

/-- Nothing else is left once the only entry is removed. -/
theorem erase_insert_empty (id : CommitmentId) (a : α) :
    ((empty : Store α).insert id a).erase id = empty := by
  simp [insert, erase, empty]

/-- Nothing is removed under a number without an entry. -/
theorem erase_eq_self {s : Store α} {id : CommitmentId} (h : s.find? id = none) :
    s.erase id = s := by
  obtain ⟨entries⟩ := s
  simp only [find?, Option.map_eq_none_iff, List.find?_eq_none, decide_eq_true_eq] at h
  simpa [erase, List.filter_eq_self] using h

end Store

variable {G : DlogGroup} {id : CommitmentId}

/-- The committer can open what it kept last. -/
theorem Committer.opening_keep (c : Committer G) (o : Opening G) :
    (c.keep id o).opening id = .ok o := by
  rw [opening, keep, Store.find?_insert_self]

theorem Verifier.commitment_insert (v : Verifier G) (c : G.Element) :
    Verifier.commitment { v with commitments := v.commitments.insert id c } id = .ok c := by
  rw [Verifier.commitment, Store.find?_insert_self]

variable [LawfulGroup G] {draw : Challenger} {t : ZMod G.order} {r x k k₁ k₂ : G.Exponent}

def honestOpening (t : ZMod G.order) (x r : G.Exponent) : Opening G :=
  ⟨Sigma.commit G (exp t) r x, x, r⟩

/-! ## Setting up -/

/-- Any base but the generator and the identity will do. -/
theorem ofSetup_encode (ht : t ≠ 0) :
    Committer.ofSetup G ⟨G.encodeElement (exp t)⟩ =
      if t = 1 then .error (.cheatAttempt .baseIsGenerator) else .ok ⟨exp t, 0, .empty⟩ := by
  simp only [Committer.ofSetup, member_encode_of_ne "h" ht, ← exp_one, exp_inj, bind, Except.bind]
  split
  · rfl
  · rfl

/-! ## The commitment -/

/-- An honest commitment is accepted under a free number, unless it is the identity. -/
theorem accept_commitMessage {v : Verifier G} (hv : v.commitments.contains id = false) :
    v.accept (commitMessage id (honestOpening t x r)) =
      if residue r + t * residue x = 0 then
        .error (.cheatAttempt (.outsideGroup "commitment" G.name))
      else .ok { v with commitments := v.commitments.insert id (Sigma.commit G (exp t) r x) } := by
  simp only [Verifier.accept, commitMessage, honestOpening, hv, Sigma.commit_exp, member_encode,
    Bool.false_eq_true, if_false]
  by_cases hzero : residue r + t * residue x = 0
  · rw [if_pos hzero, if_pos hzero]
    rfl
  · rw [if_neg hzero, if_neg hzero]
    rfl

/-! ## The proofs -/

/-- An honest knowledge proof is accepted, unless its announcement is the identity. -/
theorem verifyOpening_knowledgeMessage :
    (Sigma.verifyOpening G draw (knowledgeTranscript id) (exp t) (Sigma.commit G (exp t) r x)
        (knowledgeMessage draw (exp t) id (honestOpening t x r) k₁ k₂).proof).1 =
      decide (residue k₁ + t * residue k₂ ≠ 0) :=
  Sigma.verifyOpening_of_commitment_eq draw (knowledgeTranscript id) r x k₁ k₂

/-- Without its value a commitment is the power of the generator by the randomness. -/
theorem stripValue_commit :
    stripValue G (exp t) (Sigma.commit G (exp t) r x) x = exp (residue r) := by
  have hlog : residue r + t * residue x + t * -residue x = residue r := by ring
  rw [stripValue, Sigma.commit_exp, neg_eq, pow_exp, residue_scalar, mul_exp, hlog]

/-- The value comes out as it was committed. -/
theorem revealed_decommitMessage (hx : scalar (residue x) = x) (hk : residue k ≠ 0) :
    Verifier.revealed G draw (exp t) (Sigma.commit G (exp t) r x) id
      (decommitMessage draw (exp t) id (honestOpening t x r) k) = some x := by
  have hdecode : G.exponent (G.encodeExponent x) = .ok x := by
    rw [← hx]
    exact exponent_encode (residue x)
  have hproof := @Sigma.verifyDlog_of_image_eq G _ draw (valueTranscript id) 1 r k one_ne_zero hk
  rw [one_mul, exp_one] at hproof
  simp only [Verifier.revealed, decommitMessage, honestOpening, hdecode, stripValue_commit, hproof,
    if_true]

end Pedersen

end TwoParty
