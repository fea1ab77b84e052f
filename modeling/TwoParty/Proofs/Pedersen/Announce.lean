import TwoParty.Proofs.Pedersen.Honest
import TwoParty.Proofs.Solo.Announce

/-!
# TwoParty.Proofs.Pedersen.Announce

What the committer says, whatever the transport answers.

Each operation either finds no exponent in its randomness and says nothing, or it says the
one message that its draws determine.  Nothing is assumed about the group.
-/

namespace TwoParty

open Party

namespace Pedersen

variable {G : DlogGroup} {draw : Challenger} {id : CommitmentId} {random : ByteSource}

/-! ## Proofs -/

/-- A proof whose nonce is out of reach is never made. -/
theorem announces_proveDlog {σ : Type} {store : σ} {tr : Transcript} {base image : G.Element}
    {w : G.Exponent} (h : G.sample random = none) :
    Announces (liftM (Sigma.proveDlog G draw tr base image w : Party G σ _) :
      ExceptT Error (Party G σ) _) store random [] none := by
  intro es e hrun
  cases hrun with
  | exponent hx => cases h.symm.trans hx
  | starved => exact .inl ⟨rfl, rfl⟩

/-- Nor is a proof of an opening if one of its two nonces is. -/
theorem announces_proveOpening {σ : Type} {store : σ} {tr : Transcript} {h c : G.Element}
    {r x : G.Exponent} (hstarved : ∀ k₁ k₂ random', ¬ G.Drawn random [k₁, k₂] random') :
    Announces (liftM (Sigma.proveOpening G draw tr h c r x : Party G σ _) :
      ExceptT Error (Party G σ) _) store random [] none := by
  intro es e hrun
  cases hrun with
  | starved => exact .inl ⟨rfl, rfl⟩
  | exponent hk₁ hrun =>
    cases hrun with
    | starved => exact .inl ⟨rfl, rfl⟩
    | exponent hk₂ => exact absurd ⟨_, hk₁, _, hk₂, rfl⟩ (hstarved _ _ _)

/-! ## Operations -/

namespace Committer

variable {c : Committer G} {o : Opening G}

/-- A commitment is one message, unless its randomness is out of reach. -/
theorem announces_commit (c : Committer G) (value : G.Exponent) (random : ByteSource) :
    Announces (commit value) c random [] none ∨
      ∃ r random', G.sample random = some (r, random') ∧
        Announces (commit value) c random
          [LawfulMessage.text (commitMessage c.nextId (c.openingWith value r))]
          (some (.ok c.nextId, c.countId.keep c.nextId (c.openingWith value r), random')) := by
  cases h : G.sample random with
  | none =>
    left
    refine .bind_quiet says_get ?_
    refine .bind_quiet (says_set _) ?_
    exact .bind_none (announces_starved h)
  | some drawn =>
    obtain ⟨r, random'⟩ := drawn
    refine .inr ⟨r, random', rfl, ?_⟩
    refine .bind_quiet says_get ?_
    refine .bind_quiet (says_set _) ?_
    refine .bind_quiet (says_drawExponent h) ?_
    refine .bind_quiet (says_set _) ?_
    exact .bind (announces_sendMessage _ (commitMessage c.nextId (c.openingWith value r)))
      (.quiet (says_pure _))

/-- A knowledge proof is one message, unless a nonce is out of reach. -/
theorem announces_proveKnowledge (draw : Challenger) (hopen : c.opening id = .ok o)
    (random : ByteSource) :
    Announces (proveKnowledge draw id) c random [] none ∨
      ∃ k₁ k₂ random', G.Drawn random [k₁, k₂] random' ∧
        Announces (proveKnowledge draw id) c random
          [LawfulMessage.text (knowledgeMessage draw c.h id o k₁ k₂)]
          (some (.ok (), c, random')) := by
  by_cases h : ∃ k₁ k₂ random', G.Drawn random [k₁, k₂] random'
  · obtain ⟨k₁, k₂, random', h⟩ := h
    refine .inr ⟨k₁, k₂, random', h, ?_⟩
    refine .bind_quiet says_get ?_
    refine .bind_quiet (says_except hopen) ?_
    refine .bind_quiet (says_proveOpening h) ?_
    exact announces_sendMessage _ (knowledgeMessage draw c.h id o k₁ k₂)
  · left
    refine .bind_quiet says_get ?_
    refine .bind_quiet (says_except hopen) ?_
    refine .bind_none (announces_proveOpening ?_)
    intro k₁ k₂ random' hdrawn
    exact h ⟨k₁, k₂, random', hdrawn⟩

/-- An opening is one message, unless its nonce is out of reach. -/
theorem announces_proveValue (draw : Challenger) (hopen : c.opening id = .ok o)
    (random : ByteSource) :
    Announces (proveValue draw id) c random [] none ∨
      ∃ k random', G.sample random = some (k, random') ∧
        Announces (proveValue draw id) c random
          [LawfulMessage.text (decommitMessage draw c.h id o k)]
          (some (.ok (), c.forget id, random')) := by
  cases h : G.sample random with
  | none =>
    left
    refine .bind_quiet says_get ?_
    refine .bind_quiet (says_except hopen) ?_
    refine .bind_quiet (says_set _) ?_
    exact .bind_none (announces_proveDlog h)
  | some drawn =>
    obtain ⟨k, random'⟩ := drawn
    refine .inr ⟨k, random', rfl, ?_⟩
    refine .bind_quiet says_get ?_
    refine .bind_quiet (says_except hopen) ?_
    refine .bind_quiet (says_set _) ?_
    refine .bind_quiet (says_proveDlog h) ?_
    exact announces_sendMessage _ (decommitMessage draw c.h id o k)

end Committer

end Pedersen

end TwoParty
