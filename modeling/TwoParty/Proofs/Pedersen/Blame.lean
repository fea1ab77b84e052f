import TwoParty.Proofs.Group.Member
import TwoParty.Proofs.Pedersen.Held
import TwoParty.Proofs.Solo.Blame

/-!
# TwoParty.Proofs.Pedersen.Blame

Calls of the commitment scheme that are not to blame for their failures.

A call about a number fails through its caller's fault when nothing is stored under the number,
and in no other way.  So the triples ask for an entry, and those of `commit` and
`receiveCommitment` promise one under the number that they return.
-/

namespace TwoParty

open Party

namespace Pedersen

variable {G : DlogGroup} {draw : Challenger} {id : CommitmentId}

/-! ## The committer -/

namespace Committer

variable {c : Committer G}

/-- A refused base is the peer's doing. -/
theorem isExternal_of_ofSetup {m : SetupMessage} {err : Error} (h : ofSetup G m = .error err) :
    err.IsExternal := by
  unfold ofSetup at h
  obtain ⟨x, hx⟩ | ⟨c, hc⟩ := G.member_cases "h" m.h
  · rw [hx.member_eq] at h
    by_cases hbase : x = G.generator
    · simp only [bind, Except.bind, if_pos hbase] at h
      cases h
      exact Error.isExternal_cheatAttempt _
    · simp only [bind, Except.bind, if_neg hbase] at h
      cases h
  · rw [hc.member_eq] at h
    cases h
    exact Error.isExternal_cheatAttempt _

/-- The set-up of the committer blames its peer, never its caller. -/
theorem blameless_setup {σ : Type} {s : σ} :
    Blameless (setup : ExceptT Error (Party G σ) (Committer G)) s fun _ s' => s' = s := by
  refine (blameless_receiveMessage _).bind fun m s' hs => ?_
  subst hs
  refine blameless_except ?_
  cases hsetup : ofSetup G m with
  | ok c => rfl
  | error err => exact isExternal_of_ofSetup hsetup

/-- A commitment is blameless, and its number is in the store afterwards. -/
theorem blameless_commit (x : G.Exponent) :
    Blameless (commit x) c fun id c' => ∃ o, c'.openings.find? id = some o := by
  intro r es v c' r' hrun hmemory
  have hacts : Acts (fun _ _ n => List.replicate n 0) c r ⟨.commit x, es, v⟩ c' r' :=
    acts_commit hrun
  cases hacts with
  | committed answer hr =>
    -- The opening was stored before the send, so it is there however the send ends.
    have hsent := hmemory _ (List.mem_singleton_self _)
    exact (allowed_of_sent hsent ⟨_, Store.find?_insert_self _ _ _⟩).map

/-- A knowledge proof for a number in the store is blameless. -/
theorem blameless_proveKnowledge {o : Opening G} (h : c.openings.find? id = some o) :
    Blameless (proveKnowledge draw id) c fun _ c' => c' = c := by
  intro r es v c' r' hrun hmemory
  cases acts_knowledge hrun with
  | strayKnowledge hstray => simp [h] at hstray
  | proved _ _ => exact allowed_of_sent (hmemory _ (List.mem_singleton_self _)) rfl

/-- So is an opening, and the number is gone afterwards. -/
theorem blameless_proveValue {o : Opening G} (h : c.openings.find? id = some o) :
    Blameless (proveValue draw id) c fun _ c' => c' = c.forget id := by
  intro r es v c' r' hrun hmemory
  cases acts_value hrun with
  | strayValue hstray => simp [h] at hstray
  | revealed _ _ => exact allowed_of_sent (hmemory _ (List.mem_singleton_self _)) rfl

end Committer

/-! ## The verifier -/

namespace Verifier

variable {v : Verifier G}

/-- A refused commitment is the peer's doing. -/
theorem isExternal_of_accept {m : CommitMessage} {err : Error} (h : v.accept m = .error err) :
    err.IsExternal := by
  unfold accept at h
  by_cases hcontains : v.commitments.contains m.id
  · rw [if_pos hcontains] at h
    cases h
    exact Error.isExternal_cheatAttempt _
  · rw [if_neg hcontains] at h
    obtain ⟨x, hx⟩ | ⟨c, hc⟩ := G.member_cases "commitment" m.commitment
    · rw [hx.member_eq] at h
      cases h
    · rw [hc.member_eq] at h
      cases h
      exact Error.isExternal_cheatAttempt _

/-- The set-up of the verifier is blameless. -/
theorem blameless_setup {σ : Type} {s : σ} :
    Blameless (setup : ExceptT Error (Party G σ) (Verifier G)) s fun _ s' => s' = s := by
  refine blameless_drawExponent.bind fun t s' hs => ?_
  subst hs
  refine (blameless_sendMessage _ _).bind fun _ s' hs => ?_
  subst hs
  exact blameless_except rfl

/-- Hearing a commitment is blameless, and its number is in the store afterwards. -/
theorem blameless_receiveCommitment :
    Blameless receiveCommitment v fun id v' => ∃ c, v'.commitments.find? id = some c := by
  intro r es a v' r' hrun hmemory
  have hacts : Acts (fun _ _ n => List.replicate n 0) v ⟨.receive, es, a⟩ v' :=
    (acts_receive hrun).2
  cases hacts with
  | unheard herr => exact isExternal_of_understood herr (hmemory _ (List.mem_singleton_self _))
  | refused _ haccept => exact isExternal_of_accept haccept
  | accepted _ haccept =>
    obtain ⟨-, c, -, rfl⟩ := accept_eq_ok_iff.1 haccept
    exact ⟨c, Store.find?_insert_self _ _ _⟩

/-- Checking a knowledge proof for a number in the store is blameless. -/
theorem blameless_verifyKnowledge {c : G.Element} (h : v.commitments.find? id = some c) :
    Blameless (verifyKnowledge draw id) v fun _ v' => v' = v := by
  intro r es a v' r' hrun hmemory
  cases (acts_knowledge hrun).2 with
  | strayKnowledge hstray => simp [h] at hstray
  | unheardKnowledge _ herr =>
    exact isExternal_of_understood herr (hmemory _ (List.mem_singleton_self _))
  | foreignKnowledge => exact Error.isExternal_protocolFormat _
  | judged => rfl

/-- So is checking an opening, and the number is gone afterwards. -/
theorem blameless_verifyValue {c : G.Element} (h : v.commitments.find? id = some c) :
    Blameless (verifyValue draw id) v fun _ v' => v' = v.forget id := by
  intro r es a v' r' hrun hmemory
  cases (acts_value hrun).2 with
  | strayValue hstray => simp [h] at hstray
  | unheardValue _ herr =>
    exact isExternal_of_understood herr (hmemory _ (List.mem_singleton_self _))
  | foreignValue => exact Error.isExternal_protocolFormat _
  | opened => rfl

end Verifier

end Pedersen

end TwoParty
