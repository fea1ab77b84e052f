import TwoParty.Proofs.Pedersen.Held

/-!
# TwoParty.Proofs.Pedersen.Reuse

When the verifier accepts a number that it has seen before.

A commitment is refused for its number as long as the earlier one under it is held
(`receive_iff_held`).  Asking for the value ends that, so a commitment, its proofs and its
opening can be heard a second time: `RefusesReuse` fails.
-/

namespace TwoParty

open Party Service

namespace Pedersen

namespace Verifier

variable {G : DlogGroup} {draw : Challenger} {t : G.Exponent} {v v' : Verifier G}
  {r₀ r r' : ByteSource} {log : List (service G draw).Entry} {data : Bytes} {m : CommitMessage}
  {answer : Except Error CommitmentId}

/-- A number in the store is refused, whatever the commitment. -/
theorem accept_of_find?_eq_some {c : G.Element} (h : v.commitments.find? m.id = some c) :
    v.accept m = .error (.cheatAttempt (.reusedCommitment m.id)) := by
  unfold accept Store.contains
  rw [h]
  rfl

/-- A number that is not in the store is not refused for its use. -/
theorem accept_ne_reused (h : v.commitments.find? m.id = none) :
    v.accept m ≠ .error (.cheatAttempt (.reusedCommitment m.id)) := by
  unfold accept Store.contains DlogGroup.member
  rw [h]
  cases G.decodeElement m.commitment with
  | error reason => exact nofun
  | ok e => cases hmember : G.isMember e <;> simp [hmember, bind, Except.bind, pure, Except.pure]

/-- A commitment that was heard is answered as the store has it. -/
theorem Acts.of_heard (h : Acts draw v ⟨.receive, [.received (some (.ok data))], answer⟩ v')
    (hread : Message.read data = .ok m) :
    (∃ err, v.accept m = .error err ∧ answer = .error err ∧ v' = v) ∨
      (v.accept m = .ok v' ∧ answer = .ok m.id) := by
  have hm := understood_ok "receiving commitment" hread
  cases h with
  | unheard herror => cases hm.symm.trans herror
  | refused hm' haccept =>
    cases hm.symm.trans hm'
    exact .inl ⟨_, haccept, rfl, rfl⟩
  | accepted hm' haccept =>
    cases hm.symm.trans hm'
    exact .inr ⟨haccept, rfl⟩

/-- A number is refused exactly as long as a commitment is held under it. -/
theorem receive_iff_held (h : (service G draw).Leads (ofTrapdoor G t) r₀ log v r)
    (hread : Message.read data = .ok m)
    (hentry : (⟨.receive, [.received (some (.ok data))], answer⟩ :
      (service G draw).Entry).Happens v r v' r') :
    (answer = .error (.cheatAttempt (.reusedCommitment m.id)) ↔ ∃ c, Held log m.id c) ∧
      (answer = .ok m.id ↔
        (∀ c, ¬ Held log m.id c) ∧ ∃ c, G.member "commitment" m.commitment = .ok c) ∧
      (answer ≠ .ok m.id → v' = v) := by
  simp only [← find?_iff_held h]
  rcases (acts_of_happens hentry).2.of_heard hread with
    ⟨err, haccept, rfl, rfl⟩ | ⟨haccept, rfl⟩
  · refine ⟨?_, ?_, fun _ => rfl⟩
    · constructor
      · rintro herr
        cases herr
        by_contra hnone
        rw [not_exists, ← Option.eq_none_iff_forall_ne_some] at hnone
        exact accept_ne_reused hnone haccept
      · rintro ⟨c, hfind⟩
        exact congrArg _ (Except.error.inj (haccept.symm.trans (accept_of_find?_eq_some hfind)))
    · refine iff_of_false nofun ?_
      rintro ⟨hnone, c, hmember⟩
      rw [← Option.eq_none_iff_forall_ne_some] at hnone
      cases haccept.symm.trans (accept_eq_ok_iff.2 ⟨hnone, c, hmember, rfl⟩)
  · obtain ⟨hfresh, c, hmember, -⟩ := accept_eq_ok_iff.1 haccept
    refine ⟨iff_of_false nofun ?_, iff_of_true rfl ⟨?_, c, hmember⟩, fun hne => absurd rfl hne⟩
    · rintro ⟨c', hfind⟩
      cases hfresh.symm.trans hfind
    · exact Option.eq_none_iff_forall_ne_some.1 hfresh

open SafePrime in
/-- Modulo 23, nothing is held after an opening. -/
theorem receive_iff_held_small :
    ∃ (log : List (service small.group (repeating 0)).Entry) (v : Verifier small.group),
      (service small.group (repeating 0)).Leads smallVerifier (threes 0) log v (threes 0) ∧
      log.length = 2 ∧ smallReceive.Happens v (threes 0) smallHolder (threes 0) ∧
      (∀ c, ¬ Held log 0 c) ∧
      ∃ c, small.group.member "commitment" (commitMessage 0 smallOpening).commitment = .ok c := by
  have hlog := (Leads.nil.concat (happens_smallReceive (threes 0))).concat
    (happens_smallValue (threes 0))
  have hentry := happens_smallReceive (threes 0)
  obtain ⟨-, haccepted, -⟩ := receive_iff_held hlog (LawfulMessage.read_text _) hentry
  exact ⟨_, _, hlog, rfl, hentry, haccepted.1 rfl⟩

/-- Once a number was accepted, every commitment under it is refused and changes nothing. -/
def RefusesReuse (G : DlogGroup) (draw : Challenger) : Prop :=
  ∀ {t : G.Exponent} {log : List (service G draw).Entry} {v v' : Verifier G}
    {r₀ r r' : ByteSource} {data : Bytes} {m : CommitMessage} {answer : Except Error CommitmentId},
    (service G draw).Leads (ofTrapdoor G t) r₀ log v r →
    (∃ entry ∈ log, ∃ c, Accepted m.id c entry) → Message.read data = .ok m →
    (⟨.receive, [.received (some (.ok data))], answer⟩ : (service G draw).Entry).Happens v r v' r' →
    answer = .error (.cheatAttempt (.reusedCommitment m.id)) ∧ v' = v

open SafePrime in
/-- Modulo 23, a commitment that was opened is accepted a second time. -/
theorem not_refusesReuse_small : ¬ RefusesReuse small.group (repeating 0) := by
  intro h
  have hlog := (Leads.nil.concat (happens_smallReceive (threes 0))).concat
    (happens_smallValue (threes 0))
  have haccepted : ∃ c, Accepted 0 c smallReceive :=
    (careful_of_happens (happens_smallReceive (threes 0))).accepted rfl
  have hread : Message.read (LawfulMessage.text (commitMessage 0 smallOpening)) =
      .ok (commitMessage 0 smallOpening) := LawfulMessage.read_text _
  obtain ⟨hanswer, -⟩ := h hlog ⟨_, by simp, haccepted⟩ hread (happens_smallReceive (threes 0))
  cases hanswer

end Verifier

end Pedersen

end TwoParty
