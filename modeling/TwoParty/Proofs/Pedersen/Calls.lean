import TwoParty.Proofs.Pedersen.Says
import TwoParty.Proofs.Solo.Service

/-!
# TwoParty.Proofs.Pedersen.Calls

What one call of the commitment scheme can do, whatever the transport answers.

`Committer.Acts` and `Verifier.Acts` have one case for each way in which a call can end,
with what the transport saw and with the state that is left.  Every call that comes back is
one of them (`acts_of_happens`), so a statement about all calls is a case analysis.
Nothing is assumed about the group.
-/

namespace TwoParty

open Party Service

namespace Pedersen

variable {G : DlogGroup} {draw : Challenger} {r r' : ByteSource}

/-! ## Proofs -/

section
variable {σ β : Type} {s s' : σ} {es : List Event} {tr : Transcript} {a : Except Error β}

/-- What comes of proving knowledge of a logarithm, in a run that ends. -/
theorem runs_proveDlog_bind {base image : G.Element} {w : G.Exponent}
    {f : DlogProof × Transcript → ExceptT Error (Party G σ) β} :
    (liftM (Sigma.proveDlog G draw tr base image w : Party G σ _) >>= f :
      ExceptT Error (Party G σ) β).run.Runs s r es (some (a, s', r')) ↔
      ∃ k r₁, G.sample r = some (k, r₁) ∧
        (f (Sigma.dlogProof G draw tr base image w k)).run.Runs s r₁ es (some (a, s', r')) := by
  constructor
  · intro h
    cases h with
    | exponent hk h => exact ⟨_, _, hk, h⟩
  · rintro ⟨k, r₁, hk, h⟩
    exact .exponent hk h

/-- What comes of proving knowledge of an opening, in a run that ends. -/
theorem runs_proveOpening_bind {h c : G.Element} {w x : G.Exponent}
    {f : OpeningProof × Transcript → ExceptT Error (Party G σ) β} :
    (liftM (Sigma.proveOpening G draw tr h c w x : Party G σ _) >>= f :
      ExceptT Error (Party G σ) β).run.Runs s r es (some (a, s', r')) ↔
      ∃ k₁ k₂ r₁, G.Drawn r [k₁, k₂] r₁ ∧
        (f (Sigma.openingProof G draw tr h c w x k₁ k₂)).run.Runs s r₁ es (some (a, s', r')) := by
  constructor
  · intro hrun
    cases hrun with
    | exponent hk₁ hrun =>
      cases hrun with
      | exponent hk₂ hrun => exact ⟨_, _, _, ⟨_, hk₁, _, hk₂, rfl⟩, hrun⟩
  · rintro ⟨k₁, k₂, r₁, ⟨u, hk₁, _, hk₂, rfl⟩, hrun⟩
    exact .exponent hk₁ (.exponent hk₂ hrun)

end

/-! ## The committer -/

namespace Committer

inductive Call (G : DlogGroup) where
  | commit (value : G.Exponent)
  | knowledge (id : CommitmentId)
  | value (id : CommitmentId)

/-- The committing side, to be called in any order. -/
abbrev service (G : DlogGroup) (draw : Challenger) : Service G (Committer G) where
  Call := Call G
  Answer
    | .commit _ => CommitmentId
    | .knowledge _ => Unit
    | .value _ => Unit
  perform
    | .commit value => commit value
    | .knowledge id => proveKnowledge draw id
    | .value id => proveValue draw id

/-- What a call does in a state of the committer and its randomness. -/
inductive Acts (draw : Challenger) (c : Committer G) (r : ByteSource) :
    (service G draw).Entry → Committer G → ByteSource → Prop where
  | committed {x k r'} (answer : Except Error Unit) (hr : G.sample r = some (k, r')) :
    Acts draw c r
      ⟨.commit x, [.sent (LawfulMessage.text (commitMessage c.nextId (c.openingWith x k)))
        (some answer)], (answer.mapError (·.during "sending commitment")).map fun _ => c.nextId⟩
      (c.countId.keep c.nextId (c.openingWith x k)) r'
  | strayKnowledge {id} (h : c.openings.find? id = none) :
    Acts draw c r ⟨.knowledge id, [], .error (.invalidInput (.unknownCommitment id))⟩ c r
  | proved {id o k₁ k₂ r' answer} (h : c.openings.find? id = some o)
    (hk : G.Drawn r [k₁, k₂] r') :
    Acts draw c r
      ⟨.knowledge id, [.sent (LawfulMessage.text (knowledgeMessage draw c.h id o k₁ k₂))
        (some answer)], answer.mapError (·.during "sending knowledge proof")⟩ c r'
  | strayValue {id} (h : c.openings.find? id = none) :
    Acts draw c r ⟨.value id, [], .error (.invalidInput (.unknownCommitment id))⟩ c r
  | revealed {id o k r' answer} (h : c.openings.find? id = some o)
    (hk : G.sample r = some (k, r')) :
    Acts draw c r
      ⟨.value id, [.sent (LawfulMessage.text (decommitMessage draw c.h id o k)) (some answer)],
        answer.mapError (·.during "sending decommitment")⟩ (c.forget id) r'

variable {c c' : Committer G} {id : CommitmentId}

/-- The committer can open what it stores. -/
theorem opening_eq_ok_iff {o : Opening G} :
    c.opening id = .ok o ↔ c.openings.find? id = some o := by
  unfold opening
  split <;> simp_all

theorem opening_eq_error (h : c.openings.find? id = none) :
    c.opening id = .error (.invalidInput (.unknownCommitment id)) := by
  rw [opening, h]

/-- A commitment that returns has drawn its randomness and tried its message. -/
theorem acts_commit {x : G.Exponent} {during : List Event} {answer : Except Error CommitmentId}
    (h : (commit x).run.Runs c r during (some (answer, c', r'))) :
    Acts draw c r ⟨.commit x, during, answer⟩ c' r' := by
  rw [commit, runs_get_bind, runs_set_bind, runs_drawExponent_bind] at h
  rcases h with ⟨-, -, h⟩ | ⟨k, r₁, hk, h⟩
  · cases h
  rw [runs_set_bind, runs_bind_except] at h
  -- The answer to the send is told by the ending; either way the opening was kept before.
  rcases h with ⟨h, -⟩ | ⟨err, c₁, r₂, h, hsend⟩ | ⟨es, es', u, c₁, r₂, rfl, hsend, h⟩
  · cases h
  · cases h
    obtain ⟨reply, rfl, hreply, rfl, rfl⟩ := runs_sendMessage.1 hsend
    cases reply with
    | ok _ => cases hreply
    | error e =>
      cases hreply
      exact .committed (.error e) hk
  · obtain ⟨rfl, h⟩ := runs_done.1 h
    cases h
    obtain ⟨reply, rfl, hreply, rfl, rfl⟩ := runs_sendMessage.1 hsend
    cases reply with
    | ok _ => exact .committed (.ok ()) hk
    | error e => cases hreply

/-- A knowledge proof that returns was refused, or has tried its message. -/
theorem acts_knowledge {during : List Event} {answer : Except Error Unit}
    (h : (proveKnowledge draw id).run.Runs c r during (some (answer, c', r'))) :
    Acts draw c r ⟨.knowledge id, during, answer⟩ c' r' := by
  rw [proveKnowledge, runs_get_bind] at h
  cases hfind : c.openings.find? id with
  | none =>
    rw [opening_eq_error hfind, runs_error_bind] at h
    obtain ⟨rfl, h⟩ := h
    cases h
    exact .strayKnowledge hfind
  | some o =>
    rw [opening_eq_ok_iff.2 hfind, runs_ok_bind, runs_proveOpening_bind] at h
    obtain ⟨k₁, k₂, r₁, hk, h⟩ := h
    obtain ⟨reply, rfl, rfl, rfl, rfl⟩ := runs_sendMessage.1 h
    exact .proved hfind hk

/-- An opening that returns was refused, or has tried its message and forgotten the number. -/
theorem acts_value {during : List Event} {answer : Except Error Unit}
    (h : (proveValue draw id).run.Runs c r during (some (answer, c', r'))) :
    Acts draw c r ⟨.value id, during, answer⟩ c' r' := by
  rw [proveValue, runs_get_bind] at h
  cases hfind : c.openings.find? id with
  | none =>
    rw [opening_eq_error hfind, runs_error_bind] at h
    obtain ⟨rfl, h⟩ := h
    cases h
    exact .strayValue hfind
  | some o =>
    rw [opening_eq_ok_iff.2 hfind, runs_ok_bind, runs_set_bind, runs_proveDlog_bind] at h
    obtain ⟨k, r₁, hk, h⟩ := h
    obtain ⟨reply, rfl, rfl, rfl, rfl⟩ := runs_sendMessage.1 h
    exact .revealed hfind hk

/-- Every call of the committer that returns is one of these. -/
theorem acts_of_happens {entry : (service G draw).Entry} (h : entry.Happens c r c' r') :
    Acts draw c r entry c' r' := by
  obtain ⟨call, during, answer⟩ := entry
  cases call with
  | commit x => exact acts_commit h
  | knowledge id => exact acts_knowledge h
  | value id => exact acts_value h

end Committer

/-! ## The verifier -/

namespace Verifier

inductive Call where
  | receive
  | knowledge (id : CommitmentId)
  | value (id : CommitmentId)

/-- The verifying side, to be called in any order. -/
abbrev service (G : DlogGroup) (draw : Challenger) : Service G (Verifier G) where
  Call := Call
  Answer
    | .receive => CommitmentId
    | .knowledge _ => Bool
    | .value _ => Option G.Exponent
  perform
    | .receive => receiveCommitment
    | .knowledge id => verifyKnowledge draw id
    | .value id => verifyValue draw id

/-- What a call does in a state of the verifier. -/
inductive Acts (draw : Challenger) (v : Verifier G) :
    (service G draw).Entry → Verifier G → Prop where
  | unheard {answer err}
    (h : understood (α := CommitMessage) "receiving commitment" answer = .error err) :
    Acts draw v ⟨.receive, [.received (some answer)], .error err⟩ v
  | refused {answer m err} (h : understood "receiving commitment" answer = .ok m)
    (haccept : v.accept m = .error err) :
    Acts draw v ⟨.receive, [.received (some answer)], .error err⟩ v
  | accepted {answer m v'} (h : understood "receiving commitment" answer = .ok m)
    (haccept : v.accept m = .ok v') :
    Acts draw v ⟨.receive, [.received (some answer)], .ok m.id⟩ v'
  | strayKnowledge {id} (hfind : v.commitments.find? id = none) :
    Acts draw v ⟨.knowledge id, [], .error (.invalidInput (.unknownCommitment id))⟩ v
  | unheardKnowledge {id c answer err} (hfind : v.commitments.find? id = some c)
    (h : understood (α := KnowledgeMessage) "receiving knowledge proof" answer = .error err) :
    Acts draw v ⟨.knowledge id, [.received (some answer)], .error err⟩ v
  | foreignKnowledge {id c answer} {m : KnowledgeMessage} (hfind : v.commitments.find? id = some c)
    (h : understood "receiving knowledge proof" answer = .ok m) (hid : m.id ≠ id) :
    Acts draw v ⟨.knowledge id, [.received (some answer)],
      .error (.protocolFormat (.wrongCommitment m.id id))⟩ v
  | judged {id c answer} {m : KnowledgeMessage} (hfind : v.commitments.find? id = some c)
    (h : understood "receiving knowledge proof" answer = .ok m) (hid : m.id = id) :
    Acts draw v ⟨.knowledge id, [.received (some answer)],
      .ok (Sigma.verifyOpening G draw (knowledgeTranscript id) v.h c m.proof).1⟩ v
  | strayValue {id} (hfind : v.commitments.find? id = none) :
    Acts draw v ⟨.value id, [], .error (.invalidInput (.unknownCommitment id))⟩ v
  | unheardValue {id c answer err} (hfind : v.commitments.find? id = some c)
    (h : understood (α := DecommitMessage) "receiving decommitment" answer = .error err) :
    Acts draw v ⟨.value id, [.received (some answer)], .error err⟩ (v.forget id)
  | foreignValue {id c answer} {m : DecommitMessage} (hfind : v.commitments.find? id = some c)
    (h : understood "receiving decommitment" answer = .ok m) (hid : m.id ≠ id) :
    Acts draw v ⟨.value id, [.received (some answer)],
      .error (.protocolFormat (.wrongCommitment m.id id))⟩ (v.forget id)
  | opened {id c answer} {m : DecommitMessage} (hfind : v.commitments.find? id = some c)
    (h : understood "receiving decommitment" answer = .ok m) (hid : m.id = id) :
    Acts draw v ⟨.value id, [.received (some answer)], .ok (revealed G draw v.h c id m)⟩
      (v.forget id)

variable {v v' : Verifier G} {id : CommitmentId}

theorem commitment_eq_ok_iff {c : G.Element} :
    v.commitment id = .ok c ↔ v.commitments.find? id = some c := by
  unfold commitment
  split <;> simp_all

theorem commitment_eq_error (h : v.commitments.find? id = none) :
    v.commitment id = .error (.invalidInput (.unknownCommitment id)) := by
  rw [commitment, h]

/-- Hearing a commitment takes no randomness and ends in one of three ways. -/
theorem acts_receive {during : List Event} {answer : Except Error CommitmentId}
    (h : receiveCommitment.run.Runs v r during (some (answer, v', r'))) :
    r' = r ∧ Acts draw v ⟨.receive, during, answer⟩ v' := by
  rw [receiveCommitment, runs_receiveMessage_bind] at h
  rcases h with ⟨a, err, herr, rfl, rfl, rfl, rfl⟩ | ⟨a, m, es, hm, rfl, h⟩
  · exact ⟨rfl, .unheard herr⟩
  rw [runs_get_bind] at h
  cases haccept : v.accept m with
  | error err =>
    rw [haccept, runs_error_bind] at h
    obtain ⟨rfl, h⟩ := h
    cases h
    exact ⟨rfl, .refused hm haccept⟩
  | ok v₁ =>
    rw [haccept, runs_ok_bind, runs_set_bind] at h
    obtain ⟨rfl, h⟩ := runs_done.1 h
    cases h
    exact ⟨rfl, .accepted hm haccept⟩

/-- Checking a knowledge proof takes no randomness and changes nothing. -/
theorem acts_knowledge {during : List Event} {answer : Except Error Bool}
    (h : (verifyKnowledge draw id).run.Runs v r during (some (answer, v', r'))) :
    r' = r ∧ Acts draw v ⟨.knowledge id, during, answer⟩ v' := by
  rw [verifyKnowledge, runs_get_bind] at h
  cases hfind : v.commitments.find? id with
  | none =>
    rw [commitment_eq_error hfind, runs_error_bind] at h
    obtain ⟨rfl, h⟩ := h
    cases h
    exact ⟨rfl, .strayKnowledge hfind⟩
  | some c =>
    rw [commitment_eq_ok_iff.2 hfind, runs_ok_bind, runs_receiveMessage_bind] at h
    rcases h with ⟨a, err, herr, rfl, rfl, rfl, rfl⟩ | ⟨a, m, es, hm, rfl, h⟩
    · exact ⟨rfl, .unheardKnowledge hfind herr⟩
    by_cases hid : m.id = id
    · rw [checkId, if_pos hid.symm, runs_ok_bind] at h
      obtain ⟨rfl, h⟩ := runs_done.1 h
      cases h
      exact ⟨rfl, .judged hfind hm hid⟩
    · rw [checkId, if_neg (Ne.symm hid), runs_error_bind] at h
      obtain ⟨rfl, h⟩ := h
      cases h
      exact ⟨rfl, .foreignKnowledge hfind hm hid⟩

/-- Checking an opening takes no randomness and forgets the number. -/
theorem acts_value {during : List Event} {answer : Except Error (Option G.Exponent)}
    (h : (verifyValue draw id).run.Runs v r during (some (answer, v', r'))) :
    r' = r ∧ Acts draw v ⟨.value id, during, answer⟩ v' := by
  rw [verifyValue, runs_get_bind] at h
  cases hfind : v.commitments.find? id with
  | none =>
    rw [commitment_eq_error hfind, runs_error_bind] at h
    obtain ⟨rfl, h⟩ := h
    cases h
    exact ⟨rfl, .strayValue hfind⟩
  | some c =>
    rw [commitment_eq_ok_iff.2 hfind, runs_ok_bind, runs_set_bind, runs_receiveMessage_bind] at h
    rcases h with ⟨a, err, herr, rfl, rfl, rfl, rfl⟩ | ⟨a, m, es, hm, rfl, h⟩
    · exact ⟨rfl, .unheardValue hfind herr⟩
    by_cases hid : m.id = id
    · rw [checkId, if_pos hid.symm, runs_ok_bind] at h
      obtain ⟨rfl, h⟩ := runs_done.1 h
      cases h
      exact ⟨rfl, .opened hfind hm hid⟩
    · rw [checkId, if_neg (Ne.symm hid), runs_error_bind] at h
      obtain ⟨rfl, h⟩ := h
      cases h
      exact ⟨rfl, .foreignValue hfind hm hid⟩

/-- Every call of the verifier that returns is one of these, and takes no randomness. -/
theorem acts_of_happens {entry : (service G draw).Entry} (h : entry.Happens v r v' r') :
    r' = r ∧ Acts draw v entry v' := by
  obtain ⟨call, during, answer⟩ := entry
  cases call with
  | receive => exact acts_receive h
  | knowledge id => exact acts_knowledge h
  | value id => exact acts_value h

end Verifier

end Pedersen

end TwoParty
