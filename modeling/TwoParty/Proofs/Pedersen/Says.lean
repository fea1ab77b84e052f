import TwoParty.Pedersen.Committer
import TwoParty.Pedersen.Verifier
import TwoParty.Proofs.Duet.Says
import TwoParty.Proofs.Group.Lawful

/-!
# TwoParty.Proofs.Pedersen.Says

What the operations of the two sides of the commitment scheme say and leave behind, for
given exponents.  Nothing is assumed about the group.
-/

namespace TwoParty

namespace Pedersen

variable {G : DlogGroup} {draw : Challenger} {side : Side} {id : CommitmentId}
  {random random' : ByteSource}

/-! ## Messages -/

def commitMessage (id : CommitmentId) (o : Opening G) : CommitMessage :=
  ⟨id, G.encodeElement o.commitment⟩

def knowledgeMessage (draw : Challenger) (h : G.Element) (id : CommitmentId) (o : Opening G)
    (k₁ k₂ : G.Exponent) : KnowledgeMessage :=
  ⟨id, (Sigma.openingProof G draw (knowledgeTranscript id) h o.commitment o.randomness o.value
    k₁ k₂).1⟩

def decommitMessage (draw : Challenger) (h : G.Element) (id : CommitmentId) (o : Opening G)
    (k : G.Exponent) : DecommitMessage :=
  ⟨id, G.encodeExponent o.value, (Sigma.dlogProof G draw (valueTranscript id) G.generator
    (stripValue G h o.commitment o.value) o.randomness k).1⟩

/-! ## Proofs -/

/-- A proof of an opening draws its two nonces, and is quiet. -/
theorem says_proveOpening {σ : Type} {store : σ} {tr : Transcript} {h c : G.Element}
    {r x k₁ k₂ : G.Exponent} (hk : G.Drawn random [k₁, k₂] random') :
    Says side [] (liftM (Sigma.proveOpening G draw tr h c r x : Party G σ _) :
        ExceptT Error (Party G σ) _) store random
      (.ok (Sigma.openingProof G draw tr h c r x k₁ k₂)) store random' := by
  obtain ⟨r₁, hk₁, r₂, hk₂, rfl⟩ := hk
  refine says_lift ?_
  exact .exponent hk₁ (.exponent hk₂ (.done ⟨rfl, rfl, rfl⟩))

/-- A proof of a logarithm draws its nonce, and is quiet. -/
theorem says_proveDlog {σ : Type} {store : σ} {tr : Transcript} {base image : G.Element}
    {w k : G.Exponent} (hk : G.sample random = some (k, random')) :
    Says side [] (liftM (Sigma.proveDlog G draw tr base image w : Party G σ _) :
        ExceptT Error (Party G σ) _) store random
      (.ok (Sigma.dlogProof G draw tr base image w k)) store random' := by
  refine says_lift ?_
  exact .exponent hk (.done ⟨rfl, rfl, rfl⟩)

/-! ## The committer -/

namespace Committer

variable {σ : Type} {store : σ} {c : Committer G} {o : Opening G}

/-- The committer hears the base and makes of it what it can. -/
theorem says_setup {m : SetupMessage} {v : Except Error (Committer G)} (h : ofSetup G m = v) :
    Says side [(side.other, LawfulMessage.text m)]
      (setup : ExceptT Error (Party G σ) (Committer G)) store random v store random :=
  (says_receiveMessage _ m).bind (E := []) (says_except h)

/-- A commitment is said under the next number, and its opening is kept. -/
theorem says_commit {r : G.Exponent} (value : G.Exponent)
    (h : G.sample random = some (r, random')) :
    Says side [(side, LawfulMessage.text (commitMessage c.nextId (c.openingWith value r)))]
      (commit value) c random (.ok c.nextId)
      (c.countId.keep c.nextId (c.openingWith value r)) random' := by
  refine says_get.bind (D := []) ?_
  refine (says_set _).bind (D := []) ?_
  refine (says_drawExponent h).bind (D := []) ?_
  refine (says_set _).bind (D := []) ?_
  refine (says_sendMessage _ (commitMessage c.nextId (c.openingWith value r))).bind ?_
  exact says_pure _

/-- The knowledge proof of a stored opening is said. -/
theorem says_proveKnowledge {k₁ k₂ : G.Exponent} (hopen : c.opening id = .ok o)
    (h : G.Drawn random [k₁, k₂] random') :
    Says side [(side, LawfulMessage.text (knowledgeMessage draw c.h id o k₁ k₂))]
      (proveKnowledge draw id) c random (.ok ()) c random' := by
  refine says_get.bind (D := []) ?_
  refine (says_except hopen).bind (D := []) ?_
  refine (says_proveOpening h).bind (D := []) ?_
  exact says_sendMessage _ (knowledgeMessage draw c.h id o k₁ k₂)

/-- The opening of a stored number is said, and forgotten. -/
theorem says_proveValue {k : G.Exponent} (hopen : c.opening id = .ok o)
    (h : G.sample random = some (k, random')) :
    Says side [(side, LawfulMessage.text (decommitMessage draw c.h id o k))]
      (proveValue draw id) c random (.ok ()) (c.forget id) random' := by
  refine says_get.bind (D := []) ?_
  refine (says_except hopen).bind (D := []) ?_
  refine (says_set _).bind (D := []) ?_
  refine (says_proveDlog h).bind (D := []) ?_
  exact says_sendMessage _ (decommitMessage draw c.h id o k)

/-! ### After the peer is gone -/

section
variable {β : Type} {Q : Except Error β → Committer G → ByteSource → Prop}

/-- Without its peer a commitment may fail to be sent, but it is kept. -/
theorem keeps_commit_late {f : CommitmentId → ExceptT Error (Party G (Committer G)) β}
    {value r : G.Exponent} (h : G.sample random = some (r, random'))
    (herror : ∀ v, IsIo v → Q v (c.countId.keep c.nextId (c.openingWith value r)) random')
    (hf : (f c.nextId).run.Keeps side true Q []
      (c.countId.keep c.nextId (c.openingWith value r)) random') :
    (commit value >>= f).run.Keeps side true Q [] c random := by
  rw [commit, bind_assoc]
  refine says_get.bind (D := []) (E := []) ?_
  rw [bind_assoc]
  refine (says_set _).bind (D := []) (E := []) ?_
  rw [bind_assoc]
  refine (says_drawExponent h).bind (D := []) (E := []) ?_
  rw [bind_assoc]
  refine (says_set _).bind (D := []) (E := []) ?_
  rw [bind_assoc]
  exact keeps_sendMessage_late _ (commitMessage c.nextId (c.openingWith value r)) herror hf

/-- Without its peer a knowledge proof may fail to be sent. -/
theorem keeps_proveKnowledge_late {f : Unit → ExceptT Error (Party G (Committer G)) β}
    {k₁ k₂ : G.Exponent} (hopen : c.opening id = .ok o) (h : G.Drawn random [k₁, k₂] random')
    (herror : ∀ v, IsIo v → Q v c random')
    (hf : (f ()).run.Keeps side true Q [] c random') :
    (proveKnowledge draw id >>= f).run.Keeps side true Q [] c random := by
  rw [proveKnowledge, bind_assoc]
  refine says_get.bind (D := []) (E := []) ?_
  rw [bind_assoc]
  refine (says_except hopen).bind (D := []) (E := []) ?_
  rw [bind_assoc]
  refine (says_proveOpening h).bind (D := []) (E := []) ?_
  exact keeps_sendMessage_late _ (knowledgeMessage draw c.h id o k₁ k₂) herror hf

end

end Committer

/-! ## The verifier -/

namespace Verifier

variable {σ : Type} {store : σ} {v v' : Verifier G} {c : G.Element}

/-- The verifier says the base of the trapdoor that it draws. -/
theorem says_setup {t : G.Exponent} (h : G.sample random = some (t, random')) :
    Says side [(side, LawfulMessage.text (⟨G.encodeElement (G.gpow t)⟩ : SetupMessage))]
      (setup : ExceptT Error (Party G σ) (Verifier G)) store random (.ok (ofTrapdoor G t)) store
      random' := by
  refine (says_drawExponent h).bind (D := []) ?_
  refine (says_sendMessage _ (⟨G.encodeElement (G.gpow t)⟩ : SetupMessage)).bind ?_
  exact says_pure _

theorem says_receiveCommitment {m : CommitMessage} (h : v.accept m = .ok v') :
    Says side [(side.other, LawfulMessage.text m)] receiveCommitment v random (.ok m.id) v'
      random := by
  refine (says_receiveMessage _ m).bind ?_
  refine says_get.bind (D := []) ?_
  refine (says_except h).bind (D := []) ?_
  exact (says_set v').bind (E := []) (says_pure m.id)

/-- A commitment that is refused is heard, and changes nothing. -/
theorem says_receiveCommitment_error {m : CommitMessage} {e : Error} (h : v.accept m = .error e) :
    Says side [(side.other, LawfulMessage.text m)] receiveCommitment v random (.error e) v
      random := by
  refine (says_receiveMessage _ m).bind ?_
  refine says_get.bind (D := []) ?_
  exact (says_except h).bind_error ⟨rfl, rfl, rfl⟩

/-- No commitment comes from a peer that is gone. -/
theorem keeps_receiveCommitment_late {β : Type}
    {Q : Except Error β → Verifier G → ByteSource → Prop}
    {f : CommitmentId → ExceptT Error (Party G (Verifier G)) β}
    (herror : ∀ r, IsIo r → Q r v random) :
    (receiveCommitment >>= f).run.Keeps side true Q [] v random := by
  rw [receiveCommitment, bind_assoc]
  exact keeps_receiveMessage_late _ herror

/-- A knowledge proof is heard and judged. -/
theorem says_verifyKnowledge {m : KnowledgeMessage} (hc : v.commitment id = .ok c)
    (hid : m.id = id) :
    Says side [(side.other, LawfulMessage.text m)] (verifyKnowledge draw id) v random
      (.ok (Sigma.verifyOpening G draw (knowledgeTranscript id) v.h c m.proof).1) v random := by
  refine says_get.bind (D := []) ?_
  refine (says_except hc).bind (D := []) ?_
  refine (says_receiveMessage _ m).bind ?_
  refine (says_except (if_pos hid.symm)).bind (D := []) ?_
  exact says_pure _

/-- An opening is heard and judged, and the number is forgotten. -/
theorem says_verifyValue {m : DecommitMessage} (hc : v.commitment id = .ok c) (hid : m.id = id) :
    Says side [(side.other, LawfulMessage.text m)] (verifyValue draw id) v random
      (.ok (revealed G draw v.h c id m)) (v.forget id) random := by
  refine says_get.bind (D := []) ?_
  refine (says_except hc).bind (D := []) ?_
  refine (says_set _).bind (D := []) ?_
  refine (says_receiveMessage _ m).bind ?_
  refine (says_except (if_pos hid.symm)).bind (D := []) ?_
  exact says_pure _

/-- No value is revealed by a peer that is gone. -/
theorem keeps_verifyValue_late {β : Type} {Q : Except Error β → Verifier G → ByteSource → Prop}
    {f : Option G.Exponent → ExceptT Error (Party G (Verifier G)) β}
    (hc : v.commitment id = .ok c) (herror : ∀ r, IsIo r → Q r (v.forget id) random) :
    (verifyValue draw id >>= f).run.Keeps side true Q [] v random := by
  rw [verifyValue, bind_assoc]
  refine says_get.bind (D := []) (E := []) ?_
  rw [bind_assoc]
  refine (says_except hc).bind (D := []) (E := []) ?_
  rw [bind_assoc]
  refine (says_set _).bind (D := []) (E := []) ?_
  rw [bind_assoc]
  exact keeps_receiveMessage_late _ herror

end Verifier

end Pedersen

end TwoParty
