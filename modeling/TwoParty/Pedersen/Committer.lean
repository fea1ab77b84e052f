import TwoParty.Commitment
import TwoParty.Pedersen.Message
import TwoParty.Pedersen.Store
import TwoParty.Pedersen.Transcript

/-!
# TwoParty.Pedersen.Committer

The committing side of the Pedersen scheme: `c = g ^ r * h ^ x`, with a base `h`
that the verifier chose.

Numbers are handed out in order and never twice.  An opening is stored before
its commitment is sent and removed when its value is revealed, whatever becomes
of the messages.
-/

namespace TwoParty

namespace Pedersen

/-- What the committer knows about one commitment. -/
structure Opening (G : DlogGroup) where
  commitment : G.Element
  value : G.Exponent
  randomness : G.Exponent

/-- The state of the committing side. -/
structure Committer (G : DlogGroup) where
  /-- The verifier's base. -/
  h : G.Element
  /-- The number of the next commitment. -/
  nextId : CommitmentId
  openings : Store (Opening G)

namespace Committer

variable {G : DlogGroup}

/-- The committer for a received base, which has to be a member other than the
generator. -/
def ofSetup (G : DlogGroup) (m : SetupMessage) : Except Error (Committer G) := do
  let h ← G.member "h" m.h
  if h = G.generator then throw (.cheatAttempt .baseIsGenerator)
  return ⟨h, 0, .empty⟩

/-- Wait for the verifier's base. -/
def setup {σ : Type} : ExceptT Error (Party G σ) (Committer G) := do
  ofSetup G (← Channel.receiveMessage "receiving Pedersen setup")

/-- The stored opening under a number. -/
def opening (c : Committer G) (id : CommitmentId) : Except Error (Opening G) :=
  match c.openings.find? id with
  | some o => .ok o
  | none => .error (.invalidInput (.unknownCommitment id))

/-- The opening of `value` with the given randomness. -/
def openingWith (c : Committer G) (value randomness : G.Exponent) : Opening G :=
  ⟨Sigma.commit G c.h randomness value, value, randomness⟩

/-- The number is used up. -/
def countId (c : Committer G) : Committer G := { c with nextId := c.nextId + 1 }

/-- Keep an opening. -/
def keep (c : Committer G) (id : CommitmentId) (o : Opening G) : Committer G :=
  { c with openings := c.openings.insert id o }

/-- Forget an opening. -/
def forget (c : Committer G) (id : CommitmentId) : Committer G :=
  { c with openings := c.openings.erase id }

/-- Commit to a value. -/
def commit (value : G.Exponent) : ExceptT Error (Party G (Committer G)) CommitmentId := do
  let c ← get
  let id := c.nextId
  set c.countId
  let randomness ← (Party.drawExponent : Party G (Committer G) _)
  let o := c.openingWith value randomness
  set (c.countId.keep id o)
  Channel.sendMessage "sending commitment" (⟨id, G.encodeElement o.commitment⟩ : CommitMessage)
  return id

/-- Prove knowledge of the opening under a number. -/
def proveKnowledge (draw : Challenger) (id : CommitmentId) :
    ExceptT Error (Party G (Committer G)) Unit := do
  let c ← get
  let o ← c.opening id
  let (proof, _) ← (Sigma.proveOpening G draw (knowledgeTranscript id) c.h o.commitment
    o.randomness o.value : Party G (Committer G) _)
  Channel.sendMessage "sending knowledge proof" (⟨id, proof⟩ : KnowledgeMessage)

/-- Reveal the value under a number and forget its opening. -/
def proveValue (draw : Challenger) (id : CommitmentId) :
    ExceptT Error (Party G (Committer G)) Unit := do
  let c ← get
  let o ← c.opening id
  set (c.forget id)
  let (proof, _) ← (Sigma.proveDlog G draw (valueTranscript id) G.generator
    (stripValue G c.h o.commitment o.value) o.randomness : Party G (Committer G) _)
  Channel.sendMessage "sending decommitment"
    (⟨id, G.encodeExponent o.value, proof⟩ : DecommitMessage)

/-- The committing side as a collaborator. -/
def side (G : DlogGroup) (draw : Challenger) : Commitment.Committing (Party G (Committer G)) where
  Value := G.Exponent
  randomValue := Party.drawExponent
  valueBytes := G.encodeExponent
  commit := commit
  proveKnowledge := proveKnowledge draw
  proveValue := proveValue draw

end Committer

end Pedersen

end TwoParty
