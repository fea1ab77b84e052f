import TwoParty.Commitment
import TwoParty.Pedersen.Message
import TwoParty.Pedersen.Store
import TwoParty.Pedersen.Transcript

/-!
# TwoParty.Pedersen.Verifier

The verifying side of the Pedersen scheme.  It draws a trapdoor `t` and sends
`h = g ^ t`; afterwards it keeps the commitments it accepted, under the numbers
that the committer gave them, until their values are revealed.
-/

namespace TwoParty

namespace Pedersen

/-- The state of the verifying side. -/
structure Verifier (G : DlogGroup) where
  h : G.Element
  commitments : Store G.Element

namespace Verifier

variable {G : DlogGroup}

/-- The verifier with a given trapdoor. -/
def ofTrapdoor (G : DlogGroup) (t : G.Exponent) : Verifier G := ⟨G.gpow t, .empty⟩

/-- Draw the trapdoor and send the base. -/
def setup {σ : Type} : ExceptT Error (Party G σ) (Verifier G) := do
  let t ← (Party.drawExponent : Party G σ _)
  let v := ofTrapdoor G t
  Channel.sendMessage "sending Pedersen setup" (⟨G.encodeElement v.h⟩ : SetupMessage)
  return v

/-- The commitment stored under a number. -/
def commitment (v : Verifier G) (id : CommitmentId) : Except Error G.Element :=
  match v.commitments.find? id with
  | some c => .ok c
  | none => .error (.invalidInput (.unknownCommitment id))

/-- The state after a commitment message: its number must not be in the store, and its
commitment has to be a member. -/
def accept (v : Verifier G) (m : CommitMessage) : Except Error (Verifier G) := do
  if v.commitments.contains m.id then throw (.cheatAttempt (.reusedCommitment m.id))
  let c ← G.member "commitment" m.commitment
  return { v with commitments := v.commitments.insert m.id c }

/-- Drop a commitment. -/
def forget (v : Verifier G) (id : CommitmentId) : Verifier G :=
  { v with commitments := v.commitments.erase id }

/-- The message has to be about the expected commitment. -/
def checkId (expected got : CommitmentId) : Except Error Unit :=
  if expected = got then .ok () else .error (.protocolFormat (.wrongCommitment got expected))

/-- The value that a decommitment of `commitment` reveals, if its proof is accepted. -/
def revealed (G : DlogGroup) (draw : Challenger) (h commitment : G.Element) (id : CommitmentId)
    (m : DecommitMessage) : Option G.Exponent :=
  match G.exponent m.value with
  | .error _ => none
  | .ok value =>
    if (Sigma.verifyDlog G draw (valueTranscript id) G.generator
        (stripValue G h commitment value) m.proof).1 then some value
    else none

/-- Wait for a commitment and store it. -/
def receiveCommitment : ExceptT Error (Party G (Verifier G)) CommitmentId := do
  let m ← Channel.receiveMessage "receiving commitment"
  let v ← get
  set (← v.accept m)
  return m.id

/-- Wait for the proof of knowledge about a stored commitment. -/
def verifyKnowledge (draw : Challenger) (id : CommitmentId) :
    ExceptT Error (Party G (Verifier G)) Bool := do
  let v ← get
  let c ← v.commitment id
  let m ← (Channel.receiveMessage "receiving knowledge proof" :
    ExceptT Error (Party G (Verifier G)) KnowledgeMessage)
  checkId id m.id
  return (Sigma.verifyOpening G draw (knowledgeTranscript id) v.h c m.proof).1

/-- Drop a stored commitment, wait for its value, and check that it is the one. -/
def verifyValue (draw : Challenger) (id : CommitmentId) :
    ExceptT Error (Party G (Verifier G)) (Option G.Exponent) := do
  let v ← get
  let c ← v.commitment id
  set (v.forget id)
  let m ← (Channel.receiveMessage "receiving decommitment" :
    ExceptT Error (Party G (Verifier G)) DecommitMessage)
  checkId id m.id
  return revealed G draw v.h c id m

/-- The verifying side as a collaborator. -/
def side (G : DlogGroup) (draw : Challenger) : Commitment.Verifying (Party G (Verifier G)) where
  Value := G.Exponent
  valueBytes := G.encodeExponent
  receiveCommitment := receiveCommitment
  verifyKnowledge := verifyKnowledge draw
  verifyValue := verifyValue draw

end Verifier

end Pedersen

end TwoParty
