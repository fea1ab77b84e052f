import TwoParty.Sigma.Schnorr
import TwoParty.Wire.Fields

/-!
# TwoParty.Pedersen.Transcript

What both sides of the scheme compute alike: the transcript that binds a proof
to its phase and commitment, and the statement of the value proof.
-/

namespace TwoParty

namespace Pedersen

/-- The transcript of a proof in a phase about one commitment. -/
def transcript (phase : String) (id : CommitmentId) : Transcript :=
  ((Transcript.start (Sigma.label "twopc-pedersen")).append (Sigma.label "phase")
    (Sigma.label phase)).appendWord (Sigma.label "id") id

/-- The transcript of a proof of knowledge. -/
def knowledgeTranscript (id : CommitmentId) : Transcript := transcript "knowledge" id

/-- The transcript of a value proof. -/
def valueTranscript (id : CommitmentId) : Transcript := transcript "value" id

/-- `commitment * h ^ (- value)`, which is `g ^ r` for an honest opening. -/
def stripValue (G : DlogGroup) (h commitment : G.Element) (value : G.Exponent) : G.Element :=
  G.mul commitment (G.pow h (G.neg value))

end Pedersen

end TwoParty
