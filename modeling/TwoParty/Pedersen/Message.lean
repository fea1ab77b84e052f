import TwoParty.Sigma.Proof

/-!
# TwoParty.Pedersen.Message

The messages of the Pedersen scheme.  The two that carry a proof put the fields
of the proof beside their own.
-/

namespace TwoParty

open Wire

namespace Pedersen

/-- From the verifier: the second base `h`. -/
structure SetupMessage where
  h : Bytes
  deriving DecidableEq, Repr

/-- From the committer: a commitment and its number. -/
structure CommitMessage where
  id : CommitmentId
  commitment : Bytes
  deriving DecidableEq, Repr

/-- From the committer: a proof that it knows the opening. -/
structure KnowledgeMessage where
  id : CommitmentId
  proof : OpeningProof
  deriving DecidableEq, Repr

/-- From the committer: the value, with a proof that it was committed. -/
structure DecommitMessage where
  id : CommitmentId
  value : Bytes
  proof : DlogProof
  deriving DecidableEq, Repr

instance : PlainRecord SetupMessage where
  name := "PedersenSetupMessage"
  fields := [hexField "h"]
  toRecord m := .cons m.h .nil
  ofRecord
    | .cons h .nil => ⟨h⟩

instance : PlainRecord CommitMessage where
  name := "CommitMessage"
  fields := [idField "id", hexField "commitment"]
  toRecord m := .cons m.id (.cons m.commitment .nil)
  ofRecord
    | .cons id (.cons commitment .nil) => ⟨id, commitment⟩

instance : EmbeddingRecord KnowledgeMessage where
  name := "KnowledgeProofMessage"
  own := [idField "id"]
  inner := PlainRecord.fields OpeningProof
  toRecords m := (.cons m.id .nil, PlainRecord.toRecord m.proof)
  ofRecords
    | .cons id .nil, proof => ⟨id, PlainRecord.ofRecord proof⟩

instance : EmbeddingRecord DecommitMessage where
  name := "DecommitMessage"
  own := [idField "id", hexField "value"]
  inner := PlainRecord.fields DlogProof
  toRecords m := (.cons m.id (.cons m.value .nil), PlainRecord.toRecord m.proof)
  ofRecords
    | .cons id (.cons value .nil), proof => ⟨id, value, PlainRecord.ofRecord proof⟩

end Pedersen

end TwoParty
