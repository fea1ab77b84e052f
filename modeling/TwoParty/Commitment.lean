import TwoParty.Error

/-!
# TwoParty.Commitment

What the coin toss needs from a commitment scheme: the committing side commits
to a value, proves that it knows the value, and later reveals it with a proof
that it is the committed one; the verifying side checks each step.  Commitments
are named by a number.  Both sides run in a monad of the caller's choice.
-/

namespace TwoParty

namespace Commitment

/-- The side that commits. -/
structure Committing (m : Type → Type) where
  Value : Type
  /-- Draw a uniform value. -/
  randomValue : m Value
  /-- The bytes of a value, as the verifying side sees them once it is revealed. -/
  valueBytes : Value → Bytes
  /-- Commit to a value. -/
  commit : Value → ExceptT Error m CommitmentId
  /-- Prove knowledge of a committed value. -/
  proveKnowledge : CommitmentId → ExceptT Error m Unit
  /-- Reveal a committed value and prove that it is the one. -/
  proveValue : CommitmentId → ExceptT Error m Unit

/-- The side that verifies. -/
structure Verifying (m : Type → Type) where
  Value : Type
  /-- The bytes of a revealed value. -/
  valueBytes : Value → Bytes
  /-- Wait for a commitment. -/
  receiveCommitment : ExceptT Error m CommitmentId
  /-- Wait for a proof of knowledge; is it accepted? -/
  verifyKnowledge : CommitmentId → ExceptT Error m Bool
  /-- Wait for a committed value; `none` if its proof is refused. -/
  verifyValue : CommitmentId → ExceptT Error m (Option Value)

end Commitment

end TwoParty
