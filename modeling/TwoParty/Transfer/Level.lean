import TwoParty.Sigma.Schnorr
import TwoParty.Transfer.Message

/-!
# TwoParty.Transfer.Level

The adversary a role defends against, and what that adds to an oblivious
transfer: against a malicious receiver, a proof that it knows the exponent `α`
of `a = g ^ α`.
-/

namespace TwoParty

/-- The adversary a role defends against. -/
inductive Level where
  /-- The honest party's input stays hidden; correctness is not enforced. -/
  | privacy
  /-- The peer may behave arbitrarily. -/
  | malicious
  deriving DecidableEq, Repr

namespace Level

def name : Level → String
  | .privacy => "privacy"
  | .malicious => "malicious"

/-- Does the role check proofs? -/
def isMalicious : Level → Bool
  | .privacy => false
  | .malicious => true

variable (G : DlogGroup) (draw : Challenger)

/-- The proof that the receiver sends after its first message, if any. -/
def proveKey {σ : Type} (level : Level) (message : ReceiverMessage) (a : G.Element)
    (alpha : G.Exponent) : Party G σ (Option DlogProof) :=
  match level with
  | .privacy => return none
  | .malicious =>
    return some (← Sigma.proveKnowledge G draw message.proofContext G.generator a alpha)

/-- The sender's verdict on the receiver's proof. -/
def checkKey (level : Level) (message : ReceiverMessage) (a : G.Element)
    (proof : Option DlogProof) : Except Error Unit :=
  match level, proof with
  | .privacy, _ => .ok ()
  | .malicious, none => .error (.cheatAttempt .missingKeyProof)
  | .malicious, some proof =>
    if Sigma.verifyKnowledge G draw message.proofContext G.generator a proof then .ok ()
    else .error (.cheatAttempt .rejectedKeyProof)

end Level

end TwoParty
