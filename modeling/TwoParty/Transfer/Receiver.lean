import TwoParty.ChoiceBit
import TwoParty.Transfer.Level
import TwoParty.Transfer.Payload

/-!
# TwoParty.Transfer.Receiver

The receiver of an oblivious transfer: its first message hides the choice, and
from the sender's reply it recovers the chosen input.
-/

namespace TwoParty

/-- What the receiver keeps until the reply. -/
structure ReceiverSession (G : DlogGroup) where
  choice : ChoiceBit
  beta : G.Exponent

/-- The chosen half of a reply that was checked. -/
structure VerifiedReply (G : DlogGroup) (P : Payload G) where
  beta : G.Exponent
  w : G.Element
  c : P.Ciphertext

namespace ReceiverSession

variable {G : DlogGroup}

/-- The first message for given exponents: `z` of the choice is `g ^ (α β)`, the other
one is `g ^ γ`. -/
def messageWith (G : DlogGroup) (choice : ChoiceBit) (alpha beta gamma : G.Exponent) :
    ReceiverMessage :=
  let a := G.gpow alpha
  let shared := G.pow a beta
  let free := G.gpow gamma
  ⟨G.encodeElement a, G.encodeElement (G.gpow beta),
    G.encodeElement (choice.select shared free), G.encodeElement (choice.select free shared)⟩

/-- Draw the exponents; the session, the first message, and the proof that goes with
it. -/
def start {σ : Type} (G : DlogGroup) (draw : Challenger) (level : Level) (choice : ChoiceBit) :
    Party G σ (ReceiverSession G × ReceiverMessage × Option DlogProof) := do
  let alpha ← Party.drawExponent
  let beta ← Party.drawExponent
  let gamma ← Party.drawExponent
  let message := messageWith G choice alpha beta gamma
  let proof ← level.proveKey G draw message (G.gpow alpha) alpha
  return (⟨choice, beta⟩, message, proof)

/-- Check both halves of a reply and keep the chosen one. -/
def check (s : ReceiverSession G) (P : Payload G) (m : SenderMessage) :
    Except Error (VerifiedReply G P) := do
  let w0 ← G.member "w0" m.w0
  let w1 ← G.member "w1" m.w1
  let (c0, c1) ← P.decode m.c0 m.c1
  return ⟨s.beta, s.choice.select w0 w1, s.choice.select c0 c1⟩

end ReceiverSession

/-- The chosen input. -/
def VerifiedReply.output {G : DlogGroup} {P : Payload G} (r : VerifiedReply G P) :
    Except Error P.Input :=
  P.unmask r.w r.beta r.c

/-! ## The whole run -/

namespace Receiver

variable {G : DlogGroup} {σ : Type}

/-- Send the proof, if there is one. -/
def sendProof : Option DlogProof → ExceptT Error (Party G σ) Unit
  | none => return ()
  | some proof => Channel.sendMessage "sending proof of alpha" proof

/-- Obtain the chosen one of the sender's inputs. -/
def transfer (draw : Challenger) (level : Level) (P : Payload G) (choice : ChoiceBit) :
    ExceptT Error (Party G σ) P.Input := do
  let (session, message, proof) ← (ReceiverSession.start G draw level choice : Party G σ _)
  Channel.sendMessage "sending OT receiver message" message
  sendProof proof
  let reply ← Channel.receiveMessage "receiving OT sender message"
  let verified ← session.check P reply
  verified.output

end Receiver

end TwoParty
