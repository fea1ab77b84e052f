import TwoParty.Transfer.Level
import TwoParty.Transfer.Payload

/-!
# TwoParty.Transfer.Sender

The sender of an oblivious transfer: it checks the receiver's message and masks
both inputs so that at most one can be recovered.
-/

namespace TwoParty

/-- A receiver's message that was checked. -/
structure SenderSession (G : DlogGroup) where
  a : G.Element
  b : G.Element
  z0 : G.Element
  z1 : G.Element

namespace SenderSession

variable {G : DlogGroup}

/-- Check a message and the proof that came with it. -/
def ofMessage (G : DlogGroup) (draw : Challenger) (level : Level) (m : ReceiverMessage)
    (proof : Option DlogProof) : Except Error (SenderSession G) := do
  let a ← G.member "a" m.a
  level.checkKey G draw m a proof
  let b ← G.member "b" m.b
  let z0 ← G.member "z0" m.z0
  let z1 ← G.member "z1" m.z1
  if z0 = z1 then throw (.cheatAttempt .equalKeys)
  return ⟨a, b, z0, z1⟩

/-- The key material `a ^ u * g ^ v` for the receiver. -/
def material (s : SenderSession G) (u v : G.Exponent) : G.Element :=
  G.mul (G.pow s.a u) (G.gpow v)

/-- The key `z ^ u * b ^ v` that masks an input. -/
def key (s : SenderSession G) (z : G.Element) (u v : G.Exponent) : G.Element :=
  G.mul (G.pow z u) (G.pow s.b v)

/-- The reply for given exponents. -/
def replyWith (s : SenderSession G) (P : Payload G) (x0 x1 : P.Input)
    (u0 v0 u1 v1 : G.Exponent) : Except Error SenderMessage := do
  let c0 ← P.mask (s.key s.z0 u0 v0) x0
  let c1 ← P.mask (s.key s.z1 u1 v1) x1
  return ⟨G.encodeElement (s.material u0 v0), G.encodeElement (s.material u1 v1), c0, c1⟩

/-- Draw the exponents of one input. -/
def drawPair {σ : Type} : Party G σ (G.Exponent × G.Exponent) := do
  let u ← Party.drawExponent
  let v ← Party.drawExponent
  return (u, v)

/-- Check the inputs, draw the exponents and mask. -/
def reply {σ : Type} (s : SenderSession G) (P : Payload G) (x0 x1 : P.Input) :
    ExceptT Error (Party G σ) SenderMessage := do
  P.validate x0 x1
  let (u0, v0) ← (drawPair : Party G σ _)
  let (u1, v1) ← (drawPair : Party G σ _)
  s.replyWith P x0 x1 u0 v0 u1 v1

end SenderSession

/-! ## The whole run -/

namespace Sender

variable {G : DlogGroup} {σ : Type}

/-- A proof that is malformed counts as no proof; other failures end the run. -/
def proofOfArrival (r : Except Error DlogProof) : Except Error (Option DlogProof) :=
  match r with
  | .ok proof => .ok (some proof)
  | .error (.protocolFormat _) => .ok none
  | .error e => .error e

/-- Wait for the receiver's proof, if the level asks for one. -/
def receiveProof (level : Level) : ExceptT Error (Party G σ) (Option DlogProof) :=
  match level with
  | .privacy => return none
  | .malicious => .mk (proofOfArrival <$>
      (Channel.receiveMessage "receiving proof of alpha" : ExceptT Error (Party G σ) _).run)

/-- Offer `x0` and `x1` to the receiver. -/
def transfer (draw : Challenger) (level : Level) (P : Payload G) (x0 x1 : P.Input) :
    ExceptT Error (Party G σ) Unit := do
  P.validate x0 x1
  let message ← Channel.receiveMessage "receiving OT receiver message"
  let proof ← receiveProof level
  let session ← SenderSession.ofMessage G draw level message proof
  Channel.sendMessage "sending OT sender message" (← session.reply P x0 x1)

end Sender

end TwoParty
