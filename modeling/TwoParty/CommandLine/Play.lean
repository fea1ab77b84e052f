import TwoParty.CoinToss.Parties
import TwoParty.CommandLine.Job
import TwoParty.Pedersen.Committer
import TwoParty.Pedersen.Verifier
import TwoParty.Transfer.Receiver
import TwoParty.Transfer.Sender

/-!
# TwoParty.CommandLine.Play

What a job does once there is a channel to the peer.  Inputs are byte strings, and every
pad is derived by HKDF without a context string.
-/

namespace TwoParty

namespace CommandLine

variable {G : DlogGroup} {σ : Type}

/-- The derivation behind every job. -/
def kdf : Kdf := .hkdf []

/-- What the sender and the receiver carry. -/
def payload (G : DlogGroup) : Payload G := .byteArray G kdf

/-- One toss on a commitment session of its own. -/
def tossOnce {τ : Type} (session : τ) (toss : ExceptT Error (Party G τ) TossOutput) :
    ExceptT Error (Party G σ) TossOutput := do
  let (result, _) ← (Party.within session toss.run : Party G σ _)
  result

/-- Play the part that a job names; the bytes to be shown at the end, if there are any. -/
def Job.play (G : DlogGroup) (draw : Challenger) (level : Level) :
    Job → ExceptT Error (Party G σ) (Option Bytes)
  | .send x0 x1 => do
    Sender.transfer draw level (payload G) x0 x1
    return none
  | .receive choice => do
    let x ← Receiver.transfer draw level (payload G) choice
    return some x
  | .toss .one config => do
    let committer ← Pedersen.Committer.setup
    let output ← tossOnce committer
      (CoinToss.tossOne config kdf (Pedersen.Committer.side G draw))
    return some output.bytes
  | .toss .two config => do
    let verifier ← Pedersen.Verifier.setup
    let output ← tossOnce verifier
      (CoinToss.tossTwo config kdf (Pedersen.Verifier.side G draw))
    return some output.bytes

end CommandLine

end TwoParty
