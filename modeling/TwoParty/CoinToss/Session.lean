import TwoParty.CoinToss.Parties
import TwoParty.Pedersen.Committer
import TwoParty.Pedersen.Verifier

/-!
# TwoParty.CoinToss.Session

Coin tosses over Pedersen commitments: the set-up, and then any number of tosses
on the same commitment session.
-/

namespace TwoParty

namespace CoinToss

variable {G : DlogGroup} {σ : Type}

/-- Set up as party one, which commits, and toss `n` times: the results, and the state in
which the committer is left. -/
def openOne (G : DlogGroup) (draw : Challenger) (config : TossConfig) (kdf : Kdf) (n : Nat) :
    ExceptT Error (Party G σ) (List (Except Error TossOutput) × Pedersen.Committer G) := do
  let committer ← Pedersen.Committer.setup
  (Party.within committer
    (tosses (tossOne config kdf (Pedersen.Committer.side G draw)) n) : Party G σ _)

/-- The results of party one. -/
def sessionOne (G : DlogGroup) (draw : Challenger) (config : TossConfig) (kdf : Kdf) (n : Nat) :
    ExceptT Error (Party G σ) (List (Except Error TossOutput)) :=
  Prod.fst <$> openOne G draw config kdf n

/-- Set up as party two, which verifies, and toss `n` times: the results, and the state in
which the verifier is left. -/
def openTwo (G : DlogGroup) (draw : Challenger) (config : TossConfig) (kdf : Kdf) (n : Nat) :
    ExceptT Error (Party G σ) (List (Except Error TossOutput) × Pedersen.Verifier G) := do
  let verifier ← Pedersen.Verifier.setup
  (Party.within verifier
    (tosses (tossTwo config kdf (Pedersen.Verifier.side G draw)) n) : Party G σ _)

/-- The results of party two. -/
def sessionTwo (G : DlogGroup) (draw : Challenger) (config : TossConfig) (kdf : Kdf) (n : Nat) :
    ExceptT Error (Party G σ) (List (Except Error TossOutput)) :=
  Prod.fst <$> openTwo G draw config kdf n

end CoinToss

end TwoParty
