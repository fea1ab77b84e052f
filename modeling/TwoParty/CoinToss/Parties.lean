import TwoParty.Channel.Basic
import TwoParty.CoinToss.Config
import TwoParty.Commitment
import TwoParty.Kdf

/-!
# TwoParty.CoinToss.Parties

The two parties of a coin toss, over any commitment scheme.

Party one commits to a value and proves that it knows it; party two answers with
its share; party one reveals the value.  Both end with the pad derived from the
value, combined with the share.  A length that the derivation cannot produce is
refused before anything else happens.
-/

namespace TwoParty

namespace CoinToss

variable {m : Type → Type} [Monad m] [MonadChannel m]

/-- The result: the pad of a value combined with party two's share. -/
def output (kdf : Kdf) (length : Nat) (value share : Bytes) : Except Error TossOutput := do
  TossOutput.combine (← kdf.derive value length) share

/-- Party two's share has to have the agreed length. -/
def checkShare (length : Nat) (share : Bytes) : Except Error Unit :=
  if share.length ≠ length then .error (.protocolFormat (.shareLength length share.length))
  else .ok ()

/-- One toss as party one. -/
def tossOne (config : TossConfig) (kdf : Kdf) (scheme : Commitment.Committing m) :
    ExceptT Error m TossOutput := do
  kdf.check config.bytes
  let value ← scheme.randomValue
  let id ← scheme.commit value
  scheme.proveKnowledge id
  let share ← Channel.receiveBytes "receiving party two's share"
  checkShare config.bytes share
  scheme.proveValue id
  output kdf config.bytes (scheme.valueBytes value) share

/-- One toss as party two.  The share is drawn first, so it depends on nothing that
party one sends, and it is sent only after the proof of knowledge was accepted. -/
def tossTwo [MonadBytes m] (config : TossConfig) (kdf : Kdf) (scheme : Commitment.Verifying m) :
    ExceptT Error m TossOutput := do
  kdf.check config.bytes
  let share ← (MonadBytes.drawBytes config.bytes : m _)
  let id ← scheme.receiveCommitment
  unless ← scheme.verifyKnowledge id do
    throw (.cheatAttempt .rejectedKnowledge)
  Channel.sendBytes "sending party two's share" share
  match ← scheme.verifyValue id with
  | none => throw (.cheatAttempt .rejectedValue)
  | some value => output kdf config.bytes (scheme.valueBytes value) share

/-- So many tosses one after another, up to the first that fails. -/
def tosses (toss : ExceptT Error m TossOutput) : Nat → m (List (Except Error TossOutput))
  | 0 => return []
  | n + 1 => do
    match ← (toss.run : m _) with
    | .ok o => return .ok o :: (← tosses toss n)
    | .error e => return [.error e]

end CoinToss

end TwoParty
