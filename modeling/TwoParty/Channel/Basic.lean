import TwoParty.Error

/-!
# TwoParty.Channel.Basic

Talking to the peer and drawing bytes, in any monad that can do both, and the
sending and receiving of messages as the protocols do it: every failure names
the step that was running.
-/

namespace TwoParty

/-- Monads in which a party can send to its peer and wait for its messages. -/
class MonadChannel (m : Type → Type) where
  /-- Send a byte string as one message. -/
  send : Bytes → m (Except Error Unit)
  /-- Wait for the next message. -/
  receive : m (Except Error Bytes)

/-- Monads in which a party can draw random bytes. -/
class MonadBytes (m : Type → Type) where
  drawBytes : (count : Nat) → m Bytes

namespace Channel

variable {m : Type → Type} [Monad m] [MonadChannel m] {α : Type}

/-- Send a byte string during a step. -/
def sendBytes (step : String) (data : Bytes) : ExceptT Error m Unit :=
  .mk ((·.mapError (·.during step)) <$> MonadChannel.send data)

/-- Wait for a byte string during a step. -/
def receiveBytes (step : String) : ExceptT Error m Bytes :=
  .mk ((·.mapError (·.during step)) <$> MonadChannel.receive)

variable [Message α]

/-- Write a message down and send it. -/
def sendMessage (step : String) (message : α) : ExceptT Error m Unit :=
  match Message.write message with
  | .ok data => sendBytes step data
  | .error cause => throw (.serialization cause)

/-- What a received byte string says as a message. -/
def readMessage (step : String) (data : Bytes) : Except Error α :=
  (Message.read data).mapError fun reason => .protocolFormat (.unreadable step reason)

/-- Wait for a byte string and read it as a message. -/
def receiveMessage (step : String) : ExceptT Error m α := do
  readMessage step (← receiveBytes step)

end Channel

end TwoParty
