import TwoParty.Channel.Basic
import TwoParty.Pedersen.Message
import TwoParty.Proofs.Wire.Embedding
import TwoParty.Sigma.Proof
import TwoParty.Transfer.Message

/-!
# TwoParty.Proofs.Wire.Messages

Messages that always have a text and are told by it; all messages of the protocols are
of this kind.
-/

namespace TwoParty

/-- Messages whose text reads back. -/
class LawfulMessage (α : Type) [Message α] where
  text : α → Bytes
  write_eq : ∀ a, Message.write a = .ok (text a)
  read_text : ∀ a, Message.read (text a) = .ok a

instance {α : Type} [PlainRecord α] [LawfulPlainRecord α] : LawfulMessage α where
  text := Wire.writePlain
  write_eq _ := rfl
  read_text := read_writePlain

instance {α : Type} [EmbeddingRecord α] [LawfulEmbeddingRecord α] : LawfulMessage α where
  text := Wire.writeEmbedding
  write_eq _ := rfl
  read_text := read_writeEmbedding

namespace Channel

variable {α : Type} [Message α] {data : Bytes}

/-- What can be read is received. -/
theorem readMessage_of_read (step : String) {a : α} (h : Message.read data = .ok a) :
    readMessage step data = .ok a := by
  rw [readMessage, h]
  rfl

/-- What cannot be read is a protocol error that names the step. -/
theorem readMessage_of_error (step : String) {reason : Json.Error}
    (h : (Message.read data : Except _ α) = .error reason) :
    (readMessage step data : Except Error α) =
      .error (.protocolFormat (.unreadable step reason)) := by
  rw [readMessage, h]
  rfl

end Channel

/-! ## The messages of the protocols -/

instance : LawfulPlainRecord ReceiverMessage := ⟨by decide, by decide, fun _ => rfl⟩

instance : LawfulPlainRecord SenderMessage := ⟨by decide, by decide, fun _ => rfl⟩

instance : LawfulPlainRecord DlogProof := ⟨by decide, by decide, fun _ => rfl⟩

instance : LawfulPlainRecord OpeningProof := ⟨by decide, by decide, fun _ => rfl⟩

namespace Pedersen

instance : LawfulPlainRecord SetupMessage := ⟨by decide, by decide, fun _ => rfl⟩

instance : LawfulPlainRecord CommitMessage := ⟨by decide, by decide, fun _ => rfl⟩

instance : LawfulEmbeddingRecord KnowledgeMessage :=
  ⟨by decide, by decide, by decide, fun _ => rfl⟩

instance : LawfulEmbeddingRecord DecommitMessage :=
  ⟨by decide, by decide, by decide, fun _ => rfl⟩

end Pedersen

end TwoParty
