import TwoParty.Wire.Record

/-!
# TwoParty.Transfer.Message

The two messages of an oblivious transfer, and the bytes that a proof about the
first one is bound to.
-/

namespace TwoParty

open Wire

/-- From the receiver: `a = g ^ α`, `b = g ^ β`, and the pair `z₀`, `z₁` of which
one is `g ^ (α β)`. -/
structure ReceiverMessage where
  a : Bytes
  b : Bytes
  z0 : Bytes
  z1 : Bytes
  deriving DecidableEq, Repr

/-- From the sender: for each input the key material `w` and the ciphertext `c`. -/
structure SenderMessage where
  w0 : Bytes
  w1 : Bytes
  c0 : Bytes
  c1 : Bytes
  deriving DecidableEq, Repr

instance : PlainRecord ReceiverMessage where
  name := "OtReceiverMessage"
  fields := [hexField "a", hexField "b", hexField "z0", hexField "z1"]
  toRecord m := .cons m.a (.cons m.b (.cons m.z0 (.cons m.z1 .nil)))
  ofRecord
    | .cons a (.cons b (.cons z0 (.cons z1 .nil))) => ⟨a, b, z0, z1⟩

instance : PlainRecord SenderMessage where
  name := "OtSenderMessage"
  fields := [hexField "w0", hexField "w1", hexField "c0", hexField "c1"]
  toRecord m := .cons m.w0 (.cons m.w1 (.cons m.c0 (.cons m.c1 .nil)))
  ofRecord
    | .cons w0 (.cons w1 (.cons c0 (.cons c1 .nil))) => ⟨w0, w1, c0, c1⟩

/-- A byte string behind its length. -/
def framed (part : Bytes) : Bytes := Bytes.word32BE part.length ++ part

/-- What a proof about `a` is bound to: the rest of the message. -/
def ReceiverMessage.proofContext (m : ReceiverMessage) : Bytes :=
  Bytes.ofText "twopc-ot-receiver" ++ framed m.b ++ framed m.z0 ++ framed m.z1

end TwoParty
