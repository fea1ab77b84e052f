import TwoParty.Error

/-!
# TwoParty.CoinToss.Config

The length of a coin toss, on which both parties have to agree beforehand, and
the combination of the two shares.
-/

namespace TwoParty

/-- The length of a toss: a positive number of whole bytes. -/
structure TossConfig where
  bits : Nat
  pos : 0 < bits := by decide
  whole : bits % 8 = 0 := by decide

namespace TossConfig

/-- The length of a toss in bits, if it is a positive number of whole bytes. -/
def ofBits (bits : Nat) : Except Error TossConfig :=
  if h : bits = 0 then .error (.invalidInput .tossLengthZero)
  else if w : bits % 8 = 0 then .ok ⟨bits, Nat.pos_of_ne_zero h, w⟩
  else .error (.invalidInput (.tossLengthNotBytes bits))

/-- The length that is used if none is given. -/
def standard : TossConfig := { bits := 128 }

/-- The length in bytes. -/
def bytes (c : TossConfig) : Nat := c.bits / 8

end TossConfig

/-- A jointly generated random string. -/
structure TossOutput where
  bytes : Bytes
  deriving DecidableEq, Repr

namespace TossOutput

/-- The exclusive or of two shares of equal lengths. -/
def combine (s1 s2 : Bytes) : Except Error TossOutput :=
  if s1.length ≠ s2.length then .error (.invalidInput (.unequalShares s1.length s2.length))
  else .ok ⟨Bytes.xorPad s1 s2⟩

/-- The number of bytes. -/
def length (o : TossOutput) : Nat := o.bytes.length

/-- Are there no bytes? -/
def isEmpty (o : TossOutput) : Bool := o.bytes.isEmpty

end TossOutput

end TwoParty
