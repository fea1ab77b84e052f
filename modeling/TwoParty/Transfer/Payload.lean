import TwoParty.Group.Basic
import TwoParty.Kdf

/-!
# TwoParty.Transfer.Payload

What a transfer can carry.  A payload decides how a key masks an input and how
the receiver, who knows `w` and `β` with `key = w ^ β`, takes the mask off.
-/

namespace TwoParty

/-- A kind of inputs and the way to mask them. -/
structure Payload (G : DlogGroup) where
  Input : Type
  /-- A decoded ciphertext. -/
  Ciphertext : Type
  name : String
  /-- Check both inputs before anything is sent. -/
  validate : (x0 x1 : Input) → Except Error Unit
  /-- The encoded ciphertext of an input. -/
  mask : (key : G.Element) → Input → Except Error Bytes
  /-- Decode and check both ciphertexts. -/
  decode : (c0 c1 : Bytes) → Except Error (Ciphertext × Ciphertext)
  /-- Recover an input. -/
  unmask : (w : G.Element) → (beta : G.Exponent) → Ciphertext → Except Error Input

namespace Payload

/-! ## Group elements -/

/-- A member as an input; others are refused by name. -/
def checkInput (G : DlogGroup) (name : String) (x : G.Element) : Except Error Unit :=
  if G.isMember x then .ok () else .error (.invalidInput (.inputOutsideGroup name G.name))

/-- Members of the group, multiplied by the key. -/
def groupElement (G : DlogGroup) : Payload G where
  Input := G.Element
  Ciphertext := G.Element
  name := "group-element"
  validate x0 x1 := do
    checkInput G "x0" x0
    checkInput G "x1" x1
  mask key x := .ok (G.encodeElement (G.mul x key))
  decode c0 c1 := do
    let e0 ← G.member "c0" c0
    let e1 ← G.member "c1" c1
    return (e0, e1)
  unmask w beta c := .ok (G.mul c (G.pow w (G.neg beta)))

/-! ## Byte strings -/

/-- The pad that a key gives. -/
def pad (G : DlogGroup) (kdf : Kdf) (key : G.Element) (length : Nat) : Except Error Bytes :=
  kdf.derive (G.encodeElement key) length

/-- The check of a pair of ciphertexts: an honest sender never makes one that is longer
than its pad. -/
def checkCiphertexts (kdf : Kdf) (c0 c1 : Bytes) : Except Error Unit :=
  if c0.length ≠ c1.length then
    .error (.protocolFormat (.unequalCiphertexts c0.length c1.length))
  else match kdf.check c0.length with
    | .error (.invalidInput reason) => .error (.protocolFormat (.ciphertextRejected reason))
    | r => r

/-- Byte strings of equal lengths, covered by a pad derived from the key. -/
def byteArray (G : DlogGroup) (kdf : Kdf) : Payload G where
  Input := Bytes
  Ciphertext := Bytes
  name := "byte-array"
  validate x0 x1 :=
    if x0.length ≠ x1.length then .error (.invalidInput (.unequalInputs x0.length x1.length))
    else kdf.check x0.length
  mask key x := return Bytes.xorPad x (← pad G kdf key x.length)
  decode c0 c1 := (checkCiphertexts kdf c0 c1).map fun _ => (c0, c1)
  unmask w beta c := return Bytes.xorPad c (← pad G kdf (G.pow w beta) c.length)

end Payload

end TwoParty
