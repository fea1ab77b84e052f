import TwoParty.Error
import TwoParty.Random

/-!
# TwoParty.Group.Basic

Groups in which the protocols run: cyclic, of known prime order, with a fixed
generator, and with byte encodings of elements and exponents.

A member is an element other than the identity.  The identity decodes like any
other element, but it is never a valid protocol value, so whatever comes from
the peer goes through `DlogGroup.member`.
-/

namespace TwoParty

/-- A cyclic group with its exponents and encodings. -/
structure DlogGroup where
  Element : Type
  Exponent : Type
  [decEqElement : DecidableEq Element]
  [decEqExponent : DecidableEq Exponent]
  /-- The name that messages and proofs carry. -/
  name : String
  /-- How the error of a validated decoding names the members. -/
  membersName : String
  order : Nat
  generator : Element
  /-- Is the element a non-identity member of the group? -/
  isMember : Element → Bool
  pow : Element → Exponent → Element
  mul : Element → Element → Element
  /-- A uniform exponent between one and the order less one, if the source has one in
  reach. -/
  sample : ByteSource → Option (Exponent × ByteSource)
  /-- The exponent of the inverse. -/
  neg : Exponent → Exponent
  add : Exponent → Exponent → Exponent
  times : Exponent → Exponent → Exponent
  encodeExponent : Exponent → Bytes
  decodeExponent : Bytes → Except Malformed Exponent
  /-- The exponent of 64 uniform bytes. -/
  exponentOfUniform : Bytes → Exponent
  encodeElement : Element → Bytes
  /-- An element from its encoding, which may be the identity or, in some groups, no
  member at all. -/
  decodeElement : Bytes → Except Malformed Element

namespace DlogGroup

instance (G : DlogGroup) : DecidableEq G.Element := G.decEqElement

instance (G : DlogGroup) : DecidableEq G.Exponent := G.decEqExponent

variable (G : DlogGroup)

/-- A power of the generator. -/
def gpow (e : G.Exponent) : G.Element := G.pow G.generator e

/-- A random generator: in a group of prime order every member is one. -/
def sampleGenerator (s : ByteSource) : Option (G.Element × ByteSource) :=
  (G.sample s).map fun (e, s) => (G.gpow e, s)

/-- An element from its encoding; with `validate` it has to be a member. -/
def element (validate : Bool) (bs : Bytes) : Except Error G.Element :=
  match G.decodeElement bs with
  | .error reason => .error (.protocolFormat reason)
  | .ok e =>
    if validate && !G.isMember e then .error (.cheatAttempt (.nonMember G.membersName)) else .ok e

/-- A member from the encoding that the peer sent as `field`. -/
def member (field : String) (bs : Bytes) : Except Error G.Element :=
  match G.decodeElement bs with
  | .error reason => .error (.cheatAttempt (.undecodable field G.name reason))
  | .ok e =>
    if G.isMember e then .ok e else .error (.cheatAttempt (.outsideGroup field G.name))

/-- An exponent from its encoding. -/
def exponent (bs : Bytes) : Except Error G.Exponent :=
  (G.decodeExponent bs).mapError .protocolFormat

end DlogGroup

end TwoParty
