import TwoParty.Group.Basic
import TwoParty.Group.Power

/-!
# TwoParty.Group.Secp256k1

The curve `y ^ 2 = x ^ 3 + 7` over a prime field (secp256k1), with the SEC1
encodings of points.

Points are kept in affine form, so equal points are equal values; powers are
computed in projective form with one complete addition law that serves for
doubling and for the identity as well.
-/

namespace TwoParty

namespace Secp256k1

/-- The field prime. -/
def prime : Nat := 0xFFFFFFFFFFFFFFFFFFFFFFFFFFFFFFFFFFFFFFFFFFFFFFFFFFFFFFFEFFFFFC2F

/-- The order of the group. -/
def order : Nat := 0xFFFFFFFFFFFFFFFFFFFFFFFFFFFFFFFEBAAEDCE6AF48A03BBFD25E8CD0364141

instance : @NeZero Nat Zero.ofOfNat0 prime := ⟨by decide⟩

instance : @NeZero Nat Zero.ofOfNat0 order := ⟨by decide⟩

/-- Coordinates. -/
abbrev Coordinate := Fin prime

/-- Exponents. -/
abbrev Scalar := Fin order

/-- A power of a coordinate. -/
def Coordinate.power (x : Coordinate) (e : Nat) : Coordinate := powBits (· * ·) 1 x (bits e)

/-- The inverse of a coordinate; zero has none and stays zero. -/
def Coordinate.inverse (x : Coordinate) : Coordinate := Coordinate.power x (prime - 2)

/-- A square root of a coordinate, if it has one. -/
def Coordinate.root? (x : Coordinate) : Option Coordinate :=
  let r := Coordinate.power x ((prime + 1) / 4)
  if r * r = x then some r else none

/-! ## Points -/

/-- A point of the curve. -/
inductive Point where
  | identity
  | affine (x y : Coordinate)
  deriving DecidableEq, Repr

/-- A point up to a common factor of its coordinates; the identity has `z = 0`. -/
structure Projective where
  x : Coordinate
  y : Coordinate
  z : Coordinate

def Point.toProjective : Point → Projective
  | .identity => ⟨0, 1, 0⟩
  | .affine x y => ⟨x, y, 1⟩

def Projective.toPoint (p : Projective) : Point :=
  if p.z = 0 then .identity
  else
    let i := Coordinate.inverse p.z
    .affine (p.x * i) (p.y * i)

/-- The complete addition law for a curve with `a = 0` and `3 b = 21`. -/
def Projective.add (p q : Projective) : Projective :=
  let xx := p.x * q.x
  let yy := p.y * q.y
  let zz := 21 * (p.z * q.z)
  let xy := (p.x + p.y) * (q.x + q.y) - (xx + yy)
  let yz := (p.y + p.z) * (q.y + q.z) - (yy + p.z * q.z)
  let xz := 21 * ((p.x + p.z) * (q.x + q.z) - (xx + p.z * q.z))
  let xxx := xx + xx + xx
  let sum := yy + zz
  let diff := yy - zz
  ⟨xy * diff - yz * xz, xz * xxx + diff * sum, sum * yz + xxx * xy⟩

namespace Point

def add (p q : Point) : Point := (p.toProjective.add q.toProjective).toPoint

def power (p : Point) (e : Nat) : Point :=
  (powBits Projective.add ⟨0, 1, 0⟩ p.toProjective (bits e)).toPoint

/-- Is the point other than the identity?  Coordinates off the curve are no point. -/
def isMember : Point → Bool
  | .identity => false
  | .affine x y => y * y = x * x * x + 7

/-- The standard generator. -/
def generator : Point :=
  .affine 0x79BE667EF9DCBBAC55A06295CE870B07029BFCDB2DCE28D959F2815B16F81798
    0x483ADA7726A3C4655DA4FBFC0E1108A8FD17B448A68554199C47D08FFB10D4B8

/-! ## Encodings -/

/-- One byte for the identity; otherwise the parity of `y` and then `x`. -/
def encode : Point → Bytes
  | .identity => [0]
  | .affine x y => UInt8.ofNat (2 + y.val % 2) :: Bytes.ofNatBE 32 x.val

/-- A coordinate from 32 bytes, if it is below the field prime. -/
def coordinate? (bs : Bytes) : Option Coordinate :=
  if h : Bytes.natBE bs < prime then some ⟨Bytes.natBE bs, h⟩ else none

/-- The point with this `x` whose `y` has the wanted parity. -/
def lift? (odd : Bool) (x : Coordinate) : Option Point :=
  (Coordinate.root? (x * x * x + 7)).map fun y =>
    .affine x (if (y.val % 2 = 1) = odd then y else -y)

/-- The point with these coordinates, if it is on the curve. -/
def onCurve? (x y : Coordinate) : Option Point :=
  if y * y = x * x * x + 7 then some (.affine x y) else none

/-- The point that a body of coordinates spells under a tag; `none` for a point that
is not on the curve.  A tag of 5 stands for an even `y`. -/
def ofBody (tag : UInt8) (body : Bytes) : Option Point :=
  if tag = 0 then some .identity
  else if tag = 4 then do
    let x ← coordinate? (body.take 32)
    let y ← coordinate? (body.drop 32)
    onCurve? x y
  else do
    let x ← coordinate? body
    lift? (tag = 3) x

/-- The length of the body that follows a tag. -/
def bodyLength? (tag : UInt8) : Option Nat :=
  if tag = 0 then some 0
  else if tag = 2 || tag = 3 || tag = 5 then some 32
  else if tag = 4 then some 64
  else none

/-- A point from any of its encodings. -/
def decode : Bytes → Except Malformed Point
  | [] => .error .sec1Encoding
  | tag :: body =>
    if bodyLength? tag = some body.length then
      match ofBody tag body with
      | some p => .ok p
      | none => .error .pointOffCurve
    else .error .sec1Encoding

end Point

/-! ## The group -/

/-- A scalar that 32 bytes spell, unless it is zero or not below the order. -/
def scalarOfDraw (bs : Bytes) : Option Scalar :=
  let n := Bytes.natBE bs
  if h : n < order then if n = 0 then none else some ⟨n, h⟩ else none

/-- The group of the curve. -/
def group : DlogGroup where
  Element := Point
  Exponent := Scalar
  name := "secp256k1"
  membersName := "secp256k1 group"
  order := order
  generator := Point.generator
  isMember := Point.isMember
  pow p e := p.power e.val
  mul := Point.add
  sample := ByteSource.draw 32 scalarOfDraw ByteSource.drawLimit
  neg e := -e
  add a b := a + b
  times a b := a * b
  encodeExponent e := Bytes.ofNatBE 32 e.val
  decodeExponent bs :=
    if bs.length ≠ 32 then .error .scalarLength
    else if h : Bytes.natBE bs < order then .ok ⟨Bytes.natBE bs, h⟩
    else .error .scalarNotReduced
  exponentOfUniform bs := Fin.ofNat order (Bytes.natBE (bs.take 32))
  encodeElement := Point.encode
  decodeElement := Point.decode

end Secp256k1

end TwoParty
