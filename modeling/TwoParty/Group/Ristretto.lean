import TwoParty.Group.Basic
import TwoParty.Group.Power

/-!
# TwoParty.Group.Ristretto

The group ristretto255.

A group element is a class of points on the curve
`- x ^ 2 + y ^ 2 = 1 + d x ^ 2 y ^ 2`; it is kept as the number that its
canonical encoding spells, so equal elements are equal values.  Operations go
through a point of the class in extended coordinates.
-/

namespace TwoParty

namespace Ristretto

/-- The field prime `2 ^ 255 - 19`. -/
def prime : Nat := 0x7FFFFFFFFFFFFFFFFFFFFFFFFFFFFFFFFFFFFFFFFFFFFFFFFFFFFFFFFFFFFFED

/-- The order of the group. -/
def order : Nat := 0x1000000000000000000000000000000014DEF9DEA2F79CD65812631A5CF5D3ED

instance : @NeZero Nat Zero.ofOfNat0 prime := ⟨by decide⟩

instance : @NeZero Nat Zero.ofOfNat0 order := ⟨by decide⟩

/-- Coordinates. -/
abbrev Coordinate := Fin prime

/-- Exponents. -/
abbrev Scalar := Fin order

namespace Coordinate

/-- A coordinate is negative when its least non-negative form is odd. -/
def isNegative (x : Coordinate) : Bool := x.val % 2 = 1

/-- The one of `x` and `-x` that is not negative. -/
def nonNegative (x : Coordinate) : Coordinate := if isNegative x then -x else x

def power (x : Coordinate) (e : Nat) : Coordinate := powBits (· * ·) 1 x (bits e)

/-- The constant `d` of the curve. -/
def d : Coordinate := 37095705934669439343138083508754565189542113879843219016388785533085940283555

/-- A square root of minus one. -/
def rootOfMinusOne : Coordinate :=
  19681161376707505956807079304988542015446066515923890162744021073123829784752

/-- One over the square root of `- 1 - d`. -/
def inverseRootOfMinusOneMinusD : Coordinate :=
  54469307008909316920995813868745141605393597292927456921205312896311721017578

/-- The non-negative square root of `u / v` and whether there is one; otherwise the
root of `rootOfMinusOne * u / v`. -/
def rootOfRatio (u v : Coordinate) : Bool × Coordinate :=
  let v3 := v * v * v
  let v7 := v3 * v3 * v
  let r := u * v3 * power (u * v7) ((prime - 5) / 8)
  let check := v * (r * r)
  let correct := check = u
  let flipped := check = -u
  let flippedTurned := check = -u * rootOfMinusOne
  let r := if flipped ∨ flippedTurned then rootOfMinusOne * r else r
  (correct ∨ flipped, nonNegative r)

end Coordinate

open Coordinate

/-! ## Points in extended coordinates -/

/-- A point `(x / z, y / z)` with `t = x y / z`. -/
structure Extended where
  x : Coordinate
  y : Coordinate
  z : Coordinate
  t : Coordinate

def Extended.identity : Extended := ⟨0, 1, 1, 0⟩

/-- The complete addition law of the curve. -/
def Extended.add (p q : Extended) : Extended :=
  let a := (p.y - p.x) * (q.y - q.x)
  let b := (p.y + p.x) * (q.y + q.x)
  let c := p.t * (2 * d) * q.t
  let e := p.z * 2 * q.z
  ⟨(b - a) * (e - c), (e + c) * (b + a), (e - c) * (e + c), (b - a) * (b + a)⟩

/-- The number that the encoding of a point's class spells. -/
def Extended.encode (p : Extended) : Nat :=
  let u1 := (p.z + p.y) * (p.z - p.y)
  let u2 := p.x * p.y
  let inverseRoot := (rootOfRatio 1 (u1 * (u2 * u2))).2
  let den1 := inverseRoot * u1
  let den2 := inverseRoot * u2
  let zInverse := den1 * den2 * p.t
  let rotate := isNegative (p.t * zInverse)
  let x := if rotate then p.y * rootOfMinusOne else p.x
  let y := if rotate then p.x * rootOfMinusOne else p.y
  let den := if rotate then den1 * inverseRootOfMinusOneMinusD else den2
  let y := if isNegative (x * zInverse) then -y else y
  (nonNegative (den * (p.z - y))).val

/-- A point of the class whose encoding spells `s`, if there is one. -/
def Extended.decode? (s : Nat) : Option Extended :=
  if h : s < prime then
    let s : Coordinate := ⟨s, h⟩
    if isNegative s then none
    else
      let u1 := 1 - s * s
      let u2 := 1 + s * s
      let v := -(d * (u1 * u1)) - u2 * u2
      let (wasSquare, inverseRoot) := rootOfRatio 1 (v * (u2 * u2))
      let denX := inverseRoot * u2
      let denY := inverseRoot * denX * v
      let x := nonNegative (2 * s * denX)
      let y := u1 * denY
      let t := x * y
      if !wasSquare || isNegative t || y = 0 then none else some ⟨x, y, 1, t⟩
  else none

/-! ## Elements -/

/-- A group element, as the number that its encoding spells. -/
structure Element where
  code : Nat
  deriving DecidableEq, Repr

namespace Element

/-- A point of the class. -/
def toExtended (e : Element) : Extended := (Extended.decode? e.code).getD Extended.identity

def identity : Element := ⟨0⟩

/-- The standard generator. -/
def generator : Element := ⟨0x762d8de04559a6b68ddd82a56a0be3585f5100c561a984a8714ebc6a0aaef2e2⟩

def add (a b : Element) : Element := ⟨(a.toExtended.add b.toExtended).encode⟩

def power (a : Element) (e : Nat) : Element :=
  ⟨(powBits Extended.add Extended.identity a.toExtended (bits e)).encode⟩

/-- Is the element other than the identity?  A number that is no encoding is no
element. -/
def isMember (a : Element) : Bool := a ≠ identity && (Extended.decode? a.code).isSome

/-- An element from its 32-byte encoding. -/
def decode (bs : Bytes) : Except Malformed Element :=
  if bs.length ≠ 32 then .error .ristrettoLength
  else if (Extended.decode? (Bytes.natLE bs)).isSome then .ok ⟨Bytes.natLE bs⟩
  else .error .ristrettoEncoding

end Element

/-! ## The group -/

/-- A scalar that 64 bytes spell modulo the order, unless it is zero. -/
def scalarOfDraw (bs : Bytes) : Option Scalar :=
  let e := Fin.ofNat order (Bytes.natLE bs)
  if e = 0 then none else some e

/-- The group of classes. -/
def group : DlogGroup where
  Element := Element
  Exponent := Scalar
  name := "ristretto255"
  membersName := "ristretto255 group"
  order := order
  generator := Element.generator
  isMember := Element.isMember
  pow a e := a.power e.val
  mul := Element.add
  sample := ByteSource.draw 64 scalarOfDraw ByteSource.drawLimit
  neg e := -e
  add a b := a + b
  times a b := a * b
  encodeExponent e := Bytes.ofNatLE 32 e.val
  decodeExponent bs :=
    if bs.length ≠ 32 then .error .scalarLength
    else if h : Bytes.natLE bs < order then .ok ⟨Bytes.natLE bs, h⟩
    else .error .scalarNotCanonical
  exponentOfUniform bs := Fin.ofNat order (Bytes.natLE bs)
  encodeElement a := Bytes.ofNatLE 32 a.code
  decodeElement := Element.decode

end Ristretto

end TwoParty
