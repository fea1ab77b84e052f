import TwoParty.Group.Ristretto
import TwoParty.Group.SafePrime
import TwoParty.Group.Secp256k1

/-!
# TwoParty.Group.Choice

The groups that a session can be set up over, by name or by parameters.
-/

namespace TwoParty

/-- A choice of group. -/
inductive GroupChoice where
  | secp256k1
  | ristretto255
  | safePrime (parameters : SafePrime)

namespace GroupChoice

/-- The group that was chosen. -/
def group : GroupChoice → DlogGroup
  | .secp256k1 => Secp256k1.group
  | .ristretto255 => Ristretto.group
  | .safePrime parameters => parameters.group

/-- The modulus, in a group of residues. -/
def modulus? : GroupChoice → Option Nat
  | .safePrime parameters => some parameters.p
  | _ => none

/-- An element as a residue, in a group of residues. -/
def residue? : (c : GroupChoice) → c.group.Element → Option Nat
  | .secp256k1, _ => none
  | .ristretto255, _ => none
  | .safePrime _, e => some (id (α := Nat) e)

/-- A natural number as an exponent, unreduced, in a group of residues. -/
def exponentOfNat? : (c : GroupChoice) → Nat → Option c.group.Exponent
  | .secp256k1, _ => none
  | .ristretto255, _ => none
  | .safePrime _, n => some (id (α := Nat) n)

end GroupChoice

end TwoParty
