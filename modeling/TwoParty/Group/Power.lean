import TwoParty.Bytes

/-!
# TwoParty.Group.Power

Powers by squaring: the bits of the exponent are read from the top, squaring at
every bit and multiplying where it is set.  Any associative operation will do,
so the same definition raises residues, field elements and curve points.
-/

namespace TwoParty

/-- The binary digits of `n`, most significant first; zero has none. -/
def bits (n : Nat) : List Bool := (List.range (Bytes.bitLength n)).reverse.map n.testBit

/-- `base` to the power that `digits` spell, `one` being the empty power. -/
def powBits {α : Type} (mul : α → α → α) (one base : α) (digits : List Bool) : α :=
  digits.foldl (fun acc digit =>
    let square := mul acc acc
    if digit then mul square base else square) one

/-- `b ^ e` modulo `m`. -/
def powMod (b e m : Nat) : Nat :=
  powBits (fun x y => x * y % m) (1 % m) (b % m) (bits e)

end TwoParty
