/-!
# TwoParty.Hash.Keccak

The permutation Keccak-f[1600] on twenty-five 64-bit lanes.  Lane
`(x, y)` stands at index `x + 5 * y`.
-/

namespace TwoParty

namespace Keccak

/-- Twenty-five lanes. -/
abbrev Lanes := Array UInt64

/-- The lane at column `x` and row `y`, both taken modulo five. -/
def lane (a : Lanes) (x y : Nat) : UInt64 := a.getD (x % 5 + 5 * (y % 5)) 0

/-- The lanes given by their columns and rows. -/
def ofCoordinates (f : Nat → Nat → UInt64) : Lanes :=
  (Array.range 25).map fun i => f (i % 5) (i / 5)

def rotateLeft (x : UInt64) (n : UInt64) : UInt64 :=
  if n = 0 then x else (x <<< n) ||| (x >>> (64 - n))

/-- Every lane takes in the parities of two neighbouring columns. -/
def theta (a : Lanes) : Lanes :=
  let parity := (Array.range 5).map fun x =>
    lane a x 0 ^^^ lane a x 1 ^^^ lane a x 2 ^^^ lane a x 3 ^^^ lane a x 4
  let mixed := (Array.range 5).map fun x =>
    parity.getD ((x + 4) % 5) 0 ^^^ rotateLeft (parity.getD ((x + 1) % 5) 0) 1
  ofCoordinates fun x y => lane a x y ^^^ mixed.getD x 0

/-- The rotation of each lane, by index. -/
def rotations : Array UInt64 :=
  #[0, 1, 62, 28, 27,
    36, 44, 6, 55, 20,
    3, 10, 43, 25, 39,
    41, 45, 15, 21, 8,
    18, 2, 61, 56, 14]

/-- Every lane turns by its rotation. -/
def rho (a : Lanes) : Lanes :=
  ofCoordinates fun x y => rotateLeft (lane a x y) (rotations.getD (x + 5 * y) 0)

/-- Lanes trade places. -/
def pi (a : Lanes) : Lanes :=
  ofCoordinates fun x y => lane a (x + 3 * y) x

/-- The non-linear step along each row. -/
def chi (a : Lanes) : Lanes :=
  ofCoordinates fun x y => lane a x y ^^^ (~~~(lane a (x + 1) y) &&& lane a (x + 2) y)

/-- The constants of the twenty-four rounds. -/
def roundConstants : List UInt64 :=
  [ 0x0000000000000001, 0x0000000000008082, 0x800000000000808a, 0x8000000080008000,
    0x000000000000808b, 0x0000000080000001, 0x8000000080008081, 0x8000000000008009,
    0x000000000000008a, 0x0000000000000088, 0x0000000080008009, 0x000000008000000a,
    0x000000008000808b, 0x800000000000008b, 0x8000000000008089, 0x8000000000008003,
    0x8000000000008002, 0x8000000000000080, 0x000000000000800a, 0x800000008000000a,
    0x8000000080008081, 0x8000000000008080, 0x0000000080000001, 0x8000000080008008 ]

def round (a : Lanes) (constant : UInt64) : Lanes :=
  (chi (pi (rho (theta a)))).modify 0 (· ^^^ constant)

/-- Keccak-f[1600]. -/
def permute (a : Lanes) : Lanes := roundConstants.foldl round a

end Keccak

end TwoParty
