/-!
# TwoParty.Decimal.Shortest

The fewest decimal digits that read back as a given binary floating-point
number, found by exact integer arithmetic: on the grids of 1, 2, … 17
significant digits the two neighbours of the number are tried, and the first
grid with a neighbour that rounds to the number wins.
-/

namespace TwoParty

namespace Decimal

/-- A positive binary number `mantissa * 2 ^ exponent` with its rounding interval:
below a power of two the numbers lie twice as dense (`denseBelow`). -/
structure Binary where
  mantissa : Nat
  exponent : Int
  denseBelow : Bool

/-- A decimal number `digits * 10 ^ exponent`. -/
structure Digits where
  digits : Nat
  exponent : Int

/-- The finite double with these bits, its sign left out; `none` for zero. -/
def Binary.ofBits (bits : UInt64) : Option Binary :=
  let fraction := (bits &&& 0xFFFFFFFFFFFFF).toNat
  let biased := ((bits >>> 52) &&& 0x7FF).toNat
  if biased = 0 then
    if fraction = 0 then none else some ⟨fraction, -1074, false⟩
  else some ⟨0x10000000000000 + fraction, (biased : Int) - 1075, decide (fraction = 0 ∧ 1 < biased)⟩

/-- A one with so many zeros behind it. -/
def oneWithZeros : Nat → Nat
  | 0 => 1
  | n + 1 => 10 * oneWithZeros n

/-- `10 ^ k` as a numerator over a denominator. -/
def powTen (k : Int) : Nat × Nat :=
  if 0 ≤ k then (oneWithZeros k.toNat, 1) else (1, oneWithZeros (-k).toNat)

/-- `2 ^ k` as a numerator over a denominator. -/
def powTwo (k : Int) : Nat × Nat := if 0 ≤ k then (1 <<< k.toNat, 1) else (1, 1 <<< (-k).toNat)

/-- Does `d * 10 ^ k` round to `b`?  The ends of the interval do when the mantissa is
even. -/
def Binary.reads (b : Binary) (d : Nat) (k : Int) : Bool :=
  let (tn, td) := powTen k
  let (bn, bd) := powTwo (b.exponent - 2)
  let x := d * tn * bd
  let unit := bn * td
  let low := (4 * b.mantissa - if b.denseBelow then 1 else 2) * unit
  let high := (4 * b.mantissa + 2) * unit
  if b.mantissa % 2 = 0 then low ≤ x && x ≤ high else low < x && x < high

/-- The neighbours of `b` on the grid of multiples of `10 ^ k`, the nearer one first;
of two equally near the even one. -/
def Binary.neighbours (b : Binary) (k : Int) : List Nat :=
  let (tn, td) := powTen k
  let (bn, bd) := powTwo b.exponent
  let num := b.mantissa * bn * td
  let den := bd * tn
  let down := num / den
  let rest := 2 * (num % den)
  if rest < den || (rest = den && down % 2 = 0) then [down, down + 1] else [down + 1, down]

/-- The exponent of the leading digit of `b`, starting from an estimate from below. -/
def Binary.leading (b : Binary) : Nat → Int → Int
  | 0, k => k
  | fuel + 1, k =>
    let (tn, td) := powTen (k + 1)
    let (bn, bd) := powTwo b.exponent
    if tn * bd ≤ b.mantissa * bn * td then b.leading fuel (k + 1) else k

/-- The first grid, of `n` digits and finer, with a neighbour that reads back. -/
def Binary.search (b : Binary) (lead : Int) : (left n : Nat) → Digits
  | 0, n => ⟨(b.neighbours (lead + 1 - n)).headD 0, lead + 1 - n⟩
  | left + 1, n =>
    let k := lead + 1 - n
    match (b.neighbours k).find? (b.reads · k) with
    | some d => ⟨d, k⟩
    | none => b.search lead left (n + 1)

/-- Drop trailing zeros. -/
def Digits.normalize : Nat → Digits → Digits
  | 0, d => d
  | fuel + 1, d =>
    if d.digits ≠ 0 && d.digits % 10 = 0 then normalize fuel ⟨d.digits / 10, d.exponent + 1⟩ else d

/-- The shortest decimal number that reads back as `b`. -/
def Binary.shortest (b : Binary) : Digits :=
  let estimate := (b.exponent + Nat.log2 b.mantissa) * 30103 / 100000 - 1
  (b.search (b.leading 4 estimate) 16 1).normalize 20

end Decimal

end TwoParty
