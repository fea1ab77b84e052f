import TwoParty.Decimal.Shortest

/-!
# TwoParty.Decimal.Text

The text of a double: its shortest digits, positional while the leading digit
stands between the fifth place after the point and the sixteenth before it, and
with a signed exponent otherwise.
-/

namespace TwoParty

namespace Decimal

/-- The least and the greatest exponent of the leading digit that is written
positionally. -/
def positionalRange : Int × Int := (-5, 15)

/-- The decimal digits of a number as a text. -/
def digitText (n : Nat) : String := String.ofList (Nat.toDigits 10 n)

/-- `n` zeros. -/
def zeros (n : Nat) : String := String.ofList (List.replicate n '0')

/-- The text of `d`, which has no trailing zero digits. -/
def Digits.text (d : Digits) : String :=
  let ds := Nat.toDigits 10 d.digits
  let lead : Int := d.exponent + ds.length - 1
  if positionalRange.1 ≤ lead ∧ lead ≤ positionalRange.2 then
    if 0 ≤ d.exponent then digitText d.digits ++ zeros d.exponent.toNat ++ ".0"
    else if 0 ≤ lead then
      let whole := (lead + 1).toNat
      String.ofList (ds.take whole) ++ "." ++ String.ofList (ds.drop whole)
    else "0." ++ zeros (-lead - 1).toNat ++ digitText d.digits
  else
    let point := if ds.length = 1 then "" else "."
    let sign := if 0 ≤ lead then "+" else "-"
    String.ofList (ds.take 1) ++ point ++ String.ofList (ds.drop 1) ++ "e" ++ sign
      ++ digitText lead.natAbs

/-- The text of a finite double. -/
def floatText (x : Float) : String :=
  let bits := x.toBits
  let sign := if bits ≥ 0x8000000000000000 then "-" else ""
  match Binary.ofBits bits with
  | none => sign ++ "0.0"
  | some b => sign ++ b.shortest.text

end Decimal

end TwoParty
