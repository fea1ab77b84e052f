/-!
# TwoParty.Decimal.Read

Reading decimal numbers: at least one digit, after an optional sign.
-/

namespace TwoParty

namespace Decimal

/-- The value of a digit. -/
def digit? (c : Char) : Option Nat :=
  if '0' ≤ c && c ≤ '9' then some (c.toNat - '0'.toNat) else none

/-- The number that digits spell behind the digits of `n`. -/
def digitsAfter (n : Nat) : List Char → Option Nat
  | [] => some n
  | c :: cs =>
    match digit? c with
    | some d => digitsAfter (10 * n + d) cs
    | none => none

/-- The number that one or more digits spell. -/
def digits? : List Char → Option Nat
  | [] => none
  | cs => digitsAfter 0 cs

/-- A natural number up to `max`; a plus sign may stand in front. -/
def natural? (max : Nat) (s : String) : Option Nat :=
  let digits := match s.toList with
    | '+' :: cs => cs
    | cs => cs
  (digits? digits).filter (· ≤ max)

/-- A natural number up to `max`; a sign may stand in front, the minus sign only in
front of zero. -/
def signedNatural? (max : Nat) (s : String) : Option Nat :=
  match s.toList with
  | '-' :: cs => (digits? cs).filter (· = 0)
  | _ => natural? max s

end Decimal

end TwoParty
