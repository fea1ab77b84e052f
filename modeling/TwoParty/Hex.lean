import TwoParty.Bytes
import TwoParty.Text.Quoted

/-!
# TwoParty.Hex

Hexadecimal text: two digits a byte, written in lower case and read in either
case.  `decode_encode` is the round trip.
-/

namespace TwoParty

namespace Hex

/-- Why a text is not hexadecimal. -/
inductive Error where
  /-- The text has an odd number of bytes. -/
  | oddLength
  /-- The byte `byte` at `position` is no hexadecimal digit. -/
  | badDigit (byte : UInt8) (position : Nat)
  deriving DecidableEq, Repr

/-- The wording of an error; a byte is shown as the character of that code. -/
def Error.message : Error → String
  | .oddLength => "Odd number of digits"
  | .badDigit byte position =>
    let character := Text.quotedChar (Char.ofNat byte.toNat)
    s!"Invalid character {character} at position {position}"

/-! ## Digits -/

/-- The lower-case digit of a value below sixteen. -/
def digit (n : Nat) : UInt8 :=
  if n < 10 then UInt8.ofNat (48 + n) else UInt8.ofNat (87 + n)

/-- The value of a digit in either case. -/
def value? (b : UInt8) : Option Nat :=
  if 48 ≤ b && b ≤ 57 then some (b.toNat - 48)
  else if 97 ≤ b && b ≤ 102 then some (b.toNat - 87)
  else if 65 ≤ b && b ≤ 70 then some (b.toNat - 55)
  else none

theorem value?_digit : ∀ n < 16, value? (digit n) = some n := by decide

/-! ## Strings of digits -/

/-- Two digits for each byte. -/
def encode : Bytes → Bytes
  | [] => []
  | b :: bs => digit (b.toNat / 16) :: digit (b.toNat % 16) :: encode bs

/-- Read pairs of digits, the first of them standing at `position`. -/
def decodeFrom (position : Nat) : Bytes → Except Error Bytes
  | [] => .ok []
  | [_] => .error .oddLength
  | h :: l :: rest =>
    match value? h, value? l with
    | some hi, some lo => (decodeFrom (position + 2) rest).map (UInt8.ofNat (16 * hi + lo) :: ·)
    | some _, none => .error (.badDigit l (position + 1))
    | none, _ => .error (.badDigit h position)

/-- Read a text of digits.  An odd length is reported before any bad digit. -/
def decode (text : Bytes) : Except Error Bytes :=
  if text.length % 2 = 1 then .error .oddLength else decodeFrom 0 text

theorem length_encode (bs : Bytes) : (encode bs).length = 2 * bs.length := by
  induction bs with
  | nil => rfl
  | cons b bs ih => simp only [encode, List.length_cons, ih]; omega

theorem decodeFrom_encode (position : Nat) (bs : Bytes) :
    decodeFrom position (encode bs) = .ok bs := by
  induction bs generalizing position with
  | nil => rfl
  | cons b bs ih =>
    have hb : b.toNat < 256 := b.toNat_lt
    have hv : UInt8.ofNat (16 * (b.toNat / 16) + b.toNat % 16) = b := by
      rw [Nat.div_add_mod]; simp
    simp [encode, decodeFrom, value?_digit (b.toNat / 16) (by omega),
      value?_digit (b.toNat % 16) (by omega), ih, Except.map, hv]

/-- Reading what was written. -/
theorem decode_encode (bs : Bytes) : decode (encode bs) = .ok bs := by
  have h : (encode bs).length % 2 ≠ 1 := by rw [length_encode]; omega
  simp [decode, h, decodeFrom_encode]

/-- The digits of a byte string as a text. -/
def text (bs : Bytes) : String := String.ofList ((encode bs).map fun b => Char.ofNat b.toNat)

end Hex

end TwoParty
