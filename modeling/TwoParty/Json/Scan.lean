import TwoParty.Json.Error
import TwoParty.Text.Utf8

/-!
# TwoParty.Json.Scan

The tokens of JSON, read off the front of a byte string: blanks, the words
`null`, `true` and `false`, strings with their escapes, and numbers.

A scanner returns what it read and the bytes that follow.
-/

namespace TwoParty

namespace Json

/-- Reading something off the front of a byte string. -/
abbrev Scan (α : Type) := Bytes → Except Error (α × Bytes)

/-! ## Blanks and words -/

def isBlank (b : UInt8) : Bool := b = 0x20 || b = 0x0a || b = 0x09 || b = 0x0d

/-- The rest after any blanks. -/
def skipBlanks : Bytes → Bytes
  | [] => []
  | b :: rest => if isBlank b then skipBlanks rest else b :: rest

/-- The rest after the given letters. -/
def word : (letters : Bytes) → Bytes → Except Error Bytes
  | [], rest => .ok rest
  | _ :: _, [] => .error .endOfValue
  | l :: letters, b :: rest => if b = l then word letters rest else .error .expectedWord

/-- The rest of `null`, `true` or `false` after its first letter. -/
def wordAfter : (first : UInt8) → Bytes
  | 0x6e => [0x75, 0x6c, 0x6c]
  | 0x74 => [0x72, 0x75, 0x65]
  | _ => [0x61, 0x6c, 0x73, 0x65]

/-! ## Strings -/

/-- Four hexadecimal digits. -/
def fourDigits : Bytes → Except Error Nat
  | a :: b :: c :: d :: _ =>
    match Hex.value? a, Hex.value? b, Hex.value? c, Hex.value? d with
    | some a, some b, some c, some d => .ok (a * 4096 + b * 256 + c * 16 + d)
    | _, _, _, _ => .error .invalidEscape
  | _ => .error .endOfString

/-- Is `code` the first half of a surrogate pair? -/
def isLeading (code : Nat) : Bool := 0xd800 ≤ code && code ≤ 0xdbff

/-- Is `code` the second half of a surrogate pair? -/
def isTrailing (code : Nat) : Bool := 0xdc00 ≤ code && code ≤ 0xdfff

/-- The UTF-8 form of a code point. -/
def codePoint (code : Nat) : Bytes := String.utf8EncodeChar (Char.ofNat code)

/-- What `\u` stands for, given the text after the `u`: the bytes of a character,
and how many bytes of the text spell it. -/
def unicodeEscape (s : Bytes) : Except Error (Bytes × Nat) := do
  let first ← fourDigits s
  if isTrailing first then throw .loneSurrogate
  if !isLeading first then return (codePoint first, 4)
  match s.drop 4 with
  | [] => throw .endOfString
  | b :: rest =>
    if b ≠ 0x5c then throw .endOfHexEscape
    match rest with
    | [] => throw .endOfString
    | c :: rest =>
      if c ≠ 0x75 then throw .endOfHexEscape
      let second ← fourDigits rest
      if !isTrailing second then throw .loneSurrogate
      return (codePoint (0x10000 + (first - 0xd800) * 0x400 + (second - 0xdc00)), 10)

/-- The character that a one-letter escape stands for. -/
def shortEscape? (letter : UInt8) : Option UInt8 :=
  if letter = 0x22 || letter = 0x5c || letter = 0x2f then some letter
  else if letter = 0x62 then some 0x08
  else if letter = 0x66 then some 0x0c
  else if letter = 0x6e then some 0x0a
  else if letter = 0x72 then some 0x0d
  else if letter = 0x74 then some 0x09
  else none

/-- What a backslash stands for, given the text after it: the bytes of a character,
and how many bytes of the text spell it. -/
def escape : Bytes → Except Error (Bytes × Nat)
  | [] => .error .endOfString
  | letter :: rest =>
    match shortEscape? letter with
    | some b => .ok ([b], 1)
    | none =>
      if letter = 0x75 then (unicodeEscape rest).map fun (bs, used) => (bs, used + 1)
      else .error .invalidEscape

/-- The bytes of a string up to its closing quote, with escapes replaced. -/
def rawString : Scan Bytes
  | [] => .error .endOfString
  | b :: rest =>
    if b = 0x22 then .ok ([], rest)
    else if b = 0x5c then
      match escape rest with
      | .error e => .error e
      | .ok (bs, used) => (rawString (rest.drop used)).map fun (tail, rest) => (bs ++ tail, rest)
    else if b < 0x20 then .error .controlCharacter
    else (rawString rest).map fun (tail, rest) => (b :: tail, rest)
termination_by s => s.length
decreasing_by all_goals simp only [List.length_drop, List.length_cons]; omega

/-- A string up to its closing quote; its bytes have to be UTF-8. -/
def readString : Scan Bytes := fun s => do
  let (bs, rest) ← rawString s
  if (Utf8.decode? bs).isSome then return (bs, rest) else throw .invalidCodePoint

/-- As `rawString`, but nothing is kept and any four digits may follow `\u`. -/
def skipString : Bytes → Except Error Bytes
  | [] => .error .endOfString
  | b :: rest =>
    if b = 0x22 then .ok rest
    else if b = 0x5c then
      match rest with
      | [] => .error .endOfString
      | letter :: tail =>
        if (shortEscape? letter).isSome then skipString tail
        else if letter = 0x75 then
          match fourDigits tail with
          | .error e => .error e
          | .ok _ => skipString (tail.drop 4)
        else .error .invalidEscape
    else if b < 0x20 then .error .controlCharacter
    else skipString rest
termination_by s => s.length
decreasing_by all_goals simp only [List.length_drop, List.length_cons]; omega

/-! ## Numbers -/

def isDigit (b : UInt8) : Bool := 0x30 ≤ b && b ≤ 0x39

def digitValue (b : UInt8) : Nat := b.toNat - 0x30

/-- The rest after any digits. -/
def skipDigits : Bytes → Bytes
  | [] => []
  | b :: rest => if isDigit b then skipDigits rest else b :: rest

/-- Is there a digit in front? -/
def startsWithDigit : Bytes → Bool
  | [] => false
  | b :: _ => isDigit b

/-- Is there an exponent mark in front? -/
def startsWithExponent : Bytes → Bool
  | [] => false
  | b :: _ => b = 0x65 || b = 0x45

/-- Add digits to `significand` while it stays below `2 ^ 64`; the value, the number
of digits taken, and the rest, which still starts with a digit if the next one
did not fit. -/
def takeDigits (significand taken : Nat) : Bytes → Nat × Nat × Bytes
  | [] => (significand, taken, [])
  | b :: rest =>
    if isDigit b && significand * 10 + digitValue b < UInt64.size then
      takeDigits (significand * 10 + digitValue b) (taken + 1) rest
    else (significand, taken, b :: rest)

/-- A power of ten as a double. -/
def floatTen (exponent : Nat) : Float := Float.ofScientific 1 false exponent

/-- Divide by `10 ^ exponent` in steps a double can hold. -/
def scaleDown (x : Float) (exponent : Nat) : Float :=
  if exponent ≤ 308 then x / floatTen exponent
  else if x == 0 then x
  else scaleDown (x / floatTen 308) (exponent - 308)
termination_by exponent

/-- `significand * 10 ^ exponent` as a double: one rounding for the significand and
one for each scaling step. -/
def scaled (positive : Bool) (significand : Nat) (exponent : Int) : Except Error Number :=
  let x := Float.ofNat significand
  let signed (y : Float) : Number := .float (if positive then y else -y)
  if exponent < 0 then .ok (signed (scaleDown x exponent.natAbs))
  else if exponent ≤ 308 then
    let y := x * floatTen exponent.toNat
    if y.isInf then .error .numberOutOfRange else .ok (signed y)
  else if x == 0 then .ok (signed x)
  else .error .numberOutOfRange

/-- The greatest exponent that is counted exactly. -/
def exponentLimit : Nat := 0x7FFFFFFF

/-- The digits of an exponent; `none` once they pass the limit. -/
def takeExponent (value : Nat) : Bytes → Option Nat × Bytes
  | [] => (some value, [])
  | b :: rest =>
    if isDigit b then
      if value * 10 + digitValue b ≤ exponentLimit then
        takeExponent (value * 10 + digitValue b) rest
      else (none, skipDigits rest)
    else (some value, b :: rest)

/-- The exponent of a number, after its mark. -/
def exponentPart (positive : Bool) (significand : Nat) (exponent : Int) : Scan Number := fun s =>
  let (raised, s) := match s with
    | 0x2b :: rest => (true, rest)
    | 0x2d :: rest => (false, rest)
    | _ => (true, s)
  match s with
  | [] => .error .endOfValue
  | b :: rest =>
    if !isDigit b then .error .invalidNumber
    else match takeExponent (digitValue b) rest with
    | (some e, rest) =>
      (scaled positive significand (if raised then exponent + e else exponent - e)).map (·, rest)
    | (none, rest) =>
      if significand ≠ 0 && raised then .error .numberOutOfRange
      else .ok (.float (if positive then 0.0 else -0.0), rest)

/-- The digits after the point, and an exponent if there is one. -/
def fractionPart (positive : Bool) (significand : Nat) (exponent : Int) : Scan Number := fun s =>
  match takeDigits significand 0 s with
  | (significand, taken, rest) =>
    if taken = 0 && !startsWithDigit rest then
      .error (if rest.isEmpty then .endOfValue else .invalidNumber)
    else
      let exponent := exponent - taken
      let rest := skipDigits rest
      if startsWithExponent rest then exponentPart positive significand exponent (rest.drop 1)
      else (scaled positive significand exponent).map (·, rest)

/-- What follows the integer digits, of which the last `dropped` did not fit. -/
def afterInteger (positive : Bool) (significand dropped : Nat) : Scan Number := fun s =>
  match s with
  | 0x2e :: rest => fractionPart positive significand dropped rest
  | _ =>
    if startsWithExponent s then exponentPart positive significand dropped (s.drop 1)
    else if dropped ≠ 0 then (scaled positive significand dropped).map (·, s)
    else if positive then .ok (.nat significand, s)
    else if significand = 0 ∨ 0x8000000000000000 < significand then
      .ok (.float (-(Float.ofNat significand)), s)
    else .ok (.negative significand, s)

/-- A number, after its minus sign if it has one. -/
def readNumber (positive : Bool) : Scan Number
  | [] => .error .endOfValue
  | b :: rest =>
    if b = 0x30 then
      if startsWithDigit rest then .error .invalidNumber else afterInteger positive 0 0 rest
    else if isDigit b then
      match takeDigits (digitValue b) 0 rest with
      | (significand, _, rest) =>
        let dropped := (rest.takeWhile isDigit).length
        afterInteger positive significand dropped (rest.drop dropped)
    else .error .invalidNumber

/-- The rest after the digits of an exponent, given what follows its mark. -/
def skipExponent (s : Bytes) : Except Error Bytes :=
  let s := match s with
    | 0x2b :: rest => rest
    | 0x2d :: rest => rest
    | _ => s
  if startsWithDigit s then .ok (skipDigits s) else .error .invalidNumber

/-- The rest after a number; only its form is checked. -/
def skipNumber : Bytes → Except Error Bytes
  | [] => .error .invalidNumber
  | b :: rest =>
    if !isDigit b || (b = 0x30 && startsWithDigit rest) then .error .invalidNumber
    else
      let rest := skipDigits rest
      match rest with
      | 0x2e :: fraction =>
        if !startsWithDigit fraction then .error .invalidNumber
        else
          let fraction := skipDigits fraction
          if startsWithExponent fraction then skipExponent (fraction.drop 1) else .ok fraction
      | _ => if startsWithExponent rest then skipExponent (rest.drop 1) else .ok rest

end Json

end TwoParty
