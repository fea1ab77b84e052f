import TwoParty.Decimal.Text
import TwoParty.Hex

/-!
# TwoParty.Json.Error

JSON numbers, and why a text is refused: faults of syntax, and values that do
not fit the message being read.
-/

namespace TwoParty

namespace Json

/-- A number as the reader keeps it: integers of 64 bits exactly, all else as a
double. -/
inductive Number where
  /-- A non-negative integer below `2 ^ 64`. -/
  | nat (n : Nat)
  /-- The integer `-n`, with `0 < n ≤ 2 ^ 63`. -/
  | negative (n : Nat)
  /-- Any other number, minus zero included. -/
  | float (x : Float)

/-- The text of a number. -/
def Number.text : Number → String
  | .nat n => Decimal.digitText n
  | .negative n => "-" ++ Decimal.digitText n
  | .float x => Decimal.floatText x

/-- What stands where something else was expected. -/
inductive Found where
  | null
  | bool (b : Bool)
  | number (n : Number)
  | text (s : String)
  | list
  | map

/-- How an error message names what was found. -/
def Found.describe : Found → String
  | .null => "null"
  | .bool b => "boolean `" ++ toString b ++ "`"
  | .number (.float x) => "floating point `" ++ Decimal.floatText x ++ "`"
  | .number n => "integer `" ++ n.text ++ "`"
  | .text s => "string " ++ Text.quoted s
  | .list => "sequence"
  | .map => "map"

/-- Why a text does not read as the message expected. -/
inductive Error where
  /-- The text ends where a value should stand. -/
  | endOfValue
  /-- The text ends inside a list. -/
  | endOfList
  /-- The text ends inside an object. -/
  | endOfObject
  /-- The text ends inside a string. -/
  | endOfString
  /-- No colon follows a key. -/
  | expectedColon
  /-- A list element is followed by neither a comma nor the end of the list. -/
  | expectedCommaOrBracket
  /-- An object member is followed by neither a comma nor the end of the object. -/
  | expectedCommaOrBrace
  /-- A word other than `null`, `true` and `false`. -/
  | expectedWord
  /-- No value starts here. -/
  | expectedValue
  /-- A backslash before a character that cannot be escaped. -/
  | invalidEscape
  /-- A malformed number. -/
  | invalidNumber
  /-- A number too large for a double. -/
  | numberOutOfRange
  /-- A string that is not UTF-8. -/
  | invalidCodePoint
  /-- A control character inside a string. -/
  | controlCharacter
  /-- An object key that is no string. -/
  | keyNotString
  /-- Half of a surrogate pair. -/
  | loneSurrogate
  /-- A leading surrogate with nothing after it. -/
  | endOfHexEscape
  /-- A comma before the end of a list or an object. -/
  | trailingComma
  /-- Something follows the value. -/
  | trailingCharacters
  /-- Lists and objects nested too deeply. -/
  | tooDeep
  /-- A value of the wrong type. -/
  | wrongType (found : Found) (expected : String)
  /-- A value of the right type that the field cannot hold. -/
  | wrongValue (found : Found) (expected : String)
  /-- A list with too few elements. -/
  | wrongLength (count : Nat) (expected : String)
  /-- A word that is none of the choices. -/
  | unknownVariant (found : String) (choices : List String)
  /-- A field that the object lacks. -/
  | missingField (name : String)
  /-- A field that the object holds twice. -/
  | duplicateField (name : String)
  /-- A string that is not hexadecimal. -/
  | hex (reason : Hex.Error)

/-- The wording of an error. -/
def Error.message : Error → String
  | .endOfValue => "EOF while parsing a value"
  | .endOfList => "EOF while parsing a list"
  | .endOfObject => "EOF while parsing an object"
  | .endOfString => "EOF while parsing a string"
  | .expectedColon => "expected `:`"
  | .expectedCommaOrBracket => "expected `,` or `]`"
  | .expectedCommaOrBrace => "expected `,` or `\x7d`"
  | .expectedWord => "expected ident"
  | .expectedValue => "expected value"
  | .invalidEscape => "invalid escape"
  | .invalidNumber => "invalid number"
  | .numberOutOfRange => "number out of range"
  | .invalidCodePoint => "invalid unicode code point"
  | .controlCharacter => "control character (\\u0000-\\u001F) found while parsing a string"
  | .keyNotString => "key must be a string"
  | .loneSurrogate => "lone leading surrogate in hex escape"
  | .endOfHexEscape => "unexpected end of hex escape"
  | .trailingComma => "trailing comma"
  | .trailingCharacters => "trailing characters"
  | .tooDeep => "recursion limit exceeded"
  | .wrongType found expected => "invalid type: " ++ found.describe ++ ", expected " ++ expected
  | .wrongValue found expected => "invalid value: " ++ found.describe ++ ", expected " ++ expected
  | .wrongLength count expected =>
    "invalid length " ++ Decimal.digitText count ++ ", expected " ++ expected
  | .unknownVariant found choices =>
    "unknown variant `" ++ found ++ "`, expected "
      ++ String.intercalate " or " (choices.map fun c => "`" ++ c ++ "`")
  | .missingField name => "missing field `" ++ name ++ "`"
  | .duplicateField name => "duplicate field `" ++ name ++ "`"
  | .hex reason => reason.message

end Json

end TwoParty
