import TwoParty.Json.Value

/-!
# TwoParty.Json.Skip

Passing over a value that is not wanted.  Only its form is checked: numbers of
any size, strings of any bytes and any depth of nesting pass.  The open lists
and objects are kept on a stack, innermost first.
-/

namespace TwoParty

namespace Json

/-- What an open bracket belongs to. -/
inductive Frame where
  | list
  | object
  deriving DecidableEq

/-- The closing bracket. -/
def Frame.close : Frame → UInt8
  | .list => 0x5d
  | .object => 0x7d

/-- The text ends inside. -/
def Frame.endOf : Frame → Error
  | .list => .endOfList
  | .object => .endOfObject

/-- Neither a comma nor the end follows an element. -/
def Frame.expectedComma : Frame → Error
  | .list => .expectedCommaOrBracket
  | .object => .expectedCommaOrBrace

/-- The rest after the key and the colon that an object needs in front of a value. -/
def Frame.skipKey : Frame → Bytes → Except Error Bytes
  | .list, s => .ok s
  | .object, s =>
    match skipBlanks s with
    | [] => .error .endOfObject
    | b :: rest => if b = 0x22 then skipString rest >>= colon else .error .keyNotString

/-- The rest after a value without brackets, or `none` in front of an open bracket. -/
def skipScalar (b : UInt8) (rest : Bytes) : Except Error Bytes :=
  if b = 0x6e || b = 0x74 || b = 0x66 then word (wordAfter b) rest
  else if b = 0x2d then skipNumber rest
  else if isDigit b then skipNumber (b :: rest)
  else if b = 0x22 then skipString rest
  else .error .expectedValue

mutual

/-- Pass over a value inside the open frames. -/
def skipValue (fuel : Nat) (stack : List Frame) (s : Bytes) : Except Error Bytes :=
  match fuel with
  | 0 => .error .endOfValue
  | fuel + 1 =>
    match skipBlanks s with
    | [] => .error .endOfValue
    | b :: rest =>
      if b = 0x5b then skipInside fuel false .list stack rest
      else if b = 0x7b then skipInside fuel false .object stack rest
      else match skipScalar b rest, stack with
      | .error e, _ => .error e
      | .ok rest, [] => .ok rest
      | .ok rest, frame :: stack => skipInside fuel true frame stack rest

/-- Go on inside `frame`: after a value (`comma`) or right after its bracket. -/
def skipInside (fuel : Nat) (comma : Bool) (frame : Frame) (stack : List Frame) (s : Bytes) :
    Except Error Bytes :=
  match fuel with
  | 0 => .error .endOfValue
  | fuel + 1 =>
    match skipBlanks s with
    | [] => .error frame.endOf
    | b :: rest =>
      if comma && b = 0x2c then frame.skipKey rest >>= skipValue fuel (frame :: stack)
      else if b = frame.close then
        match stack with
        | [] => .ok rest
        | outer :: stack => skipInside fuel true outer stack rest
      else if comma then .error frame.expectedComma
      else frame.skipKey (b :: rest) >>= skipValue fuel (frame :: stack)

end

/-- The rest after a value. -/
def skip (s : Bytes) : Except Error Bytes := skipValue (2 * s.length + 2) [] s

end Json

end TwoParty
