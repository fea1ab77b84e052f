import TwoParty.Json.Scan

/-!
# TwoParty.Json.Value

JSON values, the reader for them, and their compact text.

The reader keeps the members of an object in the order of the text, repeated
keys included.  Lists and objects may nest to a given depth; loops and nesting
share one fuel, twice the length of the text, since of two consecutive steps at
least one consumes a byte.
-/

namespace TwoParty

/-- A JSON value. -/
inductive Json where
  | null
  | bool (b : Bool)
  | number (n : Json.Number)
  | string (text : Bytes)
  | list (items : List Json)
  | object (members : List (Bytes × Json))

namespace Json

/-- A byte string that came through the string scanner, as text. -/
def textOf (bs : Bytes) : String := (Utf8.text? bs).getD ""

/-- How an error message names a value. -/
def found : Json → Found
  | .null => .null
  | .bool b => .bool b
  | .number n => .number n
  | .string s => .text (textOf s)
  | .list _ => .list
  | .object _ => .map

/-! ## Separators -/

/-- Is there another element?  `first` tells whether none was read yet. -/
def nextElement (first : Bool) (s : Bytes) : Except Error (Option Bytes × Bytes) :=
  match skipBlanks s with
  | [] => .error .endOfList
  | b :: rest =>
    if b = 0x5d then .ok (none, rest)
    else if first then .ok (some (b :: rest), b :: rest)
    else if b = 0x2c then
      match skipBlanks rest with
      | [] => .error .endOfValue
      | c :: rest => if c = 0x5d then .error .trailingComma else .ok (some (c :: rest), c :: rest)
    else .error .expectedCommaOrBracket

/-- Is there another member?  If so, its key and the rest after the key. -/
def nextKey (first : Bool) (s : Bytes) : Except Error (Option Bytes × Bytes) :=
  match skipBlanks s with
  | [] => .error .endOfObject
  | b :: rest =>
    if b = 0x7d then .ok (none, rest)
    else if first then
      if b = 0x22 then (readString rest).map fun (key, rest) => (some key, rest)
      else .error .keyNotString
    else if b = 0x2c then
      match skipBlanks rest with
      | [] => .error .endOfValue
      | c :: rest =>
        if c = 0x22 then (readString rest).map fun (key, rest) => (some key, rest)
        else if c = 0x7d then .error .trailingComma
        else .error .keyNotString
    else .error .expectedCommaOrBrace

/-- The rest after the colon that follows a key. -/
def colon (s : Bytes) : Except Error Bytes :=
  match skipBlanks s with
  | [] => .error .endOfObject
  | b :: rest => if b = 0x3a then .ok rest else .error .expectedColon

/-! ## Reading -/

mutual

/-- A value nested at most `depth - 1` levels deep. -/
def readValueLoop (fuel depth : Nat) (s : Bytes) : Except Error (Json × Bytes) :=
  match fuel with
  | 0 => .error .endOfValue
  | fuel + 1 =>
    match skipBlanks s with
    | [] => .error .endOfValue
    | b :: rest =>
      if b = 0x6e then (word (wordAfter b) rest).map (.null, ·)
      else if b = 0x74 then (word (wordAfter b) rest).map (.bool true, ·)
      else if b = 0x66 then (word (wordAfter b) rest).map (.bool false, ·)
      else if b = 0x2d then (readNumber false rest).map fun (n, rest) => (.number n, rest)
      else if isDigit b then (readNumber true (b :: rest)).map fun (n, rest) => (.number n, rest)
      else if b = 0x22 then (readString rest).map fun (text, rest) => (.string text, rest)
      else if b = 0x5b then
        if depth ≤ 1 then .error .tooDeep
        else (readItemsLoop fuel (depth - 1) true rest).map fun (items, rest) => (.list items, rest)
      else if b = 0x7b then
        if depth ≤ 1 then .error .tooDeep
        else (readMembersLoop fuel (depth - 1) true rest).map fun (ms, rest) => (.object ms, rest)
      else .error .expectedValue

/-- The elements of a list up to its end. -/
def readItemsLoop (fuel depth : Nat) (first : Bool) (s : Bytes) :
    Except Error (List Json × Bytes) :=
  match fuel with
  | 0 => .error .endOfList
  | fuel + 1 =>
    match nextElement first s with
    | .error e => .error e
    | .ok (none, rest) => .ok ([], rest)
    | .ok (some start, _) =>
      match readValueLoop fuel depth start with
      | .error e => .error e
      | .ok (v, rest) =>
        (readItemsLoop fuel depth false rest).map fun (vs, rest) => (v :: vs, rest)

/-- The members of an object up to its end. -/
def readMembersLoop (fuel depth : Nat) (first : Bool) (s : Bytes) :
    Except Error (List (Bytes × Json) × Bytes) :=
  match fuel with
  | 0 => .error .endOfObject
  | fuel + 1 =>
    match nextKey first s with
    | .error e => .error e
    | .ok (none, rest) => .ok ([], rest)
    | .ok (some key, rest) =>
      match colon rest >>= readValueLoop fuel depth with
      | .error e => .error e
      | .ok (v, rest) =>
        (readMembersLoop fuel depth false rest).map fun (ms, rest) => ((key, v) :: ms, rest)

end

/-- Lists and objects nest less than this deep. -/
def depthLimit : Nat := 128

/-- A value off the front of a text, `depth` levels being left. -/
def readValue (depth : Nat) : Scan Json := fun s => readValueLoop (2 * s.length + 2) depth s

/-- Nothing but blanks may follow. -/
def finish {α : Type} (read : α × Bytes) : Except Error α :=
  if (skipBlanks read.2).isEmpty then .ok read.1 else .error .trailingCharacters

/-- A whole text as a value. -/
def parse (s : Bytes) : Except Error Json := readValue depthLimit s >>= finish

/-! ## Members of objects -/

/-- The value under a key; of repeated keys the last one counts. -/
def get? (v : Json) (key : String) : Option Json :=
  match v with
  | .object members =>
    (members.reverse.find? fun m => m.1 = Bytes.ofText key).map (·.2)
  | _ => none

/-! ## Compact text -/

/-- One byte of a string as it stands between quotes. -/
def printByte (b : UInt8) : Bytes :=
  if b = 0x22 || b = 0x5c then [0x5c, b]
  else if b = 0x08 then [0x5c, 0x62]
  else if b = 0x0c then [0x5c, 0x66]
  else if b = 0x0a then [0x5c, 0x6e]
  else if b = 0x0d then [0x5c, 0x72]
  else if b = 0x09 then [0x5c, 0x74]
  else if b < 0x20 then [0x5c, 0x75, 0x30, 0x30] ++ Hex.encode [b]
  else [b]

/-- A string between quotes. -/
def printString (s : Bytes) : Bytes := 0x22 :: (s.flatMap printByte ++ [0x22])

mutual

/-- The text of a value, with no blanks. -/
def print : Json → Bytes
  | .null => Bytes.ofText "null"
  | .bool true => Bytes.ofText "true"
  | .bool false => Bytes.ofText "false"
  | .number n => Bytes.ofText n.text
  | .string s => printString s
  | .list items => 0x5b :: (printItems items ++ [0x5d])
  | .object members => 0x7b :: (printMembers members ++ [0x7d])

/-- Elements with commas between them. -/
def printItems : List Json → Bytes
  | [] => []
  | [v] => print v
  | v :: vs => print v ++ 0x2c :: printItems vs

/-- Members with commas between them. -/
def printMembers : List (Bytes × Json) → Bytes
  | [] => []
  | [(key, v)] => printString key ++ 0x3a :: print v
  | (key, v) :: ms => printString key ++ 0x3a :: (print v ++ 0x2c :: printMembers ms)

end

end Json

end TwoParty
