import TwoParty.Json.Skip

/-!
# TwoParty.Wire.Fields

Records with a fixed list of named fields as JSON objects.

A plain record ignores members it does not know and may also be written as a
list of its values.  A record with an embedded part puts the part's fields
beside its own: every member that is not its own is first read as a value, and
the embedded fields are picked from these at the end of the object.
-/

namespace TwoParty

/-- The number of a commitment within one session. -/
abbrev CommitmentId := UInt64

namespace Wire

open Json (Scan)

/-- What a field holds. -/
inductive FieldKind where
  /-- A byte string, written as hexadecimal text. -/
  | hex
  /-- A commitment number. -/
  | id
  deriving DecidableEq, Repr

/-- The values of a field. -/
abbrev FieldKind.Value : FieldKind → Type
  | .hex => Bytes
  | .id => CommitmentId

/-- How an error message names the values of a field. -/
def FieldKind.expected : FieldKind → String
  | .hex => "a string"
  | .id => "u64"

/-- A named field. -/
structure Field where
  name : String
  kind : FieldKind
  deriving DecidableEq, Repr

/-- One entry for each field of a list. -/
inductive Fields (F : Type → Type) : List Field → Type where
  | nil : Fields F []
  | cons {f : Field} {fs : List Field} (entry : F f.kind.Value) (rest : Fields F fs) :
    Fields F (f :: fs)

/-- A value for each field. -/
abbrev Record := Fields Id

/-- The values read so far. -/
abbrev Slots := Fields Option

namespace Slots

/-- Nothing was read yet. -/
def empty : (fs : List Field) → Slots fs
  | [] => .nil
  | _ :: fs => .cons none (empty fs)

/-- Read the field named `key` into its slot; `none` if no field has this name. -/
def fill {β : Type} (key : Bytes) (read : (k : FieldKind) → Except Json.Error (k.Value × β)) :
    {fs : List Field} → Slots fs → Except Json.Error (Option (Slots fs × β))
  | _, .nil => .ok none
  | _, .cons (f := f) slot rest =>
    if key = Bytes.ofText f.name then
      if slot.isSome then .error (.duplicateField f.name)
      else (read f.kind).map fun (v, b) => some (.cons (some v) rest, b)
    else (fill key read rest).map (Option.map fun (rest, b) => (.cons slot rest, b))

/-- The record, if every field was read; otherwise the first missing one. -/
def complete : {fs : List Field} → Slots fs → Except Json.Error (Record fs)
  | _, .nil => .ok .nil
  | _, .cons (f := f) none _ => .error (.missingField f.name)
  | _, .cons (some v) rest => (complete rest).map (.cons v ·)

end Slots

/-! ## Reading a field -/

/-- The error for a value of the wrong type in front of `s`. -/
def misfit (expected : String) (s : Bytes) : Json.Error :=
  match s with
  | [] => .expectedValue
  | b :: rest =>
    let wrong (read : Except Json.Error Json.Found) : Json.Error :=
      match read with
      | .ok found => .wrongType found expected
      | .error e => e
    if b = 0x6e then wrong ((Json.word (Json.wordAfter b) rest).map fun _ => .null)
    else if b = 0x74 then wrong ((Json.word (Json.wordAfter b) rest).map fun _ => .bool true)
    else if b = 0x66 then wrong ((Json.word (Json.wordAfter b) rest).map fun _ => .bool false)
    else if b = 0x2d then wrong ((Json.readNumber false rest).map fun n => .number n.1)
    else if Json.isDigit b then wrong ((Json.readNumber true s).map fun n => .number n.1)
    else if b = 0x22 then wrong ((Json.readString rest).map fun t => .text (Json.textOf t.1))
    else if b = 0x5b then .wrongType .list expected
    else if b = 0x7b then .wrongType .map expected
    else .expectedValue

/-- The byte string that a text of digits spells. -/
def hexValue (text : Bytes) : Except Json.Error Bytes :=
  match Hex.decode text with
  | .ok bs => .ok bs
  | .error e => .error (.hex e)

/-- The commitment number that a JSON number spells. -/
def idValue : Json.Number → Except Json.Error CommitmentId
  | .nat n => .ok (UInt64.ofNat n)
  | .negative n => .error (.wrongValue (.number (.negative n)) FieldKind.id.expected)
  | .float x => .error (.wrongType (.number (.float x)) FieldKind.id.expected)

/-- Read the value of a field off a text. -/
def FieldKind.read : (k : FieldKind) → Scan k.Value
  | .hex, s =>
    match Json.skipBlanks s with
    | [] => .error .endOfValue
    | b :: rest =>
      if b = 0x22 then do
        let (text, rest) ← Json.readString rest
        return (← hexValue text, rest)
      else .error (misfit FieldKind.hex.expected (b :: rest))
  | .id, s =>
    match Json.skipBlanks s with
    | [] => .error .endOfValue
    | b :: rest =>
      if b = 0x2d || Json.isDigit b then do
        let (n, rest) ← if b = 0x2d then Json.readNumber false rest
          else Json.readNumber true (b :: rest)
        return (← idValue n, rest)
      else .error (misfit FieldKind.id.expected (b :: rest))

/-- The value of a field from a value read before. -/
def FieldKind.ofJson : (k : FieldKind) → Json → Except Json.Error k.Value
  | .hex, .string s => hexValue s
  | .id, .number n => idValue n
  | k, v => .error (.wrongType v.found k.expected)

/-! ## Plain records -/

/-- Read members into slots up to the end of the object, passing over unknown ones. -/
def readMembers {fs : List Field} (fuel : Nat) (first : Bool) (slots : Slots fs) (s : Bytes) :
    Except Json.Error (Slots fs × Bytes) :=
  match fuel with
  | 0 => .error .endOfObject
  | fuel + 1 =>
    match Json.nextKey first s with
    | .error e => .error e
    | .ok (none, rest) => .ok (slots, rest)
    | .ok (some key, rest) =>
      match slots.fill key fun k => Json.colon rest >>= k.read with
      | .error e => .error e
      | .ok (some (slots, rest)) => readMembers fuel false slots rest
      | .ok none =>
        match Json.colon rest >>= Json.skip with
        | .error e => .error e
        | .ok rest => readMembers fuel false slots rest

/-- Read the values of a list into the fields; `short n` is the error for a list that
ends after `n` of them. -/
def readItems (short : Nat → Json.Error) (count : Nat) :
    (fs : List Field) → Scan (Record fs)
  | [], s => .ok (.nil, s)
  | f :: fs, s => do
    let (next, _) ← Json.nextElement (count = 0) s
    match next with
    | none => throw (short count)
    | some start =>
      let (v, rest) ← f.kind.read start
      let (vs, rest) ← readItems short (count + 1) fs rest
      return (.cons v vs, rest)

/-- The rest after the end of a list whose values were all read. -/
def endOfItems (s : Bytes) : Except Json.Error Bytes :=
  match Json.skipBlanks s with
  | [] => .error .endOfList
  | b :: rest =>
    if b = 0x5d then .ok rest
    else if b = 0x2c then
      match Json.skipBlanks rest with
      | [] => .error .trailingCharacters
      | c :: _ => .error (if c = 0x5d then .trailingComma else .trailingCharacters)
    else .error .trailingCharacters

/-- How an error message describes a list form that is too short. -/
def listForm (name : String) (count : Nat) : String :=
  "struct " ++ name ++ " with " ++ Decimal.digitText count
    ++ (if count = 1 then " element" else " elements")

/-- A whole text as a plain record called `name`. -/
def readPlain (name : String) (fs : List Field) (s : Bytes) : Except Json.Error (Record fs) :=
  match Json.skipBlanks s with
  | [] => .error .endOfValue
  | b :: rest =>
    if b = 0x7b then do
      let (slots, rest) ← readMembers (rest.length + 1) true (Slots.empty fs) rest
      Json.finish (← slots.complete, rest)
    else if b = 0x5b then do
      let short count := .wrongLength count (listForm name fs.length)
      let (record, rest) ← readItems short 0 fs rest
      Json.finish (record, ← endOfItems rest)
    else .error (misfit ("struct " ++ name) (b :: rest))

/-! ## Records with an embedded part -/

/-- Read own members into slots and keep all others, in order. -/
def gatherMembers {fs : List Field} (fuel : Nat) (first : Bool) (slots : Slots fs)
    (others : List (Bytes × Json)) (s : Bytes) :
    Except Json.Error (Slots fs × List (Bytes × Json) × Bytes) :=
  match fuel with
  | 0 => .error .endOfObject
  | fuel + 1 =>
    match Json.nextKey first s with
    | .error e => .error e
    | .ok (none, rest) => .ok (slots, others.reverse, rest)
    | .ok (some key, rest) =>
      match slots.fill key fun k => Json.colon rest >>= k.read with
      | .error e => .error e
      | .ok (some (slots, rest)) => gatherMembers fuel false slots others rest
      | .ok none =>
        match Json.colon rest >>= Json.readValue (Json.depthLimit - 1) with
        | .error e => .error e
        | .ok (v, rest) => gatherMembers fuel false slots ((key, v) :: others) rest

/-- Pick the fields of the embedded part from the members that were kept. -/
def pick {fs : List Field} (slots : Slots fs) : List (Bytes × Json) → Except Json.Error (Slots fs)
  | [] => .ok slots
  | (key, v) :: ms =>
    match slots.fill key fun k => (k.ofJson v).map (·, ()) with
    | .error e => .error e
    | .ok (some (slots, ())) => pick slots ms
    | .ok none => pick slots ms

/-- A whole text as a record called `name` with its own fields and an embedded part. -/
def readEmbedding (name : String) (own inner : List Field) (s : Bytes) :
    Except Json.Error (Record own × Record inner) :=
  match Json.skipBlanks s with
  | [] => .error .endOfValue
  | b :: rest =>
    if b = 0x7b then do
      let (slots, others, rest) ← gatherMembers (rest.length + 1) true (Slots.empty own) [] rest
      let record ← slots.complete
      let part ← pick (Slots.empty inner) others
      Json.finish ((record, ← part.complete), rest)
    else .error (misfit ("struct " ++ name) (b :: rest))

/-! ## Writing -/

/-- The text of a field's value. -/
def FieldKind.print : (k : FieldKind) → k.Value → Bytes
  | .hex, bs => 0x22 :: (Hex.encode bs ++ [0x22])
  | .id, n => Bytes.ofText (Decimal.digitText n.toNat)

/-- The members of a record, each preceded by its key. -/
def members : {fs : List Field} → Record fs → List Bytes
  | _, .nil => []
  | _, .cons (f := f) v rest =>
    (Json.printString (Bytes.ofText f.name) ++ 0x3a :: f.kind.print v) :: members rest

/-- An object with these members, in order and without blanks. -/
def object (members : List Bytes) : Bytes :=
  0x7b :: ((members.intersperse [0x2c]).flatten ++ [0x7d])

end Wire

end TwoParty
