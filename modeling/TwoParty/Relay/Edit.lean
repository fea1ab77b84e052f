import TwoParty.Json.Value

/-!
# TwoParty.Relay.Edit

Changes that a relay makes to a message in transit, to the bytes or to one field
of a message that is an object.  A changed object is written with its keys in
ascending order.
-/

namespace TwoParty

/-- A change to one field of an object. -/
inductive FieldEdit where
  /-- Exclusive or of one byte of a hexadecimal value with a mask. -/
  | xor (index : Int) (mask : UInt8)
  /-- A new value. -/
  | set (value : Json)
  /-- The value of another field. -/
  | copy (source : String)
  /-- The value of the same field in an earlier message. -/
  | fromLog (number : Nat)
  | delete

/-- A change to a message. -/
inductive Edit where
  | field (name : String) (edit : FieldEdit)
  /-- Exclusive or of one byte with a mask. -/
  | xor (index : Int) (mask : UInt8)
  | truncate (length : Nat)
  | append (data : Bytes)
  | replace (data : Bytes)
  /-- Put an earlier message in place of this one. -/
  | replay (number : Nat)

namespace Edit

/-! ## Objects with sorted keys -/

/-- Byte strings in ascending order. -/
def precedes : Bytes → Bytes → Bool
  | [], [] => false
  | [], _ :: _ => true
  | _ :: _, [] => false
  | a :: as, b :: bs => a < b || (a = b && precedes as bs)

/-- Put a member into an object with sorted keys, in place of an earlier one. -/
def putMember (key : Bytes) (value : Json) : List (Bytes × Json) → List (Bytes × Json)
  | [] => [(key, value)]
  | (k, v) :: ms =>
    if key = k then (key, value) :: ms
    else if precedes key k then (key, value) :: (k, v) :: ms
    else (k, v) :: putMember key value ms

/-- The members of an object with sorted keys; of repeated ones the last counts. -/
def sortMembers (ms : List (Bytes × Json)) : List (Bytes × Json) :=
  ms.foldl (fun sorted m => putMember m.1 m.2 sorted) []

mutual

/-- The value with the keys of all its objects sorted. -/
def sorted : Json → Json
  | .list items => .list (sortedItems items)
  | .object members => .object (sortMembers (sortedMembers members))
  | v => v

/-- As `sorted`, for each element. -/
def sortedItems : List Json → List Json
  | [] => []
  | v :: vs => sorted v :: sortedItems vs

/-- As `sorted`, for the value of each member. -/
def sortedMembers : List (Bytes × Json) → List (Bytes × Json)
  | [] => []
  | (key, v) :: ms => (key, sorted v) :: sortedMembers ms

end

/-! ## Applying changes -/

/-- The position that an index names, counted from the end if it is negative. -/
def position (index : Int) (length : Nat) : Nat :=
  if 0 ≤ index then index.toNat else length - index.natAbs

/-- Exclusive or of one byte with a mask. -/
def xorAt (index : Int) (mask : UInt8) (bs : Bytes) : Bytes :=
  bs.modify (position index bs.length) (· ^^^ mask)

/-- The value of a field in the object that a message spells. -/
def fieldOf (name : String) (message : Bytes) : Option Json :=
  match Json.parse message with
  | .ok v => v.get? name
  | .error _ => none

/-- The new value of a field, or `none` if the field goes away. -/
def newValue (log : List Bytes) (name : String) (object : Json) : FieldEdit → Option Json
  | .xor index mask =>
    match object.get? name with
    | some (.string digits) =>
      match Hex.decode digits with
      | .ok bs => some (.string (Hex.encode (xorAt index mask bs)))
      | .error _ => some (.string digits)
    | v => v
  | .set value => some (sorted value)
  | .copy source => object.get? source
  | .fromLog number => (log[number]?).bind (fieldOf name)
  | .delete => none

/-- Change one field of a message; a message that is no object stays as it is. -/
def applyField (log : List Bytes) (name : String) (edit : FieldEdit) (message : Bytes) : Bytes :=
  match Json.parse message with
  | .ok (.object members) =>
    let object := sorted (.object members)
    let key := Bytes.ofText name
    let others := match object with
      | .object ms => ms.filter fun m => m.1 ≠ key
      | _ => []
    match newValue log name object edit with
    | some v => Json.print (.object (putMember key v others))
    | none => Json.print (.object others)
  | _ => message

/-- Make one change; `log` holds the messages taken so far. -/
def apply (log : List Bytes) (message : Bytes) : Edit → Bytes
  | .field name edit => applyField log name edit message
  | .xor index mask => xorAt index mask message
  | .truncate length => message.take length
  | .append data => message ++ data
  | .replace data => data
  | .replay number => (log[number]?).getD message

end Edit

end TwoParty
