import TwoParty.Wire.Fields

/-!
# TwoParty.Wire.Message

Messages: types with a written form.  Writing may fail, but only for a
`Dictionary`, whose keys may be values of any kind.
-/

namespace TwoParty

namespace Wire

/-- Why a value has no written form. -/
inductive WriteError where
  /-- A key of a dictionary is not a string. -/
  | keyNotString
  /-- The words of a collaborator outside this library. -/
  | other (text : String)
  deriving DecidableEq, Repr

def WriteError.message : WriteError → String
  | .keyNotString => "key must be a string"
  | .other text => text

end Wire

/-- Types whose values travel as messages. -/
class Message (α : Type) where
  /-- The written form. -/
  write : α → Except Wire.WriteError Bytes
  /-- Read a whole message. -/
  read : Bytes → Except Json.Error α

/-- Keys and values of any kind; it is writable when every key is a string. -/
structure Dictionary where
  entries : List (Json × Json)

namespace Dictionary

/-- The entry as an object member. -/
def member : Json × Json → Except Wire.WriteError (Bytes × Json)
  | (.string key, v) => .ok (key, v)
  | _ => .error .keyNotString

instance : Message Dictionary where
  write d := (d.entries.mapM member).map fun ms => Json.print (.object ms)
  read s :=
    match Json.parse s with
    | .error e => .error e
    | .ok (.object ms) => .ok ⟨ms.map fun m => (.string m.1, m.2)⟩
    | .ok v => .error (.wrongType v.found "a map")

end Dictionary

end TwoParty
