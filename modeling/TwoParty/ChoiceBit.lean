import TwoParty.Error

/-!
# TwoParty.ChoiceBit

The receiver's private selector in an oblivious transfer.
-/

namespace TwoParty

/-- Which of two items is selected. -/
inductive ChoiceBit where
  | zero
  | one
  deriving DecidableEq, Repr

namespace ChoiceBit

/-- The selected item of a pair. -/
def select {α : Type} : ChoiceBit → (zero one : α) → α
  | .zero, a, _ => a
  | .one, _, b => b

/-- The bit as a number. -/
def number : ChoiceBit → Nat
  | .zero => 0
  | .one => 1

def ofBool : Bool → ChoiceBit
  | false => .zero
  | true => .one

/-- The bit that a number stands for. -/
def ofNumber (n : Nat) : Except Error ChoiceBit :=
  if n = 0 then .ok .zero
  else if n = 1 then .ok .one
  else .error (.invalidInput (.choiceBit n))

/-! ## Written form -/

/-- The word for the bit. -/
def name : ChoiceBit → String
  | .zero => "Zero"
  | .one => "One"

/-- The bit that a word names. -/
def ofName (word : Bytes) : Except Json.Error ChoiceBit :=
  if word = Bytes.ofText "Zero" then .ok .zero
  else if word = Bytes.ofText "One" then .ok .one
  else .error (.unknownVariant (Json.textOf word) ["Zero", "One"])

/-- The word in front of a text, its opening quote being read. -/
def readName (s : Bytes) : Except Json.Error (ChoiceBit × Bytes) := do
  let (word, rest) ← Json.readString s
  return (← ofName word, rest)

/-- The word that is the key of an object. -/
def readKey (s : Bytes) : Except Json.Error (ChoiceBit × Bytes) :=
  match Json.skipBlanks s with
  | [] => .error .endOfObject
  | b :: rest =>
    if b = 0x22 then readName rest
    else if b = 0x7d then .error .expectedValue
    else .error .keyNotString

/-- The rest after `null`. -/
def readNull (s : Bytes) : Except Json.Error Bytes :=
  match Json.skipBlanks s with
  | [] => .error .endOfValue
  | b :: rest =>
    if b = 0x6e then Json.word (Json.wordAfter b) rest
    else .error (Wire.misfit "unit" (b :: rest))

/-- The bit at the front of a text: its word, or an object that holds nothing but
`null` under its word. -/
def readForm (s : Bytes) : Except Json.Error (ChoiceBit × Bytes) :=
  match Json.skipBlanks s with
  | [] => .error .endOfValue
  | b :: rest =>
    if b = 0x22 then readName rest
    else if b = 0x7b then do
      let (bit, rest) ← readKey rest
      let rest ← readNull (← Json.colon rest)
      match Json.skipBlanks rest with
      | [] => .error .endOfObject
      | c :: rest => if c = 0x7d then .ok (bit, rest) else .error .expectedValue
    else .error .expectedValue

instance : Message ChoiceBit where
  write b := .ok (Json.printString (Bytes.ofText b.name))
  read s := readForm s >>= Json.finish

end ChoiceBit

end TwoParty
