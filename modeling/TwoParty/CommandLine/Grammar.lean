import TwoParty.Decimal.Read

/-!
# TwoParty.CommandLine.Grammar

What a command line may hold, as data: the switches of the program and of its
commands, with the values they take.  The scanner and the help texts are both
driven by this description.
-/

namespace TwoParty

namespace CommandLine

/-- The values that a switch takes. -/
inductive ValueForm where
  | text
  /-- One of a few words. -/
  | word (choices : List String)
  /-- A number up to `max`. -/
  | natural (max : Nat)
  /-- A number up to `max` that may be written with a sign. -/
  | signed (max : Nat)

/-- Does a text have the form? -/
def ValueForm.accepts : ValueForm → String → Bool
  | .text, _ => true
  | .word choices, s => choices.contains s
  | .natural max, s => (Decimal.natural? max s).isSome
  | .signed max, s => (Decimal.signedNatural? max s).isSome

/-- What happens if a switch is not given. -/
inductive Presence where
  | optional
  | required
  /-- It has a standard value. -/
  | standard (value : String)
  deriving DecidableEq, Repr

/-- The value of a switch. -/
structure Argument where
  /-- How the help texts name it. -/
  placeholder : String
  form : ValueForm
  presence : Presence
  /-- The environment variable that stands in for the switch. -/
  source : Option String

/-- A switch. -/
structure Switch where
  long : String
  short : Option Char
  about : String
  /-- A flag takes no value. -/
  argument : Option Argument

/-- What happens if the switch is not given; a flag is optional. -/
def Switch.presence (s : Switch) : Presence :=
  match s.argument with
  | some a => a.presence
  | none => .optional

/-- The switches that may follow the name of the program, or that of a command. -/
structure Grammar where
  name : String
  about : String
  switches : List Switch

/-- A program with commands. -/
structure Program where
  main : Grammar
  version : String
  commands : List Grammar

end CommandLine

end TwoParty
