import TwoParty.Text.Hidden

/-!
# TwoParty.Text.Quoted

Texts and characters quoted for an error message: the quote in use, the
backslash and the common controls take a backslash, hidden characters become
their code in hexadecimal, and all else stands for itself.
-/

namespace TwoParty

namespace Text

/-- The code of a character in lower-case hexadecimal, in braces after `\u`. -/
def codeEscape (c : Char) : String :=
  "\\u\x7b" ++ String.ofList (Nat.toDigits 16 c.toNat) ++ "\x7d"

/-- One character inside a text quoted by `quote`. -/
def escapeChar (quote c : Char) : String :=
  if c = quote || c = '\\' then "\\" ++ String.singleton c
  else if c = '\t' then "\\t"
  else if c = '\n' then "\\n"
  else if c = '\r' then "\\r"
  else if c.toNat = 0 then "\\0"
  else if isHidden c.toNat then codeEscape c
  else String.singleton c

/-- A text between double quotes. -/
def quoted (s : String) : String :=
  "\"" ++ String.join (s.toList.map (escapeChar '"')) ++ "\""

/-- A character between single quotes. -/
def quotedChar (c : Char) : String := "'" ++ escapeChar '\'' c ++ "'"

end Text

end TwoParty
