import TwoParty.Json.Value

/-!
# TwoParty.Proofs.Json.Text

Strings that need no escape: the printer copies them and the scanner reads them
back, whatever follows (`readString_append`).  Field names and hexadecimal digits
are such strings.
-/

namespace TwoParty

namespace Json

/-- A byte that stands for itself between quotes. -/
def isPlain (b : UInt8) : Bool := 0x20 ≤ b && b < 0x80 && b ≠ 0x22 && b ≠ 0x5c

/-- Plain bytes are the printable ASCII ones besides the quote and the backslash. -/
theorem isPlain_iff {b : UInt8} :
    isPlain b = true ↔ 0x20 ≤ b ∧ b < 0x80 ∧ b ≠ 0x22 ∧ b ≠ 0x5c := by
  simp [isPlain, and_assoc]

/-! ## Strings without escapes -/

theorem printByte_plain {b : UInt8} (h : isPlain b = true) : printByte b = [b] := by
  obtain ⟨h20, -, hq, hs⟩ := isPlain_iff.1 h
  have hne : ∀ c : UInt8, c < 0x20 → b ≠ c := fun c hc he =>
    absurd (he ▸ hc) (UInt8.not_lt.2 h20)
  simp [printByte, hq, hs, hne 0x08 (by decide), hne 0x0c (by decide), hne 0x0a (by decide),
    hne 0x0d (by decide), hne 0x09 (by decide), UInt8.not_lt.2 h20]

/-- A plain string is printed between quotes as it is. -/
theorem printString_plain {text : Bytes} (h : ∀ b ∈ text, isPlain b = true) :
    printString text = 0x22 :: (text ++ [0x22]) := by
  have hmap : text.flatMap printByte = text := by
    induction text with
    | nil => rfl
    | cons b text ih =>
      rw [List.flatMap_cons, printByte_plain (h b List.mem_cons_self),
        ih fun c hc => h c (List.mem_cons_of_mem b hc), List.singleton_append]
  rw [printString, hmap]

/-- A plain string ends at the next quote. -/
theorem rawString_append {text : Bytes} (h : ∀ b ∈ text, isPlain b = true) (rest : Bytes) :
    rawString (text ++ 0x22 :: rest) = .ok (text, rest) := by
  induction text with
  | nil => simp [rawString]
  | cons b text ih =>
    obtain ⟨h20, -, hq, hs⟩ := isPlain_iff.1 (h b List.mem_cons_self)
    have ih := ih fun c hc => h c (List.mem_cons_of_mem b hc)
    rw [List.cons_append, rawString]
    simp [hq, hs, UInt8.not_lt.2 h20, ih, Except.map]

/-- Reading a string without escapes gives the string and what follows it. -/
theorem readString_append {text : Bytes} (h : ∀ b ∈ text, isPlain b = true) (rest : Bytes) :
    readString (text ++ 0x22 :: rest) = .ok (text, rest) := by
  have hutf : (Utf8.decode? text).isSome = true := by
    rw [Utf8.decode?_ascii fun b hb => (isPlain_iff.1 (h b hb)).2.1]
    rfl
  simp [readString, rawString_append h, hutf, bind, Except.bind, pure, Except.pure]

/-! ## Hexadecimal digits -/

theorem isPlain_digit : ∀ n < 16, isPlain (Hex.digit n) = true := by decide

/-- Hex text is plain. -/
theorem isPlain_encode (bs : Bytes) : ∀ b ∈ Hex.encode bs, isPlain b = true := by
  induction bs with
  | nil => simp [Hex.encode]
  | cons b bs ih =>
    have hb : b.toNat < 256 := b.toNat_lt
    intro c hc
    rw [Hex.encode, List.mem_cons, List.mem_cons] at hc
    rcases hc with rfl | rfl | hc
    · exact isPlain_digit _ (by omega)
    · exact isPlain_digit _ (by omega)
    · exact ih c hc

/-! ## Blanks -/

theorem skipBlanks_cons {b : UInt8} (h : isBlank b = false) (rest : Bytes) :
    skipBlanks (b :: rest) = b :: rest := by
  simp [skipBlanks, h]

end Json

end TwoParty
