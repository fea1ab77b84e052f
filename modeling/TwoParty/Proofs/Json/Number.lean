import TwoParty.Json.Value

/-!
# TwoParty.Proofs.Json.Number

Decimal digits read back as the number they were written for, as long as it fits 64
bits and a comma or a closing brace follows (`readNumber_digitBytes`).
-/

namespace TwoParty

namespace Json

/-- A comma or the end of an object comes next. -/
def Delimited (rest : Bytes) : Prop := ∃ b tail, rest = b :: tail ∧ (b = 0x2c ∨ b = 0x7d)

theorem delimited_comma (tail : Bytes) : Delimited (0x2c :: tail) := ⟨_, tail, rfl, .inl rfl⟩

theorem delimited_brace (tail : Bytes) : Delimited (0x7d :: tail) := ⟨_, tail, rfl, .inr rfl⟩

/-! ## Digits as bytes -/

def digitBytes (n : Nat) : Bytes := (Nat.toDigits 10 n).map Char.toUInt8

/-- The codes of the digits are 48 to 57. -/
theorem toNat_of_isDigit {c : Char} (h : c.isDigit = true) : 48 ≤ c.toNat ∧ c.toNat ≤ 57 := by
  rw [Char.isDigit_iff_toNat] at h
  exact h

theorem toNat_toUInt8 {c : Char} (h : c.isDigit = true) : c.toUInt8.toNat = c.toNat := by
  have := toNat_of_isDigit h
  have hval : c.val.toNat = c.toNat := rfl
  rw [Char.toUInt8, UInt32.toNat_toUInt8, hval]
  omega

theorem isDigit_toUInt8 {c : Char} (h : c.isDigit = true) : isDigit c.toUInt8 = true := by
  have hb := toNat_toUInt8 h
  have hc := toNat_of_isDigit h
  simp only [isDigit, Bool.and_eq_true, decide_eq_true_eq, UInt8.le_iff_toNat_le, hb]
  exact hc

theorem digitValue_toUInt8 {c : Char} (h : c.isDigit = true) :
    digitValue c.toUInt8 = c.toNat - '0'.toNat := by
  rw [digitValue, toNat_toUInt8 h]
  rfl

/-- As text a digit is its own byte. -/
theorem utf8EncodeChar_of_isDigit {c : Char} (h : c.isDigit = true) :
    String.utf8EncodeChar c = [c.toUInt8] := by
  have hsize : c.utf8Size = 1 := by
    have := toNat_of_isDigit h
    rw [Char.utf8Size_eq_one_iff, UInt32.le_iff_toNat_le]
    have hval : c.val.toNat = c.toNat := rfl
    rw [hval]
    exact Nat.le_trans this.2 (by decide)
  exact String.utf8EncodeChar_eq_singleton hsize

/-- The bytes of the text of a number are its digits. -/
theorem ofText_digitText (n : Nat) : Bytes.ofText (Decimal.digitText n) = digitBytes n := by
  have hmap : ∀ cs : List Char, (∀ c ∈ cs, c.isDigit = true) →
      cs.flatMap String.utf8EncodeChar = cs.map Char.toUInt8 := by
    intro cs hcs
    induction cs with
    | nil => rfl
    | cons c cs ih =>
      rw [List.flatMap_cons, utf8EncodeChar_of_isDigit (hcs c List.mem_cons_self),
        ih fun d hd => hcs d (List.mem_cons_of_mem c hd), List.map_cons, List.singleton_append]
  rw [Bytes.ofText, Decimal.digitText, String.toList_ofList, digitBytes]
  exact hmap _ fun c hc => Nat.isDigit_of_mem_toDigits (by decide) (by decide) hc

/-! ## Reading digits -/

/-- More digits do not make a number less. -/
theorem le_ofDigitChars (cs : List Char) (init : Nat) : init ≤ Nat.ofDigitChars 10 cs init := by
  rw [Nat.ofDigitChars_eq_ofDigitChars_zero]
  have hpos : 0 < 10 ^ cs.length := Nat.pow_pos (by decide)
  have := Nat.le_mul_of_pos_left init hpos
  omega

/-- Digits are taken as long as their number fits. -/
theorem takeDigits_append {cs : List Char} {sig taken : Nat} {rest : Bytes}
    (hcs : ∀ c ∈ cs, c.isDigit = true) (hfit : Nat.ofDigitChars 10 cs sig < UInt64.size)
    (hrest : startsWithDigit rest = false) :
    takeDigits sig taken (cs.map Char.toUInt8 ++ rest) =
      (Nat.ofDigitChars 10 cs sig, taken + cs.length, rest) := by
  -- The number so far is carried along, so the induction is over all of them.
  induction cs generalizing sig taken with
  | nil =>
    cases rest with
    | nil => rfl
    | cons b rest =>
      have hb : isDigit b = false := hrest
      simp [takeDigits, hb]
  | cons c cs ih =>
    have hc := hcs c List.mem_cons_self
    have hvalue : sig * 10 + digitValue c.toUInt8 = 10 * sig + (c.toNat - '0'.toNat) := by
      rw [digitValue_toUInt8 hc, Nat.mul_comm]
    rw [Nat.ofDigitChars_cons] at hfit ⊢
    have hlt := Nat.lt_of_le_of_lt (le_ofDigitChars cs _) hfit
    rw [List.map_cons, List.cons_append, takeDigits, hvalue, isDigit_toUInt8 hc,
      if_pos (by rw [Bool.true_and, decide_eq_true_iff]; exact hlt),
      ih (fun d hd => hcs d (List.mem_cons_of_mem c hd)) hfit]
    simp [Nat.add_comm, Nat.add_left_comm]

/-- A positive number is not written with a zero in front. -/
theorem head_toDigits {n : Nat} (hn : 0 < n) :
    ∃ c cs, Nat.toDigits 10 n = c :: cs ∧ c ≠ '0' := by
  induction n using Nat.strongRecOn with
  | ind n ih =>
    by_cases h10 : n < 10
    · refine ⟨n.digitChar, [], Nat.toDigits_of_lt_base h10, ?_⟩
      have hdigit : ∀ m < 10, 0 < m → m.digitChar ≠ '0' := by decide
      exact hdigit n h10 hn
    · obtain ⟨c, cs, hcs, hc⟩ := ih (n / 10) (by omega) (by omega)
      refine ⟨c, cs ++ [(n % 10).digitChar], ?_, hc⟩
      rw [Nat.toDigits_of_base_le (by decide) (by omega), hcs, List.cons_append]

theorem startsWithDigit_of_delimited {rest : Bytes} (h : Delimited rest) :
    startsWithDigit rest = false := by
  obtain ⟨b, tail, rfl, rfl | rfl⟩ := h <;> rfl

/-- A delimited number has neither fraction nor exponent. -/
theorem afterInteger_delimited {rest : Bytes} (h : Delimited rest) (sig : Nat) :
    afterInteger true sig 0 rest = .ok (.nat sig, rest) := by
  obtain ⟨b, tail, rfl, rfl | rfl⟩ := h <;> rfl

/-- The digits of a number read back as the number. -/
theorem readNumber_digitBytes {n : Nat} (hn : n < UInt64.size) {rest : Bytes}
    (hrest : Delimited rest) :
    readNumber true (digitBytes n ++ rest) = .ok (.nat n, rest) := by
  have hdigits : ∀ c ∈ Nat.toDigits 10 n, c.isDigit = true := fun c hc =>
    Nat.isDigit_of_mem_toDigits (by decide) (by decide) hc
  have hstop := startsWithDigit_of_delimited hrest
  -- Zero is the only number with a zero in front, and the reader treats it apart.
  rcases Nat.eq_zero_or_pos n with rfl | hpos
  · have hzero : digitBytes 0 = [0x30] := rfl
    rw [hzero, List.singleton_append, readNumber, if_pos rfl, hstop]
    exact afterInteger_delimited hrest 0
  · obtain ⟨c, cs, hcs, hc⟩ := head_toDigits hpos
    have hvalue : Nat.ofDigitChars 10 (Nat.toDigits 10 n) 0 = n := Nat.ofDigitChars_ten_toDigits
    rw [hcs] at hdigits hvalue
    have hcd := hdigits c List.mem_cons_self
    rw [Nat.ofDigitChars_cons, Nat.mul_zero, Nat.zero_add, ← digitValue_toUInt8 hcd] at hvalue
    have hne : c.toUInt8 ≠ 0x30 := by
      intro he
      have hto := congrArg UInt8.toNat he
      rw [toNat_toUInt8 hcd] at hto
      exact hc (Char.toNat_inj.1 hto)
    have hdropped : (rest.takeWhile isDigit).length = 0 := by
      obtain ⟨b, tail, rfl, rfl | rfl⟩ := hrest <;> rfl
    rw [digitBytes, hcs, List.map_cons, List.cons_append, readNumber, if_neg hne,
      if_pos (isDigit_toUInt8 hcd),
      takeDigits_append (fun d hd => hdigits d (List.mem_cons_of_mem c hd)) (hvalue ▸ hn) hstop,
      hvalue]
    simp only [hdropped, List.drop_zero]
    exact afterInteger_delimited hrest n

/-- A number does not start with a blank, a quote or a sign. -/
theorem digitBytes_cons (n : Nat) :
    ∃ b bs, digitBytes n = b :: bs ∧ isDigit b = true := by
  cases h : Nat.toDigits 10 n with
  | nil => exact absurd h Nat.toDigits_ne_nil
  | cons c cs =>
    refine ⟨c.toUInt8, cs.map Char.toUInt8, by rw [digitBytes, h, List.map_cons], ?_⟩
    exact isDigit_toUInt8
      (Nat.isDigit_of_mem_toDigits (by decide) (by decide) (h ▸ List.mem_cons_self))

end Json

end TwoParty
