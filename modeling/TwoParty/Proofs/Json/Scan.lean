import Mathlib.Logic.Basic
import TwoParty.Json.Value

/-!
# TwoParty.Proofs.Json.Scan

A scanner takes bytes off the front: what it leaves is a suffix of what it was given
(`readString_suffix`, `readNumber_suffix`).  So a reader that goes on with the rest makes
progress, and the length of the text bounds the number of its rounds.
-/

namespace TwoParty

namespace Json

/-! ## Steps that may fail -/

section
variable {ε α β : Type} {x : Except ε α} {b : β}

theorem map_eq_ok_iff {f : α → β} : x.map f = .ok b ↔ ∃ a, x = .ok a ∧ f a = b := by
  cases x <;> simp [Except.map]

theorem bind_eq_ok_iff {f : α → Except ε β} :
    x >>= f = .ok b ↔ ∃ a, x = .ok a ∧ f a = .ok b := by
  cases x <;> simp [bind, Except.bind]

end

/-! ## Blanks and strings -/

/-- Skipping blanks leaves the end of the text. -/
theorem skipBlanks_suffix (s : Bytes) : skipBlanks s <:+ s := by
  induction s with
  | nil => exact List.suffix_refl []
  | cons b rest ih =>
    rw [skipBlanks]
    split
    · exact ih.trans (List.suffix_cons b rest)
    · exact List.suffix_refl _

/-- Reading a string leaves the end of the text. -/
theorem rawString_suffix {s text rest : Bytes} (h : rawString s = .ok (text, rest)) :
    rest <:+ s := by
  fun_induction rawString s generalizing text with
  | case1 => cases h
  | case2 tail =>
    cases h
    exact List.suffix_cons _ _
  | case3 => cases h
  | case4 tail bs used hescape hquote ih =>
    obtain ⟨read, hread, hrest⟩ := map_eq_ok_iff.1 h
    cases hrest
    exact ((ih hread).trans (List.drop_suffix used tail)).trans (List.suffix_cons _ tail)
  | case5 => cases h
  | case6 b tail hquote hslash hcontrol ih =>
    obtain ⟨read, hread, hrest⟩ := map_eq_ok_iff.1 h
    cases hrest
    exact (ih hread).trans (List.suffix_cons b tail)

theorem readString_suffix {s text rest : Bytes} (h : readString s = .ok (text, rest)) :
    rest <:+ s := by
  obtain ⟨read, hraw, hrest⟩ := bind_eq_ok_iff.1 h
  dsimp only at hrest
  split at hrest
  · cases hrest
    exact rawString_suffix hraw
  · cases hrest

/-! ## Digits -/

theorem skipDigits_suffix (s : Bytes) : skipDigits s <:+ s := by
  induction s with
  | nil => exact List.suffix_refl []
  | cons b rest ih =>
    rw [skipDigits]
    split
    · exact ih.trans (List.suffix_cons b rest)
    · exact List.suffix_refl _

theorem takeDigits_suffix (significand taken : Nat) (s : Bytes) :
    (takeDigits significand taken s).2.2 <:+ s := by
  fun_induction takeDigits significand taken s with
  | case1 => exact List.suffix_refl []
  | case2 significand taken b rest hb ih => exact ih.trans (List.suffix_cons b rest)
  | case3 => exact List.suffix_refl _

theorem takeExponent_suffix (value : Nat) (s : Bytes) : (takeExponent value s).2 <:+ s := by
  fun_induction takeExponent value s with
  | case1 => exact List.suffix_refl []
  | case2 value b rest hb hlimit ih => exact ih.trans (List.suffix_cons b rest)
  | case3 value b rest hb hlimit => exact (skipDigits_suffix rest).trans (List.suffix_cons b rest)
  | case4 => exact List.suffix_refl _

/-! ## Numbers -/

/-- An exponent leaves the end of the text, whatever its sign and however great it is. -/
theorem exponentPart_suffix {positive : Bool} {significand : Nat} {exponent : Int} {n : Number}
    {s rest : Bytes} (h : exponentPart positive significand exponent s = .ok (n, rest)) :
    rest <:+ s := by
  unfold exponentPart at h
  dsimp only at h
  split at h
  · cases h
  next b tail hsign =>
  -- the sign, if there is one, has been passed over
  have hdigits : b :: tail <:+ s := by
    rw [← hsign]
    split
    · exact List.suffix_cons _ _
    · exact List.suffix_cons _ _
    · exact List.suffix_refl s
  have htake := (takeExponent_suffix (digitValue b) tail).trans
    ((List.suffix_cons b tail).trans hdigits)
  split at h
  · cases h
  split at h
  · next e tail' heq =>
    rw [heq] at htake
    obtain ⟨m, -, hrest⟩ := map_eq_ok_iff.1 h
    cases hrest
    exact htake
  · next tail' heq =>
    rw [heq] at htake
    have hrest : tail' = rest := by simp_all [ite_eq_iff]
    exact hrest ▸ htake

theorem fractionPart_suffix {positive : Bool} {significand : Nat} {exponent : Int} {n : Number}
    {s rest : Bytes} (h : fractionPart positive significand exponent s = .ok (n, rest)) :
    rest <:+ s := by
  have htake := takeDigits_suffix significand 0 s
  unfold fractionPart at h
  split at h
  next significand' taken tail heq =>
  rw [heq] at htake
  have htail := (skipDigits_suffix tail).trans htake
  split at h
  · cases h
  · dsimp only at h
    split at h
    · exact (exponentPart_suffix h).trans ((List.drop_suffix 1 _).trans htail)
    · obtain ⟨m, -, hrest⟩ := map_eq_ok_iff.1 h
      cases hrest
      exact htail

theorem afterInteger_suffix {positive : Bool} {significand dropped : Nat} {n : Number}
    {s rest : Bytes} (h : afterInteger positive significand dropped s = .ok (n, rest)) :
    rest <:+ s := by
  unfold afterInteger at h
  split at h
  · next tail => exact (fractionPart_suffix h).trans (List.suffix_cons _ tail)
  · split at h
    · exact (exponentPart_suffix h).trans (List.drop_suffix 1 s)
    · split at h
      · obtain ⟨m, -, hrest⟩ := map_eq_ok_iff.1 h
        cases hrest
        exact List.suffix_refl s
      · split at h
        · cases h
          exact List.suffix_refl _
        · split at h <;> cases h <;> exact List.suffix_refl _

/-- Reading a number leaves the end of the text. -/
theorem readNumber_suffix {positive : Bool} {n : Number} {s rest : Bytes}
    (h : readNumber positive s = .ok (n, rest)) : rest <:+ s := by
  cases s with
  | nil => cases h
  | cons b tail =>
    rw [readNumber] at h
    split at h
    · split at h
      · cases h
      · exact (afterInteger_suffix h).trans (List.suffix_cons b tail)
    · split at h
      · have htake := takeDigits_suffix (digitValue b) 0 tail
        split at h
        next significand taken rest' heq =>
        rw [heq] at htake
        exact (afterInteger_suffix h).trans
          ((List.drop_suffix _ rest').trans (htake.trans (List.suffix_cons b tail)))
      · cases h

end Json

end TwoParty
