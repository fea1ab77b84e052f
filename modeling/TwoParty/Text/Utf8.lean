import TwoParty.Bytes

/-!
# TwoParty.Text.Utf8

Reading UTF-8: shortest forms only, no surrogates, nothing above
U+10FFFF.
-/

namespace TwoParty

namespace Utf8

/-- A continuation byte. -/
def isTail (b : UInt8) : Bool := 0x80 ≤ b && b ≤ 0xbf

/-- The six payload bits of a continuation byte. -/
def tailBits (b : UInt8) : Nat := b.toNat % 64

/-- May `b` follow the lead byte `a` of a three-byte form? -/
def followsThree (a b : UInt8) : Bool :=
  (a = 0xe0 && 0xa0 ≤ b && b ≤ 0xbf) || (a = 0xed && 0x80 ≤ b && b ≤ 0x9f)
    || (0xe1 ≤ a && a ≤ 0xef && a ≠ 0xed && isTail b)

/-- May `b` follow the lead byte `a` of a four-byte form? -/
def followsFour (a b : UInt8) : Bool :=
  (a = 0xf0 && 0x90 ≤ b && b ≤ 0xbf) || (a = 0xf4 && 0x80 ≤ b && b ≤ 0x8f)
    || (0xf1 ≤ a && a ≤ 0xf3 && isTail b)

/-- The characters a byte string spells, or `none` if it is not well formed. -/
def decode? : Bytes → Option (List Char)
  | [] => some []
  | a :: r =>
    if a < 0x80 then (decode? r).map (Char.ofNat a.toNat :: ·)
    else match r with
    | [] => none
    | b :: r =>
      if 0xc2 ≤ a && a ≤ 0xdf && isTail b then
        (decode? r).map (Char.ofNat (a.toNat % 32 * 64 + tailBits b) :: ·)
      else match r with
      | [] => none
      | c :: r =>
        if followsThree a b && isTail c then
          (decode? r).map
            (Char.ofNat (a.toNat % 16 * 4096 + tailBits b * 64 + tailBits c) :: ·)
        else match r with
        | [] => none
        | d :: r =>
          if followsFour a b && isTail c && isTail d then
            (decode? r).map (Char.ofNat (a.toNat % 8 * 262144 + tailBits b * 4096
              + tailBits c * 64 + tailBits d) :: ·)
          else none

/-- A string of ASCII bytes is well formed. -/
theorem decode?_ascii {bs : Bytes} (h : ∀ b ∈ bs, b < 0x80) :
    decode? bs = some (bs.map fun b => Char.ofNat b.toNat) := by
  induction bs with
  | nil => rfl
  | cons b bs ih =>
    have hb : b < 0x80 := h b (by simp)
    have ih := ih fun c hc => h c (by simp [hc])
    unfold decode?
    simp [hb, ih]

/-- The text a byte string spells, or `none` if it is not well formed. -/
def text? (bs : Bytes) : Option String := (decode? bs).map String.ofList

end Utf8

end TwoParty
