import TwoParty.Proofs.Json.Number
import TwoParty.Proofs.Json.Scan
import TwoParty.Proofs.Json.Text

/-!
# TwoParty.Proofs.Json.Flat

Objects of strings and numbers, as a grammar: `Spells` is the text of one value,
`Members` that of the members up to the closing brace.  The relations follow the scanners
and leave out the reader's fuel and the depth of nesting.

* `isObject_of_parse`, `IsObject.parse` — the grammar is what the reader accepts;
* `isObject_print` — compact text is one of the texts of an object.
-/

namespace TwoParty

namespace Json

def isScalar : Json → Bool
  | .string _ => true
  | .number _ => true
  | _ => false

/-- A digit is none of the other marks. -/
theorem ne_of_isDigit {b : UInt8} (hb : isDigit b = true) (c : UInt8) (hc : isDigit c = false) :
    b ≠ c := by
  intro heq
  rw [heq, hc] at hb
  cases hb

/-! ## Values -/

/-- A string or a number stands in front of the rest. -/
inductive Spells : Bytes → Json → Bytes → Prop where
  | string {s tail text rest} (hs : skipBlanks s = 0x22 :: tail)
    (h : readString tail = .ok (text, rest)) : Spells s (.string text) rest
  | negative {s tail n rest} (hs : skipBlanks s = 0x2d :: tail)
    (h : readNumber false tail = .ok (n, rest)) : Spells s (.number n) rest
  | positive {s b tail n rest} (hs : skipBlanks s = b :: tail) (hb : isDigit b = true)
    (h : readNumber true (b :: tail) = .ok (n, rest)) : Spells s (.number n) rest

/-- What stands behind a value is the end of the text. -/
theorem Spells.suffix {s rest : Bytes} {v : Json} (h : Spells s v rest) : rest <:+ s := by
  cases h with
  | string hs h =>
    exact (readString_suffix h).trans ((List.suffix_cons _ _).trans (hs ▸ skipBlanks_suffix s))
  | negative hs h =>
    exact (readNumber_suffix h).trans ((List.suffix_cons _ _).trans (hs ▸ skipBlanks_suffix s))
  | positive hs hb h => exact (readNumber_suffix h).trans (hs ▸ skipBlanks_suffix s)

/-- What is read is a string or a number as it is spelled, the members of an object, or
something else. -/
theorem readValueLoop_cases {fuel depth : Nat} {s rest : Bytes} {v : Json}
    (h : readValueLoop fuel depth s = .ok (v, rest)) :
    Spells s v rest ∨
      (∃ fuel tail ms, skipBlanks s = 0x7b :: tail ∧ v = .object ms ∧
        readMembersLoop fuel (depth - 1) true tail = .ok (ms, rest)) ∨
      v.isScalar = false ∧ ∀ ms, v ≠ .object ms := by
  cases fuel with
  | zero => cases h
  | succ fuel =>
    rw [readValueLoop] at h
    split at h
    · cases h
    next b tail hs =>
      -- the three words
      split at h
      · obtain ⟨after, -, heq⟩ := map_eq_ok_iff.1 h
        cases heq
        simp [isScalar]
      split at h
      · obtain ⟨after, -, heq⟩ := map_eq_ok_iff.1 h
        cases heq
        simp [isScalar]
      split at h
      · obtain ⟨after, -, heq⟩ := map_eq_ok_iff.1 h
        cases heq
        simp [isScalar]
      -- numbers and strings
      split at h
      · next hb =>
        obtain ⟨read, hread, heq⟩ := map_eq_ok_iff.1 h
        cases heq
        exact .inl (.negative (hb ▸ hs) hread)
      split at h
      · next hb =>
        obtain ⟨read, hread, heq⟩ := map_eq_ok_iff.1 h
        cases heq
        exact .inl (.positive hs hb hread)
      split at h
      · next hb =>
        obtain ⟨read, hread, heq⟩ := map_eq_ok_iff.1 h
        cases heq
        exact .inl (.string (hb ▸ hs) hread)
      -- lists and objects
      split at h
      · split at h
        · cases h
        · obtain ⟨read, -, heq⟩ := map_eq_ok_iff.1 h
          cases heq
          simp [isScalar]
      split at h
      · next hb =>
        split at h
        · cases h
        · obtain ⟨read, hread, heq⟩ := map_eq_ok_iff.1 h
          cases heq
          exact .inr (.inl ⟨fuel, tail, read.1, hb ▸ hs, rfl, hread⟩)
      · cases h

/-- A string or a number is read as it is spelled. -/
theorem spells_of_readValueLoop {fuel depth : Nat} {s rest : Bytes} {v : Json}
    (h : readValueLoop fuel depth s = .ok (v, rest)) (hv : v.isScalar = true) :
    Spells s v rest := by
  obtain hspells | ⟨fuel, tail, ms, hs, rfl, hread⟩ | ⟨hother, -⟩ := readValueLoop_cases h
  · exact hspells
  · cases hv
  · simp [hother] at hv

/-- One round is enough for a string or a number, at any depth. -/
theorem Spells.readValueLoop {s rest : Bytes} {v : Json} (h : Spells s v rest)
    (fuel depth : Nat) : readValueLoop (fuel + 1) depth s = .ok (v, rest) := by
  cases h with
  | string hs h => simp [Json.readValueLoop, hs, h, isDigit, Except.map]
  | negative hs h => simp [Json.readValueLoop, hs, h, Except.map]
  | positive hs hb h =>
    have hne := ne_of_isDigit hb
    simp [Json.readValueLoop, hs, h, hb, hne 0x6e rfl, hne 0x74 rfl, hne 0x66 rfl, hne 0x2d rfl,
      Except.map]

/-! ## Members -/

/-- Looking for a key takes at least one byte. -/
theorem nextKey_length_lt {first : Bool} {s rest : Bytes} {key : Option Bytes}
    (h : nextKey first s = .ok (key, rest)) : rest.length < s.length := by
  have hblanks := (skipBlanks_suffix s).length_le
  unfold nextKey at h
  split at h
  · cases h
  next b tail hs =>
    rw [hs, List.length_cons] at hblanks
    -- The brace, a key in front, or a key behind a comma.
    split at h
    · cases h
      omega
    split at h
    · split at h
      · obtain ⟨read, hread, heq⟩ := map_eq_ok_iff.1 h
        cases heq
        have := (readString_suffix hread).length_le
        omega
      · cases h
    split at h
    · have htail := (skipBlanks_suffix tail).length_le
      split at h
      · cases h
      next c tail' hs' =>
        rw [hs', List.length_cons] at htail
        split at h
        · obtain ⟨read, hread, heq⟩ := map_eq_ok_iff.1 h
          cases heq
          have := (readString_suffix hread).length_le
          omega
        · split at h <;> cases h
    · cases h

theorem colon_suffix {s rest : Bytes} (h : colon s = .ok rest) : rest <:+ s := by
  unfold colon at h
  split at h
  · cases h
  next b tail hs =>
    split at h
    · cases h
      exact (List.suffix_cons b _).trans (hs ▸ skipBlanks_suffix s)
    · cases h

/-- Strings and numbers stand under these keys, up to the closing brace. -/
inductive Members : Bool → Bytes → List (Bytes × Json) → Bytes → Prop where
  | nil {first s rest} (h : nextKey first s = .ok (none, rest)) : Members first s [] rest
  | cons {first s key after tail v mid ms rest} (hkey : nextKey first s = .ok (some key, after))
    (hcolon : colon after = .ok tail) (hvalue : Spells tail v mid)
    (h : Members false mid ms rest) : Members first s ((key, v) :: ms) rest

/-- There are fewer members than bytes. -/
theorem Members.length_lt {first : Bool} {s rest : Bytes} {ms : List (Bytes × Json)}
    (h : Members first s ms rest) : ms.length + rest.length < s.length := by
  induction h with
  | nil h => simpa using nextKey_length_lt h
  | cons hkey hcolon hvalue h ih =>
    have hkey := nextKey_length_lt hkey
    have hcolon := (colon_suffix hcolon).length_le
    have hvalue := hvalue.suffix.length_le
    rw [List.length_cons]
    omega

/-- Members that are read, all of them strings and numbers, are spelled. -/
theorem members_of_readMembersLoop {fuel depth : Nat} {first : Bool} {s rest : Bytes}
    {ms : List (Bytes × Json)} (h : readMembersLoop fuel depth first s = .ok (ms, rest))
    (hms : ∀ m ∈ ms, m.2.isScalar = true) : Members first s ms rest := by
  induction fuel generalizing first s ms with
  | zero => cases h
  | succ fuel ih =>
    rw [readMembersLoop] at h
    split at h
    · cases h
    · next hkey =>
      cases h
      exact .nil hkey
    next key after hkey =>
      split at h
      · cases h
      next v mid hvalue =>
        obtain ⟨tail, hcolon, hvalue⟩ := bind_eq_ok_iff.1 hvalue
        obtain ⟨read, hread, heq⟩ := map_eq_ok_iff.1 h
        cases heq
        rw [List.forall_mem_cons] at hms
        exact .cons hkey hcolon (spells_of_readValueLoop hvalue hms.1) (ih hread hms.2)

/-- Members that are spelled are read, if the fuel is enough for them. -/
theorem Members.readMembersLoop {fuel : Nat} {first : Bool} {s rest : Bytes}
    {ms : List (Bytes × Json)} (h : Members first s ms rest) (depth : Nat)
    (hfuel : ms.length < fuel) : readMembersLoop fuel depth first s = .ok (ms, rest) := by
  induction h generalizing fuel with
  | nil h =>
    obtain ⟨fuel, rfl⟩ := Nat.exists_eq_succ_of_ne_zero (Nat.ne_of_gt hfuel)
    simp [Json.readMembersLoop, h]
  | cons hkey hcolon hvalue h ih =>
    rw [List.length_cons] at hfuel
    -- One round for the value and one for what is left.
    obtain ⟨fuel, rfl⟩ : ∃ n, fuel = n + 2 := ⟨fuel - 2, by omega⟩
    have hvalue := hvalue.readValueLoop fuel depth
    have hrest := @ih (fuel + 1) (by omega)
    rw [Json.readMembersLoop]
    simp [hkey, hcolon, hvalue, hrest, bind, Except.bind, Except.map]

/-! ## Objects -/

/-- The text is an object with these members, and nothing else. -/
def IsObject (s : Bytes) (ms : List (Bytes × Json)) : Prop :=
  ∃ tail rest, skipBlanks s = 0x7b :: tail ∧ Members true tail ms rest ∧ skipBlanks rest = []

/-- Whatever the reader takes for an object of strings and numbers is one. -/
theorem isObject_of_parse {s : Bytes} {ms : List (Bytes × Json)}
    (h : parse s = .ok (.object ms)) (hms : ∀ m ∈ ms, m.2.isScalar = true) : IsObject s ms := by
  obtain ⟨⟨v, rest⟩, hvalue, hfinish⟩ := bind_eq_ok_iff.1 h
  rw [finish] at hfinish
  split at hfinish
  · next hend =>
    cases hfinish
    obtain hspells | ⟨fuel, tail, ms, hs, heq, hread⟩ | ⟨-, hne⟩ := readValueLoop_cases hvalue
    · cases hspells
    · cases heq
      exact ⟨tail, rest, hs, members_of_readMembersLoop hread hms, List.isEmpty_iff.1 hend⟩
    · exact absurd rfl (hne ms)
  · cases hfinish

/-- Every text of an object is read as the object. -/
theorem IsObject.parse {s : Bytes} {ms : List (Bytes × Json)} (h : IsObject s ms) :
    Json.parse s = .ok (.object ms) := by
  obtain ⟨tail, rest, hs, hmembers, hend⟩ := h
  -- The reader has fuel for the bytes, and there are fewer members than bytes.
  have hlength := hmembers.length_lt
  have hblanks := (skipBlanks_suffix s).length_le
  rw [hs, List.length_cons] at hblanks
  have hfuel : ms.length < 2 * s.length + 1 := by omega
  have hread := hmembers.readMembersLoop 127 hfuel
  simp [Json.parse, readValue, Json.readValueLoop, hs, isDigit, depthLimit, hread, Except.map,
    bind, Except.bind, finish, hend]

/-! ## Compact text -/

/-- A string without escapes, or a number of 64 bits. -/
def isPlainValue : Json → Bool
  | .string text => text.all isPlain
  | .number (.nat n) => n < UInt64.size
  | _ => false

theorem isScalar_of_isPlainValue {v : Json} (h : v.isPlainValue = true) : v.isScalar = true := by
  cases v with
  | string text => rfl
  | number n => rfl
  | _ => cases h

theorem isBlank_of_isDigit {b : UInt8} (h : isDigit b = true) : isBlank b = false := by
  have hne := ne_of_isDigit h
  simp [isBlank, hne 0x20 rfl, hne 0x0a rfl, hne 0x09 rfl, hne 0x0d rfl]

/-- The text of a value spells it in front of whatever follows a member. -/
theorem spells_print {v : Json} (hv : v.isPlainValue = true) {rest : Bytes}
    (hrest : Delimited rest) : Spells (print v ++ rest) v rest := by
  cases v with
  | string text =>
    have htext : ∀ b ∈ text, isPlain b = true := by simpa [isPlainValue] using hv
    rw [print, printString_plain htext, List.cons_append]
    refine .string (skipBlanks_cons (by decide) _) ?_
    simpa using readString_append htext rest
  | number n =>
    cases n with
    | nat n =>
      have hn : n < UInt64.size := by simpa [isPlainValue] using hv
      have htext : print (.number (.nat n)) = digitBytes n := by
        rw [print, Number.text, ofText_digitText]
      obtain ⟨b, bs, hcons, hb⟩ := digitBytes_cons n
      have hread := readNumber_digitBytes hn hrest
      rw [htext]
      rw [hcons, List.cons_append] at hread ⊢
      exact .positive (skipBlanks_cons (isBlank_of_isDigit hb) _) hb hread
    | negative n => cases hv
    | float x => cases hv
  | _ => cases hv

/-- The members after the first one. -/
def printRest : List (Bytes × Json) → Bytes
  | [] => []
  | (key, v) :: ms => 0x2c :: (printString key ++ 0x3a :: (print v ++ printRest ms))

/-- Members are printed one by one, with commas between them. -/
theorem printMembers_cons (m : Bytes × Json) (ms : List (Bytes × Json)) :
    printMembers (m :: ms) = printString m.1 ++ 0x3a :: (print m.2 ++ printRest ms) := by
  induction ms generalizing m with
  | nil => simp [printMembers, printRest]
  | cons n ms ih => simp [printMembers, printRest, ih]

/-- After a member comes another one or the end of the object. -/
theorem delimited_printRest (ms : List (Bytes × Json)) (after : Bytes) :
    Delimited (printRest ms ++ 0x7d :: after) := by
  cases ms with
  | nil => exact delimited_brace after
  | cons m ms => exact delimited_comma _

theorem nextKey_brace (first : Bool) (rest : Bytes) :
    nextKey first (0x7d :: rest) = .ok (none, rest) := by
  simp [nextKey, skipBlanks, isBlank]

/-- The first key stands right behind the opening brace. -/
theorem nextKey_printString {key : Bytes} (h : ∀ b ∈ key, isPlain b = true) (rest : Bytes) :
    nextKey true (printString key ++ rest) = .ok (some key, rest) := by
  simp [printString_plain h, nextKey, skipBlanks, isBlank, readString_append h, Except.map]

theorem nextKey_comma {key : Bytes} (h : ∀ b ∈ key, isPlain b = true) (rest : Bytes) :
    nextKey false (0x2c :: (printString key ++ rest)) = .ok (some key, rest) := by
  simp [printString_plain h, nextKey, skipBlanks, isBlank, readString_append h, Except.map]

theorem colon_cons (rest : Bytes) : colon (0x3a :: rest) = .ok rest := by
  simp [colon, skipBlanks, isBlank]

/-- A member whose text is compact. -/
def IsPlainMember (m : Bytes × Json) : Prop :=
  (∀ b ∈ m.1, isPlain b = true) ∧ m.2.isPlainValue = true

/-- Printed members behind the first one are spelled. -/
theorem members_printRest {ms : List (Bytes × Json)} (h : ∀ m ∈ ms, IsPlainMember m)
    (after : Bytes) : Members false (printRest ms ++ 0x7d :: after) ms after := by
  induction ms with
  | nil => exact .nil (nextKey_brace false after)
  | cons m ms ih =>
    obtain ⟨key, v⟩ := m
    rw [List.forall_mem_cons] at h
    obtain ⟨⟨hkey, hv⟩, hms⟩ := h
    simp only [printRest, List.cons_append, List.append_assoc]
    exact .cons (nextKey_comma hkey _) (colon_cons _)
      (spells_print hv (delimited_printRest ms after)) (ih hms)

/-- Printed members are spelled. -/
theorem members_printMembers {ms : List (Bytes × Json)} (h : ∀ m ∈ ms, IsPlainMember m)
    (after : Bytes) : Members true (printMembers ms ++ 0x7d :: after) ms after := by
  cases ms with
  | nil => exact .nil (nextKey_brace true after)
  | cons m ms =>
    obtain ⟨key, v⟩ := m
    rw [List.forall_mem_cons] at h
    obtain ⟨⟨hkey, hv⟩, hms⟩ := h
    rw [printMembers_cons]
    simp only [List.cons_append, List.append_assoc]
    exact .cons (nextKey_printString hkey _) (colon_cons _)
      (spells_print hv (delimited_printRest ms after)) (members_printRest hms after)

/-- The compact text of an object is one of its texts. -/
theorem isObject_print {ms : List (Bytes × Json)} (h : ∀ m ∈ ms, IsPlainMember m) :
    IsObject (print (.object ms)) ms :=
  ⟨_, [], by rw [print, skipBlanks_cons (by decide)], members_printMembers h [], rfl⟩

/-- Reading the text of an object gives the object. -/
theorem parse_print {ms : List (Bytes × Json)} (h : ∀ m ∈ ms, IsPlainMember m) :
    parse (print (.object ms)) = .ok (.object ms) := (isObject_print h).parse

end Json

end TwoParty
