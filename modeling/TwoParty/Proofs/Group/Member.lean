import TwoParty.Group.Basic

/-!
# TwoParty.Proofs.Group.Member

Validated decoding of what a peer sent, without the order of its two checks: bytes denote a
member, or there is one reason why they do not.
-/

namespace TwoParty

namespace DlogGroup

variable (G : DlogGroup)

/-- The bytes decode to this member. -/
structure Denotes (bs : Bytes) (x : G.Element) : Prop where
  decodes : G.decodeElement bs = .ok x
  isMember : G.isMember x = true

/-- Why the bytes of a field denote no member. -/
inductive Unfit (field : String) (bs : Bytes) : Cheating → Prop where
  | undecodable {reason} (h : G.decodeElement bs = .error reason) :
    Unfit field bs (.undecodable field G.name reason)
  | outside {x} (h : G.decodeElement bs = .ok x) (hx : G.isMember x = false) :
    Unfit field bs (.outsideGroup field G.name)

variable {G} {field : String} {bs : Bytes} {x : G.Element}

theorem Denotes.member_eq (h : G.Denotes bs x) (field : String) : G.member field bs = .ok x := by
  simp [member, h.decodes, h.isMember]

/-- Bytes that denote a member are let in, with or without a look at membership. -/
theorem Denotes.element_eq (h : G.Denotes bs x) (validate : Bool) :
    G.element validate bs = .ok x := by
  simp [element, h.decodes, h.isMember]

theorem Unfit.member_eq {c : Cheating} (h : G.Unfit field bs c) :
    G.member field bs = .error (.cheatAttempt c) := by
  cases h with
  | undecodable h => simp [member, h]
  | outside h hx => simp [member, h, hx]

/-- Bytes denote a member or are unfit. -/
theorem member_cases (field : String) (bs : Bytes) :
    (∃ x, G.Denotes bs x) ∨ ∃ c, G.Unfit field bs c := by
  cases h : G.decodeElement bs with
  | error reason => exact .inr ⟨_, .undecodable h⟩
  | ok x =>
    cases hx : G.isMember x with
    | true => exact .inl ⟨x, h, hx⟩
    | false => exact .inr ⟨_, .outside h hx⟩

/-- There is only one reason why bytes are unfit. -/
theorem Unfit.unique {c c' : Cheating} (h : G.Unfit field bs c) (h' : G.Unfit field bs c') :
    c = c' := by
  have heq := h.member_eq.symm.trans h'.member_eq
  cases heq
  rfl

/-- Bytes that denote a member are not unfit. -/
theorem Denotes.not_unfit {c : Cheating} (hx : G.Denotes bs x) : ¬ G.Unfit field bs c := by
  intro h
  have hmember := hx.member_eq field
  rw [h.member_eq] at hmember
  contradiction

end DlogGroup

end TwoParty
