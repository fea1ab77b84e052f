import Mathlib.Algebra.Field.ZMod
import TwoParty.Group.Basic

/-!
# TwoParty.Proofs.Group.Lawful

The laws of a group of prime order `q`, written through logarithms: every element
is `exp a` for exactly one residue `a` modulo `q`, and every exponent acts as its
residue.

Validated decoding becomes arithmetic modulo `q` in this form:

* `member_encode` — the encoding of `exp a` is accepted unless `a` is zero;
* `exists_of_member` — whatever is accepted is `exp a` with `a` not zero.
-/

namespace TwoParty

/-- A group whose elements form a cyclic group of prime order, whose exponents act
as residues modulo the order, and whose encodings decode back.

Values of the element type that are no element of the group are harmless as long as
`isMember` refuses them; an exponent need not be reduced, but whatever is computed or
drawn is. -/
class LawfulGroup (G : DlogGroup) where
  prime : G.order.Prime
  /-- The element with a given logarithm. -/
  exp : ZMod G.order → G.Element
  /-- An exponent modulo the order. -/
  residue : G.Exponent → ZMod G.order
  /-- The reduced exponent of a residue. -/
  scalar : ZMod G.order → G.Exponent
  exp_injective : Function.Injective exp
  exp_one : exp 1 = G.generator
  mul_exp : ∀ a b, G.mul (exp a) (exp b) = exp (a + b)
  pow_exp : ∀ a e, G.pow (exp a) e = exp (a * residue e)
  isMember_iff : ∀ x, G.isMember x = true ↔ ∃ a, a ≠ 0 ∧ exp a = x
  /-- The identity decodes like any other element. -/
  decode_encode : ∀ a, G.decodeElement (G.encodeElement (exp a)) = .ok (exp a)
  residue_scalar : ∀ z, residue (scalar z) = z
  neg_eq : ∀ e, G.neg e = scalar (-residue e)
  add_eq : ∀ e f, G.add e f = scalar (residue e + residue f)
  times_eq : ∀ e f, G.times e f = scalar (residue e * residue f)
  decode_encode_scalar : ∀ z, G.decodeExponent (G.encodeExponent (scalar z)) = .ok (scalar z)
  /-- A drawn exponent is reduced and not zero. -/
  sample_spec : ∀ {s e t}, G.sample s = some (e, t) → residue e ≠ 0 ∧ scalar (residue e) = e

/-- The exponents that a source gives one after another, and what is left of it. -/
def DlogGroup.Drawn (G : DlogGroup) : ByteSource → List G.Exponent → ByteSource → Prop
  | s, [], t => s = t
  | s, e :: es, t => ∃ u, G.sample s = some (e, u) ∧ G.Drawn u es t

/-- Drawing from two lists is drawing from one after the other. -/
theorem DlogGroup.drawn_append {G : DlogGroup} {s t : ByteSource} {es fs : List G.Exponent} :
    G.Drawn s (es ++ fs) t ↔ ∃ u, G.Drawn s es u ∧ G.Drawn u fs t := by
  induction es generalizing s with
  | nil => simp [Drawn]
  | cons e es ih =>
    simp only [List.cons_append, Drawn, ih]
    constructor
    · intro h
      obtain ⟨v, he, u, hes, hfs⟩ := h
      exact ⟨u, ⟨v, he, hes⟩, hfs⟩
    · intro h
      obtain ⟨u, ⟨v, he, hes⟩, hfs⟩ := h
      exact ⟨v, he, u, hes, hfs⟩

/-- So many exponents are in reach of the source. -/
def DlogGroup.CanDraw (G : DlogGroup) (count : Nat) (source : ByteSource) : Prop :=
  ∃ exponents rest, exponents.length = count ∧ G.Drawn source exponents rest

@[simp] theorem DlogGroup.canDraw_zero (G : DlogGroup) (s : ByteSource) : G.CanDraw 0 s :=
  ⟨[], s, rfl, rfl⟩

/-- Drawing once more takes one exponent and then draws the others. -/
theorem DlogGroup.canDraw_succ {G : DlogGroup} {s : ByteSource} {n : Nat} :
    G.CanDraw (n + 1) s ↔ ∃ e t, G.sample s = some (e, t) ∧ G.CanDraw n t := by
  constructor
  · rintro ⟨es, rest, hlen, hdrawn⟩
    obtain ⟨e, es, rfl⟩ := List.exists_cons_of_length_eq_add_one hlen
    obtain ⟨t, he, hes⟩ := hdrawn
    exact ⟨e, t, he, es, rest, Nat.succ.inj hlen, hes⟩
  · rintro ⟨e, t, he, es, rest, hlen, hes⟩
    exact ⟨e :: es, rest, by rw [List.length_cons, hlen], t, he, hes⟩

namespace LawfulGroup

variable {G : DlogGroup} [LawfulGroup G]

instance : Fact G.order.Prime := ⟨prime⟩

/-! ## Elements -/

variable (G) in
/-- The element that is no member. -/
def one : G.Element := exp 0

theorem exp_inj {a b : ZMod G.order} : exp a = exp b ↔ a = b := exp_injective.eq_iff

/-- The power of the generator has the exponent for its logarithm. -/
theorem gpow_eq (e : G.Exponent) : G.gpow e = exp (residue e) := by
  rw [DlogGroup.gpow, ← exp_one, pow_exp, one_mul]

/-- The members are the elements whose logarithm is not zero. -/
theorem isMember_exp {a : ZMod G.order} : G.isMember (exp a) = true ↔ a ≠ 0 := by
  rw [isMember_iff]
  constructor
  · intro hmember
    obtain ⟨b, hb, h⟩ := hmember
    rwa [← exp_injective h]
  · intro ha
    exact ⟨a, ha, rfl⟩

/-- Different elements have different encodings. -/
theorem encode_exp_inj {a b : ZMod G.order} :
    G.encodeElement (exp a) = G.encodeElement (exp b) ↔ a = b := by
  constructor
  · intro h
    have hd := congrArg G.decodeElement h
    rw [decode_encode, decode_encode] at hd
    exact exp_injective (Except.ok.inj hd)
  · intro h
    rw [h]

/-! ## Validated decoding -/

/-- Validated decoding of an element that an honest party wrote down. -/
theorem member_encode (field : String) (a : ZMod G.order) :
    G.member field (G.encodeElement (exp a)) =
      if a = 0 then .error (.cheatAttempt (.outsideGroup field G.name)) else .ok (exp a) := by
  rw [DlogGroup.member, decode_encode]
  by_cases ha : a = 0
  · have hm : ¬ G.isMember (exp a) = true := fun h => isMember_exp.1 h ha
    simp [ha, ha ▸ hm]
  · simp [ha, isMember_exp.2 ha]

/-- The encoding of a member is accepted in any field. -/
theorem member_encode_of_ne (field : String) {a : ZMod G.order} (ha : a ≠ 0) :
    G.member field (G.encodeElement (exp a)) = .ok (exp a) := by
  rw [member_encode, if_neg ha]

/-- Whatever passes validated decoding is an element other than the identity. -/
theorem exists_of_member {field : String} {bs : Bytes} {x : G.Element}
    (h : G.member field bs = .ok x) : ∃ a, a ≠ 0 ∧ exp a = x := by
  unfold DlogGroup.member at h
  split at h
  · contradiction
  · next e he =>
    split at h
    · next hm =>
      obtain rfl := Except.ok.inj h
      exact (isMember_iff e).1 hm
    · contradiction

/-- As `member_encode`, for the decoding that does not name a field. -/
theorem element_encode (a : ZMod G.order) :
    G.element true (G.encodeElement (exp a)) =
      if a = 0 then .error (.cheatAttempt (.nonMember G.membersName)) else .ok (exp a) := by
  rw [DlogGroup.element, decode_encode]
  by_cases ha : a = 0
  · have hm : ¬ G.isMember (exp a) = true := fun h => isMember_exp.1 h ha
    simp [ha, ha ▸ hm]
  · simp [ha, isMember_exp.2 ha]

/-- As `exists_of_member`, for the decoding that does not name a field. -/
theorem exists_of_element {bs : Bytes} {x : G.Element} (h : G.element true bs = .ok x) :
    ∃ a, a ≠ 0 ∧ exp a = x := by
  unfold DlogGroup.element at h
  split at h
  · contradiction
  · next e he =>
    split at h
    · contradiction
    · next hm =>
      obtain rfl := Except.ok.inj h
      rw [Bool.true_and, Bool.not_eq_true', Bool.not_eq_false] at hm
      exact (isMember_iff e).1 hm

/-! ## Exponents -/

/-- Different reduced exponents have different encodings. -/
theorem encode_scalar_inj {a b : ZMod G.order} :
    G.encodeExponent (scalar a) = G.encodeExponent (scalar b) ↔ a = b := by
  constructor
  · intro h
    have hd := congrArg G.decodeExponent h
    rw [decode_encode_scalar, decode_encode_scalar] at hd
    have hr := congrArg residue (Except.ok.inj hd)
    rwa [residue_scalar, residue_scalar] at hr
  · intro h
    rw [h]

theorem exponent_encode (z : ZMod G.order) :
    G.exponent (G.encodeExponent (scalar z)) = .ok (scalar z) := by
  rw [DlogGroup.exponent, decode_encode_scalar]
  rfl

/-- Drawn exponents are reduced and not zero. -/
theorem spec_of_drawn {s t : ByteSource} {es : List G.Exponent} (h : G.Drawn s es t) :
    ∀ e ∈ es, residue e ≠ 0 ∧ scalar (residue e) = e := by
  induction es generalizing s with
  | nil => simp
  | cons e es ih =>
    obtain ⟨u, he, hes⟩ := h
    intro f hf
    rcases List.mem_cons.1 hf with rfl | hf
    · exact sample_spec he
    · exact ih hes f hf

/-- None of the drawn exponents is zero. -/
theorem residue_ne_zero_of_drawn {s t : ByteSource} {es : List G.Exponent}
    (h : G.Drawn s es t) : ∀ e ∈ es, residue e ≠ 0 :=
  fun e he => (spec_of_drawn h e he).1

theorem residue_ne_zero_of_sample {s t : ByteSource} {e : G.Exponent}
    (h : G.sample s = some (e, t)) : residue e ≠ 0 := (sample_spec h).1

end LawfulGroup

end TwoParty
