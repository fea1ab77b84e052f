import TwoParty.Proofs.Group.ExponentCodec
import TwoParty.Proofs.Group.Generator
import TwoParty.Proofs.Group.Member

/-!
# TwoParty.Proofs.Group.ElementCodec

Elements are decoded on two paths that look at membership: `DlogGroup.member` for what a message
carries and `DlogGroup.element true` for what a proof carries.  They let the same elements in.

On a curve they turn away the identity and nothing else that can be decoded.  Residues are
another matter: every string of the right length can be decoded, and membership has to sort
out all the rest.
-/

namespace TwoParty

/-! ## The two paths -/

namespace DlogGroup

variable {G : DlogGroup} {field : String} {bs : Bytes} {x : G.Element}

/-- Without a look at membership, elements are what can be decoded. -/
theorem element_false_eq_ok_iff : G.element false bs = .ok x ↔ G.decodeElement bs = .ok x := by
  unfold element
  cases G.decodeElement bs <;> simp

theorem decode_of_element {validate : Bool} (h : G.element validate bs = .ok x) :
    G.decodeElement bs = .ok x := by
  unfold element at h
  split at h
  · contradiction
  · next y hy =>
    split at h
    · contradiction
    · exact Except.ok.inj h ▸ hy

/-- Unfit bytes are not let in where membership is looked at. -/
theorem Unfit.exists_element_eq {c : Cheating} (h : G.Unfit field bs c) :
    ∃ e, G.element true bs = .error e := by
  cases h with
  | undecodable h => exact ⟨_, by rw [element, h]⟩
  | outside h hx => exact ⟨.cheatAttempt (.nonMember G.membersName), by simp [element, h, hx]⟩

/-- What one path lets in, the other does. -/
theorem member_eq_ok_iff : G.member field bs = .ok x ↔ G.element true bs = .ok x := by
  obtain ⟨y, hy⟩ | ⟨c, hc⟩ := G.member_cases field bs
  · rw [hy.member_eq, hy.element_eq]
  · obtain ⟨e, he⟩ := hc.exists_element_eq
    rw [hc.member_eq, he]
    exact ⟨fun h => by contradiction, fun h => by contradiction⟩

/-- What is let in with a look at membership denotes a member. -/
theorem denotes_of_element (h : G.element true bs = .ok x) : G.Denotes bs x := by
  obtain ⟨y, hy⟩ | ⟨c, hc⟩ := G.member_cases "" bs
  · rw [hy.element_eq] at h
    exact Except.ok.inj h ▸ hy
  · obtain ⟨e, he⟩ := hc.exists_element_eq
    rw [he] at h
    contradiction

/-! ## What is said of the rest -/

/-- How a field is refused: its bytes cannot be decoded at all, or they decode to something
else than a member.  Either way the peer is blamed and the field is named. -/
inductive Refuses (G : DlogGroup) (field : String) (bs : Bytes) (e : Error) : Prop where
  | undecodable {reason} (h : G.element false bs = .error reason)
      (hkind : e.kind = .cheatAttempt)
      (hmessage : e.message = "Cheat attempt detected: " ++
        (s!"{field} is not a valid {G.name} element encoding (" ++ reason.message ++ ")"))
  | outside {y} (h : G.element false bs = .ok y) (hy : G.isMember y = false)
      (hkind : e.kind = .cheatAttempt)
      (hmessage : e.message = "Cheat attempt detected: " ++
        s!"{field} element is not a member of the {G.name} group")

/-- Every error of the path for messages is such a refusal. -/
theorem refuses_of_member {e : Error} (h : G.member field bs = .error e) :
    G.Refuses field bs e := by
  obtain ⟨y, hy⟩ | ⟨c, hc⟩ := G.member_cases field bs
  · rw [hy.member_eq] at h
    contradiction
  · rw [hc.member_eq] at h
    cases h
    cases hc with
    | @undecodable reason h =>
      have helement : G.element false bs = .error (.protocolFormat reason) := by rw [element, h]
      exact .undecodable helement rfl rfl
    | outside h hx => exact .outside (element_false_eq_ok_iff.2 h) hx rfl rfl

end DlogGroup

/-! ## Curves -/

namespace Secp256k1

/-- What is returned as a root squares to its argument. -/
theorem Coordinate.mul_self_of_root {a r : Coordinate} (h : Coordinate.root? a = some r) :
    r * r = a := by
  simp only [Coordinate.root?] at h
  split at h
  · next hroot => exact Option.some.inj h ▸ hroot
  · cases h

namespace Point

/-- The members are the solutions of the curve equation. -/
theorem isMember_affine_iff {x y : Coordinate} :
    (affine x y).isMember = true ↔ y * y = x * x * x + 7 := by
  rw [isMember, decide_eq_true_eq]

open Fin.CommRing in
/-- Compressed points are lifted to the curve. -/
theorem isMember_of_lift {odd : Bool} {x : Coordinate} {p : Point} (h : lift? odd x = some p) :
    p.isMember = true := by
  obtain ⟨r, hr, rfl⟩ := Option.map_eq_some_iff.1 h
  have hroot := Coordinate.mul_self_of_root hr
  rw [isMember_affine_iff]
  split
  · exact hroot
  · rw [neg_mul_neg]
    exact hroot

/-- Uncompressed points are let through on the curve only. -/
theorem isMember_of_onCurve {x y : Coordinate} {p : Point} (h : onCurve? x y = some p) :
    p.isMember = true := by
  unfold onCurve? at h
  split at h
  · next hon => exact Option.some.inj h ▸ isMember_affine_iff.2 hon
  · contradiction

/-- Either form of a point, unless it is that of the identity, spells a point of the curve. -/
theorem isMember_of_body {tag : UInt8} {body : Bytes} {p : Point} (h : ofBody tag body = some p)
    (hp : p ≠ identity) : p.isMember = true := by
  unfold ofBody at h
  split at h
  · exact absurd (Option.some.inj h).symm hp
  · split at h
    · obtain ⟨x, -, hx⟩ := Option.bind_eq_some_iff.1 h
      obtain ⟨y, -, hy⟩ := Option.bind_eq_some_iff.1 hx
      exact isMember_of_onCurve hy
    · obtain ⟨x, -, hx⟩ := Option.bind_eq_some_iff.1 h
      exact isMember_of_lift hx

/-- Whatever can be decoded is on the curve. -/
theorem isMember_of_decode {bs : Bytes} {p : Point} (h : decode bs = .ok p) (hp : p ≠ identity) :
    p.isMember = true := by
  unfold decode at h
  split at h
  · contradiction
  · split at h
    · split at h
      · next hbody => exact Except.ok.inj h ▸ isMember_of_body hbody (Except.ok.inj h ▸ hp)
      · contradiction
    · contradiction

end Point

end Secp256k1

namespace Ristretto

/-- Whatever can be decoded is the code of a class. -/
theorem Element.isMember_of_decode {bs : Bytes} {a : Element} (h : decode bs = .ok a)
    (ha : a ≠ identity) : a.isMember = true := by
  unfold decode at h
  split at h
  · contradiction
  · split at h
    · next hsome =>
      cases h
      simp [isMember, ha, hsome]
    · contradiction

end Ristretto

/-! ## Residues -/

namespace SafePrime

variable {s : SafePrime} {bs : Bytes} {x : Nat}

/-- A residue is decoded from any string of the right length. -/
theorem decodeElement_eq_ok_iff :
    s.group.decodeElement bs = .ok x ↔ bs.length = s.elementLength ∧ Bytes.natBE bs = x := by
  by_cases hlength : bs.length = s.elementLength
  · simp [group, hlength]
  · simp [group, hlength]

/-- Strings of the right length are written back, whatever they spell. -/
theorem encodeElement_natBE (h : bs.length = s.elementLength) :
    s.group.encodeElement (Bytes.natBE bs) = bs := by
  show Bytes.padBE s.elementLength (Bytes.natBE bs) = bs
  rw [← h, Bytes.padBE_natBE]

theorem encodeElement_of_decode (h : s.group.decodeElement bs = .ok x) :
    s.group.encodeElement x = bs := by
  obtain ⟨hlength, rfl⟩ := decodeElement_eq_ok_iff.1 h
  exact encodeElement_natBE hlength

/-- Members are the roots of unity of order `q` other than one, in reduced form. -/
theorem isMember_iff (h : s.Accepted) :
    s.isMember x = true ↔ 1 < x ∧ x < s.p ∧ (x : ZMod s.p) ^ s.q = 1 := by
  rw [natCast_pow_eq_one_iff h, isMember, powMod_eq]
  simp only [Bool.and_eq_true, decide_eq_true_eq, and_assoc]

/-- The strings that spell no member: zero, one, what is not reduced, and what lies outside
the subgroup. -/
def SpellsNoMember (s : SafePrime) (bs : Bytes) : Prop :=
  Bytes.natBE bs = 0 ∨ Bytes.natBE bs = 1 ∨ s.p ≤ Bytes.natBE bs ∨
    (Bytes.natBE bs : ZMod s.p) ^ s.q ≠ 1

/-- Strings that spell no member denote none. -/
theorem SpellsNoMember.not_denotes (h : s.Accepted) (hbs : s.SpellsNoMember bs) :
    ¬ s.group.Denotes bs x := by
  intro hx
  obtain ⟨-, rfl⟩ := decodeElement_eq_ok_iff.1 hx.decodes
  obtain ⟨hone, hlt, hpow⟩ := (isMember_iff h).1 hx.isMember
  obtain h0 | h1 | hle | hne := hbs
  · omega
  · omega
  · omega
  · exact hne hpow

/-- With a prime order, the subgroup is what the generator generates. -/
theorem spellsNoMember_of_not_power (h : s.Accepted) (hq : s.q.Prime)
    (hbs : ∀ k, s.g ^ k % s.p ≠ Bytes.natBE bs) : s.SpellsNoMember bs := by
  by_contra hspells
  simp only [SpellsNoMember, not_or, not_not] at hspells
  obtain ⟨h0, h1, hlt, hpow⟩ := hspells
  have hmember : s.isMember (Bytes.natBE bs) = true :=
    (isMember_iff h).2 ⟨by omega, by omega, hpow⟩
  obtain ⟨k, -, -, hk⟩ := (isMember_iff_exists_pow h hq).1 hmember
  exact hbs k hk

/-- Members have one encoding each, and no other string gets past a look at membership. -/
structure HasOneEncoding (s : SafePrime) : Prop where
  length_encode : ∀ {x : Nat}, s.isMember x = true →
    (s.group.encodeElement x).length = s.elementLength
  element_encode : ∀ {x : Nat}, s.isMember x = true → ∀ validate,
    s.group.element validate (s.group.encodeElement x) = .ok x
  member_encode : ∀ {x : Nat}, s.isMember x = true → ∀ field,
    s.group.member field (s.group.encodeElement x) = .ok x
  encode_of_element : ∀ {validate bs x}, s.group.element validate bs = .ok x →
    s.group.encodeElement x = bs
  encode_of_member : ∀ {field bs x}, s.group.member field bs = .ok x →
    s.group.encodeElement x = bs
  existsUnique_element : ∀ {x : Nat}, s.isMember x = true →
    ∃! bs, s.group.element true bs = .ok x
  element_ne_ok : ∀ {bs}, s.SpellsNoMember bs → ∀ x, s.group.element true bs ≠ .ok x
  member_ne_ok : ∀ {bs}, s.SpellsNoMember bs → ∀ field x, s.group.member field bs ≠ .ok x
  spellsNoMember_of_not_power : s.q.Prime → ∀ {bs}, (∀ k, s.g ^ k % s.p ≠ Bytes.natBE bs) →
    s.SpellsNoMember bs
  exists_element_false_iff : ∀ {bs}, (∃ x, s.group.element false bs = .ok x) ↔
    bs.length = s.elementLength

/-- With accepted parameters members have one encoding each. -/
theorem hasOneEncoding_of_accepted (h : s.Accepted) : s.HasOneEncoding where
  length_encode hx := (decodeElement_eq_ok_iff.1 (denotes_encode hx).decodes).1
  element_encode hx validate := (denotes_encode hx).element_eq validate
  member_encode hx field := (denotes_encode hx).member_eq field
  encode_of_element hx := encodeElement_of_decode (DlogGroup.decode_of_element hx)
  encode_of_member hx :=
    encodeElement_of_decode (DlogGroup.decode_of_element (DlogGroup.member_eq_ok_iff.1 hx))
  existsUnique_element {x} hx := by
    refine ⟨_, (denotes_encode hx).element_eq true, fun bs hbs => ?_⟩
    exact (encodeElement_of_decode (DlogGroup.decode_of_element hbs)).symm
  element_ne_ok hbs _ hx := hbs.not_denotes h (DlogGroup.denotes_of_element hx)
  member_ne_ok hbs _ _ hx :=
    hbs.not_denotes h (DlogGroup.denotes_of_element (DlogGroup.member_eq_ok_iff.1 hx))
  spellsNoMember_of_not_power hq _ hbs := spellsNoMember_of_not_power h hq hbs
  exists_element_false_iff {bs} := by
    simp only [DlogGroup.element_false_eq_ok_iff]
    constructor
    · intro hok
      obtain ⟨x, hx⟩ := hok
      exact (decodeElement_eq_ok_iff.1 hx).1
    · intro hlength
      exact ⟨_, decodeElement_eq_ok_iff.2 ⟨hlength, rfl⟩⟩

end SafePrime

/-! ## The three groups -/

namespace GroupChoice

/-- The element that is no member although it belongs to the group. -/
def identity : (c : GroupChoice) → c.group.Element
  | .secp256k1 => Secp256k1.Point.identity
  | .ristretto255 => Ristretto.Element.identity
  | .safePrime _ => (1 : Nat)

/-- The identity is no member of any of the groups. -/
theorem isMember_identity (c : GroupChoice) : c.group.isMember c.identity = false := by
  cases c with
  | secp256k1 => rfl
  | ristretto255 => rfl
  | safePrime s => rfl

/-- On a curve, whatever can be decoded is a member or the identity. -/
theorem denotes_of_ne_identity {c : GroupChoice} (hc : c.modulus? = none) {bs : Bytes}
    {x : c.group.Element} (h : c.group.decodeElement bs = .ok x) (hx : x ≠ c.identity) :
    c.group.Denotes bs x := by
  cases c with
  | secp256k1 => exact ⟨h, Secp256k1.Point.isMember_of_decode h hx⟩
  | ristretto255 => exact ⟨h, Ristretto.Element.isMember_of_decode h hx⟩
  | safePrime s => contradiction

/-- Elements are decoded in the same way wherever membership is looked at. -/
structure DecodesAlike (c : GroupChoice) : Prop where
  member_eq_ok_iff : ∀ {field bs x},
    c.group.member field bs = .ok x ↔ c.group.element true bs = .ok x
  isMember_of_element : ∀ {bs x}, c.group.element true bs = .ok x → c.group.isMember x = true
  ne_identity_of_element : ∀ {bs x}, c.group.element true bs = .ok x → x ≠ c.identity
  refuses_of_member : ∀ {field bs e}, c.group.member field bs = .error e →
    c.group.Refuses field bs e
  element_of_ne_identity : c.modulus? = none → ∀ {bs x}, c.group.element false bs = .ok x →
    x ≠ c.identity → c.group.element true bs = .ok x
  hasOneEncoding : ∀ {s}, c = .safePrime s → s.HasOneEncoding

/-- In every group that a session can be set up over, validated decoding has one meaning. -/
theorem decodesAlike_of_accepted {c : GroupChoice} (h : c.Accepted) : c.DecodesAlike where
  member_eq_ok_iff := DlogGroup.member_eq_ok_iff
  isMember_of_element hx := (DlogGroup.denotes_of_element hx).isMember
  ne_identity_of_element {bs x} hx := by
    rintro rfl
    have hmember := (DlogGroup.denotes_of_element hx).isMember
    rw [isMember_identity] at hmember
    contradiction
  refuses_of_member hx := DlogGroup.refuses_of_member hx
  element_of_ne_identity hc _ _ hx hne :=
    (denotes_of_ne_identity hc (DlogGroup.element_false_eq_ok_iff.1 hx) hne).element_eq true
  hasOneEncoding {s} hs := by
    subst hs
    exact SafePrime.hasOneEncoding_of_accepted h

/-- Modulo 23 the member 4 has one encoding, and 27, which leaves the same residue, is no
other. -/
theorem decodesAlike_of_accepted_small :
    (safePrime SafePrime.small).Accepted ∧
    (∃! bs, SafePrime.small.group.element true bs = .ok (4 : Nat)) ∧
    (∃ x, SafePrime.small.group.element false [27] = .ok x) ∧
    ∀ x, SafePrime.small.group.member "w0" [27] ≠ .ok x :=
  have haccepted : (safePrime SafePrime.small).Accepted := SafePrime.small_accepted
  have hsmall := (decodesAlike_of_accepted haccepted).hasOneEncoding rfl
  ⟨haccepted, hsmall.existsUnique_element (by decide),
    hsmall.exists_element_false_iff.2 (by decide),
    hsmall.member_ne_ok (.inr (.inr (.inl (by decide)))) "w0"⟩

end GroupChoice

end TwoParty
