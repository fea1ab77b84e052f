import Mathlib.Data.Set.Prod
import Mathlib.Tactic.LinearCombination
import Mathlib.Tactic.Ring
import TwoParty.Proofs.Group.SafePrime
import TwoParty.Proofs.Transfer.Honest

/-!
# TwoParty.Proofs.Transfer.SenderPrivacy

What the sender's masking hides from an arbitrary receiver.

A message that the sender accepts has `z₀ ≠ z₁`, so at least one of the two is not
`g ^ (α β)`.  For that one, key material and key are two independent linear forms in the
sender's exponents (`existsUnique_solution`): every pair of group elements comes from
exactly one pair of exponents (`bijOn_offer`), and the ciphertext says nothing about the
input (`existsUnique_mask`).  Read on the reply itself: every content of its fields for that
input comes from exactly one pair of exponents, whatever the input is and whatever stands in
the other two fields (`existsUnique_reply`).
-/

namespace TwoParty

open LawfulGroup

/-- Two linear forms with determinant `ζ - α β`. -/
theorem existsUnique_solution {F : Type} [Field F] {α β ζ : F} (h : ζ ≠ α * β) (w k : F) :
    ∃! uv : F × F, α * uv.1 + uv.2 = w ∧ ζ * uv.1 + β * uv.2 = k := by
  have hdet : ζ - α * β ≠ 0 := sub_ne_zero.2 h
  obtain ⟨u, hu⟩ : ∃ u, (ζ - α * β) * u = k - β * w := ⟨_, mul_div_cancel₀ _ hdet⟩
  refine ⟨(u, w - α * u), ⟨by ring, by linear_combination hu⟩, ?_⟩
  intro uv huv
  obtain ⟨u', v'⟩ := uv
  obtain ⟨hw, hk⟩ := huv
  have hu' : u' = u := by
    refine mul_left_cancel₀ hdet ?_
    linear_combination hk - β * hw - hu
  subst hu'
  exact Prod.ext rfl (eq_sub_of_add_eq' hw)

namespace SenderMessage

/-- The key material for one of the two inputs. -/
def w (m : SenderMessage) (i : ChoiceBit) : Bytes := i.select m.w0 m.w1

/-- The ciphertext of one of the two inputs. -/
def c (m : SenderMessage) (i : ChoiceBit) : Bytes := i.select m.c0 m.c1

end SenderMessage

variable {G : DlogGroup}

namespace SenderSession

variable {s : SenderSession G} {m : ReceiverMessage} {draw : Challenger} {level : Level}
  {proof : Option DlogProof}

/-! ## Accepted messages -/

/-- What an accepted message decodes to. -/
theorem member_of_ofMessage (h : ofMessage G draw level m proof = .ok s) :
    G.member "a" m.a = .ok s.a ∧ G.member "b" m.b = .ok s.b ∧ G.member "z0" m.z0 = .ok s.z0 ∧
      G.member "z1" m.z1 = .ok s.z1 ∧ s.z0 ≠ s.z1 := by
  simp only [ofMessage, bind, Except.bind] at h
  cases ha : G.member "a" m.a with
  | error e => simp [ha] at h
  | ok a =>
    cases hkey : level.checkKey G draw m a proof with
    | error e => simp [ha, hkey] at h
    | ok u =>
      cases hb : G.member "b" m.b with
      | error e => simp [ha, hkey, hb] at h
      | ok b =>
        cases hz0 : G.member "z0" m.z0 with
        | error e => simp [ha, hkey, hb, hz0] at h
        | ok z0 =>
          cases hz1 : G.member "z1" m.z1 with
          | error e => simp [ha, hkey, hb, hz0, hz1] at h
          | ok z1 =>
            simp only [ha, hkey, hb, hz0, hz1] at h
            by_cases heq : z0 = z1
            · rw [if_pos heq] at h
              cases h
            · rw [if_neg heq] at h
              cases h
              exact ⟨rfl, rfl, rfl, rfl, heq⟩

/-! ## The fields of a reply -/

/-- The fields of a reply for an input: key material, and the input masked with the key. -/
theorem fields_of_replyWith {P : Payload G} {x0 x1 : P.Input} {u0 v0 u1 v1 : G.Exponent}
    {m : SenderMessage} (h : s.replyWith P x0 x1 u0 v0 u1 v1 = .ok m) (i : ChoiceBit) :
    m.w i = G.encodeElement (s.material (i.select u0 u1) (i.select v0 v1)) ∧
      P.mask (s.key (s.z i) (i.select u0 u1) (i.select v0 v1)) (i.select x0 x1) = .ok (m.c i) := by
  rw [replyWith] at h
  cases h0 : P.mask (s.key s.z0 u0 v0) x0 with
  | error e =>
    rw [h0] at h
    contradiction
  | ok c0 =>
    cases h1 : P.mask (s.key s.z1 u1 v1) x1 with
    | error e =>
      rw [h0, h1] at h
      contradiction
    | ok c1 =>
      rw [h0, h1] at h
      cases h
      cases i with
      | zero => exact ⟨rfl, h0⟩
      | one => exact ⟨rfl, h1⟩

/-! ## Key material and key -/

variable [LawfulGroup G]

/-- The key material and the key for given exponents. -/
def offer (s : SenderSession G) (i : ChoiceBit) (uv : ZMod G.order × ZMod G.order) :
    G.Element × G.Element :=
  (s.material (scalar uv.1) (scalar uv.2), s.key (s.z i) (scalar uv.1) (scalar uv.2))

variable {α β ζ : ZMod G.order} {i : ChoiceBit}

/-- What is offered at an index, through logarithms. -/
theorem offer_eq (ha : s.a = exp α) (hb : s.b = exp β) (hz : s.z i = exp ζ)
    (uv : ZMod G.order × ZMod G.order) :
    s.offer i uv = (exp (α * uv.1 + uv.2), exp (ζ * uv.1 + β * uv.2)) := by
  rw [offer, hz, material_eq ha, key_eq hb]
  simp only [residue_scalar]

def elements (G : DlogGroup) [LawfulGroup G] : Set G.Element := Set.range (exp : ZMod G.order → _)

/-- Away from the shared key, the exponents correspond to the pairs of elements. -/
theorem bijOn_offer (ha : s.a = exp α) (hb : s.b = exp β) (hz : s.z i = exp ζ) (hζ : ζ ≠ α * β) :
    Set.BijOn (s.offer i) Set.univ (elements G ×ˢ elements G) := by
  refine ⟨?_, ?_, ?_⟩
  · intro uv _
    rw [offer_eq ha hb hz]
    exact ⟨⟨_, rfl⟩, ⟨_, rfl⟩⟩
  · intro uv _ uv' _ heq
    rw [offer_eq ha hb hz, offer_eq ha hb hz] at heq
    obtain ⟨hw, hk⟩ := Prod.mk.inj heq
    obtain ⟨_, _, hunique⟩ :=
      existsUnique_solution hζ (α * uv'.1 + uv'.2) (ζ * uv'.1 + β * uv'.2)
    exact (hunique uv ⟨exp_injective hw, exp_injective hk⟩).trans (hunique uv' ⟨rfl, rfl⟩).symm
  · intro wk hwk
    obtain ⟨_, _⟩ := wk
    obtain ⟨⟨w, rfl⟩, ⟨k, rfl⟩⟩ := hwk
    obtain ⟨uv, ⟨hw, hk⟩, -⟩ := existsUnique_solution hζ w k
    refine ⟨uv, trivial, ?_⟩
    rw [offer_eq ha hb hz, hw, hk]

/-- Away from the shared key, any reply may carry any input. -/
theorem existsUnique_mask (ha : s.a = exp α) (hb : s.b = exp β) (hz : s.z i = exp ζ)
    (hζ : ζ ≠ α * β) {x w c : G.Element} (hx : x ∈ elements G) (hw : w ∈ elements G)
    (hc : c ∈ elements G) :
    ∃! uv : ZMod G.order × ZMod G.order, (s.offer i uv).1 = w ∧
      (Payload.groupElement G).mask (s.offer i uv).2 x = .ok (G.encodeElement c) := by
  obtain ⟨x, rfl⟩ := hx
  obtain ⟨w, rfl⟩ := hw
  obtain ⟨c, rfl⟩ := hc
  obtain ⟨uv, ⟨hw, hk⟩, hunique⟩ := existsUnique_solution hζ w (c - x)
  have hmask : ∀ k, (Payload.groupElement G).mask (exp k) (exp x) = .ok (G.encodeElement (exp c)) ↔
      k = c - x := by
    intro k
    simp only [Payload.groupElement, mul_exp, Except.ok.injEq, encode_exp_inj, eq_sub_iff_add_eq']
  refine ⟨uv, ?_, ?_⟩
  · show (s.offer i uv).1 = _ ∧ _
    rw [offer_eq ha hb hz]
    exact ⟨congrArg exp hw, (hmask _).2 hk⟩
  · intro uv' huv'
    obtain ⟨hw', hk'⟩ := huv'
    rw [offer_eq ha hb hz] at hw' hk'
    exact hunique uv' ⟨exp_injective hw', (hmask _).1 hk'⟩

/-- At the shared key, the key is the key material to the power `β`. -/
theorem key_eq_pow (ha : s.a = exp α) (hb : s.b = exp β) (hz : s.z i = exp (α * β))
    (u v : G.Exponent) : s.key (s.z i) u v = G.pow (s.material u v) (scalar β) := by
  rw [hz, key_eq hb, material_eq ha, pow_exp, residue_scalar]
  congr 1
  ring

/-! ## The reply -/

/-- The reply with an input and its exponents at one index, and another input and its
exponents at the other index. -/
def replyAt (s : SenderSession G) (P : Payload G) (i : ChoiceBit) (x : P.Input)
    (uv : ZMod G.order × ZMod G.order) (x' : P.Input) (u' v' : G.Exponent) :
    Except Error SenderMessage :=
  match i with
  | .zero => s.replyWith P x x' (scalar uv.1) (scalar uv.2) u' v'
  | .one => s.replyWith P x' x u' v' (scalar uv.1) (scalar uv.2)

/-- Group elements can always be masked, so nothing but the two fields is in question. -/
theorem exists_replyAt_iff {x x' : G.Element} {uv : ZMod G.order × ZMod G.order}
    {u' v' : G.Exponent} {w c : Bytes} :
    (∃ m, s.replyAt (Payload.groupElement G) i x uv x' u' v' = .ok m ∧ m.w i = w ∧ m.c i = c) ↔
      G.encodeElement (s.offer i uv).1 = w ∧
        (Payload.groupElement G).mask (s.offer i uv).2 x = .ok c := by
  constructor
  · intro h
    obtain ⟨m, hm, rfl, rfl⟩ := h
    cases i with
    | zero => exact ⟨(fields_of_replyWith hm .zero).1.symm, (fields_of_replyWith hm .zero).2⟩
    | one => exact ⟨(fields_of_replyWith hm .one).1.symm, (fields_of_replyWith hm .one).2⟩
  · intro h
    obtain ⟨rfl, hc⟩ := h
    cases hc
    cases i <;> exact ⟨_, rfl, rfl, rfl⟩

/-- Away from the shared key, a reply may say anything about any input, and it does so for
exactly one pair of exponents. -/
theorem existsUnique_reply (ha : s.a = exp α) (hb : s.b = exp β) (hz : s.z i = exp ζ)
    (hζ : ζ ≠ α * β) {x w c : G.Element} (hx : x ∈ elements G) (hw : w ∈ elements G)
    (hc : c ∈ elements G) (x' : G.Element) (u' v' : G.Exponent) :
    ∃! uv : ZMod G.order × ZMod G.order, ∃ m,
      s.replyAt (Payload.groupElement G) i x uv x' u' v' = .ok m ∧
        m.w i = G.encodeElement w ∧ m.c i = G.encodeElement c := by
  have hoffer : ∀ uv, G.encodeElement (s.offer i uv).1 = G.encodeElement w ↔
      (s.offer i uv).1 = w := by
    intro uv
    obtain ⟨w, rfl⟩ := hw
    rw [offer_eq ha hb hz, encode_exp_inj, exp_inj]
  simp only [exists_replyAt_iff, hoffer]
  exact existsUnique_mask ha hb hz hζ hx hw hc

/-! ## Privacy -/

/-- For a pair of exponents that is not known, key material, key and ciphertext of an input
are arbitrary and independent. -/
structure Hides (s : SenderSession G) (i : ChoiceBit) : Prop where
  /-- Every key material comes with every key. -/
  bijOn : Set.BijOn (s.offer i) Set.univ (elements G ×ˢ elements G)
  /-- Every key material comes with every ciphertext, whatever the input. -/
  existsUnique_mask : ∀ x ∈ elements G, ∀ w ∈ elements G, ∀ c ∈ elements G,
    ∃! uv : ZMod G.order × ZMod G.order, (s.offer i uv).1 = w ∧
      (Payload.groupElement G).mask (s.offer i uv).2 x = .ok (G.encodeElement c)
  /-- The same of the fields of the reply, whatever the sender does about its other input. -/
  existsUnique_reply : ∀ x ∈ elements G, ∀ w ∈ elements G, ∀ c ∈ elements G,
    ∀ (x' : G.Element) (u' v' : G.Exponent),
    ∃! uv : ZMod G.order × ZMod G.order, ∃ m,
      s.replyAt (Payload.groupElement G) i x uv x' u' v' = .ok m ∧
        m.w i = G.encodeElement w ∧ m.c i = G.encodeElement c

/-- Whoever knows `β` opens an input with the key material. -/
structure Opens (s : SenderSession G) (β : ZMod G.order) (i : ChoiceBit) : Prop where
  /-- The key is the key material to the power `β`. -/
  key_eq : ∀ u v, s.key (s.z i) u v = G.pow (s.material u v) (scalar β)
  /-- The ciphertext of a reply is the input, masked with the power of its key material. -/
  mask_eq : ∀ {P : Payload G} {x0 x1 : P.Input} {u0 v0 u1 v1 : G.Exponent} {m : SenderMessage},
    s.replyWith P x0 x1 u0 v0 u1 v1 = .ok m →
      ∃ w, m.w i = G.encodeElement w ∧
        P.mask (G.pow w (scalar β)) (i.select x0 x1) = .ok (m.c i)

/-- Where `z` is not the common power of `a` and `b`, the pair hides the input. -/
theorem hides_of_ne (ha : s.a = exp α) (hb : s.b = exp β) (hz : s.z i = exp ζ)
    (hζ : ζ ≠ α * β) : s.Hides i where
  bijOn := bijOn_offer ha hb hz hζ
  existsUnique_mask _ hx _ hw _ hc := existsUnique_mask ha hb hz hζ hx hw hc
  existsUnique_reply _ hx _ hw _ hc := existsUnique_reply ha hb hz hζ hx hw hc

/-- Where it is, the receiver opens the input. -/
theorem opens_of_eq (ha : s.a = exp α) (hb : s.b = exp β) (hz : s.z i = exp (α * β)) :
    s.Opens β i where
  key_eq := key_eq_pow ha hb hz
  mask_eq h := by
    obtain ⟨hw, hc⟩ := fields_of_replyWith h i
    rw [key_eq_pow ha hb hz] at hc
    exact ⟨_, hw, hc⟩

/-- What an accepted message of any receiver `g ^ α`, `g ^ β`, `z₀`, `z₁` means for the
sender: some `z` is not `g ^ (α β)`, for each such `z` key material, key and reply are
arbitrary and independent, and for the other one the key is what the key material
gives. -/
theorem private_of_ofMessage (h : ofMessage G draw level m proof = .ok s) :
    ∃ α β : ZMod G.order, s.a = exp α ∧ s.b = exp β ∧ (∀ i, s.z i ∈ elements G) ∧
      (∃ i, s.z i ≠ exp (α * β)) ∧ (∀ i, s.z i ≠ exp (α * β) → s.Hides i) ∧
      ∀ i, s.z i = exp (α * β) → s.Opens β i := by
  obtain ⟨ha, hb, hz0, hz1, hne⟩ := member_of_ofMessage h
  obtain ⟨α, -, ha⟩ := exists_of_member ha
  obtain ⟨β, -, hb⟩ := exists_of_member hb
  obtain ⟨ζ0, -, hz0⟩ := exists_of_member hz0
  obtain ⟨ζ1, -, hz1⟩ := exists_of_member hz1
  have hz : ∀ i, ∃ ζ, s.z i = exp ζ := by
    intro i
    cases i with
    | zero => exact ⟨ζ0, hz0.symm⟩
    | one => exact ⟨ζ1, hz1.symm⟩
  refine ⟨α, β, ha.symm, hb.symm, ?_, ?_, ?_, ?_⟩
  · intro i
    obtain ⟨ζ, hζ⟩ := hz i
    exact ⟨ζ, hζ.symm⟩
  · by_cases h0 : s.z0 = exp (α * β)
    · exact ⟨.one, fun h1 => hne (h0.trans h1.symm)⟩
    · exact ⟨.zero, h0⟩
  · intro i hi
    obtain ⟨ζ, hζ⟩ := hz i
    refine hides_of_ne ha.symm hb.symm hζ ?_
    intro heq
    exact hi (hζ.trans (congrArg exp heq))
  · intro i hi
    exact opens_of_eq ha.symm hb.symm hi

/-- Modulo 23, with a message that a receiver with `α = β = γ = 3` sends. -/
theorem private_of_ofMessage_small :
    ∃ s, ofMessage SafePrime.small.group (fun _ _ n => List.replicate n 0) .privacy
        (ReceiverSession.messageWith SafePrime.small.group .zero SafePrime.three SafePrime.three
          SafePrime.three) none = .ok s ∧
      ∃ i, s.Hides i := by
  let d : TransferDraws SafePrime.small.group :=
    ⟨SafePrime.three, SafePrime.three, SafePrime.three, SafePrime.three, SafePrime.three,
      SafePrime.three, SafePrime.three, SafePrime.three⟩
  have hne : (3 : ZMod 11) ≠ 0 := by decide
  have h := @TransferDraws.ofMessage_message _ _ d .zero (fun _ _ n => List.replicate n 0) .privacy
    hne hne hne nofun
  have hkeys : (3 : ZMod 11) ≠ 3 * 3 := by decide
  have hok := h.trans (if_neg hkeys)
  obtain ⟨α, β, -, -, -, ⟨i, hi⟩, hprivate, -⟩ := private_of_ofMessage hok
  exact ⟨_, hok, i, hprivate i hi⟩

end SenderSession

end TwoParty
