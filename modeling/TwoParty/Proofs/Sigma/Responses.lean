import TwoParty.Proofs.Group.Canonical
import TwoParty.Proofs.Group.SafePrime
import TwoParty.Proofs.Sigma.Agreement

/-!
# TwoParty.Proofs.Sigma.Responses

The response of an accepted proof cannot be varied.

A verifier's equation is linear in every response (`verifyDlog_accepts_iff`,
`verifyOpening_accepts_iff`), so it asks for one residue modulo the order.  Where the
encoding of exponents is canonical, one byte string decodes to that residue
(`existsUnique_exponent`), and a proof with any other response is refused.
-/

namespace TwoParty

/-- Decoding gives reduced exponents only. -/
class ReducedExponents (G : DlogGroup) [LawfulGroup G] : Prop where
  scalar_residue : ∀ {bs e}, G.decodeExponent bs = .ok e →
    LawfulGroup.scalar (LawfulGroup.residue e) = e

/-- In the squares modulo a safe prime, what decodes is less than the order. -/
theorem SafePrime.reducedExponents {s : SafePrime} (h : s.Accepted) (hq : s.q.Prime) :
    @ReducedExponents s.group (lawful h hq) :=
  letI := lawful h hq
  { scalar_residue := fun {bs e} hdecode => by
      simp only [group] at hdecode
      split at hdecode
      · cases hdecode
      split at hdecode
      · next hlt =>
        cases hdecode
        exact ZMod.val_cast_of_lt hlt
      · cases hdecode }

instance : ReducedExponents SafePrime.small.group :=
  SafePrime.reducedExponents SafePrime.small_accepted SafePrime.small_prime

/-- What either reader of exponents accepts was decoded. -/
theorem DlogGroup.decodeExponent_of_exponent {G : DlogGroup} {bs : Bytes} {e : G.Exponent}
    (h : G.exponent bs = .ok e) : G.decodeExponent bs = .ok e := by
  rw [exponent] at h
  cases hdecode : G.decodeExponent bs with
  | error reason => simp [hdecode, Except.mapError] at h
  | ok e' => simpa [hdecode, Except.mapError] using h

namespace LawfulGroup

variable {G : DlogGroup} [LawfulGroup G]

/-- What decodes to an exponent is the encoding of its residue. -/
theorem eq_encode_of_exponent [CanonicalExponents G] [ReducedExponents G] {bs : Bytes}
    {e : G.Exponent} (h : G.exponent bs = .ok e) : bs = G.encodeExponent (scalar (residue e)) := by
  have hdecode := DlogGroup.decodeExponent_of_exponent h
  rw [ReducedExponents.scalar_residue hdecode, CanonicalExponents.encode_of_decode hdecode]

/-- A residue has one encoding. -/
theorem existsUnique_exponent [CanonicalExponents G] [ReducedExponents G] (z : ZMod G.order) :
    ∃! bs, ∃ e, G.exponent bs = .ok e ∧ residue e = z := by
  refine ⟨G.encodeExponent (scalar z), ⟨scalar z, exponent_encode z, residue_scalar z⟩, ?_⟩
  intro bs hbs
  obtain ⟨e, he, rfl⟩ := hbs
  exact eq_encode_of_exponent he

end LawfulGroup

namespace Sigma

open LawfulGroup

variable {G : DlogGroup} [LawfulGroup G] (draw : Challenger) (tr : Transcript)

/-! ## The verifiers' equations -/

/-- Once the first message has decoded, the response decides. -/
theorem verifyDlog_accepts_iff (b y : ZMod G.order) {f : ZMod G.order} {t : Bytes}
    (hfirst : G.element true t = .ok (exp f)) (response : Bytes) :
    (verifyDlog G draw tr (exp b) (exp y) ⟨t, response⟩).1 = true ↔
      ∃ z, G.exponent response = .ok z ∧
        b * residue z = f + y * residue (dlogChallenge G draw tr (exp b) (exp y) (exp f)).1 := by
  rw [verifyDlog, hfirst]
  cases G.exponent response with
  | error e => simp
  | ok z => simp [pow_exp, mul_exp, encode_exp_inj, dlogChallenge]

/-- Once the first message has decoded, the two responses decide. -/
theorem verifyOpening_accepts_iff (τ c : ZMod G.order) {f : ZMod G.order} {t : Bytes}
    (hfirst : G.element true t = .ok (exp f)) (responseR responseX : Bytes) :
    (verifyOpening G draw tr (exp τ) (exp c) ⟨t, responseR, responseX⟩).1 = true ↔
      ∃ z₁ z₂, G.exponent responseR = .ok z₁ ∧ G.exponent responseX = .ok z₂ ∧
        residue z₁ + τ * residue z₂ =
          f + c * residue (openingChallenge G draw tr (exp τ) (exp c) (exp f)).1 := by
  rw [verifyOpening, hfirst]
  cases G.exponent responseR with
  | error e => simp
  | ok z₁ =>
    cases G.exponent responseX with
    | error e => simp
    | ok z₂ => simp [commit_exp, pow_exp, mul_exp, encode_exp_inj, openingChallenge]

/-! ## Uniqueness -/

/-- The responses that the verifiers of the two sigma protocols accept. -/
structure UniqueResponses (G : DlogGroup) [LawfulGroup G] (draw : Challenger)
    (tr : Transcript) : Prop where
  /-- A first message that decodes has one response. -/
  dlog : ∀ {b : ZMod G.order}, b ≠ 0 → ∀ (y : ZMod G.order) {t : Bytes} {first : G.Element},
    G.element true t = .ok first →
    ∃! response, (verifyDlog G draw tr (exp b) (exp y) ⟨t, response⟩).1 = true
  /-- Any other has none. -/
  dlog_none : ∀ (base image : G.Element) {t : Bytes},
    (¬ ∃ first, G.element true t = .ok first) →
    ¬ ∃ response, (verifyDlog G draw tr base image ⟨t, response⟩).1 = true
  /-- A first message and a response for the randomness leave one for the value. -/
  responseX : ∀ {τ : ZMod G.order}, τ ≠ 0 → ∀ (c : ZMod G.order) {t responseR : Bytes}
    {first : G.Element} {z : G.Exponent},
    G.element true t = .ok first → G.exponent responseR = .ok z →
    ∃! responseX, (verifyOpening G draw tr (exp τ) (exp c) ⟨t, responseR, responseX⟩).1 = true
  /-- A first message and a response for the value leave one for the randomness. -/
  responseR : ∀ (τ c : ZMod G.order) {t responseX : Bytes} {first : G.Element} {z : G.Exponent},
    G.element true t = .ok first → G.exponent responseX = .ok z →
    ∃! responseR, (verifyOpening G draw tr (exp τ) (exp c) ⟨t, responseR, responseX⟩).1 = true

/-- If encodings of exponents are canonical, no response can be varied. -/
theorem uniqueResponses (G : DlogGroup) [LawfulGroup G] [CanonicalExponents G]
    [ReducedExponents G] (draw : Challenger) (tr : Transcript) : UniqueResponses G draw tr where
  dlog {b} hb y t first hfirst := by
    obtain ⟨f, -, rfl⟩ := exists_of_element hfirst
    have haccepts := verifyDlog_accepts_iff draw tr b y hfirst
    generalize f + y * residue (dlogChallenge G draw tr (exp b) (exp y) (exp f)).1 = rhs
      at haccepts
    -- Acceptance is a linear equation in the response, which has one solution.
    have hsolve : ∀ z, b * z = rhs ↔ z = rhs / b := fun z => by
      rw [eq_div_iff hb, mul_comm]
    simp only [haccepts, hsolve]
    exact existsUnique_exponent (rhs / b)
  dlog_none base image t ht := by
    intro haccepted
    obtain ⟨response, hresponse⟩ := haccepted
    have hp : ¬ DlogProof.Decodes G ⟨t, response⟩ := by
      intro hdecodes
      obtain ⟨first, z, hfirst, hz⟩ := hdecodes
      exact ht ⟨first, hfirst⟩
    simp [verifyDlog_of_not_decodes hp] at hresponse
  responseX {τ} hτ c t responseR first z hfirst hz := by
    obtain ⟨f, -, rfl⟩ := exists_of_element hfirst
    have haccepts := verifyOpening_accepts_iff draw tr τ c hfirst
    generalize f + c * residue (openingChallenge G draw tr (exp τ) (exp c) (exp f)).1 = rhs
      at haccepts
    have hsolve : ∀ z₂, residue z + τ * z₂ = rhs ↔ z₂ = (rhs - residue z) / τ := fun z₂ => by
      rw [eq_div_iff hτ, eq_sub_iff_add_eq', mul_comm z₂]
    simp only [haccepts, hz, Except.ok.injEq, exists_and_left, exists_eq_left', hsolve]
    exact existsUnique_exponent ((rhs - residue z) / τ)
  responseR τ c t responseX first z hfirst hz := by
    obtain ⟨f, -, rfl⟩ := exists_of_element hfirst
    have haccepts := verifyOpening_accepts_iff draw tr τ c hfirst
    generalize f + c * residue (openingChallenge G draw tr (exp τ) (exp c) (exp f)).1 = rhs
      at haccepts
    have hsolve : ∀ z₁, z₁ + τ * residue z = rhs ↔ z₁ = rhs - τ * residue z := fun z₁ =>
      eq_sub_iff_add_eq.symm
    simp only [haccepts, hz, Except.ok.injEq, exists_and_left, exists_eq_left', hsolve]
    exact existsUnique_exponent (rhs - τ * residue z)

/-- Modulo 23, with the base `g ^ 2`, with `h = g ^ 4` and with the first message `g ^ 3`. -/
theorem uniqueResponses_small :
    (∃! response, (verifyDlog SafePrime.small.group (fun _ _ n => List.replicate n 1) ⟨[]⟩
      (exp 2) (exp 6) ⟨SafePrime.small.group.encodeElement (exp 3), response⟩).1 = true) ∧
    (∃! responseX, (verifyOpening SafePrime.small.group (fun _ _ n => List.replicate n 1) ⟨[]⟩
      (exp 4) (exp 6) ⟨SafePrime.small.group.encodeElement (exp 3),
        SafePrime.small.group.encodeExponent (scalar 7), responseX⟩).1 = true) ∧
    ∃! responseR, (verifyOpening SafePrime.small.group (fun _ _ n => List.replicate n 1) ⟨[]⟩
      (exp 4) (exp 6) ⟨SafePrime.small.group.encodeElement (exp 3), responseR,
        SafePrime.small.group.encodeExponent (scalar 7)⟩).1 = true := by
  have hfirst : SafePrime.small.group.element true (SafePrime.small.group.encodeElement (exp 3)) =
      .ok (exp 3) := element_encode_eq_ok.2 ⟨by decide, rfl⟩
  have h := uniqueResponses SafePrime.small.group (fun _ _ n => List.replicate n 1) ⟨[]⟩
  exact ⟨h.dlog (by decide) 6 hfirst, h.responseX (by decide) 6 hfirst (exponent_encode 7),
    h.responseR 4 6 hfirst (exponent_encode 7)⟩

end Sigma

end TwoParty
