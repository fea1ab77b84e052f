import TwoParty.Party
import TwoParty.Sigma.Proof
import TwoParty.Transcript.Basic

/-!
# TwoParty.Sigma.Schnorr

Non-interactive sigma protocols over a group: knowledge of a discrete logarithm
and knowledge of the opening of a Pedersen commitment.

The challenge comes from a transcript, so a proof is one message; a caller binds
it to a context by absorbing the context first.  The prover with given nonces
(`dlogProof`, `openingProof`) is a plain function, and the party that draws the
nonces is built on it.
-/

namespace TwoParty

namespace Sigma

/-- The bytes of a label. -/
abbrev label (s : String) : Bytes := Bytes.ofText s

variable (G : DlogGroup) (draw : Challenger)

/-- Absorb an element under a label. -/
def absorb (t : Transcript) (name : String) (e : G.Element) : Transcript :=
  t.append (label name) (G.encodeElement e)

/-- The challenge exponent after a transcript. -/
def challenge (t : Transcript) : G.Exponent × Transcript :=
  let (bs, t) := t.challenge draw (label "challenge") 64
  (G.exponentOfUniform bs, t)

/-- Absorb the relation, the group and the elements of a statement. -/
def absorbStatement (t : Transcript) (relation : String) (elements : List (String × G.Element)) :
    Transcript :=
  let t := (t.append (label "dom-sep") (label relation)).append (label "group") (label G.name)
  elements.foldl (fun t e => absorb G t e.1 e.2) t

/-! ## Discrete logarithms -/

/-- The statement `image = base ^ x`. -/
def absorbDlog (t : Transcript) (base image : G.Element) : Transcript :=
  absorbStatement G t "schnorr-dlog" [("base", base), ("public", image)]

/-- The proof with nonce `k`, and the transcript after it. -/
def dlogProof (t : Transcript) (base image : G.Element) (witness k : G.Exponent) :
    DlogProof × Transcript :=
  let first := G.pow base k
  let (e, t) := challenge G draw (absorb G (absorbDlog G t base image) "t" first)
  (⟨G.encodeElement first, G.encodeExponent (G.add k (G.times e witness))⟩, t)

/-- Prove knowledge of `witness`, the logarithm of `image`. -/
def proveDlog {σ : Type} (t : Transcript) (base image : G.Element) (witness : G.Exponent) :
    Party G σ (DlogProof × Transcript) :=
  return dlogProof G draw t base image witness (← Party.drawExponent)

/-- Check `base ^ z = t * image ^ e`.  A proof that does not decode is refused and
leaves the transcript alone. -/
def verifyDlog (t : Transcript) (base image : G.Element) (proof : DlogProof) :
    Bool × Transcript :=
  match G.element true proof.t, G.exponent proof.response with
  | .ok first, .ok z =>
    let (e, t) := challenge G draw (absorb G (absorbDlog G t base image) "t" first)
    let left := G.pow base z
    let right := G.mul first (G.pow image e)
    (G.encodeElement left = G.encodeElement right, t)
  | _, _ => (false, t)

/-! ## Openings -/

/-- The statement `commitment = g ^ r * h ^ x`. -/
def absorbOpening (t : Transcript) (h commitment : G.Element) : Transcript :=
  absorbStatement G t "pedersen-opening" [("h", h), ("commitment", commitment)]

/-- `g ^ r * h ^ x`. -/
def commit (h : G.Element) (r x : G.Exponent) : G.Element := G.mul (G.gpow r) (G.pow h x)

/-- The proof with nonces `k₁` and `k₂`, and the transcript after it. -/
def openingProof (t : Transcript) (h commitment : G.Element) (r x k₁ k₂ : G.Exponent) :
    OpeningProof × Transcript :=
  let first := commit G h k₁ k₂
  let (e, t) := challenge G draw (absorb G (absorbOpening G t h commitment) "t" first)
  (⟨G.encodeElement first, G.encodeExponent (G.add k₁ (G.times e r)),
    G.encodeExponent (G.add k₂ (G.times e x))⟩, t)

/-- Prove knowledge of `r` and `x`. -/
def proveOpening {σ : Type} (t : Transcript) (h commitment : G.Element) (r x : G.Exponent) :
    Party G σ (OpeningProof × Transcript) := do
  let k₁ ← Party.drawExponent
  let k₂ ← Party.drawExponent
  return openingProof G draw t h commitment r x k₁ k₂

/-- Check `g ^ z₁ * h ^ z₂ = t * commitment ^ e`.  A proof that does not decode is
refused and leaves the transcript alone. -/
def verifyOpening (t : Transcript) (h commitment : G.Element) (proof : OpeningProof) :
    Bool × Transcript :=
  match G.element true proof.t, G.exponent proof.responseR, G.exponent proof.responseX with
  | .ok first, .ok z₁, .ok z₂ =>
    let (e, t) := challenge G draw (absorb G (absorbOpening G t h commitment) "t" first)
    let left := commit G h z₁ z₂
    let right := G.mul first (G.pow commitment e)
    (G.encodeElement left = G.encodeElement right, t)
  | _, _, _ => (false, t)

/-! ## Proofs bound to a context -/

/-- The transcript of a knowledge proof bound to `context`. -/
def contextTranscript (context : Bytes) : Transcript :=
  (Transcript.start (label "twopc-dlog-knowledge")).append (label "context") context

/-- Prove knowledge of a logarithm, bound to `context`. -/
def proveKnowledge {σ : Type} (context : Bytes) (base image : G.Element) (witness : G.Exponent) :
    Party G σ DlogProof :=
  return (← proveDlog G draw (contextTranscript context) base image witness).1

/-- Verify a proof bound to `context`. -/
def verifyKnowledge (context : Bytes) (base image : G.Element) (proof : DlogProof) : Bool :=
  (verifyDlog G draw (contextTranscript context) base image proof).1

end Sigma

end TwoParty
