import TwoParty.Wire.Record

/-!
# TwoParty.Sigma.Proof

The two kinds of proofs as messages.  Their parts are kept as byte strings: what
a peer sends is decoded by the verifier.
-/

namespace TwoParty

/-- A proof of knowledge of `x` with `y = base ^ x`. -/
structure DlogProof where
  /-- The first message `base ^ k`. -/
  t : Bytes
  /-- The response `k + e x`. -/
  response : Bytes
  deriving DecidableEq, Repr

/-- A proof of knowledge of `r` and `x` with `c = g ^ r * h ^ x`. -/
structure OpeningProof where
  /-- The first message `g ^ k₁ * h ^ k₂`. -/
  t : Bytes
  /-- The response `k₁ + e r`. -/
  responseR : Bytes
  /-- The response `k₂ + e x`. -/
  responseX : Bytes
  deriving DecidableEq, Repr

open Wire

instance : PlainRecord DlogProof where
  name := "DlogProof"
  fields := [hexField "t", hexField "response"]
  toRecord p := .cons p.t (.cons p.response .nil)
  ofRecord
    | .cons t (.cons response .nil) => ⟨t, response⟩

instance : PlainRecord OpeningProof where
  name := "OpeningProof"
  fields := [hexField "t", hexField "response_r", hexField "response_x"]
  toRecord p := .cons p.t (.cons p.responseR (.cons p.responseX .nil))
  ofRecord
    | .cons t (.cons r (.cons x .nil)) => ⟨t, r, x⟩

end TwoParty
