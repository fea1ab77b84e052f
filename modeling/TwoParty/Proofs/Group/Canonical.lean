import TwoParty.Group.Choice
import TwoParty.Proofs.Bytes.Width

/-!
# TwoParty.Proofs.Group.Canonical

An exponent has one encoding: the bytes that decode to it are those that it encodes to.
-/

namespace TwoParty

/-- Decoding accepts no second encoding of an exponent. -/
class CanonicalExponents (G : DlogGroup) : Prop where
  encode_of_decode : ∀ {bs e}, G.decodeExponent bs = .ok e → G.encodeExponent e = bs

instance (s : SafePrime) : CanonicalExponents s.group where
  encode_of_decode {bs e} h := by
    simp only [SafePrime.group] at h ⊢
    split at h
    · cases h
    next hlength =>
      split at h
      · cases h
        rw [← not_not.1 hlength]
        exact Bytes.padBE_natBE bs
      · cases h

instance : CanonicalExponents Secp256k1.group where
  encode_of_decode {bs e} h := by
    simp only [Secp256k1.group] at h ⊢
    split at h
    · cases h
    next hlength =>
      split at h
      · cases h
        rw [← not_not.1 hlength]
        exact Bytes.ofNatBE_natBE bs
      · cases h

instance : CanonicalExponents Ristretto.group where
  encode_of_decode {bs e} h := by
    simp only [Ristretto.group] at h ⊢
    split at h
    · cases h
    next hlength =>
      split at h
      · cases h
        rw [← not_not.1 hlength]
        exact Bytes.ofNatLE_natLE bs
      · cases h

/-- Every group that a session can be set up over. -/
instance (c : GroupChoice) : CanonicalExponents c.group := by
  cases c with
  | secp256k1 => exact inferInstanceAs (CanonicalExponents Secp256k1.group)
  | ristretto255 => exact inferInstanceAs (CanonicalExponents Ristretto.group)
  | safePrime s => exact inferInstanceAs (CanonicalExponents s.group)

end TwoParty
