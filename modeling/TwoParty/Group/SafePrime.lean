import TwoParty.Group.Basic
import TwoParty.Group.Power

/-!
# TwoParty.Group.SafePrime

The subgroup of order `q` of the integers modulo a safe prime `p = 2 q + 1`.

Residues and exponents are plain natural numbers: a residue may be as large as
its encoding allows, and an exponent may be larger than the order.  Only the
shape of `p` and the order of `g` are checked; that `p` and `q` are prime is
up to the caller.
-/

namespace TwoParty

/-- The modulus and the generator. -/
structure SafePrime where
  p : Nat
  g : Nat
  deriving DecidableEq, Repr

namespace SafePrime

/-- Half of `p - 1`: the order of the subgroup. -/
def q (s : SafePrime) : Nat := (s.p - 1) / 2

/-- The group of a modulus and a generator, if they have the right shape. -/
def ofParameters (p g : Nat) : Except Misuse SafePrime :=
  if p ≤ 5 ∨ p % 4 ≠ 3 then .error .notSafePrime
  else if g ≤ 1 ∨ p ≤ g ∨ powMod g ((p - 1) / 2) p ≠ 1 then .error .notSubgroupGenerator
  else .ok ⟨p, g⟩

/-- The bytes of an element's encoding. -/
def elementLength (s : SafePrime) : Nat := Bytes.byteLength s.p

/-- The bytes of an exponent's encoding. -/
def exponentLength (s : SafePrime) : Nat := Bytes.byteLength s.q

/-- Is `x` a non-identity residue of the subgroup, in reduced form? -/
def isMember (s : SafePrime) (x : Nat) : Bool :=
  1 < x && x < s.p && powMod x s.q s.p = 1

/-! ## Sampling -/

/-- The 32-bit words that hold a number below `q - 1`. -/
def sampleWords (s : SafePrime) : Nat := (Bytes.bitLength (s.q - 1) + 31) / 32

/-- The number of bits that `sampleWords` words have in excess. -/
def excessBits (s : SafePrime) : Nat := 32 * s.sampleWords - Bytes.bitLength (s.q - 1)

/-- Words from the least significant up, of which the last one loses its excess low
bits; the number has to be below `q - 1` and is counted from one. -/
def exponentOfWords (s : SafePrime) (bs : Bytes) : Option Nat :=
  let low := 4 * (s.sampleWords - 1)
  let top := Bytes.ofNatLE 4 (Bytes.natLE (bs.drop low) >>> s.excessBits)
  let n := Bytes.natLE (bs.take low ++ top)
  if n < s.q - 1 then some (1 + n) else none

/-! ## The group -/

/-- The group of these parameters. -/
def group (s : SafePrime) : DlogGroup where
  Element := Nat
  Exponent := Nat
  name := "zp-safe-prime"
  membersName := "order-q subgroup"
  order := s.q
  generator := s.g
  isMember := s.isMember
  pow b e := powMod b e s.p
  mul a b := a * b % s.p
  sample := ByteSource.draw (4 * s.sampleWords) s.exponentOfWords ByteSource.drawLimit
  neg e := (s.q - e % s.q) % s.q
  add a b := (a + b) % s.q
  times a b := a * b % s.q
  encodeExponent := Bytes.padBE s.exponentLength
  decodeExponent bs :=
    if bs.length ≠ s.exponentLength then .error .exponentLength
    else if Bytes.natBE bs < s.q then .ok (Bytes.natBE bs)
    else .error .exponentNotReduced
  exponentOfUniform bs := Bytes.natBE bs % s.q
  encodeElement := Bytes.padBE s.elementLength
  decodeElement bs :=
    if bs.length ≠ s.elementLength then .error (.elementLength s.elementLength bs.length)
    else .ok (Bytes.natBE bs)

/-- The 2048-bit MODP group of RFC 3526, with generator two. -/
def modp2048 : SafePrime where
  p :=
    0xFFFFFFFFFFFFFFFFC90FDAA22168C234C4C6628B80DC1CD129024E088A67CC74020BBEA63B139B22514A08798E3404DDEF9519B3CD3A431B302B0A6DF25F14374FE1356D6D51C245E485B576625E7EC6F44C42E9A637ED6B0BFF5CB6F406B7EDEE386BFB5A899FA5AE9F24117C4B1FE649286651ECE45B3DC2007CB8A163BF0598DA48361C55D39A69163FA8FD24CF5F83655D23DCA3AD961C62F356208552BB9ED529077096966D670C354E4ABC9804F1746C08CA18217C32905E462E36CE3BE39E772C180E86039B2783A2EC07A28FB5C55DF06F4C52C9DE2BCBF6955817183995497CEA956AE515D2261898FA051015728E5A8AACAA68FFFFFFFFFFFFFFFF
  g := 2

end SafePrime

end TwoParty
