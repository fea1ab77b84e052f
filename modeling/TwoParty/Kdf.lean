import TwoParty.Error
import TwoParty.Hash.Sha256
import TwoParty.Hash.Sha512

/-!
# TwoParty.Kdf

Key derivation: stretching a seed to a pad of a wanted length.

Three derivations are given: HKDF with HMAC-SHA-256 and no salt, KDF1 over any
digest (ISO 18033-2), and the bare repetition of the seed.
-/

namespace TwoParty

/-- A deterministic key derivation. -/
structure Kdf where
  /-- So many bytes from a seed. -/
  derive : (seed : Bytes) → (length : Nat) → Except Error Bytes
  /-- The greatest length that can be derived; `none` if there is no limit. -/
  maxOutput : Option Nat

namespace Kdf

/-- Refuse a length beyond the limit, without deriving anything. -/
def check (k : Kdf) (length : Nat) : Except Error Unit :=
  match k.maxOutput with
  | some max => if max < length then .error (.invalidInput (.kdfLimit max length)) else .ok ()
  | none => .ok ()

/-! ## Digests -/

/-- A hash function with its output length and the block length it works in. -/
structure Digest where
  hash : Bytes → Bytes
  size : Nat
  block : Nat

def sha256 : Digest := ⟨Sha256.digest, 32, 64⟩

def sha512 : Digest := ⟨Sha512.digest, 64, 128⟩

/-- HMAC: a key longer than a block is hashed first. -/
def hmac (d : Digest) (key message : Bytes) : Bytes :=
  let key := if d.block < key.length then d.hash key else key
  let key := key ++ List.replicate (d.block - key.length) 0
  d.hash (key.map (· ^^^ 0x5c) ++ d.hash (key.map (· ^^^ 0x36) ++ message))

/-! ## HKDF -/

/-- The blocks of an expansion, each keyed by `key` over the block before it, the
info string and its number, which starts at `i`. -/
def expand (d : Digest) (key info : Bytes) : (blocks i : Nat) → (last : Bytes) → Bytes
  | 0, _, _ => []
  | blocks + 1, i, last =>
    let next := hmac d key (last ++ info ++ [UInt8.ofNat i])
    next ++ expand d key info blocks (i + 1) next

/-- The greatest output of HKDF with SHA-256. -/
def hkdfMax : Nat := 255 * 32

/-- HKDF with HMAC-SHA-256, no salt, and a context string. -/
def hkdf (info : Bytes) : Kdf where
  derive seed length :=
    if hkdfMax < length then .error (.invalidInput (.hkdfLimit length))
    else
      let key := hmac sha256 (List.replicate 32 0) seed
      .ok ((expand sha256 key info ((length + 31) / 32) 1 []).take length)
  maxOutput := some hkdfMax

/-! ## KDF1 -/

/-- The number of values of the block counter that KDF1 uses. -/
def counterLimit : Nat := UInt32.size - 1

/-- The greatest length that can be asked for: lengths are 64-bit words. -/
def lengthMax : Nat := UInt64.size - 1

/-- `H(seed ‖ i) ‖ H(seed ‖ i + 1) ‖ …`, so many blocks. -/
def counterBlocks (d : Digest) (seed : Bytes) : (blocks i : Nat) → Bytes
  | 0, _ => []
  | blocks + 1, i => d.hash (seed ++ Bytes.word32BE i) ++ counterBlocks d seed blocks (i + 1)

/-- KDF1 over a digest, with a 32-bit big-endian counter that starts at zero.  A limit that
no word holds is cut to the greatest length. -/
def kdf1 (d : Digest) : Kdf where
  derive seed length :=
    let blocks := (length + d.size - 1) / d.size
    if counterLimit < blocks then .error (.invalidInput (.kdf1Counter length))
    else .ok ((counterBlocks d seed blocks 0).take length)
  maxOutput := some (min (counterLimit * d.size) lengthMax)

/-! ## Repetition -/

/-- The seed itself, repeated and cut; there is no limit, and an empty seed gives an
empty pad. -/
def repetition : Kdf where
  derive seed length := .ok (Bytes.cycle seed length)
  maxOutput := none

end Kdf

end TwoParty
