import TwoParty.Bytes

/-!
# TwoParty.Hash.Sha256

SHA-256 over byte strings: the message is padded to whole
64-byte blocks and folded into a state of eight 32-bit words.
-/

namespace TwoParty

namespace Sha256

/-- The eight chaining words. -/
structure State where
  a : UInt32
  b : UInt32
  c : UInt32
  d : UInt32
  e : UInt32
  f : UInt32
  g : UInt32
  h : UInt32

/-- The initial chaining words: fractional parts of the square roots of the first
eight primes. -/
def start : State :=
  ⟨0x6a09e667, 0xbb67ae85, 0x3c6ef372, 0xa54ff53a,
    0x510e527f, 0x9b05688c, 0x1f83d9ab, 0x5be0cd19⟩

/-- The round constants: fractional parts of the cube roots of the first
64 primes. -/
def roundConstants : List UInt32 :=
  [ 0x428a2f98, 0x71374491, 0xb5c0fbcf, 0xe9b5dba5, 0x3956c25b, 0x59f111f1,
    0x923f82a4, 0xab1c5ed5, 0xd807aa98, 0x12835b01, 0x243185be, 0x550c7dc3,
    0x72be5d74, 0x80deb1fe, 0x9bdc06a7, 0xc19bf174, 0xe49b69c1, 0xefbe4786,
    0x0fc19dc6, 0x240ca1cc, 0x2de92c6f, 0x4a7484aa, 0x5cb0a9dc, 0x76f988da,
    0x983e5152, 0xa831c66d, 0xb00327c8, 0xbf597fc7, 0xc6e00bf3, 0xd5a79147,
    0x06ca6351, 0x14292967, 0x27b70a85, 0x2e1b2138, 0x4d2c6dfc, 0x53380d13,
    0x650a7354, 0x766a0abb, 0x81c2c92e, 0x92722c85, 0xa2bfe8a1, 0xa81a664b,
    0xc24b8b70, 0xc76c51a3, 0xd192e819, 0xd6990624, 0xf40e3585, 0x106aa070,
    0x19a4c116, 0x1e376c08, 0x2748774c, 0x34b0bcb5, 0x391c0cb3, 0x4ed8aa4a,
    0x5b9cca4f, 0x682e6ff3, 0x748f82ee, 0x78a5636f, 0x84c87814, 0x8cc70208,
    0x90befffa, 0xa4506ceb, 0xbef9a3f7, 0xc67178f2 ]

/-! ## Word functions -/

def rotateRight (x n : UInt32) : UInt32 := (x >>> n) ||| (x <<< (32 - n))

def bigSigma0 (x : UInt32) : UInt32 := rotateRight x 2 ^^^ rotateRight x 13 ^^^ rotateRight x 22

def bigSigma1 (x : UInt32) : UInt32 := rotateRight x 6 ^^^ rotateRight x 11 ^^^ rotateRight x 25

def smallSigma0 (x : UInt32) : UInt32 := rotateRight x 7 ^^^ rotateRight x 18 ^^^ (x >>> 3)

def smallSigma1 (x : UInt32) : UInt32 := rotateRight x 17 ^^^ rotateRight x 19 ^^^ (x >>> 10)

def choose (x y z : UInt32) : UInt32 := (x &&& y) ^^^ (~~~x &&& z)

def majority (x y z : UInt32) : UInt32 := (x &&& y) ^^^ (x &&& z) ^^^ (y &&& z)

/-! ## Compression -/

/-- The message words of a block, extended to one word a round. -/
def schedule (block : Bytes) : List UInt32 :=
  let words := ((Bytes.chunks 4 block).map fun w => UInt32.ofNat (Bytes.natBE w)).toArray
  let extended := (List.range 48).foldl (fun (w : Array UInt32) i =>
    w.push (smallSigma1 (w.getD (i + 14) 0) + w.getD (i + 9) 0
      + smallSigma0 (w.getD (i + 1) 0) + w.getD i 0)) words
  extended.toList

/-- One round, with its constant and message word already added. -/
def round (s : State) (kw : UInt32) : State :=
  let t1 := s.h + bigSigma1 s.e + choose s.e s.f s.g + kw
  let t2 := bigSigma0 s.a + majority s.a s.b s.c
  ⟨t1 + t2, s.a, s.b, s.c, s.d + t1, s.e, s.f, s.g⟩

def compress (s : State) (block : Bytes) : State :=
  let r := (List.zipWith (· + ·) roundConstants (schedule block)).foldl round s
  ⟨s.a + r.a, s.b + r.b, s.c + r.c, s.d + r.d, s.e + r.e, s.f + r.f, s.g + r.g, s.h + r.h⟩

/-! ## The hash -/

/-- The message, a one bit, zeros to fill the last block, and the bit count. -/
def pad (message : Bytes) : Bytes :=
  let zeros := (64 - (message.length + 9) % 64) % 64
  message ++ 0x80 :: (List.replicate zeros 0 ++ Bytes.ofNatBE 8 (8 * message.length))

def State.toBytes (s : State) : Bytes :=
  [s.a, s.b, s.c, s.d, s.e, s.f, s.g, s.h].flatMap fun w => Bytes.ofNatBE 4 w.toNat

/-- The 32-byte digest of a message. -/
def digest (message : Bytes) : Bytes :=
  ((Bytes.chunks 64 (pad message)).foldl compress start).toBytes

theorem length_digest (message : Bytes) : (digest message).length = 32 := by
  simp [digest, State.toBytes, Bytes.length_ofNatBE]

end Sha256

end TwoParty
