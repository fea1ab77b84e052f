import TwoParty.Hash.Keccak
import TwoParty.Transcript.Basic

/-!
# TwoParty.Transcript.Strobe

The challenges the protocols run with: a duplex sponge over Keccak-f[1600] at
the 128-bit security level (STROBE, rate 166) that absorbs the events of a
transcript under framed labels and squeezes the bytes of a challenge.
-/

namespace TwoParty

namespace Strobe

/-- The number of state bytes that input and output may touch. -/
def rate : Nat := 166

/-- The sponge: 200 state bytes, the next byte to touch, and where the operation in
progress began (one past its position; zero right after a permutation). -/
structure Sponge where
  state : Array UInt8
  position : Nat
  began : Nat

/-! ## The permutation on bytes -/

/-- Eight bytes, least significant first, to a lane. -/
def lanes (state : Array UInt8) : Keccak.Lanes :=
  (Array.range 25).map fun i =>
    (List.range 8).foldr (fun j (acc : UInt64) =>
      (acc <<< 8) ||| (state.getD (8 * i + j) 0).toUInt64) 0

/-- The bytes of the lanes. -/
def unlanes (a : Keccak.Lanes) : Array UInt8 :=
  (Array.range 200).map fun i => (a.getD (i / 8) 0 >>> (8 * (i % 8)).toUInt64).toUInt8

def permute (state : Array UInt8) : Array UInt8 := unlanes (Keccak.permute (lanes state))

/-! ## Absorbing and squeezing -/

/-- Close the block in progress and start the next one. -/
def runBlock (s : Sponge) : Sponge :=
  let marked := ((s.state.modify s.position (· ^^^ s.began.toUInt8)).modify (s.position + 1)
    (· ^^^ 0x04)).modify (rate + 1) (· ^^^ 0x80)
  ⟨permute marked, 0, 0⟩

def absorbByte (s : Sponge) (b : UInt8) : Sponge :=
  let s' : Sponge := ⟨s.state.modify s.position (· ^^^ b), s.position + 1, s.began⟩
  if s'.position = rate then runBlock s' else s'

def absorb (s : Sponge) (bs : Bytes) : Sponge := bs.foldl absorbByte s

/-- Read `count` bytes off the sponge, wiping what was read. -/
def squeeze : (count : Nat) → Sponge → Bytes
  | 0, _ => []
  | count + 1, s =>
    let s' : Sponge := ⟨s.state.modify s.position fun _ => 0, s.position + 1, s.began⟩
    s.state.getD s.position 0 ::
      squeeze count (if s'.position = rate then runBlock s' else s')

/-- As `squeeze`, but the sponge afterwards. -/
def skip : (count : Nat) → Sponge → Sponge
  | 0, s => s
  | count + 1, s =>
    let s' : Sponge := ⟨s.state.modify s.position fun _ => 0, s.position + 1, s.began⟩
    skip count (if s'.position = rate then runBlock s' else s')

/-! ## Operations -/

/-- Absorb the frame of a new operation. -/
def beginOperation (s : Sponge) (flags : UInt8) : Sponge :=
  absorb { s with began := s.position + 1 } [s.began.toUInt8, flags]

/-- Associated metadata: a label and the length of what it labels. -/
def metadata (s : Sponge) (label : Bytes) (length : Nat) : Sponge :=
  absorb (beginOperation s 0x12) (label ++ Bytes.word32LE length)

/-- Absorb `data` under `label`. -/
def message (s : Sponge) (label data : Bytes) : Sponge :=
  absorb (beginOperation (metadata s label data.length) 0x02) data

/-- Frame a challenge of `count` bytes; output starts at a fresh block. -/
def openChallenge (s : Sponge) (label : Bytes) (count : Nat) : Sponge :=
  let framed := beginOperation (metadata s label count) 0x07
  if framed.position = 0 then framed else runBlock framed

/-- The sponge of a transcript before its first event. -/
def start : Sponge :=
  let head : Array UInt8 := #[1, 168, 1, 0, 1, 96] ++ (Bytes.ofText "STROBEv1.0.2").toArray
  let state := head ++ Array.replicate (200 - head.size) 0
  absorb (beginOperation ⟨permute state, 0, 0⟩ 0x12) (Bytes.ofText "Merlin v1.0")

/-- The sponge after one more event. -/
def step (s : Sponge) : Transcript.Event → Sponge
  | .message label data => message s label data
  | .challenge label count => skip count (openChallenge s label count)

/-- Challenges of the duplex sponge. -/
def challenger : Challenger := fun t label count =>
  squeeze count (openChallenge (t.events.foldl step start) label count)

end Strobe

end TwoParty
