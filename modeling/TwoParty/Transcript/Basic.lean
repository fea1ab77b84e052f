import TwoParty.Bytes

/-!
# TwoParty.Transcript.Basic

The public-coin transcript of a proof: the messages absorbed so far and the
challenges drawn so far, in order.

Challenges are a function of this history alone.  Which function is left open
(`Challenger`), so that every statement about the proofs built on transcripts
holds for any deterministic choice; `TwoParty.Transcript.Strobe` gives the one
that the protocols run with.
-/

namespace TwoParty

/-- One event of a transcript. -/
inductive Transcript.Event where
  /-- `data` was absorbed under `label`. -/
  | message (label data : Bytes)
  /-- `count` challenge bytes were drawn under `label`. -/
  | challenge (label : Bytes) (count : Nat)
  deriving DecidableEq, Repr

/-- The history of a proof, oldest event first. -/
structure Transcript where
  events : List Transcript.Event
  deriving DecidableEq, Repr

/-- A source of challenges: `count` bytes drawn under a label after a history. -/
abbrev Challenger := Transcript → (label : Bytes) → (count : Nat) → Bytes

namespace Transcript

/-- Absorb `data` under `label`. -/
def append (t : Transcript) (label data : Bytes) : Transcript :=
  ⟨t.events ++ [.message label data]⟩

/-- Absorb a 64-bit word under `label`, least significant byte first. -/
def appendWord (t : Transcript) (label : Bytes) (word : UInt64) : Transcript :=
  t.append label (Bytes.word64LE word.toNat)

/-- An application's transcript starts by absorbing its name. -/
def start (name : Bytes) : Transcript :=
  append ⟨[]⟩ (Bytes.ofText "dom-sep") name

/-- Draw `count` challenge bytes under `label`; the draw joins the history. -/
def challenge (t : Transcript) (draw : Challenger) (label : Bytes) (count : Nat) :
    Bytes × Transcript :=
  (draw t label count, ⟨t.events ++ [.challenge label count]⟩)

end Transcript

end TwoParty
