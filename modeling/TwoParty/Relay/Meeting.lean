import TwoParty.Relay.Basic

/-!
# TwoParty.Relay.Meeting

Two running parties with a relay between them.  After every move of the relay
both parties run until they wait again; a party that is finished drops its end.
-/

namespace TwoParty

/-- A place at the meeting. -/
inductive Seat (G : DlogGroup) (α : Type) where
  /-- Nobody sits here. -/
  | absent
  /-- The party that is still running, with its randomness. -/
  | running (party : Party G Unit α) (random : ByteSource)
  /-- The party is finished. -/
  | finished (result : α)

namespace Seat

variable {G : DlogGroup} {α : Type}

/-- Run the party at its end of a channel until it waits or is finished. -/
def poll (seat : Seat G α) (c : MemoryChannel) : Seat G α × MemoryChannel :=
  match seat with
  | .running party random =>
    match party.run ⟨(), random, c, .one⟩ with
    | (.finished a, d) => (.finished a, d.channel.drop .one)
    | (.waiting next, d) => (.running (.receive next) d.random, d.channel)
    | (.starved, d) => (.running party random, d.channel)
  | seat => (seat, c)

def isFinished : Seat G α → Bool
  | .finished _ => true
  | _ => false

end Seat

/-- Two places and the relay between them. -/
structure Meeting (G : DlogGroup) (α : Type) where
  one : Seat G α
  two : Seat G α
  relay : Relay

/-- A message that the relay moved on its own. -/
structure Passage where
  sender : Side
  message : Bytes
  delivered : Bool

namespace Meeting

variable {G : DlogGroup} {α : Type}

def seat (m : Meeting G α) : Side → Seat G α
  | .one => m.one
  | .two => m.two

/-- Run both parties until they wait. -/
def poll (m : Meeting G α) : Meeting G α :=
  let (one, c₁) := m.one.poll m.relay.one
  let (two, c₂) := m.two.poll m.relay.two
  ⟨one, two, { m.relay with one := c₁, two := c₂ }⟩

/-- The meeting before the relay's first move. -/
def start (one two : Seat G α) : Meeting G α := poll ⟨one, two, .start⟩

/-- The relay moves, and then the parties run. -/
def move (m : Meeting G α) (relay : Relay) : Meeting G α := poll { m with relay }

/-! ## Moves on the relay's own account -/

/-- Pass on every message of one party; `edits` tells how to change the message of each
number. -/
def drain (edits : Nat → List Edit) (s : Side) :
    (fuel : Nat) → Meeting G α → List Passage × Meeting G α
  | 0, m => ([], m)
  | fuel + 1, m =>
    match m.relay.forward s (edits m.relay.log.length) 1 with
    | (.message data, delivered, relay) =>
      let (rest, m) := drain edits s fuel (m.move relay)
      (⟨s, data, delivered⟩ :: rest, m)
    | _ => ([], m)

/-- Tell a party that its peer is finished; the relay drops its end unless it already
did. -/
def announce (s : Side) (m : Meeting G α) : Bool × Meeting G α :=
  if (m.seat s).isFinished && !m.relay.isClosed s.other then
    (true, m.move (m.relay.close s.other))
  else (false, m)

/-- Rounds of passing on all messages of party one and then of party two, until a round
moves nothing; with `close`, such a round ends by telling each party whose peer is
finished, and only a round without news is the last. -/
def rounds (edits : Nat → List Edit) (close : Bool) :
    (fuel : Nat) → Meeting G α → List Passage × Meeting G α
  | 0, m => ([], m)
  | fuel + 1, m =>
    let (ps₁, m) := drain edits .one fuel m
    let (ps₂, m) := drain edits .two fuel m
    if !(ps₁ ++ ps₂).isEmpty then
      let (ps, m) := rounds edits close fuel m
      (ps₁ ++ ps₂ ++ ps, m)
    else if close then
      let (news₁, m) := announce .one m
      let (news₂, m) := announce .two m
      if news₁ || news₂ then rounds edits close fuel m else ([], m)
    else ([], m)

/-- More moves than any meeting of the protocols takes. -/
def roundLimit : Nat := 1000000

/-- Let the relay pass on everything. -/
def auto (edits : Nat → List Edit) (close : Bool) (m : Meeting G α) :
    List Passage × Meeting G α :=
  rounds edits close roundLimit m

end Meeting

end TwoParty
