import TwoParty.Channel.Memory
import TwoParty.Party
import TwoParty.Relay.Edit

/-!
# TwoParty.Relay.Basic

A relay between two parties.  Each party holds one end of a memory channel of
its own and the relay holds both other ends, so it decides what reaches whom.
It keeps every message it took, as it was sent.
-/

namespace TwoParty

/-- The two channels, each with the party at side `one` and the relay at side `two`,
and the messages taken so far. -/
structure Relay where
  one : MemoryChannel
  two : MemoryChannel
  log : List Bytes

/-- The outcome of taking a party's next message. -/
inductive Taken where
  | message (data : Bytes)
  /-- Nothing is queued. -/
  | empty
  /-- Nothing is queued and the party is gone. -/
  | partyGone
  /-- The relay dropped its end. -/
  | closed

namespace Relay

/-- Nothing was sent yet. -/
def start : Relay := ⟨.pair, .pair, []⟩

/-- A party's channel. -/
def channel (r : Relay) : Side → MemoryChannel
  | .one => r.one
  | .two => r.two

def setChannel (r : Relay) (s : Side) (c : MemoryChannel) : Relay :=
  match s with
  | .one => { r with one := c }
  | .two => { r with two := c }

/-- Take a party's next message and keep it. -/
def take (r : Relay) (s : Side) : Taken × Relay :=
  if (r.channel s).isDropped .two then (.closed, r)
  else match (r.channel s).receive .two with
  | (.message data, c) => (.message data, { r.setChannel s c with log := r.log ++ [data] })
  | (.pending, _) => (.empty, r)
  | (.ended, _) => (.partyGone, r)

/-- Send a message to a party; was it delivered? -/
def deliver (r : Relay) (s : Side) (data : Bytes) : Bool × Relay :=
  if (r.channel s).isDropped .two then (false, r)
  else match (r.channel s).send .two data with
  | (.ok (), c) => (true, r.setChannel s c)
  | (.error _, _) => (false, r)

/-- Send a message so many times; was it delivered each time? -/
def deliverTimes (data : Bytes) (s : Side) : Nat → Relay → Bool × Relay
  | 0, r => (true, r)
  | n + 1, r =>
    let (first, r) := r.deliver s data
    let (rest, r) := deliverTimes data s n r
    (first && rest, r)

/-- Take a party's next message, change it, and send it to the other one so many
times. -/
def forward (r : Relay) (s : Side) (edits : List Edit) (times : Nat) : Taken × Bool × Relay :=
  match r.take s with
  | (.message data, r) =>
    let edited := edits.foldl (Edit.apply r.log) data
    let (delivered, r) := deliverTimes edited s.other times r
    (.message data, delivered, r)
  | (t, r) => (t, false, r)

/-- Drop the relay's end of a party's channel. -/
def close (r : Relay) (s : Side) : Relay := r.setChannel s ((r.channel s).drop .two)

/-- Has the relay dropped its end of a party's channel? -/
def isClosed (r : Relay) (s : Side) : Bool := (r.channel s).isDropped .two

/-- Let a party act at its end of the channel.  A party that has to wait is given up;
what it changed before stays. -/
def call {G : DlogGroup} {σ α : Type} (r : Relay) (s : Side) (store : σ) (random : ByteSource)
    (p : Party G σ α) : Option α × σ × ByteSource × Relay :=
  match p.run ⟨store, random, r.channel s, .one⟩ with
  | (.finished a, d) => (some a, d.store, d.random, r.setChannel s d.channel)
  | (_, d) => (none, d.store, d.random, r.setChannel s d.channel)

end Relay

end TwoParty
