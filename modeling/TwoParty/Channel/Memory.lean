import TwoParty.Error

/-!
# TwoParty.Channel.Memory

Two connected ends inside one process: an unbounded queue of messages in each
direction.  A message that was sent stays readable after its sender is gone; a
message to an end that is gone is refused, and what that end had not read is
lost.
-/

namespace TwoParty

/-- One of two ends. -/
inductive Side where
  | one
  | two
  deriving DecidableEq, Repr

/-- The opposite end. -/
def Side.other : Side → Side
  | .one => .two
  | .two => .one

@[simp] theorem Side.other_other (s : Side) : s.other.other = s := by cases s <;> rfl

/-- What one end has in front of it: its unread messages, oldest first, or nothing
at all once the end was dropped. -/
inductive Inbox where
  | unread (queue : List Bytes)
  | dropped
  deriving DecidableEq, Repr

/-- The two ends of a channel. -/
structure MemoryChannel where
  one : Inbox
  two : Inbox
  deriving DecidableEq, Repr

/-- The outcome of asking an end for a message. -/
inductive Arrival where
  | message (data : Bytes)
  /-- Nothing is queued and the other end is still there. -/
  | pending
  /-- Nothing is queued and the other end is gone. -/
  | ended
  deriving DecidableEq, Repr

namespace MemoryChannel

/-- Two connected ends with nothing in between. -/
def pair : MemoryChannel := ⟨.unread [], .unread []⟩

/-- What an end has in front of it. -/
def inbox (c : MemoryChannel) : Side → Inbox
  | .one => c.one
  | .two => c.two

/-- Replace what an end has in front of it. -/
def setInbox (c : MemoryChannel) (s : Side) (i : Inbox) : MemoryChannel :=
  match s with
  | .one => { c with one := i }
  | .two => { c with two := i }

@[simp] theorem inbox_setInbox (c : MemoryChannel) (s : Side) (i : Inbox) :
    (c.setInbox s i).inbox s = i := by cases s <;> rfl

@[simp] theorem inbox_setInbox_other (c : MemoryChannel) (s : Side) (i : Inbox) :
    (c.setInbox s i).inbox s.other = c.inbox s.other := by cases s <;> rfl

/-- Was this end dropped? -/
def isDropped (c : MemoryChannel) (s : Side) : Bool := c.inbox s = .dropped

/-- The error of a send to an end that is gone. -/
def sendError : Error := .io "memory channel send" .readerDropped

/-- The error of a receive when nothing can come any more. -/
def receiveError : Error := .io "memory channel receive" .writerDropped

/-- Send a message from an end. -/
def send (c : MemoryChannel) (s : Side) (data : Bytes) : Except Error Unit × MemoryChannel :=
  match c.inbox s.other with
  | .unread queue => (.ok (), c.setInbox s.other (.unread (queue ++ [data])))
  | .dropped => (.error sendError, c)

/-- Ask an end for its next message. -/
def receive (c : MemoryChannel) (s : Side) : Arrival × MemoryChannel :=
  match c.inbox s with
  | .unread (data :: queue) => (.message data, c.setInbox s (.unread queue))
  | _ => (if c.isDropped s.other then .ended else .pending, c)

/-- Drop an end together with what it had not read. -/
def drop (c : MemoryChannel) (s : Side) : MemoryChannel := c.setInbox s .dropped

end MemoryChannel

end TwoParty
