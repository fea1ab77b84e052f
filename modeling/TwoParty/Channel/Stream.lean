import TwoParty.Channel.Frame
import TwoParty.Error

/-!
# TwoParty.Channel.Stream

One end of a connection that carries frames.

Receiving decodes what was read and reads on until there is an answer: a
message, an error, or nothing as long as the connection may bring more.  The end
of the stream inside a frame is told from the end at a frame's boundary, and the
call after an error reports a closed connection.

Sending needs a peer that is still there.  A peer that only stopped sending
takes messages as before; one that left refuses them, and if it left messages
unread its leaving is reported as an error of its own.
-/

namespace TwoParty

/-- What a receiving end does next. -/
inductive ReadPhase where
  /-- Wait for bytes. -/
  | reading
  /-- Take frames off the buffer. -/
  | decoding
  /-- Report the end of the stream after an error. -/
  | failed
  deriving DecidableEq, Repr

/-- Whether the other end of a connection is still there. -/
inductive Presence where
  /-- It may send more. -/
  | present
  /-- It sends no more and takes what is sent. -/
  | finished
  /-- It left.  What is sent next is lost, and that it left shows only afterwards. -/
  | left
  /-- It left while messages to it were unread.  This was not reported yet. -/
  | dropped
  /-- It is known to have left. -/
  | gone
  deriving DecidableEq, Repr

/-- One end of a connection. -/
structure StreamChannel where
  /-- The greatest length of a message. -/
  limit : Nat
  decoder : FrameDecoder
  phase : ReadPhase
  /-- The end of the stream was seen. -/
  sawEnd : Bool
  /-- Bytes that arrived and were not read yet. -/
  arrived : Bytes
  peer : Presence
  /-- Bytes that were sent and that the peer has not taken yet. -/
  sent : Bytes

namespace StreamChannel

/-- A new connection. -/
def connected : StreamChannel :=
  ⟨defaultFrameLimit, .empty, .reading, false, [], .present, []⟩

/-- Change the limit. -/
def withLimit (c : StreamChannel) (limit : Nat) : StreamChannel := { c with limit }

/-! ## The peer -/

/-- Bytes from the peer arrive. -/
def arrive (c : StreamChannel) (bs : Bytes) : StreamChannel := { c with arrived := c.arrived ++ bs }

/-- The peer sends no more. -/
def finish (c : StreamChannel) : StreamChannel :=
  { c with peer := if c.peer = .present then .finished else c.peer }

/-- The peer leaves. -/
def close (c : StreamChannel) : StreamChannel :=
  { c with peer := match c.peer with
      | .present => if c.sent.isEmpty then .left else .dropped
      | .finished => if c.sent.isEmpty then .left else .gone
      | p => p }

/-- The peer takes what was sent. -/
def takeSent (c : StreamChannel) : Bytes × StreamChannel := (c.sent, { c with sent := [] })

/-! ## Sending -/

def sendError (cause : Fault) : Error := .io "tcp send" cause

/-- Send a message; one above the limit is refused and nothing is written. -/
def send (c : StreamChannel) (message : Bytes) : Except Error Unit × StreamChannel :=
  if c.limit < message.length then
    (.error (.invalidInput (.frameTooLong message.length c.limit)), c)
  else match c.peer with
    | .present | .finished => (.ok (), { c with sent := c.sent ++ frame message })
    | .left => (.ok (), { c with peer := .gone })
    | .dropped => (.error (sendError .connectionReset), { c with peer := .gone })
    | .gone => (.error (sendError .brokenPipe), c)

/-! ## Receiving -/

def receiveError (cause : Fault) : Error := .io "tcp receive" cause

def closedError : Error := receiveError .closedByPeer

def tooBigError : Error := .protocolFormat .frameTooBig

/-- Take a frame off the buffer.  Without an answer, more bytes are needed. -/
def decode (c : StreamChannel) : Option (Except Error Bytes) × StreamChannel :=
  match c.decoder.next c.limit with
  | none => (some (.error tooBigError), { c with phase := .failed })
  | some (some message, d) => (some (.ok message), { c with decoder := d })
  | some (none, d) => (none, { c with decoder := d, phase := .reading })

/-- Take a frame off the buffer with the end of the stream in sight. -/
def decodeLast (c : StreamChannel) : Except Error Bytes × StreamChannel :=
  match c.decode with
  | (some r, c) => (r, c)
  | (none, c) =>
    if c.decoder.buffer.bytes.isEmpty then (.error closedError, c)
    else (.error (receiveError .unfinishedFrame), { c with phase := .failed })

/-- At the end of the stream. -/
def atEnd (c : StreamChannel) : Except Error Bytes × StreamChannel :=
  if c.sawEnd then (.error closedError, c)
  else decodeLast { c with sawEnd := true, phase := .decoding }

/-- With nothing left to read: wait, unless nothing can come any more. -/
def idle (c : StreamChannel) : Option (Except Error Bytes) × StreamChannel :=
  match c.peer with
  | .present => (none, c)
  | .dropped =>
    (some (.error (receiveError .connectionReset)), { c with peer := .gone, phase := .failed })
  | _ =>
    let (r, c) := atEnd c
    (some r, c)

/-- Read some of the bytes that arrived. -/
def read (c : StreamChannel) : StreamChannel :=
  let (buffer, rest) := c.decoder.buffer.fill c.arrived
  { c with decoder := { c.decoder with buffer }, arrived := rest, sawEnd := false,
           phase := .decoding }

@[simp] theorem arrived_decode (c : StreamChannel) : c.decode.2.arrived = c.arrived := by
  unfold decode
  split <;> rfl

theorem length_arrived_read_lt {c : StreamChannel} (h : c.arrived ≠ []) :
    c.read.arrived.length < c.arrived.length :=
  c.decoder.buffer.length_fill_lt h

/-- Read and decode by turns, until there is an answer or nothing is left to read. -/
def fetch (c : StreamChannel) : Option (Except Error Bytes) × StreamChannel :=
  if _h : c.arrived = [] then idle c
  else
    match _hc : c.read.decode with
    | (some r, c') => (some r, c')
    | (none, c') => fetch c'
termination_by c.arrived.length
decreasing_by
  have hc' : c' = c.read.decode.2 := by rw [_hc]
  rw [hc', arrived_decode]
  exact length_arrived_read_lt _h

/-- Receive a message.  `none` means that the call has to wait. -/
def receive (c : StreamChannel) : Option (Except Error Bytes) × StreamChannel :=
  match c.phase with
  | .failed => (some (.error closedError), { c with phase := .reading })
  | .reading => fetch c
  | .decoding =>
    if c.sawEnd then
      let (r, c) := decodeLast c
      (some r, c)
    else match c.decode with
      | (some r, c) => (some r, c)
      | (none, c) => fetch c

end StreamChannel

end TwoParty
