import TwoParty.Channel.Buffer

/-!
# TwoParty.Channel.Frame

Messages on a byte stream: each one stands behind its length, four bytes most
significant first, and a length above the limit is refused as soon as it is
complete.

`FrameDecoder` takes frames off the bytes read so far.  A head is taken off as
soon as it is there, and its length makes room for the whole body.
-/

namespace TwoParty

/-- A message as it stands on the stream. -/
def frame (message : Bytes) : Bytes := Bytes.word32BE message.length ++ message

/-- The bytes of a length. -/
def headLength : Nat := 4

/-- The limit of a channel that was not given another one: 16 MiB. -/
def defaultFrameLimit : Nat := 16 * 1024 * 1024

/-- The bytes read and not yet used, and the length of the frame that they start if its
head was taken off already. -/
structure FrameDecoder where
  buffer : ReadBuffer
  expected : Option Nat
  deriving DecidableEq, Repr

namespace FrameDecoder

/-- Nothing was read yet. -/
def empty : FrameDecoder := ⟨.empty, none⟩

/-- Take the body of a frame off the buffer, once it is complete. -/
def takeBody (length : Nat) (buffer : ReadBuffer) : Option Bytes × FrameDecoder :=
  if buffer.bytes.length < length then (none, ⟨buffer, some length⟩)
  else
    let rest := buffer.spend length
    (some (buffer.bytes.take length), ⟨rest.reserveApart (headLength - rest.bytes.length), none⟩)

/-- Take a frame off the buffer, once it is complete.  `none` refuses a length above
the limit; the buffer then stays as it is. -/
def next (limit : Nat) (d : FrameDecoder) : Option (Option Bytes × FrameDecoder) :=
  match d.expected with
  | some length => some (takeBody length d.buffer)
  | none =>
    if d.buffer.bytes.length < headLength then some (none, d)
    else
      let length := Bytes.natBE (d.buffer.bytes.take headLength)
      if limit < length then none
      else
        let body := d.buffer.skip headLength
        some (takeBody length (body.reserve (length - body.bytes.length)))

end FrameDecoder

end TwoParty
