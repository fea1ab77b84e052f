import TwoParty.Bytes

/-!
# TwoParty.Channel.Buffer

Storage for the bytes of a connection between their reading and their use.  One
read takes no more than the free end of the storage has room for, and the rest
waits on the connection.  The storage starts with 8 KiB; when its end is full it
is used again from the front, if enough of the front was spent, and otherwise
grows to twice its size at least.

The storage decides how much one read takes, and nothing else: to its user a
buffer is its `bytes`, and the lemmas say what each operation does to them.
A read never loses a byte (`bytes_fill_append`) and always takes one
(`length_fill_lt`).
-/

namespace TwoParty

/-- Bytes that were read and not used yet.  They lie in a storage of `size` bytes, behind
`spent` bytes of it that are used already. -/
structure ReadBuffer where
  bytes : Bytes
  spent : Nat
  size : Nat
  fits : spent + bytes.length ≤ size
  deriving DecidableEq, Repr

namespace ReadBuffer

/-- The size of a fresh storage: 8 KiB. -/
def freshSize : Nat := 8 * 1024

/-- A fresh storage with nothing in it. -/
def empty : ReadBuffer := ⟨[], 0, freshSize, Nat.zero_le _⟩

/-- How many bytes fit behind those that are there. -/
def room (b : ReadBuffer) : Nat := b.size - (b.spent + b.bytes.length)

/-! ## Making room -/

/-- Make room for `n` more bytes.  The bytes move to the front if that is enough and what
was spent is no shorter than they are; otherwise the storage grows. -/
def reserve (b : ReadBuffer) (n : Nat) : ReadBuffer :=
  if n ≤ b.room then b
  else if h : b.bytes.length + n ≤ b.size ∧ b.bytes.length ≤ b.spent then
    ⟨b.bytes, 0, b.size, by omega⟩
  else ⟨b.bytes, b.spent, max (2 * b.size) (b.spent + b.bytes.length + n), by omega⟩

/-- Make room for `n` more bytes while the message that was taken last still stands in the
spent part: without enough room the bytes move to a fresh storage. -/
def reserveApart (b : ReadBuffer) (n : Nat) : ReadBuffer :=
  if n ≤ b.room then b
  else ⟨b.bytes, 0, max freshSize (b.bytes.length + n), by omega⟩

@[simp] theorem bytes_reserve (b : ReadBuffer) (n : Nat) : (b.reserve n).bytes = b.bytes := by
  unfold reserve
  split
  · rfl
  · split <;> rfl

@[simp] theorem bytes_reserveApart (b : ReadBuffer) (n : Nat) :
    (b.reserveApart n).bytes = b.bytes := by
  unfold reserveApart
  split <;> rfl

/-- Room that was asked for is there. -/
theorem le_room_reserve (b : ReadBuffer) (n : Nat) : n ≤ (b.reserve n).room := by
  unfold reserve
  split
  · assumption
  · split <;> simp only [room] <;> omega

/-! ## Using bytes up -/

/-- Take the first `n` bytes as a message. -/
def spend (b : ReadBuffer) (n : Nat) : ReadBuffer :=
  ⟨b.bytes.drop n, b.spent + min n b.bytes.length, b.size, by
    have := b.fits
    rw [List.length_drop]
    omega⟩

/-- Pass over the first `n` bytes.  If nothing stands behind them, their room is free at
once. -/
def skip (b : ReadBuffer) (n : Nat) : ReadBuffer :=
  if b.bytes.length ≤ n then ⟨[], b.spent, b.size, Nat.le_trans (Nat.le_add_right _ _) b.fits⟩
  else b.spend n

@[simp] theorem bytes_spend (b : ReadBuffer) (n : Nat) : (b.spend n).bytes = b.bytes.drop n := rfl

@[simp] theorem bytes_skip (b : ReadBuffer) (n : Nat) : (b.skip n).bytes = b.bytes.drop n := by
  unfold skip
  split
  · rename_i h
    exact (List.drop_eq_nil_of_le h).symm
  · rfl

/-! ## Reading -/

/-- Put bytes behind those that are there, as many as there is room for. -/
def append (b : ReadBuffer) (bs : Bytes) : ReadBuffer :=
  ⟨b.bytes ++ bs.take b.room, b.spent, b.size, by
    have := b.fits
    rw [List.length_append, List.length_take, room]
    omega⟩

/-- One read: the buffer with the bytes it took, and those that still wait. -/
def fill (b : ReadBuffer) (waiting : Bytes) : ReadBuffer × Bytes :=
  let b := b.reserve 1
  (b.append waiting, waiting.drop b.room)

/-- A read keeps every byte and their order. -/
theorem bytes_fill_append (b : ReadBuffer) (waiting : Bytes) :
    (b.fill waiting).1.bytes ++ (b.fill waiting).2 = b.bytes ++ waiting := by
  simp [fill, append, List.append_assoc]

/-- A read takes at least one of the bytes that wait. -/
theorem length_fill_lt (b : ReadBuffer) {waiting : Bytes} (h : waiting ≠ []) :
    (b.fill waiting).2.length < waiting.length := by
  have hroom := b.le_room_reserve 1
  have hlength := List.length_pos_iff.2 h
  simp only [fill, List.length_drop]
  omega

end ReadBuffer

end TwoParty
