import TwoParty.Hash.Sha256

/-!
# TwoParty.Random

Randomness as an endless byte stream that is read from the front.  Every party
owns one stream, and nothing it does depends on anything but the bytes it took.

`Stream.seeded` is a stream for repeatable runs: a given tape first, then the
digests of a seed with a running counter.
-/

namespace TwoParty

/-- An endless byte stream, of which `used` bytes were taken. -/
structure ByteSource where
  stream : Nat → UInt8
  used : Nat

namespace ByteSource

/-- The next `n` bytes. -/
def peek (s : ByteSource) (n : Nat) : Bytes := (List.range n).map fun i => s.stream (s.used + i)

/-- The source after `n` more bytes were taken. -/
def advance (s : ByteSource) (n : Nat) : ByteSource := { s with used := s.used + n }

/-- Take the next `n` bytes. -/
def take (s : ByteSource) (n : Nat) : Bytes × ByteSource := (s.peek n, s.advance n)

@[simp] theorem length_peek (s : ByteSource) (n : Nat) : (s.peek n).length = n := by
  simp [peek]

/-! ## Seeded streams -/

/-- Block `i` of the expansion of a seed. -/
def seedBlock (seed : Bytes) (i : Nat) : Bytes := Sha256.digest (seed ++ Bytes.word32BE i)

/-- The bytes of `tape`, then the blocks of the expansion of `seed`. -/
def seeded (tape seed : Bytes) : ByteSource :=
  let tape := tape.toArray
  ⟨fun i =>
    if h : i < tape.size then tape[i]
    else ((seedBlock seed ((i - tape.size) / 32)).getD ((i - tape.size) % 32) 0), 0⟩

/-! ## Rejection sampling -/

/-- The number of draws after which a sampler gives up; a stream that is rejected
this often has no exponent in reach of any run. -/
def drawLimit : Nat := UInt32.size

/-- Draw `width` bytes at a time until `accept` takes them, at most `limit` times. -/
def draw {α : Type} (width : Nat) (accept : Bytes → Option α) :
    (limit : Nat) → ByteSource → Option (α × ByteSource)
  | 0, _ => none
  | limit + 1, s =>
    match accept (s.peek width) with
    | some a => some (a, s.advance width)
    | none => draw width accept limit (s.advance width)

/-- What is drawn was accepted. -/
theorem accepted_of_draw {α : Type} {width : Nat} {accept : Bytes → Option α} {limit : Nat}
    {s t : ByteSource} {a : α} (h : draw width accept limit s = some (a, t)) :
    ∃ bs, bs.length = width ∧ accept bs = some a := by
  induction limit generalizing s with
  | zero => simp [draw] at h
  | succ limit ih =>
    rw [draw] at h
    split at h
    · next b hb =>
      obtain ⟨rfl, -⟩ := Prod.mk.inj (Option.some.inj h)
      exact ⟨_, length_peek s width, hb⟩
    · exact ih h

end ByteSource

end TwoParty
