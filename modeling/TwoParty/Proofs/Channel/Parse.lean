import TwoParty.Bytes.Range
import TwoParty.Channel.Frame

/-!
# TwoParty.Proofs.Channel.Parse

What a byte stream says under a frame limit: some frames, and a tail in which no further
frame can be told.

* `front_cases` — a stream starts with a frame, or it is incomplete or over the limit;
* `existsUnique_parse` — every stream has one parse.
-/

namespace TwoParty

namespace Framing

open Bytes

/-! ## The front of a stream -/

/-- A message that a frame under the limit can carry: its length is written in four bytes. -/
structure FitsFrame (limit : Nat) (m : Bytes) : Prop where
  le_limit : m.length ≤ limit
  lt_width : m.length < 256 ^ headLength

/-- The length in front of a stream. -/
def announced (stream : Bytes) : Nat := natBE (stream.take headLength)

/-- The head is there, and its length is above the limit. -/
structure OverLimit (limit : Nat) (stream : Bytes) : Prop where
  head : headLength ≤ stream.length
  lt_announced : limit < announced stream

/-- The head or the body of a frame is not complete. -/
inductive Incomplete (limit : Nat) (stream : Bytes) : Prop where
  | head (h : stream.length < headLength)
  | body (hhead : headLength ≤ stream.length) (hlimit : announced stream ≤ limit)
    (h : stream.length < headLength + announced stream)

/-- No frame can be told at the front. -/
def Stops (limit : Nat) (stream : Bytes) : Prop :=
  Incomplete limit stream ∨ OverLimit limit stream

variable {limit limit' : Nat} {m m' u u' stream tail tail' : Bytes} {ms ms' : List Bytes}

theorem length_head (n : Nat) : (word32BE n).length = headLength := length_ofNatBE 4 n

/-- A head reads back, whatever follows. -/
theorem announced_head_append {n : Nat} (h : n < 256 ^ headLength) (u : Bytes) :
    announced (word32BE n ++ u) = n := by
  rw [announced, ← length_head n, List.take_left, natBE_word32BE h]

/-- A frame is its message and the head. -/
theorem length_frame (m : Bytes) : (frame m).length = headLength + m.length := by
  rw [frame, List.length_append, length_head]

/-- The head in front of a frame announces the length of its message, as long as a head can. -/
theorem announced_frame_append (h : FitsFrame limit m) (u : Bytes) :
    announced (frame m ++ u) = m.length := by
  rw [frame, List.append_assoc, announced_head_append h.lt_width]

/-- The head is what is announced. -/
theorem head_append_drop (h : headLength ≤ stream.length) :
    word32BE (announced stream) ++ stream.drop headLength = stream := by
  have hlen : (stream.take headLength).length = 4 := List.length_take_of_le h
  have hhead := ofNatBE_natBE (stream.take headLength)
  rw [hlen] at hhead
  rw [announced, word32BE, hhead, List.take_append_drop]

/-- No head announces more than four bytes can say. -/
theorem announced_lt (h : headLength ≤ stream.length) : announced stream < 256 ^ headLength := by
  have hlt := natBE_lt (stream.take headLength)
  rwa [List.length_take_of_le h] at hlt

/-- A head with a whole body behind it is a frame. -/
theorem frame_append_drop (h : headLength ≤ stream.length)
    (hbody : headLength + announced stream ≤ stream.length) :
    frame ((stream.drop headLength).take (announced stream)) ++
      (stream.drop headLength).drop (announced stream) = stream := by
  have hlen : ((stream.drop headLength).take (announced stream)).length = announced stream := by
    rw [List.length_take, List.length_drop]
    omega
  rw [frame, hlen, List.append_assoc, List.take_append_drop, head_append_drop h]

/-- A whole frame at the front is not the beginning of one. -/
theorem not_incomplete_frame_append (h : FitsFrame limit m) (u : Bytes) :
    ¬ Incomplete limit' (frame m ++ u) := by
  intro hincomplete
  have hlen : (frame m ++ u).length = headLength + m.length + u.length := by
    rw [List.length_append, length_frame]
  cases hincomplete with
  | head h => omega
  | body _ _ hbody =>
    rw [announced_frame_append h] at hbody
    omega

/-- A frame that fits is not over the limit. -/
theorem not_overLimit_frame_append (h : FitsFrame limit m) (u : Bytes) :
    ¬ OverLimit limit (frame m ++ u) := by
  intro hover
  have hlt := hover.lt_announced
  rw [announced_frame_append h] at hlt
  exact absurd h.le_limit (Nat.not_le.2 hlt)

/-- The parser does not stop in front of a frame that fits. -/
theorem not_stops_frame_append (h : FitsFrame limit m) (u : Bytes) : ¬ Stops limit (frame m ++ u) :=
  not_or.2 ⟨not_incomplete_frame_append h u, not_overLimit_frame_append h u⟩

/-- A head over the limit is complete. -/
theorem OverLimit.not_incomplete (h : OverLimit limit stream) : ¬ Incomplete limit stream := by
  intro hincomplete
  have hhead := h.head
  have hlt := h.lt_announced
  cases hincomplete with
  | head => omega
  | body => omega

/-- What follows does not matter once the head is over the limit. -/
theorem OverLimit.append (h : OverLimit limit stream) (u : Bytes) :
    OverLimit limit (stream ++ u) := by
  have hhead := h.head
  constructor
  · rw [List.length_append]
    omega
  · rw [announced, List.take_append_of_le_length hhead]
    exact h.lt_announced

/-- A stream starts with a frame, or no frame can be told. -/
theorem front_cases (limit : Nat) (stream : Bytes) :
    (∃ m rest, FitsFrame limit m ∧ stream = frame m ++ rest) ∨ Stops limit stream := by
  by_cases hhead : headLength ≤ stream.length
  · by_cases hlimit : announced stream ≤ limit
    · by_cases hbody : headLength + announced stream ≤ stream.length
      · have hlen : ((stream.drop headLength).take (announced stream)).length =
            announced stream := by
          rw [List.length_take, List.length_drop]
          omega
        refine .inl ⟨_, _, ⟨?_, ?_⟩, (frame_append_drop hhead hbody).symm⟩
        · rwa [hlen]
        · rw [hlen]
          exact announced_lt hhead
      · exact .inr (.inl (.body hhead hlimit (Nat.not_le.1 hbody)))
    · exact .inr (.inr ⟨hhead, Nat.not_le.1 hlimit⟩)
  · exact .inr (.inl (.head (Nat.not_le.1 hhead)))

/-- The frame at the front is determined. -/
theorem frame_append_inj (h : FitsFrame limit m) (h' : FitsFrame limit' m')
    (heq : frame m ++ u = frame m' ++ u') : m = m' ∧ u = u' := by
  have hlen : m.length = m'.length := by
    rw [← announced_frame_append h u, heq, announced_frame_append h']
  obtain ⟨hframe, hu⟩ := List.append_inj heq (by rw [length_frame, length_frame, hlen])
  refine ⟨?_, hu⟩
  rw [frame, frame, hlen] at hframe
  exact List.append_cancel_left hframe

/-! ## Parses -/

/-- The stream is made of the frames of these messages and of a tail that starts with
none. -/
structure Parse (limit : Nat) (stream : Bytes) (ms : List Bytes) (tail : Bytes) : Prop where
  eq : stream = ms.flatMap frame ++ tail
  fits : ∀ m ∈ ms, FitsFrame limit m
  stops : Stops limit tail

theorem Parse.nil (h : Stops limit stream) : Parse limit stream [] stream :=
  ⟨rfl, List.forall_mem_nil _, h⟩

/-- A frame in front is one more message in front. -/
theorem Parse.cons (hm : FitsFrame limit m) (h : Parse limit stream ms tail) :
    Parse limit (frame m ++ stream) (m :: ms) tail := by
  refine ⟨?_, List.forall_mem_cons.2 ⟨hm, h.fits⟩, h.stops⟩
  rw [List.flatMap_cons, List.append_assoc, ← h.eq]

/-- More frames in front. -/
theorem Parse.append (hms' : ∀ m ∈ ms', FitsFrame limit m) (h : Parse limit stream ms tail) :
    Parse limit (ms'.flatMap frame ++ stream) (ms' ++ ms) tail := by
  refine ⟨?_, List.forall_mem_append.2 ⟨hms', h.fits⟩, h.stops⟩
  rw [List.flatMap_append, List.append_assoc, ← h.eq]

/-- There is only one parse. -/
theorem Parse.unique (h : Parse limit stream ms tail) (h' : Parse limit stream ms' tail') :
    ms = ms' ∧ tail = tail' := by
  -- A stream that stops has no frame in front, so both parses end at the same place.
  induction ms generalizing stream ms' with
  | nil =>
    have heq := h.eq
    rw [List.flatMap_nil, List.nil_append] at heq
    cases ms' with
    | nil => exact ⟨rfl, (heq.symm.trans h'.eq)⟩
    | cons m' ms' =>
      have hfront := h'.eq
      rw [List.flatMap_cons, List.append_assoc, heq] at hfront
      have hstops := h.stops
      rw [hfront] at hstops
      exact absurd hstops (not_stops_frame_append (h'.fits m' List.mem_cons_self) _)
  | cons m ms ih =>
    have hfront := h.eq
    rw [List.flatMap_cons, List.append_assoc] at hfront
    have hm := h.fits m List.mem_cons_self
    cases ms' with
    | nil =>
      have heq := h'.eq
      rw [List.flatMap_nil, List.nil_append] at heq
      have hstops := h'.stops
      rw [← heq, hfront] at hstops
      exact absurd hstops (not_stops_frame_append hm _)
    | cons m' ms' =>
      have hfront' := h'.eq
      rw [List.flatMap_cons, List.append_assoc] at hfront'
      have hm' := h'.fits m' List.mem_cons_self
      obtain ⟨rfl, hrest⟩ := frame_append_inj hm hm' (hfront.symm.trans hfront')
      have hms := List.forall_mem_cons.1 h.fits
      have hms' := List.forall_mem_cons.1 h'.fits
      obtain ⟨rfl, rfl⟩ := ih ⟨rfl, hms.2, h.stops⟩ ⟨hrest, hms'.2, h'.stops⟩
      exact ⟨rfl, rfl⟩

/-- Every stream has a parse. -/
theorem exists_parse (limit : Nat) (stream : Bytes) : ∃ ms tail, Parse limit stream ms tail := by
  obtain ⟨m, rest, hm, heq⟩ | hstops := front_cases limit stream
  · have hshorter : rest.length < stream.length := by
      rw [heq, List.length_append, length_frame, headLength]
      omega
    obtain ⟨ms, tail, h⟩ := exists_parse limit rest
    rw [heq]
    exact ⟨m :: ms, tail, h.cons hm⟩
  · exact ⟨[], stream, .nil hstops⟩
termination_by stream.length

/-- Frames that are complete stay what they are. -/
theorem Parse.isPrefix (h : Parse limit stream ms tail) (h' : Parse limit (stream ++ u) ms' tail') :
    ms <+: ms' := by
  obtain ⟨rest, tail'', hrest⟩ := exists_parse limit (tail ++ u)
  have hall := hrest.append h.fits
  rw [← List.append_assoc, ← h.eq] at hall
  rw [(h'.unique hall).1]
  exact List.prefix_append ms rest

/-- Nothing is told behind a length over the limit. -/
theorem Parse.append_overLimit (h : Parse limit stream ms tail) (hover : OverLimit limit tail)
    (u : Bytes) : Parse limit (stream ++ u) ms (tail ++ u) :=
  ⟨by rw [h.eq, List.append_assoc], h.fits, .inr (hover.append u)⟩

/-- Every stream has exactly one parse. -/
theorem existsUnique_parse (limit : Nat) (stream : Bytes) :
    ∃! p : List Bytes × Bytes, Parse limit stream p.1 p.2 := by
  obtain ⟨ms, tail, h⟩ := exists_parse limit stream
  refine ⟨(ms, tail), h, ?_⟩
  rintro ⟨ms', tail'⟩ h'
  obtain ⟨rfl, rfl⟩ := h'.unique h
  rfl

end Framing

end TwoParty
