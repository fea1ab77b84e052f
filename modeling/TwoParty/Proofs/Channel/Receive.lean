import TwoParty.Channel.Stream
import TwoParty.Proofs.Channel.Parse

/-!
# TwoParty.Proofs.Channel.Receive

One call of `receive`.

To a receiver the connection is the bytes that it has not used yet (`unread`), wherever they
lie: a head that was taken off, the buffer, and what arrived.  A call takes the frame in front
of them, if there is one, and leaves them alone otherwise (`received_receive`).  How the bytes
were cut into arrivals and reads does not show.
-/

namespace TwoParty

open Framing

variable {limit n : Nat} {m : Bytes}

/-! ## The decoder -/

namespace FrameDecoder

variable {d : FrameDecoder}

/-- The bytes of a length that was taken off the buffer already. -/
def headBytes : Option Nat → Bytes
  | none => []
  | some n => Bytes.word32BE n

/-- The bytes that the decoder has not used: the head comes first. -/
def pending (d : FrameDecoder) : Bytes := headBytes d.expected ++ d.buffer.bytes

/-- The length that is expected was accepted, and it came from a head. -/
def Accepted (limit : Nat) (d : FrameDecoder) : Prop :=
  ∀ n, d.expected = some n → n ≤ limit ∧ n < 256 ^ headLength

/-- A decoder that waits for a head has accepted no length. -/
theorem accepted_of_none (h : d.expected = none) : d.Accepted limit := by
  intro n hn
  rw [h] at hn
  cases hn

/-- What becomes of the bytes behind a head. -/
inductive Takes (limit : Nat) (bytes : Bytes) : Option Bytes × FrameDecoder → Prop where
  | frame {message rest} (hm : FitsFrame limit message)
    (heq : bytes = TwoParty.frame message ++ rest.pending) (hrest : rest.Accepted limit) :
    Takes limit bytes (some message, rest)
  | nothing {rest} (h : Incomplete limit bytes) (heq : rest.pending = bytes)
    (hrest : rest.Accepted limit) : Takes limit bytes (none, rest)

/-- After a head within the limit the decoder goes for its body. -/
theorem takes_takeBody (buffer : ReadBuffer) (hlimit : n ≤ limit) (hwidth : n < 256 ^ headLength) :
    Takes limit (Bytes.word32BE n ++ buffer.bytes) (takeBody n buffer) := by
  have hannounced := announced_head_append hwidth buffer.bytes
  have hlen : (Bytes.word32BE n ++ buffer.bytes).length = headLength + buffer.bytes.length := by
    rw [List.length_append, length_head]
  unfold takeBody
  split
  · next hshort =>
    refine .nothing (.body ?_ ?_ ?_) rfl ?_
    · omega
    · rwa [hannounced]
    · omega
    · rintro _ ⟨⟩
      exact ⟨hlimit, hwidth⟩
  · next hlong =>
    have htake : (buffer.bytes.take n).length = n := by
      rw [List.length_take]
      omega
    refine .frame ⟨?_, ?_⟩ ?_ (accepted_of_none rfl)
    · rwa [htake]
    · rwa [htake]
    · rw [TwoParty.frame, htake, pending, headBytes, List.nil_append, ReadBuffer.bytes_reserveApart,
        ReadBuffer.bytes_spend, List.append_assoc, List.take_append_drop]

/-- The decoder refuses a length over the limit, or takes what is there. -/
theorem next_cases (hd : d.Accepted limit) :
    (d.next limit = none ∧ OverLimit limit d.pending) ∨
      ∃ out, d.next limit = some out ∧ Takes limit d.pending out := by
  obtain ⟨buffer, expected⟩ := d
  cases expected with
  | some n =>
    obtain ⟨hlimit, hwidth⟩ := hd n rfl
    exact .inr ⟨_, rfl, takes_takeBody buffer hlimit hwidth⟩
  | none =>
    have hpending : pending ⟨buffer, none⟩ = buffer.bytes := rfl
    rw [hpending]
    by_cases hhead : buffer.bytes.length < headLength
    · exact .inr ⟨_, if_pos hhead, .nothing (.head hhead) rfl hd⟩
    · by_cases hover : limit < announced buffer.bytes
      · refine .inl ⟨?_, ⟨Nat.not_lt.1 hhead, hover⟩⟩
        exact (if_neg hhead).trans (if_pos hover)
      · let body := buffer.skip headLength
        let room := body.reserve (announced buffer.bytes - body.bytes.length)
        have hroom : room.bytes = buffer.bytes.drop headLength :=
          (body.bytes_reserve _).trans (buffer.bytes_skip headLength)
        have hbody := takes_takeBody room (Nat.not_lt.1 hover) (announced_lt (Nat.not_lt.1 hhead))
        rw [hroom, head_append_drop (Nat.not_lt.1 hhead)] at hbody
        exact .inr ⟨_, (if_neg hhead).trans (if_neg hover), hbody⟩

end FrameDecoder

/-! ## The connection -/

namespace StreamChannel

variable {c c₁ : StreamChannel} {reported : Prop} {m : Bytes}
  {out : Option (Except Error Bytes) × StreamChannel}

/-- The bytes from the peer that no call has used. -/
def unread (c : StreamChannel) : Bytes := c.decoder.pending ++ c.arrived

/-- Everything was read, and nothing more can come. -/
structure IsOver (c : StreamChannel) : Prop where
  arrived_eq : c.arrived = []
  peer_ne : c.peer ≠ .present

/-- What holds between the calls.  `reported` says that a length over the limit was reported
before. -/
structure Sound (c : StreamChannel) (reported : Prop) : Prop where
  accepted : c.decoder.Accepted c.limit
  stopped : c.phase ≠ .decoding → Stops c.limit c.decoder.pending
  reported : c.phase ≠ .decoding → OverLimit c.limit c.decoder.pending → reported
  failed : c.phase = .failed → OverLimit c.limit c.decoder.pending ∨ c.IsOver
  ended : c.sawEnd = true → c.IsOver

/-- What a call answers, and what it leaves unread. -/
inductive Received (reported : Prop) (c : StreamChannel) :
    Option (Except Error Bytes) × StreamChannel → Prop where
  | message {m c'} (hm : FitsFrame c.limit m) (h : c.unread = frame m ++ c'.unread) :
    Received reported c (some (.ok m), c')
  | tooBig {c'} (h : OverLimit c.limit c.unread) (heq : c'.unread = c.unread) :
    Received reported c (some (.error tooBigError), c')
  | closed {cause c'} (h : Stops c.limit c.unread)
    (hover : OverLimit c.limit c.unread → reported)
    (hpeer : c.peer = .present → OverLimit c.limit c.unread) (heq : c'.unread = c.unread) :
    Received reported c (some (.error (receiveError cause)), c')
  | nothing {c'} (h : Stops c.limit c.unread) (hover : OverLimit c.limit c.unread → reported)
    (hpeer : c.peer = .present) (heq : c'.unread = c.unread) : Received reported c (none, c')

/-- A call, with all that it does to the connection. -/
structure Calls (reported : Prop) (c : StreamChannel)
    (out : Option (Except Error Bytes) × StreamChannel) : Prop where
  received : Received reported c out
  limit_eq : out.2.limit = c.limit
  sent_eq : out.2.sent = c.sent
  peer_eq : out.2.peer = c.peer ∨ c.peer = .dropped ∧ out.2.peer = .gone
  sound : out.2.Sound (reported ∨ out.1 = some (.error tooBigError))

/-- The same connection, seen from outside. -/
structure Same (c c₁ : StreamChannel) : Prop where
  unread_eq : c₁.unread = c.unread
  limit_eq : c₁.limit = c.limit
  sent_eq : c₁.sent = c.sent
  peer_eq : c₁.peer = c.peer

theorem Same.received (h : Same c c₁) (hr : Received reported c₁ out) :
    Received reported c out := by
  obtain ⟨hunread, hlimit, -, hpeer⟩ := h
  cases hr with
  | message hm heq => exact .message (hlimit ▸ hm) (hunread ▸ heq)
  | tooBig hover heq => exact .tooBig (by rwa [← hlimit, ← hunread]) (heq.trans hunread)
  | closed hstops hover hpresent heq =>
    rw [hlimit, hunread] at hstops hover hpresent
    exact .closed hstops hover (hpeer ▸ hpresent) (heq.trans hunread)
  | nothing hstops hover hpresent heq =>
    rw [hlimit, hunread] at hstops hover
    exact .nothing hstops hover (hpeer ▸ hpresent) (heq.trans hunread)

/-- Connections that look the same from outside answer a call alike. -/
theorem Same.calls (h : Same c c₁) (hc : Calls reported c₁ out) : Calls reported c out where
  received := h.received hc.received
  limit_eq := hc.limit_eq.trans h.limit_eq
  sent_eq := hc.sent_eq.trans h.sent_eq
  peer_eq := by
    rw [← h.peer_eq]
    exact hc.peer_eq
  sound := hc.sound

/-- Nothing but the bytes at hand, once everything was read. -/
theorem unread_eq_pending (h : c.arrived = []) : c.unread = c.decoder.pending := by
  rw [unread, h, List.append_nil]

/-- A channel that is sound without a report is sound with one. -/
theorem Sound.mono {reported' : Prop} (h : c.Sound reported) (hr : reported → reported') :
    c.Sound reported' :=
  ⟨h.accepted, h.stopped, fun hphase hover => hr (h.reported hphase hover), h.failed, h.ended⟩

/-- While frames are taken off the buffer, anything may stand in it. -/
theorem sound_of_decoding (hphase : c.phase = .decoding) (haccepted : c.decoder.Accepted c.limit)
    (hended : c.sawEnd = true → c.IsOver) : c.Sound reported where
  accepted := haccepted
  stopped hne := absurd hphase hne
  reported hne := absurd hphase hne
  failed hfailed := by simp [hphase] at hfailed
  ended := hended

/-! ### Decoding -/

/-- What decoding does, in the terms of the bytes at hand. -/
theorem decode_cases (h : c.decoder.Accepted c.limit) :
    (c.decode = (some (.error tooBigError), { c with phase := .failed }) ∧
      OverLimit c.limit c.decoder.pending) ∨
    (∃ m d, c.decode = (some (.ok m), { c with decoder := d }) ∧ FitsFrame c.limit m ∧
      c.decoder.pending = frame m ++ d.pending ∧ d.Accepted c.limit) ∨
    ∃ d, c.decode = (none, { c with decoder := d, phase := .reading }) ∧
      Incomplete c.limit c.decoder.pending ∧ d.pending = c.decoder.pending ∧
      d.Accepted c.limit := by
  obtain ⟨hnext, hover⟩ | ⟨out, hnext, htakes⟩ := FrameDecoder.next_cases h
  · exact .inl ⟨by simp only [decode, hnext], hover⟩
  · cases htakes with
    | frame hm heq hd => exact .inr (.inl ⟨_, _, by simp only [decode, hnext], hm, heq, hd⟩)
    | nothing hincomplete heq hd =>
      exact .inr (.inr ⟨_, by simp only [decode, hnext], hincomplete, heq, hd⟩)

/-- A length over the limit is reported. -/
theorem Sound.calls_tooBig (h : c.Sound reported) (hover : OverLimit c.limit c.decoder.pending) :
    Calls reported c (some (.error tooBigError), { c with phase := .failed }) where
  received := .tooBig (hover.append c.arrived) rfl
  limit_eq := rfl
  sent_eq := rfl
  peer_eq := .inl rfl
  sound := ⟨h.accepted, fun _ => .inr hover, fun _ _ => .inr rfl, fun _ => .inl hover,
    fun hend => ⟨(h.ended hend).arrived_eq, (h.ended hend).peer_ne⟩⟩

/-- A frame is taken. -/
theorem Sound.calls_message {d : FrameDecoder} (h : c.Sound reported) (hphase : c.phase = .decoding)
    (hm : FitsFrame c.limit m) (heq : c.decoder.pending = frame m ++ d.pending)
    (hd : d.Accepted c.limit) : Calls reported c (some (.ok m), { c with decoder := d }) where
  received := .message hm (by simp only [unread, heq, List.append_assoc])
  limit_eq := rfl
  sent_eq := rfl
  peer_eq := .inl rfl
  sound := sound_of_decoding hphase hd fun hend =>
    ⟨(h.ended hend).arrived_eq, (h.ended hend).peer_ne⟩

/-- After an incomplete frame there is more to read. -/
theorem Sound.reading {d : FrameDecoder} (h : c.Sound reported)
    (hincomplete : Incomplete c.limit c.decoder.pending) (heq : d.pending = c.decoder.pending)
    (hd : d.Accepted c.limit) :
    ({ c with decoder := d, phase := .reading } : StreamChannel).Sound reported where
  accepted := hd
  stopped _ := .inl (by rwa [heq])
  reported _ hover := by
    rw [heq] at hover
    exact absurd hincomplete hover.not_incomplete
  failed hfailed := by cases hfailed
  ended hend := ⟨(h.ended hend).arrived_eq, (h.ended hend).peer_ne⟩

/-! ### At the end of the stream -/

/-- At the end of the stream a call answers as the last decoding does. -/
theorem Sound.calls_decodeLast (h : c.Sound reported) (hphase : c.phase = .decoding)
    (hover : c.IsOver) : Calls reported c (some c.decodeLast.1, c.decodeLast.2) := by
  have hunread := unread_eq_pending hover.arrived_eq
  obtain ⟨hdecode, hlimit⟩ | ⟨m, d, hdecode, hm, heq, hd⟩ | ⟨d, hdecode, hincomplete, heq, hd⟩ :=
    decode_cases h.accepted
  · simp only [decodeLast, hdecode]
    exact h.calls_tooBig hlimit
  · simp only [decodeLast, hdecode]
    exact h.calls_message hphase hm heq hd
  · have hreading := h.reading hincomplete heq hd
    have hnext : d.pending ++ c.arrived = c.unread := by rw [heq, unread]
    rw [← hunread] at hincomplete
    have hreported : OverLimit c.limit c.unread → reported :=
      fun hlimit => absurd hincomplete hlimit.not_incomplete
    have hpeer : c.peer = .present → OverLimit c.limit c.unread :=
      fun hpeer => absurd hpeer hover.peer_ne
    simp only [decodeLast, hdecode]
    split
    · exact ⟨.closed (.inl hincomplete) hreported hpeer hnext, rfl, rfl, .inl rfl,
        hreading.mono .inl⟩
    · have hover' : ({ c with decoder := d, phase := .failed } : StreamChannel).IsOver :=
        ⟨hover.arrived_eq, hover.peer_ne⟩
      refine ⟨.closed (.inl hincomplete) hreported hpeer hnext, rfl, rfl, .inl rfl, ?_⟩
      exact ⟨hd, fun _ => hreading.stopped (by simp), fun _ hlimit =>
        .inl (hreading.reported (by simp) hlimit), fun _ => .inr hover', fun _ => hover'⟩

/-- Once the stream is over, a call that wants to read reports so, or decodes what is left. -/
theorem Sound.calls_atEnd (h : c.Sound reported) (hphase : c.phase = .reading)
    (hover : c.IsOver) : Calls reported c (some c.atEnd.1, c.atEnd.2) := by
  have hunread := unread_eq_pending hover.arrived_eq
  have hne : c.phase ≠ .decoding := by simp [hphase]
  unfold atEnd
  split
  · refine ⟨.closed ?_ ?_ (fun hpeer => absurd hpeer hover.peer_ne) rfl, rfl, rfl, .inl rfl,
      h.mono .inl⟩
    · rw [hunread]
      exact h.stopped hne
    · rw [hunread]
      exact h.reported hne
  · have hover' : ({ c with sawEnd := true, phase := .decoding } : StreamChannel).IsOver :=
      ⟨hover.arrived_eq, hover.peer_ne⟩
    have hsound : ({ c with sawEnd := true, phase := .decoding } : StreamChannel).Sound reported :=
      sound_of_decoding rfl h.accepted fun _ => hover'
    have hsame : Same c { c with sawEnd := true, phase := .decoding } := ⟨rfl, rfl, rfl, rfl⟩
    exact hsame.calls (hsound.calls_decodeLast rfl hover')

/-- With nothing left to read. -/
theorem Sound.calls_idle (h : c.Sound reported) (hphase : c.phase = .reading)
    (harrived : c.arrived = []) : Calls reported c c.idle := by
  have hunread := unread_eq_pending harrived
  have hne : c.phase ≠ .decoding := by simp [hphase]
  have hstops := h.stopped hne
  have hreported := h.reported hne
  rw [← hunread] at hstops hreported
  unfold idle
  split
  · next hpeer =>
    exact ⟨.nothing hstops hreported hpeer rfl, rfl, rfl, .inl rfl, h.mono .inl⟩
  · next hpeer =>
    refine ⟨.closed hstops hreported (fun hpresent => by simp [hpeer] at hpresent) rfl, rfl, rfl,
      .inr ⟨hpeer, rfl⟩, ?_⟩
    have hover : ({ c with peer := .gone, phase := .failed } : StreamChannel).IsOver :=
      ⟨harrived, by simp⟩
    exact ⟨h.accepted, fun _ => h.stopped hne, fun _ hlimit => .inl (h.reported hne hlimit),
      fun _ => .inr hover, fun _ => hover⟩
  · next hpresent _ => exact h.calls_atEnd hphase ⟨harrived, hpresent⟩

/-! ### Reading on -/

/-- A read moves bytes from the connection to the buffer. -/
theorem same_read (c : StreamChannel) : Same c c.read := by
  refine ⟨?_, rfl, rfl, rfl⟩
  have hfill := c.decoder.buffer.bytes_fill_append c.arrived
  simp only [unread, FrameDecoder.pending, read, List.append_assoc, hfill]

/-- A channel stays sound while it reads. -/
theorem Sound.read (h : c.Sound reported) : c.read.Sound reported :=
  sound_of_decoding rfl h.accepted nofun

/-- A fetch ends at the first read after which there is an answer. -/
theorem fetch_eq_of_answer {r : Except Error Bytes} {c' : StreamChannel} (h : c.arrived ≠ [])
    (hdecode : c.read.decode = (some r, c')) : c.fetch = (some r, c') := by
  rw [fetch, dif_neg h]
  split
  · next hd =>
    cases hd.symm.trans hdecode
    rfl
  · next hd => simp [hd] at hdecode

/-- A fetch goes on after a read without an answer. -/
theorem fetch_eq_of_none {c' : StreamChannel} (h : c.arrived ≠ [])
    (hdecode : c.read.decode = (none, c')) : c.fetch = c'.fetch := by
  rw [fetch, dif_neg h]
  split
  · next hd => simp [hd] at hdecode
  · next hd =>
    cases hd.symm.trans hdecode
    rfl

/-- Reading on, until there is an answer or nothing is left to read. -/
theorem calls_fetch (c : StreamChannel) (h : c.Sound reported) (hphase : c.phase = .reading) :
    Calls reported c c.fetch := by
  by_cases harrived : c.arrived = []
  · rw [fetch, dif_pos harrived]
    exact h.calls_idle hphase harrived
  · have hread := h.read
    have hshorter := length_arrived_read_lt harrived
    obtain ⟨hdecode, hlimit⟩ | ⟨m, d, hdecode, hm, heq, hd⟩ |
      ⟨d, hdecode, hincomplete, heq, hd⟩ := decode_cases hread.accepted
    · rw [fetch_eq_of_answer harrived hdecode]
      exact (same_read c).calls (hread.calls_tooBig hlimit)
    · rw [fetch_eq_of_answer harrived hdecode]
      exact (same_read c).calls (hread.calls_message rfl hm heq hd)
    · rw [fetch_eq_of_none harrived hdecode]
      -- After a frame that is not complete yet the rest of the arrived bytes is shorter.
      have hrest := calls_fetch _ (hread.reading hincomplete heq hd) rfl
      have hsame : Same c.read { c.read with decoder := d, phase := .reading } :=
        ⟨by simp only [unread, heq], rfl, rfl, rfl⟩
      exact (same_read c).calls (hsame.calls hrest)
termination_by c.arrived.length

/-- What a call does. -/
theorem Sound.calls_receive (h : c.Sound reported) : Calls reported c c.receive := by
  -- One case for each phase: after a failure, while reading, and while decoding what was read.
  unfold receive
  split
  · next hphase =>
    have hne : c.phase ≠ .decoding := by simp [hphase]
    have hsound : ({ c with phase := .reading } : StreamChannel).Sound reported :=
      ⟨h.accepted, fun _ => h.stopped hne, fun _ => h.reported hne, nofun, fun hend =>
        ⟨(h.ended hend).arrived_eq, (h.ended hend).peer_ne⟩⟩
    refine ⟨?_, rfl, rfl, .inl rfl, hsound.mono .inl⟩
    obtain hlimit | hover := h.failed hphase
    · have hlimit' := hlimit.append c.arrived
      exact .closed (.inr hlimit') (fun _ => h.reported hne hlimit) (fun _ => hlimit') rfl
    · have hunread := unread_eq_pending hover.arrived_eq
      refine .closed ?_ ?_ (fun hpeer => absurd hpeer hover.peer_ne) rfl
      · rw [hunread]
        exact h.stopped hne
      · rw [hunread]
        exact h.reported hne
  · next hphase => exact calls_fetch c h hphase
  · next hphase =>
    split
    · next hend => exact h.calls_decodeLast hphase (h.ended hend)
    · obtain ⟨hdecode, hlimit⟩ | ⟨m, d, hdecode, hm, heq, hd⟩ |
        ⟨d, hdecode, hincomplete, heq, hd⟩ := decode_cases h.accepted
      · rw [hdecode]
        exact h.calls_tooBig hlimit
      · rw [hdecode]
        exact h.calls_message hphase hm heq hd
      · rw [hdecode]
        have hsame : Same c { c with decoder := d, phase := .reading } :=
          ⟨by simp only [unread, heq], rfl, rfl, rfl⟩
        exact hsame.calls (calls_fetch _ (h.reading hincomplete heq hd) rfl)

end StreamChannel

end TwoParty
