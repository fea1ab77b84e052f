import Mathlib.Data.List.Induction
import TwoParty.Proofs.Channel.Receive

/-!
# TwoParty.Proofs.Channel.History

Everything that can happen to one end of a connection, in any order.

`Leads` follows the end through a log of arrivals, calls, and what the peer does.  The frames
that were returned, followed by what is unread, are the bytes that arrived (`Tracked`), so the
returned frames are a prefix of the one parse of the stream, however it was cut and whenever
the calls were made (`faithful_of_leads`).
-/

namespace TwoParty

open Framing

namespace StreamChannel

/-! ## Histories -/

/-- Something that happens to an end of a connection, calls with their answers. -/
inductive Entry where
  | arrived (bytes : Bytes)
  | finished
  | closed
  | taken (bytes : Bytes)
  | sent (message : Bytes) (answer : Except Error Unit)
  | received (answer : Option (Except Error Bytes))

/-- What it does to the end.  Bytes arrive as long as the peer is there. -/
inductive Entry.Happens : Entry → StreamChannel → StreamChannel → Prop where
  | arrived {c bytes} (h : c.peer = .present) : Happens (.arrived bytes) c (c.arrive bytes)
  | finished {c} : Happens .finished c c.finish
  | closed {c} : Happens .closed c c.close
  | taken {c} : Happens (.taken c.takeSent.1) c c.takeSent.2
  | sent {c m} : Happens (.sent m (c.send m).1) c (c.send m).2
  | received {c} : Happens (.received c.receive.1) c c.receive.2

/-- From a new connection with this limit, the log leads to this state. -/
inductive Leads (limit : Nat) : List Entry → StreamChannel → Prop where
  | nil : Leads limit [] (connected.withLimit limit)
  | concat {log c entry c'} (h : Leads limit log c) (hentry : Entry.Happens entry c c') :
    Leads limit (log ++ [entry]) c'

namespace Entry

def stream : Entry → Bytes
  | .arrived bytes => bytes
  | _ => []

def takenBytes : Entry → Bytes
  | .taken bytes => bytes
  | _ => []

/-- The message that a call returned. -/
def frame? : Entry → Option Bytes
  | .received (some (.ok m)) => some m
  | _ => none

def isCall : Entry → Bool
  | .received _ => true
  | _ => false

/-- The message that was passed to be sent, unless it is above the limit. -/
def accepted? (limit : Nat) : Entry → Option Bytes
  | .sent m _ => if m.length ≤ limit then some m else none
  | _ => none

end Entry

/-- All bytes that arrived. -/
def stream (log : List Entry) : Bytes := log.flatMap Entry.stream

def takenBytes (log : List Entry) : Bytes := log.flatMap Entry.takenBytes

def frames (log : List Entry) : List Bytes := log.filterMap Entry.frame?

def calls (log : List Entry) : Nat := log.countP Entry.isCall

/-- The messages that were sent, but for those above the limit. -/
def accepted (limit : Nat) (log : List Entry) : List Bytes :=
  log.filterMap (Entry.accepted? limit)

/-- Some call failed for the form of what arrived. -/
def IsReported (log : List Entry) : Prop :=
  ∃ err, .received (some (.error err)) ∈ log ∧ err.kind = .protocolFormat

section
variable (log log' : List Entry) (limit : Nat)

@[simp] theorem stream_append : stream (log ++ log') = stream log ++ stream log' :=
  List.flatMap_append

@[simp] theorem takenBytes_append :
    takenBytes (log ++ log') = takenBytes log ++ takenBytes log' := List.flatMap_append

@[simp] theorem frames_append : frames (log ++ log') = frames log ++ frames log' :=
  List.filterMap_append

@[simp] theorem calls_append : calls (log ++ log') = calls log + calls log' := List.countP_append

@[simp] theorem accepted_append :
    accepted limit (log ++ log') = accepted limit log ++ accepted limit log' :=
  List.filterMap_append

@[simp] theorem isReported_append :
    IsReported (log ++ log') ↔ IsReported log ∨ IsReported log' := by
  simp only [IsReported, List.mem_append, or_and_right, exists_or]

end

section
variable (entry : Entry) (limit : Nat)

@[simp] theorem stream_singleton : stream [entry] = entry.stream := List.append_nil _

@[simp] theorem takenBytes_singleton : takenBytes [entry] = entry.takenBytes := List.append_nil _

@[simp] theorem frames_singleton : frames [entry] = entry.frame?.toList := by
  cases h : entry.frame? <;> simp [frames, h]

@[simp] theorem accepted_singleton : accepted limit [entry] = (entry.accepted? limit).toList := by
  cases h : entry.accepted? limit <;> simp [accepted, h]

end

variable {limit : Nat} {log log' : List Entry} {c c' : StreamChannel} {entry : Entry}

theorem not_isReported_nil : ¬ IsReported [] := by
  simp [IsReported]

@[simp] theorem isReported_singleton :
    IsReported [entry] ↔ ∃ err, entry = .received (some (.error err)) ∧
      err.kind = .protocolFormat := by
  simp only [IsReported, List.mem_singleton, eq_comm]

/-! ## What every history keeps -/

/-- The peer takes what is sent. -/
def Takes (c : StreamChannel) : Prop := c.peer = .present ∨ c.peer = .finished

/-- What arrived was returned or is unread, and what was sent was taken or waits. -/
structure Tracked (limit : Nat) (log : List Entry) (c : StreamChannel) : Prop where
  limit_eq : c.limit = limit
  sound : c.Sound (IsReported log)
  stream_eq : stream log = (frames log).flatMap frame ++ c.unread
  fits : ∀ m ∈ frames log, FitsFrame limit m
  overLimit : IsReported log → OverLimit limit c.unread
  sent_eq : c.Takes → takenBytes log ++ c.sent = (accepted limit log).flatMap frame

theorem tracked_nil (limit : Nat) : Tracked limit [] (connected.withLimit limit) where
  limit_eq := rfl
  sound := by
    have hpending : (connected.withLimit limit).decoder.pending = [] := rfl
    refine ⟨FrameDecoder.accepted_of_none rfl, fun _ => .inl (.head ?_), fun _ hover => ?_,
      nofun, nofun⟩
    · rw [hpending]
      decide
    · have hhead := hover.head
      rw [hpending] at hhead
      exact absurd hhead (by decide)
  stream_eq := rfl
  fits := List.forall_mem_nil _
  overLimit h := absurd h not_isReported_nil
  sent_eq _ := rfl

/-- More bytes from the peer leave a channel sound. -/
theorem Sound.arrive {reported : Prop} (h : c.Sound reported) (hpeer : c.peer = .present)
    (bytes : Bytes) : (c.arrive bytes).Sound reported where
  accepted := h.accepted
  stopped := h.stopped
  reported := h.reported
  failed hfailed := (h.failed hfailed).imp_right fun hover => absurd hpeer hover.peer_ne
  ended hend := absurd hpeer (h.ended hend).peer_ne

/-- What is sent, and a peer that does not come back, leave the receiving side alone. -/
theorem Sound.replace {reported : Prop} {peer : Presence} {sent : Bytes} (h : c.Sound reported)
    (hpeer : c.peer ≠ .present → peer ≠ .present) :
    ({ c with peer, sent } : StreamChannel).Sound reported where
  accepted := h.accepted
  stopped := h.stopped
  reported := h.reported
  failed hfailed := (h.failed hfailed).imp_right fun hover =>
    ⟨hover.arrived_eq, hpeer hover.peer_ne⟩
  ended hend := ⟨(h.ended hend).arrived_eq, hpeer (h.ended hend).peer_ne⟩

/-- A call that waits for a message. -/
theorem Tracked.received {out : Option (Except Error Bytes) × StreamChannel}
    (h : Tracked limit log c) (hcalls : Calls (IsReported log) c out) :
    Tracked limit (log ++ [.received out.1]) out.2 := by
  obtain ⟨hreceived, hlimit, hsent, hpeer, hsound⟩ := hcalls
  obtain rfl := h.limit_eq
  have hsent' (htakes : out.2.Takes) :
      takenBytes (log ++ [.received out.1]) ++ out.2.sent =
        (accepted c.limit (log ++ [.received out.1])).flatMap frame := by
    have htakes : c.Takes := by
      obtain hpeer | ⟨-, hgone⟩ := hpeer
      · rwa [Takes, hpeer] at htakes
      · simp [Takes, hgone] at htakes
    simpa [Entry.takenBytes, Entry.accepted?, hsent] using h.sent_eq htakes
  have hsound' : out.2.Sound (IsReported (log ++ [.received out.1])) := by
    refine hsound.mono fun hr => ?_
    rw [isReported_append, isReported_singleton]
    exact hr.imp_right fun hout => ⟨tooBigError, congrArg Entry.received hout, rfl⟩
  have hstream : stream (log ++ [.received out.1]) = (frames log).flatMap frame ++ c.unread := by
    simpa [Entry.stream] using h.stream_eq
  -- a call that returns no frame leaves the unread bytes alone
  have hkept (hframe : (Entry.received out.1).frame? = none) (heq : out.2.unread = c.unread)
      (hover : IsReported (log ++ [.received out.1]) → OverLimit c.limit c.unread) :
      Tracked c.limit (log ++ [.received out.1]) out.2 := by
    refine ⟨hlimit, hsound', ?_, ?_, fun hr => heq.symm ▸ hover hr, hsent'⟩
    · simp [hstream, heq, hframe]
    · simpa [hframe] using h.fits
  cases hreceived with
  | message hm heq =>
    refine ⟨hlimit, hsound', ?_, ?_, ?_, hsent'⟩
    · simp [hstream, heq, Entry.frame?]
    · simpa [Entry.frame?, or_imp, forall_and, hm] using h.fits
    · intro hr
      have hover := h.overLimit (by simpa using hr)
      rw [heq] at hover
      exact absurd hover (not_overLimit_frame_append hm _)
  | tooBig hover heq => exact hkept rfl heq fun _ => hover
  | closed _ _ _ heq =>
    exact hkept rfl heq fun hr => h.overLimit (by simpa [receiveError, Error.kind] using hr)
  | nothing _ _ _ heq => exact hkept rfl heq fun hr => h.overLimit (by simpa using hr)

/-- Bytes that arrive. -/
theorem Tracked.arrived {bytes : Bytes} (h : Tracked limit log c) (hpeer : c.peer = .present) :
    Tracked limit (log ++ [.arrived bytes]) (c.arrive bytes) where
  limit_eq := h.limit_eq
  sound := by simpa using h.sound.arrive hpeer bytes
  stream_eq := by
    simp [h.stream_eq, Entry.stream, Entry.frame?, unread, StreamChannel.arrive]
  fits := by simpa [Entry.frame?] using h.fits
  overLimit hr := by
    have hover := (h.overLimit (by simpa using hr)).append bytes
    rwa [unread, List.append_assoc] at hover
  sent_eq htakes := by
    simpa [Entry.takenBytes, Entry.accepted?, StreamChannel.arrive] using h.sent_eq htakes

/-- What the receiving side does not notice. -/
theorem Tracked.replace {peer : Presence} {sent : Bytes} (h : Tracked limit log c)
    (hpeer : c.peer ≠ .present → peer ≠ .present) (hstream : entry.stream = [])
    (hframe : entry.frame? = none) (hcall : entry.isCall = false)
    (hsent : ({ c with peer, sent } : StreamChannel).Takes →
      takenBytes log ++ entry.takenBytes ++ sent =
        (accepted limit log ++ (entry.accepted? limit).toList).flatMap frame) :
    Tracked limit (log ++ [entry]) { c with peer, sent } where
  limit_eq := h.limit_eq
  sound := (h.sound.replace hpeer).mono fun hr => (isReported_append _ _).2 (.inl hr)
  stream_eq := by
    rw [stream_append, stream_singleton, hstream, List.append_nil, frames_append,
      frames_singleton, hframe, Option.toList_none, List.append_nil]
    exact h.stream_eq
  fits := by simpa [hframe] using h.fits
  overLimit hr := by
    refine h.overLimit ?_
    rw [isReported_append, isReported_singleton] at hr
    refine hr.resolve_right ?_
    rintro ⟨err, rfl, -⟩
    cases hcall
  sent_eq htakes := by simpa using hsent htakes

/-- Nothing is promised for a peer that takes nothing any more. -/
theorem not_takes {peer : Presence} {sent : Bytes} (h : peer ≠ .present) (h' : peer ≠ .finished) :
    ¬ ({ c with peer, sent } : StreamChannel).Takes := by
  simp [Takes, h, h']

/-- A message that is sent. -/
theorem Tracked.sent {m : Bytes} (h : Tracked limit log c) :
    Tracked limit (log ++ [.sent m (c.send m).1]) (c.send m).2 := by
  obtain rfl := h.limit_eq
  unfold send
  split
  · next hlong =>
    refine h.replace id rfl rfl rfl fun htakes => ?_
    simpa [Entry.takenBytes, Entry.accepted?, Nat.not_le.2 hlong] using h.sent_eq htakes
  · next hshort =>
    have hwritten (htakes : c.Takes) :
        takenBytes log ++ (Entry.sent m (.ok ())).takenBytes ++ (c.sent ++ frame m) =
          (accepted c.limit log ++ (Entry.accepted? c.limit (.sent m (.ok ()))).toList).flatMap
            frame := by
      simp only [Entry.takenBytes, Entry.accepted?, if_pos (Nat.not_lt.1 hshort)]
      simp [← h.sent_eq htakes]
    split
    · next hpeer => exact h.replace id rfl rfl rfl hwritten
    · next hpeer => exact h.replace id rfl rfl rfl hwritten
    · exact h.replace nofun rfl rfl rfl fun htakes => absurd htakes (not_takes nofun nofun)
    · exact h.replace nofun rfl rfl rfl fun htakes => absurd htakes (not_takes nofun nofun)
    · next hpeer =>
      exact h.replace id rfl rfl rfl fun htakes => absurd htakes (by simp [Takes, hpeer])

/-- Only a peer that took messages before goes on taking them. -/
theorem takes_of_finish (h : c.finish.Takes) : c.Takes := by
  by_cases hpeer : c.peer = .present
  · exact .inl hpeer
  · simpa [Takes, finish, hpeer] using h

theorem not_takes_close (c : StreamChannel) : ¬ c.close.Takes := by
  unfold Takes close
  split
  · split <;> simp
  · split <;> simp
  · next hpresent hfinished => exact not_or.2 ⟨hpresent, hfinished⟩

/-- Every entry keeps track. -/
theorem Tracked.step (h : Tracked limit log c) (hentry : entry.Happens c c') :
    Tracked limit (log ++ [entry]) c' := by
  cases hentry with
  | arrived hpeer => exact h.arrived hpeer
  | finished =>
    refine h.replace (fun hpeer => by rwa [if_neg hpeer]) rfl rfl rfl fun htakes => ?_
    simpa [Entry.takenBytes, Entry.accepted?] using h.sent_eq (takes_of_finish htakes)
  | closed =>
    have hgone : ¬ c.close.Takes := not_takes_close c
    exact h.replace (fun _ hpeer => hgone (.inl hpeer)) rfl rfl rfl fun htakes =>
      absurd htakes hgone
  | taken =>
    refine h.replace id rfl rfl rfl fun htakes => ?_
    have hsent := h.sent_eq htakes
    simpa [Entry.takenBytes, Entry.accepted?, takeSent] using hsent
  | sent => exact h.sent
  | received => exact h.received h.sound.calls_receive

/-- Every log tells where its channel stands. -/
theorem tracked_of_leads (h : Leads limit log c) : Tracked limit log c := by
  induction h with
  | nil => exact tracked_nil limit
  | concat h hentry ih => exact ih.step hentry

/-! ## Returned frames -/

variable {ms ms' : List Bytes} {tail tail' : Bytes}

/-- The frames that were returned, and then those of the unread bytes. -/
theorem Tracked.exists_unread_parse (h : Tracked limit log c)
    (hparse : Parse limit (stream log) ms tail) :
    ∃ rest, ms = frames log ++ rest ∧ Parse limit c.unread rest tail := by
  obtain ⟨rest, tail', hrest⟩ := exists_parse limit c.unread
  -- The returned frames in front of the unread ones parse the whole stream, and it has one parse.
  have hall := hrest.append h.fits
  rw [← h.stream_eq] at hall
  obtain ⟨rfl, rfl⟩ := hparse.unique hall
  exact ⟨rest, rfl, hrest⟩

/-- The next frame that was not returned is returned by the next call. -/
theorem Tracked.receive_eq (h : Tracked limit log c) (hparse : Parse limit (stream log) ms tail)
    {m : Bytes} (hm : ms[(frames log).length]? = some m) : c.receive.1 = some (.ok m) := by
  obtain ⟨rest, rfl, hrest⟩ := h.exists_unread_parse hparse
  obtain rfl := h.limit_eq
  rw [List.getElem?_append_right le_rfl, Nat.sub_self] at hm
  obtain ⟨rest, rfl⟩ : ∃ rest', rest = m :: rest' := by
    cases rest with
    | nil => cases hm
    | cons m' rest =>
      cases hm
      exact ⟨rest, rfl⟩
  have hunread := hrest.eq
  rw [List.flatMap_cons, List.append_assoc] at hunread
  have hfits := hrest.fits m List.mem_cons_self
  have hstops : ¬ Stops c.limit c.unread := by
    rw [hunread]
    exact not_stops_frame_append hfits _
  have hcalls := h.sound.calls_receive.received
  generalize c.receive = out at hcalls
  cases hcalls with
  | message hm' heq =>
    obtain ⟨rfl, -⟩ := frame_append_inj hfits hm' (hunread.symm.trans heq)
    rfl
  | tooBig hover => exact absurd (.inr hover) hstops
  | closed hs => exact absurd hs hstops
  | nothing hs => exact absurd hs hstops

/-- What was received is a beginning of what the stream holds. -/
theorem Tracked.isPrefix_frames (h : Tracked limit log c)
    (hparse : Parse limit (stream log) ms tail) : frames log <+: ms := by
  obtain ⟨rest, rfl, -⟩ := h.exists_unread_parse hparse
  exact List.prefix_append _ _

/-- Where no frame can be told, all frames were returned, and the tail is unread. -/
theorem Tracked.eq_of_stops (h : Tracked limit log c) (hparse : Parse limit (stream log) ms tail)
    (hstops : Stops limit c.unread) : frames log = ms ∧ c.unread = tail := by
  obtain ⟨rest, rfl, hrest⟩ := h.exists_unread_parse hparse
  obtain ⟨rfl, rfl⟩ := hrest.unique (.nil hstops)
  exact ⟨(List.append_nil _).symm, rfl⟩

/-- Once all messages of the stream are received, its tail is what is unread. -/
theorem Tracked.unread_eq_tail (h : Tracked limit log c)
    (hparse : Parse limit (stream log) ms tail) (hall : frames log = ms) : c.unread = tail := by
  obtain ⟨rest, hms, hrest⟩ := h.exists_unread_parse hparse
  obtain rfl := List.append_right_eq_self.1 (hms.symm.trans hall.symm)
  exact hrest.eq

/-! ## Calls still to come -/

/-- The last entry of a log happened where the entries before it led. -/
theorem Leads.exists_happens (h : Leads limit (log ++ [entry]) c') :
    ∃ c, Leads limit log c ∧ entry.Happens c c' := by
  generalize hlog : log ++ [entry] = all at h
  cases h with
  | nil => exact absurd hlog (List.append_ne_nil_of_right_ne_nil _ (List.cons_ne_nil _ _))
  | concat h hentry =>
    obtain ⟨rfl, hlast⟩ := List.append_inj' hlog rfl
    cases hlast
    exact ⟨_, h, hentry⟩

/-- Each call returns one of the frames that were complete, until all are returned. -/
theorem Leads.le_length_frames (hparse : Parse limit (stream log) ms tail)
    (h : Leads limit (log ++ log') c') :
    min ms.length ((frames log).length + calls log') ≤ (frames (log ++ log')).length := by
  -- Only a receiving call can return a frame, so the induction goes over the later calls from the
  -- last one back.
  induction log' using List.reverseRecOn generalizing c' with
  | nil =>
    rw [List.append_nil]
    exact (Nat.min_le_right _ _)
  | append_singleton log' entry ih =>
    rw [← List.append_assoc] at h
    obtain ⟨c, hbefore, hentry⟩ := h.exists_happens
    have hle := ih hbefore
    rw [← List.append_assoc, frames_append (log ++ log'), List.length_append, calls_append]
    by_cases hmore : (frames (log ++ log')).length < ms.length
    · cases hentry with
      | received =>
        -- What arrived in the meantime can only make the parse longer.
        obtain ⟨ms', tail', hparse'⟩ := exists_parse limit (stream (log ++ log'))
        have hprefix : ms <+: ms' := by
          rw [stream_append] at hparse'
          exact hparse.isPrefix hparse'
        obtain ⟨rest, rfl⟩ := hprefix
        have hm : (ms ++ rest)[(frames (log ++ log')).length]? = some ms[(frames _).length] :=
          (List.getElem?_append_left hmore).trans (List.getElem?_eq_getElem hmore)
        rw [(tracked_of_leads hbefore).receive_eq hparse' hm]
        simp [Entry.frame?, calls, Entry.isCall] at hle ⊢
        omega
      | arrived | finished | closed | taken | sent =>
        simp [Entry.frame?, calls, Entry.isCall] at hle ⊢
        omega
    · omega

/-- With enough calls, every frame that was complete is returned. -/
theorem Leads.isPrefix_frames (hparse : Parse limit (stream log) ms tail)
    (h : Leads limit (log ++ log') c') (hcalls : ms.length ≤ (frames log).length + calls log') :
    ms <+: frames (log ++ log') := by
  obtain ⟨ms', tail', hparse'⟩ := exists_parse limit (stream (log ++ log'))
  have hframes := (tracked_of_leads h).isPrefix_frames hparse'
  have hprefix : ms <+: ms' := by
    rw [stream_append] at hparse'
    exact hparse.isPrefix hparse'
  refine List.prefix_of_prefix_length_le hprefix hframes ?_
  have hle := h.le_length_frames hparse
  rwa [Nat.min_eq_left hcalls] at hle

/-- After a length over the limit was reported, nothing is returned any more. -/
theorem Leads.frames_eq_of_isReported (h : Leads limit log c) (hreported : IsReported log)
    (h' : Leads limit (log ++ log') c') : frames (log ++ log') = frames log := by
  have htracked := tracked_of_leads h
  obtain ⟨ms, tail, hparse⟩ := exists_parse limit (stream log)
  have hover := htracked.overLimit hreported
  obtain ⟨rfl, rfl⟩ := htracked.eq_of_stops hparse (.inr hover)
  have hparse' := hparse.append_overLimit hover (stream log')
  rw [← stream_append] at hparse'
  have hprefix := (tracked_of_leads h').isPrefix_frames hparse'
  rw [frames_append] at hprefix ⊢
  exact hprefix.eq_of_length_le (by simp)

/-! ## The two directions -/

/-- What the calls return, given the parse of the bytes that arrived so far. -/
structure Reads (limit : Nat) (log : List Entry) (c : StreamChannel) (ms : List Bytes)
    (tail : Bytes) : Prop where
  isPrefix : frames log <+: ms
  /-- The next complete frame is returned at once. -/
  next : ∀ m, ms[(frames log).length]? = some m → c.receive.1 = some (.ok m)
  /-- With enough calls all complete frames are returned. -/
  all : ∀ log' c', Leads limit (log ++ log') c' → ms.length ≤ (frames log).length + calls log' →
    ms <+: frames (log ++ log')
  /-- A length over the limit is reported at once, and by the first call that reaches it. -/
  tooBig : frames log = ms → OverLimit limit tail → ¬ IsReported log →
    c.receive.1 = some (.error tooBigError)
  reported : IsReported log → frames log = ms ∧ OverLimit limit tail
  /-- After that nothing is returned any more. -/
  silent : IsReported log → ∀ log' c', Leads limit (log ++ log') c' →
    frames (log ++ log') = frames log
  ended : frames log = ms → Incomplete limit tail → c.peer ≠ .present →
    ∃ cause, c.receive.1 = some (.error (receiveError cause))
  waits : c.receive.1 = none → frames log = ms ∧ c.peer = .present
  /-- A call fails for nothing else. -/
  error_cases : ∀ err, c.receive.1 = some (.error err) → frames log = ms ∧
    (err = tooBigError ∧ OverLimit limit tail ∨
      (∃ cause, err = receiveError cause) ∧ (c.peer = .present → IsReported log))

/-- The reading side of a channel, after any log. -/
theorem Leads.reads (h : Leads limit log c) (hparse : Parse limit (stream log) ms tail) :
    Reads limit log c ms tail := by
  have htracked := tracked_of_leads h
  have hcalls := htracked.sound.calls_receive.received
  obtain rfl := htracked.limit_eq
  constructor
  case isPrefix => exact htracked.isPrefix_frames hparse
  case next => exact fun m hm => htracked.receive_eq hparse hm
  case all => exact fun log' c' h' hlen => h'.isPrefix_frames hparse hlen
  case silent => exact fun hreported log' c' h' => h.frames_eq_of_isReported hreported h'
  -- What a call does is read off `hcalls`; once all messages were returned, the unread bytes are
  -- the tail.
  case tooBig =>
    intro hall hover hreported
    rw [← htracked.unread_eq_tail hparse hall] at hover
    generalize c.receive = out at hcalls
    cases hcalls with
    | message hm heq =>
      rw [heq] at hover
      exact absurd hover (not_overLimit_frame_append hm _)
    | tooBig => rfl
    | closed _ hr => exact absurd (hr hover) hreported
    | nothing _ hr => exact absurd (hr hover) hreported
  case reported =>
    intro hreported
    have hover := htracked.overLimit hreported
    obtain ⟨hall, rfl⟩ := htracked.eq_of_stops hparse (.inr hover)
    exact ⟨hall, hover⟩
  case ended =>
    intro hall hincomplete hpeer
    rw [← htracked.unread_eq_tail hparse hall] at hincomplete
    generalize c.receive = out at hcalls
    cases hcalls with
    | message hm heq =>
      rw [heq] at hincomplete
      exact absurd hincomplete (not_incomplete_frame_append hm _)
    | tooBig hover => exact absurd hincomplete hover.not_incomplete
    | closed => exact ⟨_, rfl⟩
    | nothing _ _ hpresent => exact absurd hpresent hpeer
  case waits =>
    intro hnone
    generalize c.receive = out at hcalls hnone
    cases hcalls with
    | message => cases hnone
    | tooBig => cases hnone
    | closed => cases hnone
    | nothing hstops _ hpresent => exact ⟨(htracked.eq_of_stops hparse hstops).1, hpresent⟩
  case error_cases =>
    intro err herr
    generalize c.receive = out at hcalls herr
    cases hcalls with
    | message => cases herr
    | tooBig hover =>
      cases herr
      obtain ⟨hall, rfl⟩ := htracked.eq_of_stops hparse (.inr hover)
      exact ⟨hall, .inl ⟨rfl, hover⟩⟩
    | closed hstops hr hpresent =>
      cases herr
      exact ⟨(htracked.eq_of_stops hparse hstops).1,
        .inr ⟨⟨_, rfl⟩, fun hpeer => hr (hpresent hpeer)⟩⟩
    | nothing => cases herr

/-- What was written, as long as the peer takes it, and what a peer makes of it whose limit is
no smaller. -/
structure Writes (limit : Nat) (log : List Entry) (c : StreamChannel) : Prop where
  written : c.Takes → takenBytes log ++ c.sent = (accepted limit log).flatMap frame
  accepts : ∀ m, m.length ≤ limit → c.Takes → (c.send m).1 = .ok ()
  /-- A message above the limit is the caller's mistake, and nothing is written. -/
  refuses : ∀ m, limit < m.length →
    c.send m = (.error (.invalidInput (.frameTooLong m.length limit)), c)
  /-- However the written bytes arrive, the messages are received in order, each once. -/
  delivers : c.Takes → (∀ m ∈ accepted limit log, m.length < 2 ^ 32) → ∀ limit', limit ≤ limit' →
    ∀ log' c', Leads limit' log' c' → stream log' <+: takenBytes log ++ c.sent →
      frames log' <+: accepted limit log
  /-- Once all of them arrived, enough calls return all messages. -/
  completes : c.Takes → (∀ m ∈ accepted limit log, m.length < 2 ^ 32) → ∀ limit', limit ≤ limit' →
    ∀ log' log'' c', Leads limit' (log' ++ log'') c' →
      stream log' = takenBytes log ++ c.sent → stream log'' = [] →
      (accepted limit log).length ≤ (frames log').length + calls log'' →
      frames (log' ++ log'') = accepted limit log

/-- The messages that were accepted are the parse of what was written. -/
theorem Tracked.parse_written (h : Tracked limit log c) (htakes : c.Takes) {limit' : Nat}
    (hlimit : limit ≤ limit') (hwidth : ∀ m ∈ accepted limit log, m.length < 2 ^ 32) :
    Parse limit' (takenBytes log ++ c.sent) (accepted limit log) [] := by
  refine ⟨(h.sent_eq htakes).trans (List.append_nil _).symm, fun m hm => ⟨?_, ?_⟩,
    .inl (.head (by decide))⟩
  · obtain ⟨entry, -, hentry⟩ := List.mem_filterMap.1 hm
    cases entry with
    | sent m' answer =>
      simp only [Entry.accepted?, Option.ite_none_right_eq_some, Option.some.injEq] at hentry
      obtain ⟨hle, rfl⟩ := hentry
      exact hle.trans hlimit
    | arrived | finished | closed | taken | received => cases hentry
  · exact hwidth m hm

/-- The writing side of a channel, after any log. -/
theorem Leads.writes (h : Leads limit log c) : Writes limit log c := by
  have htracked := tracked_of_leads h
  constructor
  case written => exact htracked.sent_eq
  case accepts =>
    intro m hm htakes
    rw [← htracked.limit_eq] at hm
    obtain hpeer | hpeer := htakes <;> simp [send, Nat.not_lt.2 hm, hpeer]
  case refuses =>
    intro m hm
    rw [← htracked.limit_eq] at hm ⊢
    exact if_pos hm
  case delivers =>
    intro htakes hwidth limit' hlimit log' c' h' hprefix
    obtain ⟨rest, hrest⟩ := hprefix
    obtain ⟨ms, tail, hparse⟩ := exists_parse limit' (stream log')
    have hwritten := htracked.parse_written htakes hlimit hwidth
    rw [← hrest] at hwritten
    exact ((tracked_of_leads h').isPrefix_frames hparse).trans (hparse.isPrefix hwritten)
  case completes =>
    intro htakes hwidth limit' hlimit log' log'' c' h' harrived hquiet hcalls
    have hwritten := htracked.parse_written htakes hlimit hwidth
    rw [← harrived] at hwritten
    have hall := h'.isPrefix_frames hwritten hcalls
    have hmore : Parse limit' (stream (log' ++ log'')) (accepted limit log) [] := by
      rwa [stream_append, hquiet, List.append_nil]
    have hframes := (tracked_of_leads h').isPrefix_frames hmore
    exact hframes.eq_of_length_le hall.length_le

/-- However a stream is cut into arrivals, and whenever calls are made, the calls return the
frames of its one parse in order, and what is written is the stream of what was sent. -/
theorem faithful_of_leads (h : Leads limit log c) :
    (∃! p : List Bytes × Bytes, Parse limit (stream log) p.1 p.2) ∧
      (∀ ms tail, Parse limit (stream log) ms tail → Reads limit log c ms tail) ∧
      Writes limit log c :=
  ⟨existsUnique_parse limit (stream log), fun _ _ hparse => h.reads hparse, h.writes⟩

/-- A frame whose head came in two pieces, and behind it a length above the limit. -/
theorem faithful_of_leads_small : ∃ c,
    Leads 8 [.arrived [0, 0], .arrived [0, 1, 7, 0, 0, 0, 9], .received (some (.ok [7]))] c ∧
      c.receive.1 = some (.error tooBigError) := by
  have harrived : Leads 8 [.arrived [0, 0], .arrived [0, 1, 7, 0, 0, 0, 9]]
      (((connected.withLimit 8).arrive [0, 0]).arrive [0, 1, 7, 0, 0, 0, 9]) :=
    .concat (.concat .nil (.arrived rfl)) (.arrived rfl)
  have hover : OverLimit 8 [0, 0, 0, 9] := ⟨by decide, by decide⟩
  have hparse : Parse 8 [0, 0, 0, 1, 7, 0, 0, 0, 9] [[7]] [0, 0, 0, 9] :=
    ⟨by decide, by simpa using ⟨by decide, by decide⟩, .inr hover⟩
  have hfirst := ((faithful_of_leads harrived).2.1 _ _ hparse).next [7] rfl
  have hlog := harrived.concat .received
  rw [hfirst] at hlog
  exact ⟨_, hlog, ((faithful_of_leads hlog).2.1 _ _ hparse).tooBig rfl hover (by simp [IsReported])⟩

end StreamChannel

end TwoParty
