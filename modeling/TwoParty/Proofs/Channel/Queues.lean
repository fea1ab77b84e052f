import Mathlib.Data.List.Infix
import TwoParty.Proofs.Duet.Dialogue

/-!
# TwoParty.Proofs.Channel.Queues

A memory channel is a pair of queues, whoever uses its two ends and in whatever order.

`MemoryChannel.Leads` follows a channel through a log of sends, receives and drops.  One
direction sees a part of the log (`towards`).  `Pipe.Happens` gives the rules of a queue with
a writing and a reading end, and each direction keeps to them, whatever happens in the other
one (`Leads.pipe`).

* `Pipe.tracked_of_leads` — what was read and what is unread is what was written, in order;
* `Pipe.drains_of_leads` — once the writer is gone, reading gives the unread messages and
  then only errors;
* `Pipe.Leads.unique` — the calls determine the answers;
* `queues_of_leads` — all of this for both directions of a channel.
-/

namespace TwoParty

/-- A failure of the transport that a system calls by this name. -/
def Error.IsFault (e : Error) (kind : Fault.Kind) : Prop :=
  ∃ context cause, e = .io context cause ∧ cause.kind = kind

/-- What a call that waits for a message returns; without an answer it goes on waiting. -/
def Arrival.answer : Arrival → Option (Except Error Bytes)
  | .message m => some (.ok m)
  | .pending => none
  | .ended => some (.error MemoryChannel.receiveError)

/-- A party that waits gets the answer of its end, or goes on waiting. -/
theorem Party.run_receive {G : DlogGroup} {σ α : Type} (next : Except Error Bytes → Party G σ α)
    (d : Desk σ) :
    (Party.receive next).run d =
      match (d.channel.receive d.side).1.answer with
      | some r => (next r).run { d with channel := (d.channel.receive d.side).2 }
      | none => (.waiting next, d) := by
  cases hs : d.channel.inbox d.side with
  | dropped =>
    cases hgone : d.channel.isDropped d.side.other <;>
      simp [run, MemoryChannel.receive, hs, hgone, Arrival.answer]
  | unread queue =>
    cases queue with
    | cons m queue => simp [run, MemoryChannel.receive_cons hs, Arrival.answer]
    | nil =>
      cases hgone : d.channel.isDropped d.side.other <;>
        simp [run, MemoryChannel.receive_nil hs, hgone, Arrival.answer]

/-! ## One queue -/

/-- A queue of messages with a writing and a reading end. -/
structure Pipe where
  /-- What the reader has in front of it, as long as it is there. -/
  inbox : Inbox
  writerGone : Bool

namespace Pipe

/-- Something that happens to a queue, calls with their answers. -/
inductive Entry where
  | written (message : Bytes) (answer : Except Error Unit)
  | read (answer : Option (Except Error Bytes))
  | readerDropped
  | writerDropped

/-- What it does to the queue. -/
inductive Happens : Entry → Pipe → Pipe → Prop where
  | written {queue m} :
    Happens (.written m (.ok ())) ⟨.unread queue, false⟩ ⟨.unread (queue ++ [m]), false⟩
  | refused {m} :
    Happens (.written m (.error MemoryChannel.sendError)) ⟨.dropped, false⟩ ⟨.dropped, false⟩
  | read {m queue gone} :
    Happens (.read (some (.ok m))) ⟨.unread (m :: queue), gone⟩ ⟨.unread queue, gone⟩
  | waits : Happens (.read none) ⟨.unread [], false⟩ ⟨.unread [], false⟩
  | ended :
    Happens (.read (some (.error MemoryChannel.receiveError))) ⟨.unread [], true⟩ ⟨.unread [], true⟩
  | readerDropped {queue gone} :
    Happens .readerDropped ⟨.unread queue, gone⟩ ⟨.dropped, gone⟩
  | writerDropped {inbox} : Happens .writerDropped ⟨inbox, false⟩ ⟨inbox, true⟩

/-- From the first state, the log leads to the second one. -/
inductive Leads (start : Pipe) : List Entry → Pipe → Prop where
  | nil : Leads start [] start
  | concat {log p entry p'} (h : Leads start log p) (hentry : Happens entry p p') :
    Leads start (log ++ [entry]) p'

def empty : Pipe := ⟨.unread [], false⟩

namespace Entry

def taken? : Entry → Option Bytes
  | .written m (.ok ()) => some m
  | _ => none

def returned? : Entry → Option Bytes
  | .read (some (.ok m)) => some m
  | _ => none

def answer? : Entry → Option (Option (Except Error Bytes))
  | .read answer => some answer
  | _ => none

/-- The entry without its answer. -/
def call : Entry → Entry
  | .written m _ => .written m (.ok ())
  | .read _ => .read none
  | entry => entry

end Entry

def taken (log : List Entry) : List Bytes := log.filterMap Entry.taken?

def returned (log : List Entry) : List Bytes := log.filterMap Entry.returned?

def answers (log : List Entry) : List (Option (Except Error Bytes)) :=
  log.filterMap Entry.answer?

section
variable (log log' : List Entry) (entry : Entry)

@[simp] theorem taken_append : taken (log ++ log') = taken log ++ taken log' :=
  List.filterMap_append

@[simp] theorem returned_append : returned (log ++ log') = returned log ++ returned log' :=
  List.filterMap_append

@[simp] theorem answers_append : answers (log ++ log') = answers log ++ answers log' :=
  List.filterMap_append

@[simp] theorem taken_singleton : taken [entry] = entry.taken?.toList := by
  cases h : entry.taken? <;> simp [taken, h]

@[simp] theorem returned_singleton : returned [entry] = entry.returned?.toList := by
  cases h : entry.returned? <;> simp [returned, h]

@[simp] theorem answers_singleton : answers [entry] = entry.answer?.toList := by
  cases h : entry.answer? <;> simp [answers, h]

end

variable {p p' p'' : Pipe} {log log' : List Entry} {entry entry' : Entry} {queue : List Bytes}

/-- The last entry of a log happens at the end of the others. -/
theorem leads_concat {start : Pipe} :
    Leads start (log ++ [entry]) p' ↔ ∃ p, Leads start log p ∧ Happens entry p p' := by
  constructor
  · intro h
    generalize hall : log ++ [entry] = all at h
    cases h with
    | nil => simp at hall
    | @concat log₁ p entry₁ _ h hentry =>
      obtain ⟨hlog, hlast⟩ := List.append_inj' hall rfl
      cases hlast
      exact ⟨p, hlog ▸ h, hentry⟩
  · rintro ⟨p, h, hentry⟩
    exact h.concat hentry

/-- A history has a state in between. -/
theorem Leads.split {start : Pipe} (h : Leads start (log ++ log') p') :
    ∃ p, Leads start log p ∧ Leads p log' p' := by
  induction log' using List.reverseRecOn generalizing p' with
  | nil => exact ⟨p', by simpa using h, .nil⟩
  | append_singleton log' entry ih =>
    rw [← List.append_assoc, leads_concat] at h
    obtain ⟨middle, h, hentry⟩ := h
    obtain ⟨p, hp, hmiddle⟩ := ih h
    exact ⟨p, hp, hmiddle.concat hentry⟩

/-- What every history of a queue keeps. -/
structure Tracked (log : List Entry) (p : Pipe) : Prop where
  queued : ∀ queue, p.inbox = .unread queue → returned log ++ queue = taken log
  isPrefix : returned log <+: taken log
  readerGone_iff : p.inbox = .dropped ↔ .readerDropped ∈ log
  writerGone_iff : p.writerGone = true ↔ .writerDropped ∈ log

theorem tracked_empty : Tracked [] empty := by
  constructor <;> simp [returned, taken, empty]

/-- One more entry, and the log still tells where the pipe stands. -/
theorem Tracked.step (h : Tracked log p) (hentry : Happens entry p p') :
    Tracked (log ++ [entry]) p' := by
  obtain ⟨hqueued, hprefix, hreader, hwriter⟩ := h
  cases hentry with
  | @written queue m =>
    have hall : returned log ++ queue = taken log := hqueued queue rfl
    constructor
    case queued => simp [Entry.taken?, Entry.returned?, ← hall]
    case isPrefix => simp [Entry.taken?, Entry.returned?, ← hall]
    case readerGone_iff => simpa using hreader
    case writerGone_iff => simpa using hwriter
  | @read m queue gone =>
    have hall : returned log ++ m :: queue = taken log := hqueued (m :: queue) rfl
    constructor
    case queued => simp [Entry.taken?, Entry.returned?, ← hall]
    case isPrefix => simp [Entry.taken?, Entry.returned?, ← hall]
    case readerGone_iff => simpa using hreader
    case writerGone_iff => simpa using hwriter
  | refused | waits | ended | readerDropped | writerDropped =>
    constructor <;> simp_all [Entry.taken?, Entry.returned?]

/-- Every log tells where its pipe stands. -/
theorem tracked_of_leads (h : Leads empty log p) : Tracked log p := by
  induction h with
  | nil => exact tracked_empty
  | concat h hentry ih => exact ih.step hentry

/-! ## After the writer -/

/-- Reading from a queue without a writer: its messages in order, and then only errors. -/
def Drains (queue : List Bytes) (log : List Entry) : Prop :=
  ∃ failures, answers log = (returned log).map (some ∘ .ok) ++
      List.replicate failures (some (.error MemoryChannel.receiveError)) ∧
    returned log <+: queue ∧ (failures ≠ 0 → returned log = queue)

/-- What is left of a queue that had these messages when its writer was gone. -/
structure Draining (queue : List Bytes) (log : List Entry) (p : Pipe) : Prop where
  writerGone : p.writerGone = true
  drains : Drains queue log
  queued : ∀ rest, p.inbox = .unread rest → returned log ++ rest = queue

/-- One more entry, and the queue is still being drained. -/
theorem Draining.step (h : Draining queue log p) (hentry : Happens entry p p') :
    Draining queue (log ++ [entry]) p' := by
  obtain ⟨hgone, ⟨failures, hanswers, hprefix, hall⟩, hqueued⟩ := h
  cases hentry with
  | written | refused | waits | writerDropped => cases hgone
  | @read m rest =>
    have hrest : returned log ++ m :: rest = queue := hqueued (m :: rest) rfl
    have hnone : failures = 0 := by
      by_contra hne
      have := hall hne
      simp [this] at hrest
    subst hnone
    refine ⟨hgone, ⟨0, ?_, ?_, by simp⟩, ?_⟩
    · simp [Entry.answer?, Entry.returned?, hanswers]
    · simp [Entry.returned?, ← hrest]
    · simp [Entry.returned?, ← hrest]
  | ended =>
    have hrest : returned log = queue := by simpa using hqueued [] rfl
    refine ⟨hgone, ⟨failures + 1, ?_, ?_, ?_⟩, ?_⟩
    · simp [Entry.answer?, Entry.returned?, hanswers, List.replicate_succ']
    · simpa [Entry.returned?] using hprefix
    · simpa [Entry.returned?] using hrest
    · simpa [Entry.returned?] using hrest
  | readerDropped =>
    refine ⟨hgone, ⟨failures, ?_, ?_, ?_⟩, by simp⟩
    · simpa [Entry.answer?, Entry.returned?] using hanswers
    · simpa [Entry.returned?] using hprefix
    · simpa [Entry.returned?] using hall

/-- A queue whose writer is gone is drained in order, and nothing is added. -/
theorem drains_of_leads (h : Leads ⟨.unread queue, true⟩ log p) : Drains queue log := by
  suffices hdraining : Draining queue log p from hdraining.drains
  induction h with
  | nil =>
    exact ⟨rfl, ⟨0, by simp [answers, returned], by simp [returned], by simp⟩,
      by simp [returned]⟩
  | concat h hentry ih => exact ih.step hentry

/-! ## Answers -/

/-- The state and the call determine the answer and what becomes of the queue. -/
theorem Happens.unique (h : Happens entry p p') (h' : Happens entry' p p'')
    (hcall : entry.call = entry'.call) : entry = entry' ∧ p' = p'' := by
  cases h <;> cases h' <;> simp_all [Entry.call]

/-- Two histories with the same calls have the same answers. -/
theorem Leads.unique {start : Pipe} (h : Leads start log p) (h' : Leads start log' p')
    (hcalls : log.map Entry.call = log'.map Entry.call) : log = log' ∧ p = p' := by
  induction h generalizing log' p' with
  | nil =>
    cases h' with
    | nil => exact ⟨rfl, rfl⟩
    | concat => simp at hcalls
  | concat h hentry ih =>
    cases h' with
    | nil => simp at hcalls
    | concat h' hentry' =>
      rw [List.map_append, List.map_append] at hcalls
      obtain ⟨hlog, hlast⟩ := List.append_inj' hcalls rfl
      obtain ⟨rfl, rfl⟩ := ih h' hlog
      obtain ⟨rfl, rfl⟩ := hentry.unique hentry' (by simpa using hlast)
      exact ⟨rfl, rfl⟩

end Pipe

/-! ## Both directions -/

namespace MemoryChannel

/-- Something that happens at an end of a channel, calls with their answers. -/
inductive Entry where
  | sent (side : Side) (message : Bytes) (answer : Except Error Unit)
  | received (side : Side) (answer : Option (Except Error Bytes))
  | dropped (side : Side)

/-- What it does to the channel.  An end that was dropped is used by nobody. -/
inductive Entry.Happens : Entry → MemoryChannel → MemoryChannel → Prop where
  | sent {c s m} (h : c.isDropped s = false) :
    Happens (.sent s m (c.send s m).1) c (c.send s m).2
  | received {c s} (h : c.isDropped s = false) :
    Happens (.received s (c.receive s).1.answer) c (c.receive s).2
  | dropped {c s} (h : c.isDropped s = false) : Happens (.dropped s) c (c.drop s)

/-- From two fresh ends, the log leads to this channel. -/
inductive Leads : List Entry → MemoryChannel → Prop where
  | nil : Leads [] pair
  | concat {log c entry c'} (h : Leads log c) (hentry : Entry.Happens entry c c') :
    Leads (log ++ [entry]) c'

/-- The direction in which `s` reads. -/
def pipe (c : MemoryChannel) (s : Side) : Pipe := ⟨c.inbox s, c.isDropped s.other⟩

/-- What the direction in which `s` reads sees of an entry. -/
def Entry.towards? (s : Side) : Entry → Option Pipe.Entry
  | .sent t m answer => if t = s.other then some (.written m answer) else none
  | .received t answer => if t = s then some (.read answer) else none
  | .dropped t => if t = s then some .readerDropped else some .writerDropped

/-- What the direction in which `s` reads sees of a log. -/
def towards (s : Side) (log : List Entry) : List Pipe.Entry := log.filterMap (Entry.towards? s)

variable {log : List Entry} {c c' : MemoryChannel} {entry : Entry}

/-! ### One call, one direction -/

section
variable {s : Side}

/-- A party's inbox is not touched by what happens to the other one. -/
@[simp] theorem inbox_setInbox_at_other (c : MemoryChannel) (s : Side) (i : Inbox) :
    (c.setInbox s.other i).inbox s = c.inbox s := by
  simpa using inbox_setInbox_other c s.other i

@[simp] theorem isDropped_setInbox_unread (c : MemoryChannel) (s t : Side) {old new : List Bytes}
    (h : c.inbox s = .unread old) : (c.setInbox s (.unread new)).isDropped t = c.isDropped t := by
  unfold isDropped
  by_cases hts : t = s
  · subst hts
    simp [h]
  · rw [inbox_setInbox_of_ne hts]

@[simp] theorem isDropped_drop (c : MemoryChannel) (s : Side) : (c.drop s).isDropped s = true := by
  simp [isDropped, drop]

/-- A send is a write on the pipe that leads to the peer. -/
theorem happens_pipe_send (h : c.isDropped s.other = false) (m : Bytes) :
    Pipe.Happens (.written m (c.send s.other m).1) (c.pipe s) ((c.send s.other m).2.pipe s) := by
  cases hs : c.inbox s with
  | unread queue => simpa [send, pipe, hs, h] using Pipe.Happens.written
  | dropped => simpa [send, pipe, hs, h] using Pipe.Happens.refused

/-- What `s` sends goes the other way. -/
theorem pipe_send (c : MemoryChannel) (s : Side) (m : Bytes) :
    (c.send s m).2.pipe s = c.pipe s := by
  cases hs : c.inbox s.other with
  | unread queue => simp [send, pipe, hs]
  | dropped => simp [send, hs]

/-- A receive is a read on the pipe that leads to the party. -/
theorem happens_pipe_receive (h : c.isDropped s = false) :
    Pipe.Happens (.read (c.receive s).1.answer) (c.pipe s) ((c.receive s).2.pipe s) := by
  cases hs : c.inbox s with
  | unread queue =>
    cases queue with
    | cons m queue =>
      simpa [receive_cons hs, Arrival.answer, pipe, hs] using Pipe.Happens.read
    | nil =>
      cases hother : c.isDropped s.other with
      | true => simpa [receive_nil hs, Arrival.answer, pipe, hs, hother] using Pipe.Happens.ended
      | false => simpa [receive_nil hs, Arrival.answer, pipe, hs, hother] using Pipe.Happens.waits
  | dropped => simp [isDropped, hs] at h

/-- What the other end receives came the other way. -/
theorem pipe_receive (c : MemoryChannel) (s : Side) : (c.receive s.other).2.pipe s = c.pipe s := by
  unfold receive
  split
  · next m queue hs => simp [pipe, hs]
  · rfl

/-- Dropping an end drops the reader of the pipe that leads there. -/
theorem happens_pipe_drop_reader (h : c.isDropped s = false) :
    Pipe.Happens .readerDropped (c.pipe s) ((c.drop s).pipe s) := by
  cases hs : c.inbox s with
  | unread queue => simpa [drop, pipe, hs, isDropped] using Pipe.Happens.readerDropped
  | dropped => simp [isDropped, hs] at h

/-- Dropping the other end drops the writer of that pipe. -/
theorem happens_pipe_drop_writer (h : c.isDropped s.other = false) :
    Pipe.Happens .writerDropped (c.pipe s) ((c.drop s.other).pipe s) := by
  have hinbox : (c.drop s.other).inbox s = c.inbox s := by simp [drop]
  rw [pipe, pipe, hinbox, h, isDropped_drop]
  exact .writerDropped

end

/-- An entry follows the rules of a queue in each direction that it concerns, and leaves the
other one alone. -/
theorem Entry.Happens.pipe (h : entry.Happens c c') (s : Side) :
    (∃ e, entry.towards? s = some e ∧ Pipe.Happens e (c.pipe s) (c'.pipe s)) ∨
      (entry.towards? s = none ∧ c'.pipe s = c.pipe s) := by
  cases h with
  | @sent _ t m halive =>
    obtain rfl | rfl := s.eq_or_eq_other t
    · exact .inr ⟨by simp [towards?], pipe_send c t m⟩
    · exact .inl ⟨_, by simp [towards?], happens_pipe_send halive m⟩
  | @received _ t halive =>
    obtain rfl | rfl := s.eq_or_eq_other t
    · exact .inl ⟨_, by simp [towards?], happens_pipe_receive halive⟩
    · exact .inr ⟨by simp [towards?], pipe_receive c s⟩
  | @dropped _ t halive =>
    obtain rfl | rfl := s.eq_or_eq_other t
    · exact .inl ⟨_, by simp [towards?], happens_pipe_drop_reader halive⟩
    · exact .inl ⟨_, by simp [towards?], happens_pipe_drop_writer halive⟩

@[simp] theorem towards_append (s : Side) (log log' : List Entry) :
    towards s (log ++ log') = towards s log ++ towards s log' := List.filterMap_append

/-- Each direction of a channel is a queue of its own. -/
theorem Leads.pipe (h : Leads log c) (s : Side) : Pipe.Leads .empty (towards s log) (c.pipe s) := by
  induction h with
  | nil => cases s <;> exact .nil
  | concat h hentry ih =>
    rcases hentry.pipe s with ⟨e, he, hhappens⟩ | ⟨he, hsame⟩
    · simpa [towards, he] using ih.concat hhappens
    · simpa [towards, he, hsame] using ih

/-! ### What the two ends see -/

/-- The message that an end sent, if the send succeeded. -/
def Entry.passed? (s : Side) : Entry → Option Bytes
  | .sent t m (.ok ()) => if t = s then some m else none
  | _ => none

def Entry.heard? (s : Side) : Entry → Option Bytes
  | .received t (some (.ok m)) => if t = s then some m else none
  | _ => none

/-- The messages whose sending from an end succeeded, oldest first. -/
def passed (s : Side) (log : List Entry) : List Bytes := log.filterMap (Entry.passed? s)

def heard (s : Side) (log : List Entry) : List Bytes := log.filterMap (Entry.heard? s)

/-- What a pipe took is what the party at its start passed on. -/
theorem taken_towards (s : Side) (log : List Entry) :
    Pipe.taken (towards s log) = passed s.other log := by
  have hentry (entry : Entry) :
      (entry.towards? s).bind Pipe.Entry.taken? = entry.passed? s.other := by
    cases entry with
    | sent t m answer =>
      cases answer <;> by_cases h : t = s.other <;>
        simp [Entry.towards?, Entry.passed?, Pipe.Entry.taken?, h]
    | received t answer =>
      by_cases h : t = s <;> simp [Entry.towards?, Entry.passed?, Pipe.Entry.taken?, h]
    | dropped t =>
      by_cases h : t = s <;> simp [Entry.towards?, Entry.passed?, Pipe.Entry.taken?, h]
  simp [Pipe.taken, towards, passed, List.filterMap_filterMap, hentry]

/-- What a pipe returned is what the party at its end heard. -/
theorem returned_towards (s : Side) (log : List Entry) :
    Pipe.returned (towards s log) = heard s log := by
  have hentry (entry : Entry) :
      (entry.towards? s).bind Pipe.Entry.returned? = entry.heard? s := by
    cases entry with
    | sent t m answer =>
      by_cases h : t = s.other <;> simp [Entry.towards?, Entry.heard?, Pipe.Entry.returned?, h]
    | received t answer =>
      rcases answer with _ | _ | m <;> by_cases h : t = s <;>
        simp [Entry.towards?, Entry.heard?, Pipe.Entry.returned?, h]
    | dropped t =>
      by_cases h : t = s <;> simp [Entry.towards?, Entry.heard?, Pipe.Entry.returned?, h]
  simp [Pipe.returned, towards, heard, List.filterMap_filterMap, hentry]

/-- The reader of a direction is the end that it leads to. -/
theorem readerDropped_mem_towards {s : Side} :
    .readerDropped ∈ towards s log ↔ .dropped s ∈ log := by
  have hentry (entry : Entry) : entry.towards? s = some .readerDropped ↔ entry = .dropped s := by
    cases entry with
    | sent t m answer | received t answer | dropped t => simp [Entry.towards?]
  simp [towards, hentry]

/-- Its writer is the other end. -/
theorem writerDropped_mem_towards {s : Side} :
    .writerDropped ∈ towards s log ↔ .dropped s.other ∈ log := by
  have hentry (entry : Entry) :
      entry.towards? s = some .writerDropped ↔ entry = .dropped s.other := by
    cases entry with
    | sent t m answer | received t answer => simp [Entry.towards?]
    | dropped t =>
      obtain rfl | rfl := s.eq_or_eq_other t <;> simp [Entry.towards?]
  simp [towards, hentry]

/-- What an end that reads, and the end that sends to it, can rely on after a history. -/
structure IsQueue (log : List Entry) (c : MemoryChannel) (s : Side) : Prop where
  /-- What was received, and then what is unread, is what was sent. -/
  fifo : .dropped s ∉ log →
    ∃ unread, c.inbox s = .unread unread ∧ heard s log ++ unread = passed s.other log
  isPrefix : heard s log <+: passed s.other log
  accepts : .dropped s ∉ log → ∀ m, (c.send s.other m).1 = .ok ()
  /-- Nothing can be sent to an end that was dropped, and nothing changes. -/
  refuses : .dropped s ∈ log → ∀ m, ∃ err, c.send s.other m = (.error err, c) ∧
    err.IsFault .brokenPipe
  next : .dropped s ∉ log → ∀ m, (passed s.other log)[(heard s log).length]? = some m →
    (c.receive s).1.answer = some (.ok m)
  ends : .dropped s ∉ log → heard s log = passed s.other log → .dropped s.other ∈ log →
    ∃ err, (c.receive s).1.answer = some (.error err) ∧ err.IsFault .unexpectedEnd
  waits_iff : .dropped s ∉ log → ((c.receive s).1.answer = none ↔
    heard s log = passed s.other log ∧ .dropped s.other ∉ log)
  /-- After the sending end was dropped, its messages are received first, and then only
  errors. -/
  drains : .dropped s.other ∈ log → ∀ unread, c.inbox s = .unread unread →
    ∀ log' c', Leads (log ++ log') c' → Pipe.Drains unread (towards s log')
  /-- The calls in the other direction show nowhere in this one. -/
  independent : ∀ log' c', Leads log' c' →
    (towards s log').map Pipe.Entry.call = (towards s log).map Pipe.Entry.call →
      towards s log' = towards s log ∧ c'.pipe s = c.pipe s

/-- In any interleaving of sends, receives and drops, a channel is two queues, each of them
untouched by the other. -/
theorem queues_of_leads (h : Leads log c) (s : Side) : IsQueue log c s := by
  -- One direction is a pipe of its own; the facts about the pipe are read back as facts about the
  -- log.
  obtain ⟨hqueued, hprefix, hreader, hwriter⟩ := Pipe.tracked_of_leads (h.pipe s)
  rw [taken_towards, returned_towards] at hqueued hprefix
  rw [readerDropped_mem_towards] at hreader
  rw [writerDropped_mem_towards] at hwriter
  have hunread (halive : .dropped s ∉ log) : ∃ unread, c.inbox s = .unread unread := by
    cases hs : c.inbox s with
    | unread unread => exact ⟨unread, rfl⟩
    | dropped => exact absurd (hreader.1 hs) halive
  constructor
  case fifo =>
    intro halive
    obtain ⟨unread, hs⟩ := hunread halive
    exact ⟨unread, hs, hqueued unread hs⟩
  case isPrefix => exact hprefix
  case accepts =>
    intro halive m
    obtain ⟨unread, hs⟩ := hunread halive
    simp [send, hs]
  case refuses =>
    intro hdropped m
    have hs : c.inbox s = .dropped := hreader.2 hdropped
    exact ⟨sendError, by simp [send, hs], _, _, rfl, rfl⟩
  case next =>
    intro halive m hm
    obtain ⟨unread, hs⟩ := hunread halive
    cases unread with
    | nil => simp [← hqueued [] hs] at hm
    | cons m' unread =>
      have hhead : m' = m := by simpa [← hqueued (m' :: unread) hs] using hm
      simp [receive_cons hs, Arrival.answer, hhead]
  case ends =>
    intro halive hall hdropped
    obtain ⟨unread, hs⟩ := hunread halive
    have hnil : unread = [] := by simpa [hall] using hqueued unread hs
    subst hnil
    have hgone : c.isDropped s.other = true := hwriter.2 hdropped
    exact ⟨receiveError, by simp [receive_nil hs, hgone, Arrival.answer], _, _, rfl, rfl⟩
  case waits_iff =>
    intro halive
    obtain ⟨unread, hs⟩ := hunread halive
    rw [← hwriter, ← hqueued unread hs]
    cases unread with
    | nil =>
      cases hgone : c.isDropped s.other <;> simp [receive_nil hs, hgone, Arrival.answer, pipe]
    | cons m unread => simp [receive_cons hs, Arrival.answer]
  case drains =>
    intro hdropped unread hs log' c' h'
    have hpipe := h'.pipe s
    rw [towards_append] at hpipe
    obtain ⟨p, hp, hlog'⟩ := hpipe.split
    obtain ⟨-, rfl⟩ := (h.pipe s).unique hp rfl
    have hgone : c.isDropped s.other = true := hwriter.2 hdropped
    rw [pipe, hs, hgone] at hlog'
    exact Pipe.drains_of_leads hlog'
  case independent =>
    intro log' c' h' hcalls
    exact (h'.pipe s).unique (h.pipe s) hcalls

/-- Two messages were sent, one of them empty, and the first one was received when the end
that sent them was dropped. -/
theorem queues_of_leads_small : ∃ c,
    Leads [.sent .one [1] (.ok ()), .sent .one [] (.ok ()), .sent .two [2] (.ok ()),
        .received .two (some (.ok [1])), .dropped .one] c ∧
      (c.receive .two).1.answer = some (.ok []) ∧
      (∃ err, c.send .two [3] = (.error err, c) ∧ err.IsFault .brokenPipe) ∧
      ∃ err, ((c.receive .two).2.receive .two).1.answer = some (.error err) ∧
        err.IsFault .unexpectedEnd := by
  have hsent : Leads [.sent .one [1] (.ok ()), .sent .one [] (.ok ())]
      ⟨.unread [], .unread [[1], []]⟩ :=
    .concat (.concat .nil (.sent (c := pair) rfl)) (.sent (c := ⟨.unread [], .unread [[1]]⟩) rfl)
  have hback : Leads [.sent .one [1] (.ok ()), .sent .one [] (.ok ()), .sent .two [2] (.ok ())]
      ⟨.unread [[2]], .unread [[1], []]⟩ :=
    hsent.concat (.sent (c := ⟨.unread [], .unread [[1], []]⟩) rfl)
  have hlog : Leads [.sent .one [1] (.ok ()), .sent .one [] (.ok ()), .sent .two [2] (.ok ()),
      .received .two (some (.ok [1])), .dropped .one] ⟨.dropped, .unread [[]]⟩ :=
    (hback.concat (.received (c := ⟨.unread [[2]], .unread [[1], []]⟩) rfl)).concat
      (.dropped (c := ⟨.unread [[2]], .unread [[]]⟩) rfl)
  have hnext := (queues_of_leads hlog .two).next (by simp) [] rfl
  have hlater := hlog.concat (.received (s := .two) rfl)
  rw [hnext] at hlater
  exact ⟨_, hlog, hnext, (queues_of_leads hlog .one).refuses (by simp) [3],
    (queues_of_leads hlater .two).ends (by simp) rfl (by simp [Side.other])⟩

end MemoryChannel

end TwoParty
