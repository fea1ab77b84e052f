import TwoParty.Proofs.Solo.Announce

/-!
# TwoParty.Proofs.Solo.Memory

One party at an end of a memory channel, with anyone at the other end.

The holder of the other end sends what it likes, reads, or drops it, whenever it likes
(`Line.Stirred`).  Whatever it does, the party is on one of its runs, and the answers of the
transport in that run are answers of a memory channel (`exists_met_of_faces`).  So a
statement about all runs with such answers is a statement about all peers.
-/

namespace TwoParty

/-- An error of this kind has a fault of the transport for its cause. -/
theorem Error.exists_of_kind_eq_io {err : Error} (h : err.kind = .io) :
    ∃ context cause, err = .io context cause := by
  cases err with
  | io context cause => exact ⟨context, cause, rfl⟩
  | cheatAttempt | invalidInput | protocolFormat | serialization => cases h

namespace Party

variable {G : DlogGroup} {σ α : Type} {ms : List Bytes} {es : List Event}

/-! ## Events -/

section
variable (m : Bytes) (answer : Option (Except Error Unit)) (arrival : Option (Except Error Bytes))
  (err : Error) (es : List Event)

@[simp] theorem messages_nil : messages [] = [] := rfl

@[simp] theorem messages_sent : messages (.sent m answer :: es) = m :: messages es := rfl

@[simp] theorem messages_received : messages (.received arrival :: es) = messages es := rfl

@[simp] theorem passed_nil : passed [] = [] := rfl

@[simp] theorem passed_sent_ok : passed (.sent m (some (.ok ())) :: es) = m :: passed es := rfl

@[simp] theorem passed_sent_error : passed (.sent m (some (.error err)) :: es) = passed es := rfl

@[simp] theorem passed_received : passed (.received arrival :: es) = passed es := rfl

@[simp] theorem heard_nil : heard [] = [] := rfl

@[simp] theorem heard_sent : heard (.sent m answer :: es) = heard es := rfl

@[simp] theorem heard_ok : heard (.received (some (.ok m)) :: es) = m :: heard es := rfl

@[simp] theorem heard_error : heard (.received (some (.error err)) :: es) = heard es := rfl

@[simp] theorem heard_none : heard (.received none :: es) = heard es := rfl

end

/-- How often the party waits for a message. -/
def waits (es : List Event) : Nat := es.countP fun event => !event.isSent

@[simp] theorem waits_nil : waits [] = 0 := rfl

@[simp] theorem waits_append (es es' : List Event) : waits (es ++ es') = waits es + waits es' :=
  List.countP_append

@[simp] theorem waits_sent (m : Bytes) (answer : Option (Except Error Unit)) (es : List Event) :
    waits (.sent m answer :: es) = waits es := rfl

@[simp] theorem waits_received (arrival : Option (Except Error Bytes)) (es : List Event) :
    waits (.received arrival :: es) = waits es + 1 := by
  simp [waits, Event.isSent]

/-- The transport says that the peer's end was dropped. -/
inductive Event.Closed : Event → Prop where
  | refused {m} : Closed (.sent m (some (.error MemoryChannel.sendError)))
  | ended : Closed (.received (some (.error MemoryChannel.receiveError)))

@[simp] theorem Event.not_closed_waiting : ¬ Closed (.received none) := by
  rintro ⟨⟩

@[simp] theorem Event.not_closed_heard (m : Bytes) : ¬ Closed (.received (some (.ok m))) := by
  rintro ⟨⟩

@[simp] theorem Event.not_closed_passed (m : Bytes) : ¬ Closed (.sent m (some (.ok ()))) := by
  rintro ⟨⟩

attribute [simp] Event.Closed.refused Event.Closed.ended

/-- The party learns that the peer's end was dropped. -/
def IsCutOff (es : List Event) : Prop := ∃ event ∈ es, event.Closed

@[simp] theorem not_isCutOff_nil : ¬ IsCutOff [] := by
  simp [IsCutOff]

@[simp] theorem isCutOff_cons (event : Event) (es : List Event) :
    IsCutOff (event :: es) ↔ event.Closed ∨ IsCutOff es := by
  simp [IsCutOff]

@[simp] theorem isCutOff_append (es es' : List Event) :
    IsCutOff (es ++ es') ↔ IsCutOff es ∨ IsCutOff es' := by
  simp [IsCutOff, or_and_right, exists_or]

/-- The events of messages that were all heard. -/
def listened (ms : List Bytes) : List Event := ms.map fun m => .received (some (.ok m))

@[simp] theorem messages_listened (ms : List Bytes) : messages (listened ms) = [] := by
  simp [messages, listened, Event.message?]

@[simp] theorem passed_listened (ms : List Bytes) : passed (listened ms) = [] := by
  simp [passed, listened, Event.passed?]

@[simp] theorem heard_listened (ms : List Bytes) : heard (listened ms) = ms := by
  simp [heard, listened, List.filterMap_map, Function.comp_def, Event.heard?]

@[simp] theorem waits_listened (ms : List Bytes) : waits (listened ms) = ms.length := by
  simp [waits, listened, List.countP_map, Function.comp_def, Event.isSent]

@[simp] theorem not_isCutOff_delivered (ms : List Bytes) : ¬ IsCutOff (delivered ms) := by
  rintro ⟨event, hevent, hclosed⟩
  obtain ⟨m, -, rfl⟩ := List.mem_map.1 hevent
  cases hclosed

@[simp] theorem not_isCutOff_listened (ms : List Bytes) : ¬ IsCutOff (listened ms) := by
  rintro ⟨event, hevent, hclosed⟩
  obtain ⟨m, -, rfl⟩ := List.mem_map.1 hevent
  cases hclosed

/-! ## Ends of a run -/

/-- The party is finished, with this result. -/
def EndsAs (e : Ending σ α) (v : α) : Prop := ∃ s r, e = some (v, s, r)

/-- The party is finished, with an error of this kind. -/
def FailsAs (e : Ending σ (Except Error α)) (kind : Error.Kind) : Prop :=
  ∃ err, EndsAs e (.error err) ∧ err.kind = kind

@[simp] theorem not_endsAs_none (v : α) : ¬ EndsAs (none : Ending σ α) v := by
  rintro ⟨s, r, h⟩
  cases h

@[simp] theorem endsAs_some {a v : α} {s : σ} {r : ByteSource} :
    EndsAs (some (a, s, r)) v ↔ a = v := by
  simp [EndsAs]

@[simp] theorem not_failsAs_none (kind : Error.Kind) :
    ¬ FailsAs (none : Ending σ (Except Error α)) kind := by
  simp [FailsAs]

@[simp] theorem not_failsAs_ok {a : α} {s : σ} {r : ByteSource} (kind : Error.Kind) :
    ¬ FailsAs (some (.ok a, s, r)) kind := by
  simp [FailsAs]

@[simp] theorem failsAs_error {err : Error} {s : σ} {r : ByteSource} {kind : Error.Kind} :
    FailsAs (some ((.error err : Except Error α), s, r)) kind ↔ err.kind = kind := by
  simp [FailsAs]

/-! ## Waiting -/

/-- What comes of waiting for a message at an end of a memory channel. -/
theorem Runs.of_receiveMessage_bind {β : Type} [Message α] {step : String}
    {f : α → ExceptT Error (Party G σ) β} {s : σ} {r : ByteSource}
    {e : Ending σ (Except Error β)}
    (h : (Channel.receiveMessage step >>= f).run.Runs s r es e)
    (hmemory : ∀ event ∈ es, event.OnMemory) :
    (es = [.received none] ∧ e = none) ∨
      (∃ context cause, es = [.received (some (.error MemoryChannel.receiveError))] ∧
        e = some (.error (.io context cause), s, r)) ∨
      (∃ data reason, (Message.read data : Except _ α) = .error reason ∧ es = listened [data] ∧
        e = some (.error (.protocolFormat (.unreadable step reason)), s, r)) ∨
      ∃ data m es', Message.read data = .ok m ∧ es = listened [data] ++ es' ∧
        (f m).run.Runs s r es' e := by
  rw [Channel.receiveMessage, LawfulMonad.bind_assoc] at h
  rcases runs_receiveBytes_bind.1 h with ⟨rfl, rfl⟩ | ⟨err, rfl, rfl⟩ | ⟨data, es', rfl, hrest⟩
  · exact .inl ⟨rfl, rfl⟩
  · cases hmemory _ (List.mem_singleton_self _) with
    | ended => exact .inr (.inl ⟨_, _, rfl, rfl⟩)
  · cases hread : (Message.read data : Except _ α) with
    | error reason =>
      rw [Channel.readMessage_of_error step hread, runs_error_bind] at hrest
      obtain ⟨rfl, rfl⟩ := hrest
      exact .inr (.inr (.inl ⟨data, reason, hread, rfl, rfl⟩))
    | ok m =>
      rw [Channel.readMessage_of_read step hread, runs_ok_bind] at hrest
      exact .inr (.inr (.inr ⟨data, m, es', hread, rfl, hrest⟩))

end Party

open Party

/-- What is said and heard in a dialogue is said and heard on a memory channel. -/
theorem Dialogue.onMemory_events (side : Side) (D : Dialogue) :
    ∀ event ∈ Dialogue.events side D, event.OnMemory := by
  intro event hevent
  obtain ⟨m, -, rfl⟩ := List.mem_map.1 hevent
  split
  · exact .passed
  · exact .heard

/-! ## Anyone at the other end -/

/-- Something that the holder of an end can do with it. -/
inductive Line.Stirred (side : Side) (l : Line) : Line → Prop where
  | sent (m : Bytes) : Stirred side l (l.send side m).2
  | read : Stirred side l ⟨(l.channel.receive side).2, l.sent⟩
  | dropped : Stirred side l (l.drop side)

namespace Actor

variable {G : DlogGroup} {σ α : Type} {p : Party G σ α} {store : σ} {random : ByteSource}
  {a : Actor G σ α} {l l' : Line} {side : Side}

/-- The party takes a step, or something happens at the other end. -/
inductive Faces (side : Side) : Actor G σ α × Line → Actor G σ α × Line → Prop where
  | moved {b b' m m'} (h : b.move side m = some (b', m')) : Faces side (b, m) (b', m')
  | stirred {b m m'} (h : m.Stirred side.other m') : Faces side (b, m) (b, m')

/-- Whatever happens at the other end, the party met with events of a memory channel only. -/
theorem exists_met_of_faces
    (h : Relation.ReflTransGen (Faces side) (.working p store random, l) (a, l')) :
    ∃ es, a.Met p store random es ∧ ∀ event ∈ es, event.OnMemory := by
  generalize hy : (a, l') = y at h
  induction h generalizing a l' with
  | refl =>
    cases hy
    exact ⟨[], met_start, List.forall_mem_nil _⟩
  | @tail x _ _ hstep ih =>
    obtain ⟨b, m⟩ := x
    obtain ⟨es, hmet, hmemory⟩ := ih rfl
    subst hy
    cases hstep with
    | moved hm =>
      obtain ⟨new, hmet', hnew, -⟩ := hmet.move hm
      exact ⟨es ++ new, hmet', List.forall_mem_append.2 ⟨hmemory, hnew⟩⟩
    | stirred => exact ⟨es, hmet, hmemory⟩

end Actor

end TwoParty
