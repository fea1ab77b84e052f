import TwoParty.Proofs.Solo.Memory
import TwoParty.Proofs.Solo.Service
import TwoParty.Proofs.Transfer.Correctness
import TwoParty.Proofs.Transfer.Request

/-!
# TwoParty.Proofs.Transfer.SenderGuard

The sender of a transfer against any peer.

Once its inputs are accepted, the sender replies exactly to a request that passes every
check, and an input can no longer be refused: masking cannot fail (`exists_replyWith_eq`).
`SenderCourse` lists how far the sender can get, every run is one of these
(`senderCourse_of_runs`), and `CarefulSender` is read off the cases (`SenderCourse.careful`).
-/

namespace TwoParty

open Party

variable {G : DlogGroup} {σ β : Type} {s : σ} {r : ByteSource} {es : List Event}

namespace Transfer

variable {kind : PayloadKind} {x0 x1 : kind.Input G} {draw : Challenger} {level : Level}

/-! ## Replying -/

/-- The sender draws the exponents of both inputs and replies, or it cannot draw them. -/
theorem runs_reply_bind {session : SenderSession G} {P : Payload G} {x0 x1 : P.Input}
    {f : SenderMessage → ExceptT Error (Party G σ) β} {e : Ending σ (Except Error β)}
    (hvalid : P.validate x0 x1 = .ok ())
    (h : (session.reply P x0 x1 >>= f : ExceptT Error (Party G σ) β).run.Runs s r es e) :
    (¬ G.CanDraw 4 r ∧ es = [] ∧ e = none) ∨
      ∃ u0 v0 u1 v1 r', G.CanDraw 4 r ∧
        (liftM (session.replyWith P x0 x1 u0 v0 u1 v1) >>= f :
          ExceptT Error (Party G σ) β).run.Runs s r' es e := by
  rw [SenderSession.reply, hvalid] at h
  -- Four draws in a row, each of which may find nothing in reach.
  cases h with
  | starved hu0 => exact .inl ⟨by simp [DlogGroup.canDraw_succ, hu0], rfl, rfl⟩
  | exponent hu0 h =>
    cases h with
    | starved hv0 => exact .inl ⟨by simp [DlogGroup.canDraw_succ, hu0, hv0], rfl, rfl⟩
    | exponent hv0 h =>
      cases h with
      | starved hu1 => exact .inl ⟨by simp [DlogGroup.canDraw_succ, hu0, hv0, hu1], rfl, rfl⟩
      | exponent hu1 h =>
        cases h with
        | starved hv1 =>
          exact .inl ⟨by simp [DlogGroup.canDraw_succ, hu0, hv0, hu1, hv1], rfl, rfl⟩
        | exponent hv1 h =>
          have hdraw : G.CanDraw 4 r := by simp [DlogGroup.canDraw_succ, hu0, hv0, hu1, hv1]
          exact .inr ⟨_, _, _, _, _, hdraw, h⟩

/-- Accepted inputs can be masked with any key. -/
theorem exists_replyWith_eq (hkind : kind.IsTotal)
    (hvalid : (kind.payload G).validate x0 x1 = .ok ()) (session : SenderSession G)
    (u0 v0 u1 v1 : G.Exponent) :
    ∃ reply, session.replyWith (kind.payload G) x0 x1 u0 v0 u1 v1 = .ok reply := by
  cases kind with
  | groupElement => exact ⟨_, rfl⟩
  | byteArray kdf =>
    obtain ⟨hlen, hcheck⟩ := PayloadKind.length_eq_of_validate_byteArray hvalid
    obtain ⟨pad0, h0⟩ := hkind _ hcheck (G.encodeElement (session.key session.z0 u0 v0))
    obtain ⟨pad1, h1⟩ := hkind _ hcheck (G.encodeElement (session.key session.z1 u1 v1))
    rw [hlen] at h1
    have hmask0 := PayloadKind.mask_byteArray h0
    have hmask1 := PayloadKind.mask_byteArray h1
    refine ⟨⟨G.encodeElement (session.material u0 v0), G.encodeElement (session.material u1 v1),
      Bytes.xorPad x0 pad0, Bytes.xorPad x1 pad1⟩, ?_⟩
    simp only [SenderSession.replyWith, PayloadKind.payload, hmask0, hmask1, bind, Except.bind]
    rfl

/-! ## Waiting for the proof -/

/-- At the malicious level the sender waits for the proof and judges its arrival. -/
theorem run_receiveProof_bind {f : Option DlogProof → ExceptT Error (Party G σ) β} :
    (Sender.receiveProof .malicious >>= f).run =
      (Channel.receiveMessage "receiving proof of alpha" :
        ExceptT Error (Party G σ) DlogProof).run.bind fun v =>
        (liftM (Sender.proofOfArrival v) >>= f : ExceptT Error (Party G σ) β).run := by
  refine (Party.bind_assoc _ _ _).trans ?_
  rfl

/-- A proof that cannot be read counts as none. -/
theorem proofOfArrival_heard (step : String) (data : Bytes) :
    Sender.proofOfArrival (understood step (.ok data)) = .ok (Message.read data).toOption := by
  cases hread : (Message.read data : Except _ DlogProof) with
  | error reason =>
    simp [understood, Except.mapError, bind, Except.bind, Channel.readMessage, hread,
      Sender.proofOfArrival, Except.toOption]
  | ok proof =>
    simp [understood, Except.mapError, bind, Except.bind, Channel.readMessage, hread,
      Sender.proofOfArrival, Except.toOption]

/-! ## How far the sender gets -/

/-- The events of the sender and the end of its run, once its inputs are accepted. -/
inductive SenderCourse (G : DlogGroup) (draw : Challenger) (level : Level) (store : σ)
    (random : ByteSource) : List Event → Ending σ (Except Error Unit) → Prop where
  | waits {ms} (h : Begun level ms) :
    SenderCourse G draw level store random (listened ms ++ [.received none]) none
  | lost {ms context cause} (h : Begun level ms) :
    SenderCourse G draw level store random
      (listened ms ++ [.received (some (.error MemoryChannel.receiveError))])
      (some (.error (.io context cause), store, random))
  | unread {data reason} (h : (Message.read data : Except _ ReceiverMessage) = .error reason) :
    SenderCourse G draw level store random (listened [data])
      (some (.error (.protocolFormat (.unreadable "receiving OT receiver message" reason)),
        store, random))
  | objects {ms m proof c} (h : Request level ms m proof)
    (hc : Objection G draw level m proof c) :
    SenderCourse G draw level store random (listened ms)
      (some (.error (.cheatAttempt c), store, random))
  | starves {ms} (h : Accepts G draw level ms) (hdraw : ¬ G.CanDraw 4 random) :
    SenderCourse G draw level store random (listened ms) none
  | replied {ms reply rest} (h : Accepts G draw level ms) (hdraw : G.CanDraw 4 random) :
    SenderCourse G draw level store random (listened ms ++ [.sent reply (some (.ok ()))])
      (some (.ok (), store, rest))
  | refused {ms reply context cause rest} (h : Accepts G draw level ms)
    (hdraw : G.CanDraw 4 random) :
    SenderCourse G draw level store random
      (listened ms ++ [.sent reply (some (.error MemoryChannel.sendError))])
      (some (.error (.io context cause), store, rest))

section
variable {store : σ} {random : ByteSource} {e : Ending σ (Except Error Unit)}
  {ms : List Bytes} {m : ReceiverMessage} {proof : Option DlogProof}

/-- From the reply on. -/
theorem senderCourse_of_accepts (hkind : kind.IsTotal)
    (hvalid : (kind.payload G).validate x0 x1 = .ok ()) {session : SenderSession G}
    (haccepts : Accepts G draw level ms)
    (h : (session.reply (kind.payload G) x0 x1 >>= fun reply =>
      Channel.sendMessage "sending OT sender message" reply :
      ExceptT Error (Party G σ) Unit).run.Runs store random es e)
    (hmemory : ∀ event ∈ es, event.OnMemory) :
    SenderCourse G draw level store random (listened ms ++ es) e := by
  rcases runs_reply_bind hvalid h with ⟨hstarved, rfl, rfl⟩ | ⟨u0, v0, u1, v1, r', hdraw, h⟩
  · rw [List.append_nil]
    exact .starves haccepts hstarved
  · obtain ⟨reply, hreply⟩ := exists_replyWith_eq hkind hvalid session u0 v0 u1 v1
    rw [hreply, runs_ok_bind, Channel.sendMessage, LawfulMessage.write_eq, runs_sendBytes] at h
    obtain ⟨answer, rfl, rfl⟩ := h
    have hanswer := hmemory _ (List.mem_singleton_self _)
    cases hanswer with
    | passed => exact .replied haccepts hdraw
    | refused => exact .refused haccepts hdraw

/-- From the checks on. -/
theorem senderCourse_of_request (hkind : kind.IsTotal)
    (hvalid : (kind.payload G).validate x0 x1 = .ok ()) (hrequest : Request level ms m proof)
    (h : (answer (kind.payload G) x0 x1 draw level m proof :
      ExceptT Error (Party G σ) Unit).run.Runs store random es e)
    (hmemory : ∀ event ∈ es, event.OnMemory) :
    SenderCourse G draw level store random (listened ms ++ es) e := by
  rw [answer] at h
  obtain ⟨session, hsound, hproved⟩ | ⟨c, hc⟩ := request_cases (G := G) draw level m proof
  · rw [hsound.ofMessage_eq hproved, runs_ok_bind] at h
    have haccepts : Accepts G draw level ms := ⟨m, proof, session, hrequest, hsound, hproved⟩
    exact senderCourse_of_accepts hkind hvalid haccepts h hmemory
  · rw [hc.ofMessage_eq, runs_error_bind] at h
    obtain ⟨rfl, rfl⟩ := h
    rw [List.append_nil]
    exact .objects hrequest hc

/-- From the proof on. -/
theorem senderCourse_of_message {data : Bytes} (hkind : kind.IsTotal)
    (hvalid : (kind.payload G).validate x0 x1 = .ok ()) (hread : Message.read data = .ok m)
    (h : (Sender.receiveProof level >>= fun proof =>
      answer (kind.payload G) x0 x1 draw level m proof :
      ExceptT Error (Party G σ) Unit).run.Runs store random es e)
    (hmemory : ∀ event ∈ es, event.OnMemory) :
    SenderCourse G draw level store random (listened [data] ++ es) e := by
  cases level with
  | privacy => exact senderCourse_of_request hkind hvalid (.privacy hread) h hmemory
  | malicious =>
    rw [run_receiveProof_bind] at h
    -- The wait for the proof is a run of its own, cut off by a peer that says nothing.
    rcases runs_bind.1 h with ⟨rfl, hwait⟩ | ⟨es₁, es₂, v, s₁, r₁, rfl, hwait, hrest⟩
    · obtain ⟨arrival, rfl, harrival⟩ := runs_receiveMessage.1 hwait
      obtain rfl := Option.map_eq_none_iff.1 harrival.symm
      exact .waits (.message hread)
    · obtain ⟨arrival, rfl, harrival⟩ := runs_receiveMessage.1 hwait
      obtain ⟨answer, rfl, hv⟩ := Option.map_eq_some_iff.1 harrival.symm
      cases hv
      cases hmemory _ (List.mem_append_left _ (List.mem_singleton_self _)) with
      | ended =>
        obtain ⟨rfl, rfl⟩ := runs_error_bind.1 hrest
        exact .lost (.message hread)
      | @heard data' =>
        rw [proofOfArrival_heard, runs_ok_bind] at hrest
        have hrest' : ∀ event ∈ es₂, event.OnMemory :=
          fun event hevent => hmemory event (List.mem_append_right _ hevent)
        have hrequest : Request .malicious [data, data'] m (Message.read data').toOption :=
          .malicious hread
        show SenderCourse G draw .malicious store random (listened [data, data'] ++ es₂) e
        exact senderCourse_of_request hkind hvalid hrequest hrest hrest'

/-- Every run of a sender with accepted inputs is one of these. -/
theorem senderCourse_of_runs (hkind : kind.IsTotal)
    (hvalid : (kind.payload G).validate x0 x1 = .ok ())
    (h : (Sender.transfer draw level (kind.payload G) x0 x1).run.Runs store random es e)
    (hmemory : ∀ event ∈ es, event.OnMemory) : SenderCourse G draw level store random es e := by
  rw [Sender.transfer, hvalid, runs_ok_bind] at h
  rcases h.of_receiveMessage_bind hmemory with ⟨rfl, rfl⟩ | ⟨context, cause, rfl, rfl⟩ |
    ⟨data, reason, hread, rfl, rfl⟩ | ⟨data, m, es', hread, rfl, hrest⟩
  · exact .waits .nil
  · exact .lost .nil
  · exact .unread hread
  · have hmemory' : ∀ event ∈ es', event.OnMemory :=
      fun event hevent => hmemory event (List.mem_append_right _ hevent)
    exact senderCourse_of_message hkind hvalid hread hrest hmemory'

end

/-! ## What follows -/

/-- The sender replies to a request that passes every check and to nothing else; in every
other case nothing is sent, and the error tells what was wrong. -/
structure CarefulSender (G : DlogGroup) (draw : Challenger) (level : Level) (store : σ)
    (random : ByteSource) (es : List Event) (e : Ending σ (Except Error Unit)) : Prop where
  waits_le : waits es ≤ requestLength level
  length_messages_le : (messages es).length ≤ 1
  replies_iff : messages es ≠ [] ↔ Accepts G draw level (heard es) ∧ G.CanDraw 4 random
  succeeds_iff : EndsAs e (.ok ()) ↔ passed es ≠ []
  io_iff : FailsAs e .io ↔ IsCutOff es
  format_iff : FailsAs e .protocolFormat ↔ Unread (heard es)
  cheat_iff : ∀ c, EndsAs e (.error (.cheatAttempt c)) ↔ Objects G draw level (heard es) c
  kind_of_error : ∀ err, EndsAs e (.error err) →
    err.kind = .io ∨ err.kind = .protocolFormat ∨ err.kind = .cheatAttempt
  unfinished : e = none →
    .received none ∈ es ∨ Accepts G draw level (heard es) ∧ ¬ G.CanDraw 4 random
  /-- The store is left alone, and so is the randomness unless a reply was made. -/
  untouched : ∀ v s r, e = some (v, s, r) → s = store ∧ (messages es = [] → r = random)

section
variable {store : σ} {random : ByteSource} {e : Ending σ (Except Error Unit)}

/-- Every course of the sender is careful. -/
theorem SenderCourse.careful (h : SenderCourse G draw level store random es e) :
    CarefulSender G draw level store random es e := by
  -- What was heard decides the verdict, so each course settles the fields by itself.
  cases h with
  | waits h =>
    have hlen := h.length_lt
    constructor <;> simp [h.not_accepts, h.not_objects, h.not_unread]
    case waits_le => omega
  | lost h =>
    have hlen := h.length_lt
    constructor <;> simp [h.not_accepts, h.not_objects, h.not_unread, Error.kind]
    case waits_le => omega
  | unread h =>
    have hunread : Unread [_] := .cons h
    have hpos := requestLength_pos level
    constructor <;> simp [hunread, hunread.not_accepts, hunread.not_objects, Error.kind]
    case waits_le => omega
  | objects h hc =>
    have hlen := h.length_eq
    have hrefused := hc.not_accepts h
    constructor <;> simp [hlen, hrefused, h.not_unread, h.objects_iff, hc.eq_iff, Error.kind]
  | starves h hdraw =>
    have hlen := h.length_eq
    constructor <;> simp [h, hdraw, hlen, h.not_unread, h.not_objects]
  | replied h hdraw =>
    have hlen := h.length_eq
    constructor <;> simp [h, hdraw, hlen, h.not_unread, h.not_objects]
  | refused h hdraw =>
    have hlen := h.length_eq
    constructor <;> simp [h, hdraw, hlen, h.not_unread, h.not_objects, Error.kind]

/-- Whatever the peer does at the other end of a memory channel (`Actor.exists_met_of_faces`),
inputs are refused before anything happens or not at all, and otherwise the sender is
careful. -/
theorem careful_of_runs (hkind : kind.IsTotal)
    (h : (Sender.transfer draw level (kind.payload G) x0 x1).run.Runs store random es e)
    (hmemory : ∀ event ∈ es, event.OnMemory) :
    (FailsAs e .invalidInput ↔ ∃ err, (kind.payload G).validate x0 x1 = .error err) ∧
      (∀ err, (kind.payload G).validate x0 x1 = .error err →
        es = [] ∧ e = some (.error err, store, random)) ∧
      ((kind.payload G).validate x0 x1 = .ok () →
        CarefulSender G draw level store random es e) := by
  cases hvalid : (kind.payload G).validate x0 x1 with
  | error err =>
    rw [Sender.transfer, hvalid] at h
    obtain ⟨rfl, rfl⟩ := runs_error_bind.1 h
    refine ⟨by simp [PayloadKind.kind_of_validate_eq_error hvalid], ?_, by simp⟩
    rintro _ ⟨⟩
    exact ⟨rfl, rfl⟩
  | ok u =>
    have hcareful := (senderCourse_of_runs hkind hvalid h hmemory).careful
    refine ⟨⟨?_, by simp⟩, by simp, fun _ => hcareful⟩
    rintro ⟨err, hend, herr⟩
    have hkinds := hcareful.kind_of_error err hend
    simp [herr] at hkinds

end

/-- The sender of 2 and 3 modulo 23 replies to a request with a proof. -/
theorem careful_of_runs_small :
    ∃ es e, (Sender.transfer (fun _ _ n => List.replicate n 0) .malicious
        (PayloadKind.groupElement.payload SafePrime.small.group) (2 : Nat) (3 : Nat) :
        ExceptT Error (Party SafePrime.small.group Unit) Unit).run.Runs () (SafePrime.threes 0)
          es e ∧
      (∀ event ∈ es, event.OnMemory) ∧ EndsAs e (.ok ()) ∧ passed es ≠ [] ∧
      Accepts SafePrime.small.group (fun _ _ n => List.replicate n 0) .malicious (heard es) := by
  let d : TransferDraws SafePrime.small.group :=
    ⟨SafePrime.three, SafePrime.three, SafePrime.three, SafePrime.three, SafePrime.three,
      SafePrime.three, SafePrime.three, SafePrime.three⟩
  have hvalid : (PayloadKind.groupElement.payload SafePrime.small.group).validate
      (2 : Nat) (3 : Nat) = .ok () := by rfl
  have hdrawn := SafePrime.drawn_threes 4 0
  obtain ⟨hα, hβ, hγ, hnonce⟩ := @residues_ne_zero _ d .malicious _ _ _ hdrawn
  have haccepted := @TransferDraws.ofMessage_message _ _ d .one (fun _ _ n => List.replicate n 0)
    .malicious hα hβ hγ hnonce
  have hkeys : LawfulGroup.residue d.gamma ≠ d.shared := by
    show (3 : ZMod 11) ≠ 3 * 3
    decide
  rw [if_neg hkeys] at haccepted
  obtain ⟨reply, hreply⟩ := @exists_replyWith_eq SafePrime.small.group .groupElement _ _ trivial
    hvalid (d.session .one) d.u0 d.v0 d.u1 d.v1
  let D : Dialogue := request d (fun _ _ n => List.replicate n 0) .malicious .one ++
    [(.two, LawfulMessage.text reply)]
  have hsays : Says .two D (Sender.transfer (fun _ _ n => List.replicate n 0) .malicious
      (PayloadKind.groupElement.payload SafePrime.small.group) (2 : Nat) (3 : Nat) :
      ExceptT Error (Party SafePrime.small.group Unit) Unit) () (SafePrime.threes 0) (.ok ()) ()
        (SafePrime.threes 16) := by
    refine keeps_sender hvalid ?_
    refine (says_except haccepted).bind (D := []) ?_
    refine (says_reply hvalid hdrawn hreply).bind (D := []) ?_
    exact says_sendMessage _ reply
  have hmemory := Dialogue.onMemory_events .two D
  have htotal : PayloadKind.groupElement.IsTotal := trivial
  obtain ⟨-, -, hcareful⟩ := careful_of_runs htotal hsays.runs hmemory
  have hcareful := hcareful hvalid
  have hpassed := hcareful.succeeds_iff.1 (endsAs_some.2 rfl)
  have hmessages : messages (Dialogue.events .two D) ≠ [] := by
    intro hnone
    have hsublist := passed_sublist_messages (Dialogue.events .two D)
    rw [hnone] at hsublist
    exact hpassed (List.sublist_nil.1 hsublist)
  exact ⟨_, _, hsays.runs, hmemory, endsAs_some.2 rfl, hpassed,
    (hcareful.replies_iff.1 hmessages).1⟩

end Transfer

end TwoParty
