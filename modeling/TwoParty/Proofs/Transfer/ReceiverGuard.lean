import TwoParty.Proofs.Solo.Memory
import TwoParty.Proofs.Transfer.Correctness
import TwoParty.Proofs.Transfer.Reply

/-!
# TwoParty.Proofs.Transfer.ReceiverGuard

The receiver of a transfer against any peer.

The receiver says its request, waits once and ends with an input exactly when what it hears
is a usable reply.  `ReceiverCourse` lists how far it can get, every run is one of these
(`receiverCourse_of_runs`), and `CarefulReceiver` is read off the cases
(`ReceiverCourse.careful`).
-/

namespace TwoParty

open Party

namespace Transfer

variable {G : DlogGroup} {σ : Type} {kind : PayloadKind} {draw : Challenger} {level : Level}
  {choice : ChoiceBit} {store s : σ} {random r : ByteSource} {es : List Event}

/-! ## The request -/

def receiverDraws : Level → Nat
  | .privacy => 3
  | .malicious => 4

/-- The receiver draws its exponents, or cannot. -/
theorem runs_start_bind {β : Type}
    {f : ReceiverSession G × ReceiverMessage × Option DlogProof → ExceptT Error (Party G σ) β}
    {e : Ending σ (Except Error β)}
    (h : (liftM (ReceiverSession.start G draw level choice : Party G σ _) >>= f :
      ExceptT Error (Party G σ) β).run.Runs s r es e) :
    (¬ G.CanDraw (receiverDraws level) r ∧ es = [] ∧ e = none) ∨
      ∃ session message proof r', session.choice = choice ∧
        (f (session, message, proof)).run.Runs s r' es e := by
  cases h with
  | starved hα =>
    refine .inl ⟨?_, rfl, rfl⟩
    cases level <;> simp [receiverDraws, DlogGroup.canDraw_succ, hα]
  | exponent hα h =>
    cases h with
    | starved hβ =>
      refine .inl ⟨?_, rfl, rfl⟩
      cases level <;> simp [receiverDraws, DlogGroup.canDraw_succ, hα, hβ]
    | exponent hβ h =>
      cases h with
      | starved hγ =>
        refine .inl ⟨?_, rfl, rfl⟩
        cases level <;> simp [receiverDraws, DlogGroup.canDraw_succ, hα, hβ, hγ]
      | exponent hγ h =>
        cases level with
        | privacy => exact .inr ⟨_, _, _, _, rfl, h⟩
        | malicious =>
          cases h with
          | starved hk =>
            exact .inl ⟨by simp [receiverDraws, DlogGroup.canDraw_succ, hα, hβ, hγ, hk], rfl, rfl⟩
          | exponent hk h => exact .inr ⟨_, _, _, _, rfl, h⟩

def sayRequest (message : ReceiverMessage) (proof : Option DlogProof) :
    ExceptT Error (Party G σ) Unit := do
  Channel.sendMessage "sending OT receiver message" message
  Receiver.sendProof proof

/-- The request is one message, or two with the proof. -/
theorem announces_sayRequest (message : ReceiverMessage) (proof : Option DlogProof) :
    Announces (sayRequest message proof : ExceptT Error (Party G σ) Unit) s r
      (LawfulMessage.text message :: (proof.map LawfulMessage.text).toList)
      (some (.ok (), s, r)) := by
  cases proof with
  | none => exact .bind (announces_sendMessage _ message) (.quiet (says_pure ()))
  | some proof => exact .bind (announces_sendMessage _ message) (announces_sendMessage _ proof)

/-! ## How far the receiver gets -/

/-- What the receiver blames the sender for. -/
inductive Blames (G : DlogGroup) (kind : PayloadKind) (data : Bytes) : Error → Prop where
  | unread {reason} (h : (Message.read data : Except _ SenderMessage) = .error reason) :
    Blames G kind data (.protocolFormat (.unreadable "receiving OT sender message" reason))
  | faulty {m err} (hread : Message.read data = .ok m) (h : Faulty G kind m err) :
    Blames G kind data err

/-- The events of the receiver and the end of its run. -/
inductive ReceiverCourse (G : DlogGroup) (level : Level) (kind : PayloadKind)
    (choice : ChoiceBit) (random : ByteSource) :
    List Event → Ending σ (Except Error (kind.Input G)) → Prop where
  | starves (h : ¬ G.CanDraw (receiverDraws level) random) :
    ReceiverCourse G level kind choice random [] none
  | refused {said m context cause s r} :
    ReceiverCourse G level kind choice random
      (delivered said ++ [.sent m (some (.error MemoryChannel.sendError))])
      (some (.error (.io context cause), s, r))
  | waits {said} :
    ReceiverCourse G level kind choice random (delivered said ++ [.received none]) none
  | lost {said context cause s r} :
    ReceiverCourse G level kind choice random
      (delivered said ++ [.received (some (.error MemoryChannel.receiveError))])
      (some (.error (.io context cause), s, r))
  | blames {said data err s r} (h : Blames G kind data err) :
    ReceiverCourse G level kind choice random (delivered said ++ listened [data])
      (some (.error err, s, r))
  | recovers {said data m x s r} (hread : Message.read data = .ok m) (h : Usable G kind m)
    (hfits : kind.Fits (choice.select m.c0 m.c1) x) :
    ReceiverCourse G level kind choice random (delivered said ++ listened [data])
      (some (.ok x, s, r))

section
variable {e : Ending σ (Except Error (kind.Input G))} {said : List Bytes}
  {session : ReceiverSession G}

/-- From the wait on. -/
theorem receiverCourse_of_awaitReply (hkind : kind.IsTotal)
    (h : (awaitReply (kind.payload G) session).run.Runs s r es e)
    (hmemory : ∀ event ∈ es, event.OnMemory) :
    ReceiverCourse G level kind session.choice random (delivered said ++ es) e := by
  rcases h.of_receiveMessage_bind hmemory with ⟨rfl, rfl⟩ | ⟨context, cause, rfl, rfl⟩ |
    ⟨data, reason, hread, rfl, rfl⟩ | ⟨data, m, es', hread, rfl, hrest⟩
  · exact .waits
  · exact .lost
  · exact .blames (.unread hread)
  · obtain husable | ⟨err, hfaulty⟩ := usable_or_faulty G kind m
    · obtain ⟨v, x, hcheck, hx, hfits⟩ := husable.exists_output hkind session
      rw [hcheck, runs_ok_bind, hx] at hrest
      obtain ⟨rfl, rfl⟩ := runs_except.1 hrest
      rw [List.append_nil]
      exact .recovers hread husable hfits
    · rw [hfaulty.check_eq, runs_error_bind] at hrest
      obtain ⟨rfl, rfl⟩ := hrest
      rw [List.append_nil]
      exact .blames (.faulty hread hfaulty)

/-- Every run of a receiver is one of these. -/
theorem receiverCourse_of_runs (hkind : kind.IsTotal)
    (h : (Receiver.transfer draw level (kind.payload G) choice).run.Runs store random es e)
    (hmemory : ∀ event ∈ es, event.OnMemory) :
    ReceiverCourse G level kind choice random es e := by
  rcases runs_start_bind h with ⟨hstarved, rfl, rfl⟩ |
    ⟨session, message, proof, random', rfl, hrun⟩
  · exact .starves hstarved
  -- The run is that of the request and then of the wait.
  · have hsplit : (sayRequest message proof >>= fun _ =>
        awaitReply (kind.payload G) session).run.Runs store random' es e := by
      rw [sayRequest, LawfulMonad.bind_assoc]
      exact hrun
    rcases (announces_sayRequest message proof).of_bind hsplit with hstop | ⟨-, hout, -⟩ |
      ⟨err, s', r', -, hout, -⟩ | ⟨es', u, s', r', rfl, hout, hrest⟩
    · cases hstop with
      | refused _ hio =>
        -- On a memory channel a send is refused only if the peer is gone, and never waits.
        cases hmemory _ (List.mem_append_right _ (List.mem_singleton_self _))
        obtain ⟨context, cause, rfl⟩ := Error.exists_of_kind_eq_io hio
        exact .refused
      | stuck => cases hmemory _ (List.mem_append_right _ (List.mem_singleton_self _))
    · cases hout
    · cases hout
    · cases hout
      refine receiverCourse_of_awaitReply hkind hrest ?_
      exact fun event hevent => hmemory event (List.mem_append_right _ hevent)

end

/-! ## What follows -/

/-- The receiver ends with the chosen input if and only if what it said got through and what
it heard is a usable reply; what it hears is never its own mistake. -/
structure CarefulReceiver (G : DlogGroup) (level : Level) (kind : PayloadKind)
    (choice : ChoiceBit) (random : ByteSource) (es : List Event)
    (e : Ending σ (Except Error (kind.Input G))) : Prop where
  succeeds_iff : (∃ x, EndsAs e (.ok x)) ↔ passed es = messages es ∧
    ∃ data m, heard es = [data] ∧ Message.read data = .ok m ∧ Usable G kind m
  fits : ∀ x data (m : SenderMessage), EndsAs e (.ok x) → heard es = [data] →
    Message.read data = .ok m → kind.Fits (choice.select m.c0 m.c1) x
  io_iff : FailsAs e .io ↔ IsCutOff es
  kind_of_unheard : ∀ err, EndsAs e (.error err) → heard es = [] → err.kind = .io
  blames_iff : ∀ err, EndsAs e (.error err) ∧ heard es ≠ [] ↔
    ∃ data, heard es = [data] ∧ Blames G kind data err
  isAbort : ∀ err, EndsAs e (.error err) → heard es ≠ [] → err.isAbort = true
  kind_of_error : ∀ err, EndsAs e (.error err) →
    err.kind ≠ .invalidInput ∧ err.kind ≠ .serialization
  unfinished : e = none → .received none ∈ es ∨ ¬ G.CanDraw (receiverDraws level) random

section
variable {data : Bytes} {m : SenderMessage} {err err' : Error}

/-- What the sender is blamed for ends the protocol. -/
theorem Blames.isAbort (h : Blames G kind data err) : err.isAbort = true := by
  cases h with
  | unread => rfl
  | faulty _ h => exact h.isAbort

/-- The sender is not blamed for a usable reply. -/
theorem Blames.not_usable (hkind : kind.IsTotal) (h : Blames G kind data err)
    (hread : Message.read data = .ok m) : ¬ Usable G kind m := by
  cases h with
  | unread h => exact absurd (hread.symm.trans h) (by simp)
  | faulty hread' h =>
    cases hread.symm.trans hread'
    exact h.not_usable hkind

/-- There is only one thing to blame the sender for. -/
theorem Blames.unique (h : Blames G kind data err) (h' : Blames G kind data err') :
    err = err' := by
  cases h with
  | unread h =>
    cases h' with
    | unread h' =>
      cases h.symm.trans h'
      rfl
    | faulty hread => exact absurd (hread.symm.trans h) (by simp)
  | faulty hread h =>
    cases h' with
    | unread h' => exact absurd (hread.symm.trans h') (by simp)
    | faulty hread' h' =>
      cases hread.symm.trans hread'
      exact h.unique h'

theorem Blames.eq_iff (h : Blames G kind data err) : err = err' ↔ Blames G kind data err' := by
  constructor
  · rintro rfl
    exact h
  · exact h.unique

end

section
variable {e : Ending σ (Except Error (kind.Input G))}

/-- Every course of the receiver is careful. -/
theorem ReceiverCourse.careful (hkind : kind.IsTotal)
    (h : ReceiverCourse G level kind choice random es e) :
    CarefulReceiver G level kind choice random es e := by
  cases h with
  | starves h => constructor <;> simp [h]
  | refused => constructor <;> simp [Error.kind]
  | waits => constructor <;> simp
  | lost => constructor <;> simp [Error.kind]
  | @blames _ data err _ _ h =>
    -- One blame at most, and never for a usable reply: that settles all the fields.
    have hunusable (m : SenderMessage) (hread : Message.read data = .ok m) : ¬ Usable G kind m :=
      h.not_usable hkind hread
    have habort := (Error.isAbort_iff _).1 h.isAbort
    have hio : err.kind ≠ .io := by rcases habort with hk | hk <;> simp [hk]
    have hown : err.kind ≠ .invalidInput ∧ err.kind ≠ .serialization := by
      rcases habort with hk | hk <;> simp [hk]
    constructor
    case succeeds_iff => simpa using hunusable
    case blames_iff => simp [h.eq_iff]
    case isAbort => simpa using habort
    all_goals simp [hio, hown]
  | @recovers _ data m x _ _ hread h hfits =>
    have hblameless (err : Error) : ¬ Blames G kind data err :=
      fun hblames => hblames.not_usable hkind hread h
    constructor <;> simp [hread, h, hblameless]
    case fits =>
      rintro _ _ m' rfl rfl hread'
      cases hread.symm.trans hread'
      exact hfits

/-- Whatever the peer does at the other end of a memory channel (`Actor.exists_met_of_faces`),
the receiver is careful, and it recovers its input from every reply that it has accepted. -/
theorem recovers_of_runs (hkind : kind.Admitted)
    (h : (Receiver.transfer draw level (kind.payload G) choice).run.Runs store random es e)
    (hmemory : ∀ event ∈ es, event.OnMemory) :
    CarefulReceiver G level kind choice random es e ∧
      ∀ (session : ReceiverSession G) (m : SenderMessage)
        (v : VerifiedReply G (kind.payload G)),
        session.check (kind.payload G) m = .ok v → ∃ x, v.output = .ok x :=
  ⟨(receiverCourse_of_runs hkind.isTotal h hmemory).careful hkind.isTotal,
    fun _ _ _ hcheck => exists_output_of_check hkind.isTotal hcheck⟩

end

/-- A receiver at the malicious level that takes the second of two byte strings, masked with
HKDF, from a usable reply. -/
theorem recovers_of_runs_small :
    ∃ es e, (Receiver.transfer (fun _ _ n => List.replicate n 0) .malicious
        ((PayloadKind.byteArray (.hkdf [])).payload SafePrime.small.group) .one :
        ExceptT Error (Party SafePrime.small.group Unit) Bytes).run.Runs () (SafePrime.threes 0)
          es e ∧
      (∀ event ∈ es, event.OnMemory) ∧ EndsAs e (.ok ([2] : Bytes)) ∧
      ∃ data m, heard es = [data] ∧ Message.read data = .ok m ∧
        Usable SafePrime.small.group (.byteArray (.hkdf [])) m := by
  let d : TransferDraws SafePrime.small.group :=
    ⟨SafePrime.three, SafePrime.three, SafePrime.three, SafePrime.three, SafePrime.three,
      SafePrime.three, SafePrime.three, SafePrime.three⟩
  have hadmitted : (PayloadKind.byteArray (.hkdf [])).Admitted := .hkdf []
  have hvalid : ((PayloadKind.byteArray (.hkdf [])).payload SafePrime.small.group).validate
      ([1] : Bytes) ([2] : Bytes) = .ok () := by rfl
  obtain ⟨c0, c1, hmasked⟩ :=
    PayloadKind.exists_masked (d.keyLog .one .zero) (d.keyLog .one .one) hadmitted.isTotal hvalid
  have hreceived : d.received .one (.byteArray (.hkdf [])) ([1] : Bytes) ([2] : Bytes) =
      .ok ([2] : Bytes) := by
    refine (TransferDraws.received_eq_ok_iff _ _).2 ⟨?_, ?_, trivial⟩
    · show (3 : ZMod 11) * 3 + 3 ≠ 0
      decide
    · show (3 : ZMod 11) * 3 + 3 ≠ 0
      decide
  let D : Dialogue := request d (fun _ _ n => List.replicate n 0) .malicious .one ++
    [(.two, LawfulMessage.text (d.reply c0 c1))]
  have hsays : Says .one D (Receiver.transfer (fun _ _ n => List.replicate n 0) .malicious
      ((PayloadKind.byteArray (.hkdf [])).payload SafePrime.small.group) .one :
      ExceptT Error (Party SafePrime.small.group Unit) Bytes) () (SafePrime.threes 0)
        (.ok ([2] : Bytes)) () (SafePrime.threes 16) := by
    refine keeps_receiver (SafePrime.drawn_threes 4 0) ?_
    refine (says_receiveMessage _ (d.reply c0 c1)).bind (E := []) ?_
    exact says_except_bind ((TransferDraws.check_output hmasked).trans hreceived)
  have hmemory := Dialogue.onMemory_events .one D
  obtain ⟨hcareful, -⟩ := recovers_of_runs hadmitted hsays.runs hmemory
  have hends : EndsAs (some ((.ok [2] : Except Error Bytes), (), SafePrime.threes 16)) (.ok [2]) :=
    endsAs_some.2 rfl
  obtain ⟨-, husable⟩ := hcareful.succeeds_iff.1 ⟨_, hends⟩
  exact ⟨_, _, hsays.runs, hmemory, hends, husable⟩

end Transfer

end TwoParty
