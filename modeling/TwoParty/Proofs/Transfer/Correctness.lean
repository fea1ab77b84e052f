import TwoParty.Proofs.Duet.Says
import TwoParty.Proofs.Group.SafePrime
import TwoParty.Proofs.Transfer.Honest
import TwoParty.Proofs.Wire.Messages

/-!
# TwoParty.Proofs.Transfer.Correctness

An honest receiver and an honest sender at the two ends of a memory channel.

Both keep to one dialogue, so the schedule does not matter; what each of them ends with
is a function of the exponents that they draw (`Outcome`).
-/

namespace TwoParty

open LawfulGroup

namespace Transfer

variable {G : DlogGroup} {d : TransferDraws G} {choice : ChoiceBit}
  {draw : Challenger} {level : Level} {kind : PayloadKind} {x0 x1 : kind.Input G}

/-! ## The dialogue -/

def request (d : TransferDraws G) (draw : Challenger) (level : Level) (choice : ChoiceBit) :
    Dialogue :=
  (.one, LawfulMessage.text (d.message choice)) ::
    match d.proof draw level choice with
    | none => []
    | some proof => [(.one, LawfulMessage.text proof)]

section
variable {σ : Type} {late : Bool} {E : Dialogue} {store : σ} {random random' : ByteSource}

/-! ## The receiver -/

/-- The receiver draws its exponents, and is quiet. -/
theorem says_start (h : G.Drawn random (d.receiver level) random') :
    Says .one [] (liftM (ReceiverSession.start G draw level choice : Party G σ _) :
      ExceptT Error (Party G σ) _) store random
      (.ok (⟨choice, d.beta⟩, d.message choice, d.proof draw level choice)) store random' := by
  refine says_lift ?_
  cases level with
  | privacy =>
    obtain ⟨r₁, hα, r₂, hβ, r₃, hγ, rfl⟩ := h
    exact .exponent hα (.exponent hβ (.exponent hγ (.done ⟨rfl, rfl, rfl⟩)))
  | malicious =>
    obtain ⟨r₁, hα, r₂, hβ, r₃, hγ, r₄, hk, rfl⟩ := h
    exact .exponent hα (.exponent hβ (.exponent hγ (.exponent hk (.done ⟨rfl, rfl, rfl⟩))))

/-- What the receiver does after its request. -/
def awaitReply (P : Payload G) (session : ReceiverSession G) :
    ExceptT Error (Party G σ) P.Input := do
  let reply ← Channel.receiveMessage "receiving OT sender message"
  let verified ← session.check P reply
  verified.output

/-- The receiver hears the reply and makes of it what it can. -/
theorem says_awaitReply {P : Payload G} {session : ReceiverSession G} {reply : SenderMessage}
    {v : Except Error P.Input} (h : session.check P reply >>= VerifiedReply.output = v) :
    Says .one [(.two, LawfulMessage.text reply)] (awaitReply P session) store random v store
      random :=
  (says_receiveMessage _ reply).bind (E := []) (says_except_bind h)

/-- The receiver's part up to there. -/
def ask (draw : Challenger) (level : Level) (choice : ChoiceBit) :
    ExceptT Error (Party G σ) (ReceiverSession G) := do
  let (session, message, proof) ← (ReceiverSession.start G draw level choice : Party G σ _)
  Channel.sendMessage "sending OT receiver message" message
  Receiver.sendProof proof
  return session

/-- The receiver's transfer, cut after the request. -/
theorem receiver_eq (P : Payload G) :
    (Receiver.transfer draw level P choice : ExceptT Error (Party G σ) P.Input) = (do
      awaitReply P (← ask draw level choice)) := by
  simp [Receiver.transfer, ask, awaitReply]

/-- The receiver says its request. -/
theorem says_ask (h : G.Drawn random (d.receiver level) random') :
    Says .one (request d draw level choice)
      (ask draw level choice : ExceptT Error (Party G σ) (ReceiverSession G)) store random
      (.ok ⟨choice, d.beta⟩) store random' := by
  refine (says_start h).bind (D := []) (E := request d draw level choice) ?_
  refine (says_sendMessage _ _).bind ?_
  cases level with
  | privacy => exact (says_pure ()).bind (E := []) (says_pure _)
  | malicious => exact (says_sendMessage _ _).bind (E := []) (says_pure _)

/-- The receiver says its request and awaits the reply. -/
theorem keeps_receiver {P : Payload G} {Q : Except Error P.Input → σ → ByteSource → Prop}
    (h : G.Drawn random (d.receiver level) random')
    (hreply : (awaitReply P ⟨choice, d.beta⟩).run.Keeps .one late Q E store random') :
    (Receiver.transfer draw level P choice).run.Keeps .one late Q
      (request d draw level choice ++ E) store random := by
  rw [receiver_eq]
  exact (says_ask h).bind hreply

/-! ## The sender -/

/-- The sender hears the proof if there is one. -/
theorem says_receiveProof :
    Says .two
      (match d.proof draw level choice with
        | none => []
        | some proof => [(.one, LawfulMessage.text proof)])
      (Sender.receiveProof level : ExceptT Error (Party G σ) (Option DlogProof)) store random
      (.ok (d.proof draw level choice)) store random := by
  cases level with
  | privacy => exact says_pure none
  | malicious =>
    refine Party.Keeps.bind_late (says_receiveMessage _ _) ?_
    intro v s r hv
    obtain ⟨rfl, rfl, rfl⟩ := hv
    exact .done ⟨rfl, rfl, rfl⟩

/-- What the sender does with a request that it read. -/
def answer (P : Payload G) (x0 x1 : P.Input) (draw : Challenger) (level : Level)
    (message : ReceiverMessage) (proof : Option DlogProof) : ExceptT Error (Party G σ) Unit := do
  let session ← SenderSession.ofMessage G draw level message proof
  Channel.sendMessage "sending OT sender message" (← session.reply P x0 x1)

/-- The sender's part up to there. -/
def listen (level : Level) : ExceptT Error (Party G σ) (ReceiverMessage × Option DlogProof) := do
  let message ← Channel.receiveMessage "receiving OT receiver message"
  let proof ← Sender.receiveProof level
  return (message, proof)

/-- The sender's transfer, cut after the request. -/
theorem sender_eq (P : Payload G) (x0 x1 : P.Input) :
    (Sender.transfer draw level P x0 x1 : ExceptT Error (Party G σ) Unit) = (do
      P.validate x0 x1
      let (message, proof) ← listen level
      answer P x0 x1 draw level message proof) := by
  simp [Sender.transfer, listen, answer]

/-- The sender hears the request of an honest receiver. -/
theorem says_listen :
    Says .two (request d draw level choice)
      (listen level : ExceptT Error (Party G σ) (ReceiverMessage × Option DlogProof)) store random
      (.ok (d.message choice, d.proof draw level choice)) store random := by
  refine (says_receiveMessage _ _).bind ?_
  rw [← List.append_nil (match d.proof draw level choice with | none => _ | some proof => _)]
  exact says_receiveProof.bind (says_pure _)

/-- The sender reads the request. -/
theorem keeps_sender {P : Payload G} {x0 x1 : P.Input}
    {Q : Except Error Unit → σ → ByteSource → Prop} (hvalid : P.validate x0 x1 = .ok ())
    (h : (answer P x0 x1 draw level (d.message choice) (d.proof draw level choice)).run.Keeps
      .two late Q E store random) :
    (Sender.transfer draw level P x0 x1).run.Keeps .two late Q
      (request d draw level choice ++ E) store random := by
  rw [sender_eq]
  refine (says_except hvalid).bind (D := []) (E := request d draw level choice ++ E) ?_
  exact says_listen.bind h

/-- A pair of exponents is drawn for one input, and nothing is said. -/
theorem says_drawPair {r₁ r₂ : ByteSource} {u v : G.Exponent} (hu : G.sample random = some (u, r₁))
    (hv : G.sample r₁ = some (v, r₂)) :
    Says .two [] (liftM (SenderSession.drawPair : Party G σ _) : ExceptT Error (Party G σ) _) store
      random (.ok (u, v)) store r₂ := by
  refine says_lift ?_
  exact .exponent hu (.exponent hv (.done ⟨rfl, rfl, rfl⟩))

/-- The sender draws its exponents and replies. -/
theorem says_reply {P : Payload G} {x0 x1 : P.Input} {session : SenderSession G}
    {v : Except Error SenderMessage} (hvalid : P.validate x0 x1 = .ok ())
    (h : G.Drawn random d.sender random')
    (hreply : session.replyWith P x0 x1 d.u0 d.v0 d.u1 d.v1 = v) :
    Says .two [] (session.reply P x0 x1 : ExceptT Error (Party G σ) SenderMessage) store random
      v store random' := by
  obtain ⟨r₁, hu0, r₂, hv0, r₃, hu1, r₄, hv1, rfl⟩ := h
  refine (says_except hvalid).bind (E := []) ?_
  refine (says_drawPair hu0 hv0).bind (E := []) ?_
  refine (says_drawPair hu1 hv1).bind (E := []) ?_
  exact says_except hreply

end

/-! ## The two together -/

/-- What the two sides end with: the receiver stands at side `one`. -/
abbrev Result (P : Payload G) : Side → Type
  | .one => Except Error P.Input
  | .two => Except Error Unit

/-- The receiver and the sender, each with a store that it does not use. -/
def parties (σ : Side → Type) (draw : Challenger) (level : Level) (P : Payload G)
    (choice : ChoiceBit) (x0 x1 : P.Input) : (s : Side) → Party G (σ s) (Result P s)
  | .one => (Receiver.transfer draw level P choice).run
  | .two => (Sender.transfer draw level P x0 x1).run

variable [LawfulGroup G] {σ : Side → Type} {store : (s : Side) → σ s} {random : Side → ByteSource}
  {rest₁ rest₂ : ByteSource}

/-- None of the exponents that the receiver draws is zero. -/
theorem residues_ne_zero {source rest : ByteSource} (h : G.Drawn source (d.receiver level) rest) :
    residue d.alpha ≠ 0 ∧ residue d.beta ≠ 0 ∧ residue d.gamma ≠ 0 ∧
      (level = .malicious → residue d.nonce ≠ 0) := by
  have hne := residue_ne_zero_of_drawn h
  cases level with
  | privacy => simp_all [TransferDraws.receiver]
  | malicious => simp_all [TransferDraws.receiver]

/-- Equal keys: the sender refuses the request and the receiver loses its peer. -/
theorem alwaysEnds_of_keys_eq (hvalid : (kind.payload G).validate x0 x1 = .ok ())
    (h₁ : G.Drawn (random .one) (d.receiver level) rest₁) (hkeys : residue d.gamma = d.shared) :
    (Duet.start (parties σ draw level (kind.payload G) choice x0 x1) store random).AlwaysEnds
      fun e => ∃ r s, e.EndsWith .one r ∧ IsIo r ∧ e.EndsWith .two s ∧
        s = .error (.cheatAttempt .equalKeys) ∧
        request d draw level choice ++ [] <+: e.line.sent := by
  obtain ⟨hα, hβ, hγ, hnonce⟩ := residues_ne_zero h₁
  have hrefused := @TransferDraws.ofMessage_message G _ d choice draw level hα hβ hγ hnonce
  rw [if_pos hkeys] at hrefused
  refine Duet.alwaysEnds_endsWith .two ?_ ?_
  · refine keeps_receiver h₁ ?_
    exact keeps_receiveMessage_late _ fun v hv => hv
  · refine keeps_sender hvalid ?_
    exact (says_except hrefused).bind_error rfl

/-- Different keys: the sender replies, and the receiver takes what it finds. -/
theorem alwaysEnds_of_keys_ne {c0 c1 : Bytes} (hvalid : (kind.payload G).validate x0 x1 = .ok ())
    (h₁ : G.Drawn (random .one) (d.receiver level) rest₁)
    (h₂ : G.Drawn (random .two) d.sender rest₂) (hkeys : residue d.gamma ≠ d.shared)
    (hmasked : kind.Masked x0 x1 (d.keyLog choice .zero) (d.keyLog choice .one) c0 c1) :
    (Duet.start (parties σ draw level (kind.payload G) choice x0 x1) store random).AlwaysEnds
      fun e => ∃ r s, e.EndsWith .one r ∧ r = d.received choice kind x0 x1 ∧ e.EndsWith .two s ∧
        s = .ok () ∧ request d draw level choice ++ [(.two, LawfulMessage.text (d.reply c0 c1))]
          <+: e.line.sent := by
  obtain ⟨hα, hβ, hγ, hnonce⟩ := residues_ne_zero h₁
  have haccepted := @TransferDraws.ofMessage_message G _ d choice draw level hα hβ hγ hnonce
  rw [if_neg hkeys] at haccepted
  refine Duet.alwaysEnds_endsWith .one ?_ ?_
  · exact keeps_receiver h₁ ((says_awaitReply (TransferDraws.check_output hmasked)).keeps rfl)
  · refine keeps_sender hvalid ?_
    refine (says_except haccepted).bind (D := []) ?_
    refine (says_reply hvalid h₂ (TransferDraws.replyWith_eq hmasked)).bind (D := []) ?_
    exact (says_sendMessage _ (d.reply c0 c1)).keeps rfl

/-- What the two sides end with, the receiver with `r` and the sender with `s`. -/
structure Outcome (d : TransferDraws G) (choice : ChoiceBit) (kind : PayloadKind)
    (x0 x1 : kind.Input G) (r : Except Error (kind.Input G)) (s : Except Error Unit) : Prop where
  succeeds : r = .ok (choice.select x0 x1) ∧ s = .ok () ↔ d.Succeeds choice kind x0 x1
  chosen : ∀ x, r = .ok x → x = choice.select x0 x1
  equalKeys : residue d.gamma = residue d.alpha * residue d.beta →
    IsIo r ∧ s = .error (.cheatAttempt .equalKeys)
  otherwise : residue d.gamma ≠ residue d.alpha * residue d.beta →
    r = d.received choice kind x0 x1 ∧ s = .ok ()

/-- Whatever the schedule, an honest transfer ends with the chosen input unless one of
the listed mishaps occurs, and each mishap has its own failure. -/
theorem alwaysEnds_outcome (draw : Challenger) (hkind : kind.IsTotal)
    (hvalid : (kind.payload G).validate x0 x1 = .ok ())
    (h₁ : G.Drawn (random .one) (d.receiver level) rest₁)
    (h₂ : G.Drawn (random .two) d.sender rest₂) :
    (Duet.start (parties σ draw level (kind.payload G) choice x0 x1) store random).AlwaysEnds
      fun e => ∃ r s, e.EndsWith .one r ∧ e.EndsWith .two s ∧ Outcome d choice kind x0 x1 r s := by
  -- With equal keys the sender refuses the request; otherwise the dialogue goes to its end.
  by_cases hkeys : residue d.gamma = d.shared
  · refine (alwaysEnds_of_keys_eq hvalid h₁ hkeys).mono ?_
    intro e he
    obtain ⟨r, s, hr, ⟨error, rfl, hio⟩, hs, rfl, -⟩ := he
    refine ⟨_, _, hr, hs, ⟨?_, ?_, fun _ => ⟨⟨error, rfl, hio⟩, rfl⟩, fun hne => absurd hkeys hne⟩⟩
    · constructor
      · intro h
        cases h.1
      · intro h
        exact absurd hkeys h.keys
    · intro x hx
      contradiction
  · obtain ⟨c0, c1, hmasked⟩ :=
      PayloadKind.exists_masked (d.keyLog choice .zero) (d.keyLog choice .one) hkind hvalid
    refine (alwaysEnds_of_keys_ne hvalid h₁ h₂ hkeys hmasked).mono ?_
    intro e he
    obtain ⟨r, s, hr, rfl, hs, rfl, -⟩ := he
    refine ⟨_, _, hr, hs, ⟨?_, ?_, fun heq => absurd heq hkeys, fun _ => ⟨rfl, rfl⟩⟩⟩
    · rw [TransferDraws.received_eq_ok_iff]
      constructor
      · intro h
        obtain ⟨⟨h0, h1, hvisible⟩, -⟩ := h
        exact ⟨hkeys, h0, h1, hvisible⟩
      · intro h
        obtain ⟨-, h0, h1, hvisible⟩ := h
        exact ⟨⟨h0, h1, hvisible⟩, rfl⟩
    · intro x hx
      rw [TransferDraws.received] at hx
      split at hx
      · contradiction
      · exact (Except.ok.inj hx).symm

/-- The transfer of 3 out of 2 and 3 modulo 23, with a proof. -/
theorem alwaysEnds_outcome_small :
    (Duet.start (parties (fun _ => Unit) (fun _ _ n => List.replicate n 0) .malicious
        (PayloadKind.groupElement.payload SafePrime.small.group) .one (2 : Nat) (3 : Nat))
      (fun _ => ()) (fun _ => SafePrime.threes 0)).AlwaysEnds
      fun e => e.EndsWith .one (.ok (3 : Nat)) ∧ e.EndsWith .two (.ok ()) := by
  let d : TransferDraws SafePrime.small.group :=
    ⟨SafePrime.three, SafePrime.three, SafePrime.three, SafePrime.three, SafePrime.three,
      SafePrime.three, SafePrime.three, SafePrime.three⟩
  have hsucceeds : d.Succeeds .one .groupElement (2 : Nat) (3 : Nat) := by
    refine ⟨?_, ?_, ?_, ?_, ?_⟩
    · show (3 : ZMod 11) ≠ 3 * 3
      decide
    · show (3 : ZMod 11) * 3 + 3 ≠ 0
      decide
    · show (3 : ZMod 11) * 3 + 3 ≠ 0
      decide
    · decide +kernel
    · decide +kernel
  have hvalid : (PayloadKind.groupElement.payload SafePrime.small.group).validate
      (2 : Nat) (3 : Nat) = .ok () := by rfl
  have h := @alwaysEnds_outcome SafePrime.small.group d .one .malicious .groupElement
    (2 : Nat) (3 : Nat) _ (fun _ => Unit) (fun _ => ()) (fun _ => SafePrime.threes 0) _ _
    (fun _ _ n => List.replicate n 0) trivial hvalid (SafePrime.drawn_threes 4 0)
    (SafePrime.drawn_threes 4 0)
  refine h.mono fun e he => ?_
  obtain ⟨r, s, hr, hs, houtcome⟩ := he
  obtain ⟨rfl, rfl⟩ := houtcome.succeeds.2 hsucceeds
  exact ⟨hr, hs⟩

end Transfer

end TwoParty
