import TwoParty.Proofs.Duet.Draws
import TwoParty.Proofs.Transfer.Correctness

/-!
# TwoParty.Proofs.Transfer.Schedule

A transfer between an honest receiver and an honest sender comes to its end or both sides fail,
whatever the group, the payload and the inputs (`concludes_transfer`).

The request is said in any case unless the sender refuses its own inputs.  Either the sender
then gives up, and the receiver notices that its peer is gone, or it replies and both finish
with the reply.
-/

namespace TwoParty

namespace Transfer

variable {G : DlogGroup} {draw : Challenger} {level : Level} {choice : ChoiceBit} {P : Payload G}
  {x0 x1 : P.Input} {σ σ₁ σ₂ : Type} {s : σ} {s₁ : σ₁} {s₂ : σ₂} {r r₁ r₂ : ByteSource}

/-- What a fed receiver draws. -/
theorem exists_drawn_receiver
    (h : (Receiver.transfer draw level P choice : ExceptT Error (Party G σ) _).run.IsFed s r) :
    ∃ (d : TransferDraws G) (rest : ByteSource), G.Drawn r (d.receiver level) rest := by
  cases level with
  | privacy =>
    obtain ⟨α, t₁, hα, h₁⟩ := h.exists_sample
    obtain ⟨β, t₂, hβ, h₂⟩ := h₁.exists_sample
    obtain ⟨γ, t₃, hγ, -⟩ := h₂.exists_sample
    exact ⟨⟨α, β, γ, α, α, α, α, α⟩, t₃, t₁, hα, t₂, hβ, t₃, hγ, rfl⟩
  | malicious =>
    obtain ⟨α, t₁, hα, h₁⟩ := h.exists_sample
    obtain ⟨β, t₂, hβ, h₂⟩ := h₁.exists_sample
    obtain ⟨γ, t₃, hγ, h₃⟩ := h₂.exists_sample
    obtain ⟨k, t₄, hk, -⟩ := h₃.exists_sample
    exact ⟨⟨α, β, γ, k, α, α, α, α⟩, t₄, t₁, hα, t₂, hβ, t₃, hγ, t₄, hk, rfl⟩

/-- What a fed sender draws for its reply. -/
theorem exists_drawn_sender {session : SenderSession G} (hvalid : P.validate x0 x1 = .ok ())
    (h : (session.reply P x0 x1 : ExceptT Error (Party G σ) _).run.IsFed s r) :
    ∃ (d : TransferDraws G) (rest : ByteSource), G.Drawn r d.sender rest := by
  have hdraws := h.next (says_except hvalid)
  obtain ⟨u0, t₁, hu0, h₁⟩ := hdraws.exists_sample
  obtain ⟨v0, t₂, hv0, h₂⟩ := h₁.exists_sample
  obtain ⟨u1, t₃, hu1, h₃⟩ := h₂.exists_sample
  obtain ⟨v1, t₄, hv1, -⟩ := h₃.exists_sample
  exact ⟨⟨u0, u0, u0, u0, u0, v0, u1, v1⟩, t₄, t₁, hu0, t₂, hv0, t₃, hu1, t₄, hv1, rfl⟩

/-- A receiver whose peer refuses its own inputs. -/
theorem keeps_receiver_late {d : TransferDraws G} {rest : ByteSource}
    (h : G.Drawn r (d.receiver level) rest) :
    (Receiver.transfer draw level P choice).run.Keeps .one true (fun v _ _ => IsIo v) [] s r := by
  have hwait : (awaitReply P ⟨choice, d.beta⟩).run.Keeps .one true (fun v _ _ => IsIo v) [] s
      rest := keeps_receiveMessage_late _ fun v hv => hv
  refine (says_start h).bind (D := []) (E := []) ?_
  refine keeps_sendMessage_late _ _ ?_ ?_
  · exact fun v hv => hv
  · cases d.proof draw level choice with
    | none => exact (says_pure ()).bind (D := []) (E := []) hwait
    | some proof =>
      refine keeps_sendMessage_late _ proof ?_ hwait
      exact fun v hv => hv

/-- Whatever the inputs are, a transfer comes to its end or both sides fail. -/
theorem concludes_transfer
    (h : AreFed (Receiver.transfer draw level P choice).run s₁ r₁
      (Sender.transfer draw level P x0 x1).run s₂ r₂) :
    Concludes (Receiver.transfer draw level P choice) s₁ r₁ (Sender.transfer draw level P x0 x1) s₂
      r₂ := by
  obtain ⟨d, rest, hd⟩ := exists_drawn_receiver h.isFed_one
  cases hvalid : P.validate x0 x1 with
  | error e =>
    rw [sender_eq]
    exact .leftByTwo (keeps_receiver_late hd) ((says_except hvalid).bind_error ⟨rfl, rfl, rfl⟩)
  | ok u =>
    rw [receiver_eq, sender_eq] at h ⊢
    refine h.concludes_two (says_except hvalid) fun h => ?_
    refine h.concludes_bind (says_ask hd) says_listen fun h => ?_
    -- the receiver waits and its peer gives up
    have hcut : (awaitReply P ⟨choice, d.beta⟩).run.Keeps .one true (fun v _ _ => IsIo v) [] s₁
        rest := keeps_receiveMessage_late _ fun v hv => hv
    cases hsession : SenderSession.ofMessage G draw level (d.message choice)
        (d.proof draw level choice) with
    | error e => exact .leftByTwo hcut ((says_except hsession).bind_error ⟨rfl, rfl, rfl⟩)
    | ok session =>
      refine h.concludes_two (says_except hsession) fun h => ?_
      obtain ⟨d', rest', hd'⟩ := exists_drawn_sender hvalid h.isFed_two.first
      cases hmade : session.replyWith P x0 x1 d'.u0 d'.v0 d'.u1 d'.v1 with
      | error e => exact .leftByTwo hcut ((says_reply hvalid hd' hmade).bind_error ⟨rfl, rfl, rfl⟩)
      | ok reply =>
        refine h.concludes_two (says_reply hvalid hd' hmade) fun _ => ?_
        exact .finished (says_awaitReply rfl) (says_sendMessage _ reply)

end Transfer

end TwoParty
