import TwoParty.Proofs.CoinToss.Run
import TwoParty.Proofs.Duet.Draws
import TwoParty.Proofs.Pedersen.Held

/-!
# TwoParty.Proofs.CoinToss.Schedule

Coin tosses between two honest parties, whatever the group, the derivations and the lengths.

A toss comes to its end on both sides, or one side stops it and the other one notices
(`concludes_toss`).  Nothing is assumed about the states of the commitment scheme, so the
induction on the number of tosses goes through for any two states (`settles_tosses`).
-/

namespace TwoParty

open Pedersen

namespace CoinToss

variable {G : DlogGroup} {draw : Challenger} {config config₁ config₂ : TossConfig}
  {kdf kdf₁ kdf₂ : Kdf} {id : CommitmentId} {c : Committer G} {v v' : Verifier G} {o : Opening G}
  {x : G.Element} {value : G.Exponent} {share : Bytes} {r r₁ r₂ : ByteSource} {n : Nat}

/-! ## What a fed party one draws -/

/-- A commitment that returns has drawn its randomness. -/
theorem exists_sample_commit (h : (Committer.commit value).run.IsFed c r) :
    ∃ k rest, G.sample r = some (k, rest) := by
  obtain ⟨k, rest, hk, -⟩ := ((h.next says_get).next (says_set _)).exists_sample
  exact ⟨k, rest, hk⟩

/-- A knowledge proof of a commitment that is held has drawn both nonces when it returns. -/
theorem exists_drawn_proveKnowledge (hopen : c.opening id = .ok o)
    (h : (Committer.proveKnowledge draw id).run.IsFed c r) :
    ∃ k₁ k₂ rest, G.Drawn r [k₁, k₂] rest := by
  obtain ⟨k₁, t₁, hk₁, h₁⟩ := ((h.next says_get).next (says_except hopen)).exists_sample
  obtain ⟨k₂, t₂, hk₂, -⟩ := h₁.exists_sample
  exact ⟨k₁, k₂, t₂, t₁, hk₁, t₂, hk₂, rfl⟩

/-- An opening of a commitment that is held has drawn its nonce when it returns. -/
theorem exists_sample_proveValue (hopen : c.opening id = .ok o)
    (h : (Committer.proveValue draw id).run.IsFed c r) :
    ∃ k rest, G.sample r = some (k, rest) := by
  have hdraws := ((h.next says_get).next (says_except hopen)).next (says_set _)
  obtain ⟨k, rest, hk, -⟩ := hdraws.exists_sample
  exact ⟨k, rest, hk⟩

/-! ## Party one after its peer gave up -/

/-- Without its peer the rest of a toss of party one ends by an I/O error. -/
theorem keeps_afterCommit_late (hopen : c.opening id = .ok o)
    (h : (afterCommit config kdf (Committer.side G draw) value id).run.IsFed c r) :
    (afterCommit config kdf (Committer.side G draw) value id).run.Keeps .one true
      (fun v _ _ => IsIo v) [] c r := by
  obtain ⟨k₁, k₂, rest, hk⟩ := exists_drawn_proveKnowledge hopen h.first
  refine Committer.keeps_proveKnowledge_late hopen hk (fun v hv => hv) ?_
  exact keeps_receiveBytes_late _ fun v hv => hv

/-- Without its peer a toss of party one ends by an I/O error. -/
theorem keeps_tossOne_late (hcheck : kdf.check config.bytes = .ok ())
    (h : (tossOne config kdf (Committer.side G draw)).run.IsFed c r) :
    (tossOne config kdf (Committer.side G draw)).run.Keeps .one true (fun v _ _ => IsIo v) [] c
      r := by
  rw [tossOne_eq] at h ⊢
  have hvalue := h.next (says_except hcheck)
  obtain ⟨x, t, hx, -⟩ := hvalue.exists_sample
  have hcommit := hvalue.next (says_drawExponent hx)
  obtain ⟨k, t', hk⟩ := exists_sample_commit hcommit.first
  have hrest := hcommit.sent (Committer.says_commit x hk)
  refine (says_except hcheck).bind (D := []) (E := []) ?_
  refine (says_drawExponent hx).bind (D := []) (E := []) ?_
  refine Committer.keeps_commit_late hk (fun v hv => hv) ?_
  exact keeps_afterCommit_late (Committer.opening_keep _ _) hrest

/-! ## One toss -/

section
variable {m : Type → Type} [Monad m] [MonadChannel m]

/-- What party one does once it has proved that it knows its value. -/
def awaitShare (config : TossConfig) (kdf : Kdf) (scheme : Commitment.Committing m)
    (value : scheme.Value) (id : CommitmentId) : ExceptT Error m TossOutput := do
  let share ← Channel.receiveBytes "receiving party two's share"
  checkShare config.bytes share
  scheme.proveValue id
  output kdf config.bytes (scheme.valueBytes value) share

/-- What party two does once its share is sent. -/
def awaitValue (config : TossConfig) (kdf : Kdf) (scheme : Commitment.Verifying m)
    (share : Bytes) (id : CommitmentId) : ExceptT Error m TossOutput := do
  match ← scheme.verifyValue id with
  | none => throw (.cheatAttempt .rejectedValue)
  | some value => output kdf config.bytes (scheme.valueBytes value) share

/-- What party two does once the proof of knowledge is accepted. -/
def sendShare (config : TossConfig) (kdf : Kdf) (scheme : Commitment.Verifying m)
    (share : Bytes) (id : CommitmentId) : ExceptT Error m TossOutput := do
  Channel.sendBytes "sending party two's share" share
  awaitValue config kdf scheme share id

end

/-- From the share on: it may have the wrong length for party one. -/
theorem concludes_share (hopen : c.opening id = .ok o) (hc : v.commitment id = .ok x)
    (h : AreFed (awaitShare config₁ kdf₁ (Committer.side G draw) value id).run c r₁
      (sendShare config₂ kdf₂ (Verifier.side G draw) share id).run v r₂) :
    Concludes (awaitShare config₁ kdf₁ (Committer.side G draw) value id) c r₁
      (sendShare config₂ kdf₂ (Verifier.side G draw) share id) v r₂ := by
  cases hshare : checkShare config₁.bytes share with
  | error e =>
    -- The share was sent and read all the same; party two then waits for an opening in vain.
    refine .leftByOne ((says_receiveBytes _ share).bind (E := [])
      ((says_except hshare).bind_error ⟨rfl, rfl, rfl⟩)) ?_
    refine (says_sendBytes _ share).bind ?_
    exact Verifier.keeps_verifyValue_late hc fun v hv => hv
  | ok u =>
    refine h.concludes_bind (says_receiveBytes _ share) (says_sendBytes _ share) fun h => ?_
    refine h.concludes_one (says_except hshare) fun h => ?_
    obtain ⟨k, rest, hk⟩ := exists_sample_proveValue hopen h.isFed_one.first
    refine h.concludes_bind (Committer.says_proveValue hopen hk)
      (Verifier.says_verifyValue hc rfl) fun _ => ?_
    cases Verifier.revealed G draw v.h x id (decommitMessage draw c.h id o k) with
    | none => exact .finished (says_except rfl) (says_throw _)
    | some y => exact .finished (says_except rfl) (says_except rfl)

/-- From the proof of knowledge on. -/
theorem concludes_afterCommit (hopen : c.opening id = .ok o) (hc : v.commitment id = .ok x)
    (h : AreFed (afterCommit config₁ kdf₁ (Committer.side G draw) value id).run c r₁
      (afterAccept config₂ kdf₂ (Verifier.side G draw) share id).run v r₂) :
    Concludes (afterCommit config₁ kdf₁ (Committer.side G draw) value id) c r₁
      (afterAccept config₂ kdf₂ (Verifier.side G draw) share id) v r₂ := by
  obtain ⟨k₁, k₂, rest, hk⟩ := exists_drawn_proveKnowledge hopen h.isFed_one.first
  have hprove := @Committer.says_proveKnowledge _ draw .one _ _ _ _ _ _ _ hopen hk
  have hverify : Says .two [(.one, LawfulMessage.text (knowledgeMessage draw c.h id o k₁ k₂))]
      (Verifier.verifyKnowledge draw id) v r₂ _ v r₂ := Verifier.says_verifyKnowledge hc rfl
  cases hknown : (Sigma.verifyOpening G draw (knowledgeTranscript id) v.h x
      (knowledgeMessage draw c.h id o k₁ k₂).proof).1 with
  | false =>
    rw [hknown] at hverify
    refine .leftByTwo (hprove.bind ?_) (hverify.bind (E := []) (says_throw _))
    exact keeps_receiveBytes_late _ fun v hv => hv
  | true =>
    rw [hknown] at hverify
    exact h.concludes_bind hprove hverify fun h => concludes_share hopen hc h

/-- Whatever the states of the two parties, a toss comes to its end on both sides, or one side
stops it. -/
theorem concludes_toss
    (h : AreFed (tossOne config₁ kdf₁ (Committer.side G draw)).run c r₁
      (tossTwo config₂ kdf₂ (Verifier.side G draw)).run v r₂) :
    Concludes (tossOne config₁ kdf₁ (Committer.side G draw)) c r₁
      (tossTwo config₂ kdf₂ (Verifier.side G draw)) v r₂ := by
  -- Each side checks its own derivation first, and nothing is said before both have done so.
  cases hcheck₁ : kdf₁.check config₁.bytes with
  | error e₁ =>
    have hone : Says .one [] (tossOne config₁ kdf₁ (Committer.side G draw)) c r₁ (.error e₁) c r₁ :=
      (says_except hcheck₁).bind_error ⟨rfl, rfl, rfl⟩
    cases hcheck₂ : kdf₂.check config₂.bytes with
    | error e₂ => exact .finished hone ((says_except hcheck₂).bind_error ⟨rfl, rfl, rfl⟩)
    | ok u => exact .leftByOne hone (keeps_tossTwo_late hcheck₂)
  | ok u =>
    cases hcheck₂ : kdf₂.check config₂.bytes with
    | error e₂ =>
      exact .leftByTwo (keeps_tossOne_late hcheck₁ h.isFed_one)
        ((says_except hcheck₂).bind_error ⟨rfl, rfl, rfl⟩)
    | ok u' =>
      rw [tossOne_eq, tossTwo_eq] at h ⊢
      refine h.concludes_one (says_except hcheck₁) fun h => ?_
      refine h.concludes_two (says_except hcheck₂) fun h => ?_
      refine h.concludes_two (says_drawBytes config₂.bytes) fun h => ?_
      obtain ⟨y, t, hy, -⟩ := h.isFed_one.exists_sample
      refine h.concludes_one (says_drawExponent hy) fun h => ?_
      obtain ⟨k, t', hk⟩ := exists_sample_commit h.isFed_one.first
      have hcommit := @Committer.opening_keep G c.nextId c.countId (c.openingWith y k)
      cases haccept : v.accept (commitMessage c.nextId (c.openingWith y k)) with
      | error e =>
        -- Party one is told nothing: it stays fed, and stops where it waits for the share.
        have hrest := h.isFed_one.sent (Committer.says_commit y hk)
        refine .leftByTwo ((Committer.says_commit y hk).bind ?_)
          ((Verifier.says_receiveCommitment_error haccept).bind_error ⟨rfl, rfl, rfl⟩)
        exact keeps_afterCommit_late hcommit hrest
      | ok v' =>
        refine h.concludes_bind (Committer.says_commit y hk)
          (Verifier.says_receiveCommitment haccept) fun h => ?_
        obtain ⟨-, x, -, rfl⟩ := Verifier.accept_eq_ok_iff.1 haccept
        exact concludes_afterCommit hcommit (Verifier.commitment_insert v x) h

/-! ## Tosses one after another -/

/-- The results of tosses, compared one by one. -/
abbrev SameResults : List (Except Error TossOutput) → List (Except Error TossOutput) → Prop :=
  List.Forall₂ (Alike Eq)

section
variable {σ : Type} {side : Side} {late : Bool} {D : Dialogue} {s : σ}
  {toss : ExceptT Error (Party G σ) TossOutput}

/-- The first toss is the last if it is stopped. -/
theorem keeps_tosses_stopped {e : Error}
    (h : toss.run.Keeps side late (fun v _ _ => ∃ f, v = .error f ∧ f.kind = e.kind) D s r) :
    (tosses toss (n + 1)).Keeps side late (fun os _ _ => SameResults os [.error e]) D s r := by
  refine keeps_tosses_error (h.mono ?_)
  intro v _ _ hv
  obtain ⟨f, rfl, hkind⟩ := hv
  exact ⟨f, rfl, .cons (.error hkind) .nil⟩

/-- Tosses whose first one fails have one result, the error. -/
theorem keeps_tosses_of_error {e : Error} {s' : σ} {r' : ByteSource}
    (h : Says side D toss s r (.error e) s' r') :
    (tosses toss (n + 1)).Keeps side late (fun os _ _ => SameResults os [.error e]) D s r :=
  keeps_tosses_stopped (h.keeps ⟨e, rfl, rfl⟩)

/-- The first toss is the last if it loses its peer. -/
theorem keeps_tosses_cut (h : toss.run.Keeps side late (fun v _ _ => IsIo v) D s r) :
    (tosses toss (n + 1)).Keeps side late
      (fun os _ _ => SameResults os [.error MemoryChannel.receiveError]) D s r :=
  keeps_tosses_stopped h

/-- After a toss that comes to its end the others follow. -/
theorem keeps_tosses_next {a : TossOutput} {os : List (Except Error TossOutput)} {E : Dialogue}
    {s' : σ} {r' : ByteSource} (h : Says side D toss s r (.ok a) s' r')
    (hrest : (tosses toss n).Keeps side late (fun os' _ _ => SameResults os' os) E s' r') :
    (tosses toss (n + 1)).Keeps side late (fun os' _ _ => SameResults os' (.ok a :: os)) (D ++ E) s
      r :=
  keeps_tosses_ok h (hrest.mono fun _ _ _ hos => .cons (.ok rfl) hos)

/-- Tosses whose first one succeeds come to the remaining ones. -/
theorem comes_tosses {a : TossOutput} {s' : σ} {r' : ByteSource}
    (h : Says side D toss s r (.ok a) s' r') :
    (tosses toss (n + 1)).Comes side D s r (tosses toss n) s' r' := by
  rw [← List.append_nil D]
  exact h.runs.comes.trans Party.comes_bind

end

/-- Without its peer party one has results that are settled, however many tosses are left. -/
theorem exists_keeps_tossesOne_late (n : Nat)
    (h : (tosses (tossOne config kdf (Committer.side G draw)) n).IsFed c r) :
    ∃ o, (tosses (tossOne config kdf (Committer.side G draw)) n).Keeps .one true
      (fun os _ _ => SameResults os o) [] c r := by
  cases n with
  | zero => exact ⟨[], .done .nil⟩
  | succ n =>
    cases hcheck : kdf.check config.bytes with
    | error e =>
      exact ⟨_, keeps_tosses_stopped ((says_except hcheck).bind_error ⟨e, rfl, rfl⟩)⟩
    | ok u =>
      exact ⟨_, keeps_tosses_cut (keeps_tossOne_late hcheck h.of_bind)⟩

theorem exists_keeps_tossesTwo_late (n : Nat) :
    ∃ o, (tosses (tossTwo config kdf (Verifier.side G draw)) n).Keeps .two true
      (fun os _ _ => SameResults os o) [] v r := by
  cases n with
  | zero => exact ⟨[], .done .nil⟩
  | succ n =>
    cases hcheck : kdf.check config.bytes with
    | error e =>
      exact ⟨_, keeps_tosses_stopped ((says_except hcheck).bind_error ⟨e, rfl, rfl⟩)⟩
    | ok u => exact ⟨_, keeps_tosses_cut (keeps_tossTwo_late hcheck)⟩

/-- Two rows of tosses against each other settle on their results, whatever states they start in.
-/
theorem settles_tosses
    (h : AreFed (tosses (tossOne config₁ kdf₁ (Committer.side G draw)) n) c r₁
      (tosses (tossTwo config₂ kdf₂ (Verifier.side G draw)) n) v r₂) :
    Settles SameResults SameResults (tosses (tossOne config₁ kdf₁ (Committer.side G draw)) n) c r₁
      (tosses (tossTwo config₂ kdf₂ (Verifier.side G draw)) n) v r₂ := by
  -- The states differ from toss to toss, so the induction is over all of them at once.
  induction n generalizing c v r₁ r₂ with
  | zero => exact .one (.done .nil) (.done .nil)
  | succ n ih =>
    cases concludes_toss (h.comes Party.comes_bind Party.comes_bind) with
    | leftByOne h₁ h₂ =>
      exact .one (keeps_tosses_of_error h₁) (keeps_tosses_cut h₂)
    | leftByTwo h₁ h₂ =>
      exact .two (keeps_tosses_cut h₁) (keeps_tosses_of_error h₂)
    | @finished D a₁ c' r₁' a₂ v' r₂' h₁ h₂ =>
      cases a₁ with
      | error e₁ =>
        cases a₂ with
        | error e₂ => exact .one (keeps_tosses_of_error h₁) (keeps_tosses_of_error h₂)
        | ok o₂ =>
          -- Only party two goes on to the next toss, where it loses its peer.
          obtain ⟨os, hlate⟩ := @exists_keeps_tossesTwo_late G draw config₂ kdf₂ v' r₂' n
          have htwo := keeps_tosses_next h₂ hlate
          rw [List.append_nil] at htwo
          exact .one (keeps_tosses_of_error h₁) htwo
      | ok o₁ =>
        cases a₂ with
        | error e₂ =>
          have hfed := (h.comes (comes_tosses h₁) h₂.runs.comes).isFed_one
          obtain ⟨os, hlate⟩ := exists_keeps_tossesOne_late n hfed
          have hone := keeps_tosses_next h₁ hlate
          rw [List.append_nil] at hone
          exact .two hone (keeps_tosses_of_error h₂)
        | ok o₂ =>
          cases ih (h.comes (comes_tosses h₁) (comes_tosses h₂)) with
          | one g₁ g₂ => exact .one (keeps_tosses_next h₁ g₁) (keeps_tosses_next h₂ g₂)
          | two g₁ g₂ => exact .two (keeps_tosses_next h₁ g₁) (keeps_tosses_next h₂ g₂)

/-! ## Sessions -/

/-- The results of a session, which may fail before the first toss. -/
abbrev SameSession : Except Error (List (Except Error TossOutput)) →
    Except Error (List (Except Error TossOutput)) → Prop :=
  Alike SameResults

section
variable {σ σ₁ σ₂ τ : Type} {side : Side} {late : Bool} {D : Dialogue} {s : σ} {s₁ : σ₁} {s₂ : σ₂}
  {own : τ} {p : Party G τ (List (Except Error TossOutput))}

/-- What a session does once it is set up. -/
def conduct (own : τ) (p : Party G τ (List (Except Error TossOutput))) :
    ExceptT Error (Party G σ) (List (Except Error TossOutput)) :=
  Prod.fst <$> (liftM (p.within own : Party G σ _) : ExceptT Error (Party G σ) _)

/-- Party one's session is its setup followed by the tosses on the committer it gave. -/
theorem sessionOne_eq (draw : Challenger) (config : TossConfig) (kdf : Kdf) (n : Nat) :
    (sessionOne G draw config kdf n : ExceptT Error (Party G σ) _) =
      Committer.setup >>= fun c =>
        conduct c (tosses (tossOne config kdf (Committer.side G draw)) n) := by
  simp only [sessionOne, openOne, conduct, map_bind]

/-- Party two's session is its setup followed by the tosses on the verifier it gave. -/
theorem sessionTwo_eq (draw : Challenger) (config : TossConfig) (kdf : Kdf) (n : Nat) :
    (sessionTwo G draw config kdf n : ExceptT Error (Party G σ) _) =
      Verifier.setup >>= fun v =>
        conduct v (tosses (tossTwo config kdf (Verifier.side G draw)) n) := by
  simp only [sessionTwo, openTwo, conduct, map_bind]

/-- Tosses conducted on a state of their own keep to the same dialogue, and the session succeeds
with their results. -/
theorem keeps_conduct {os : List (Except Error TossOutput)}
    (h : p.Keeps side late (fun os' _ _ => SameResults os' os) D own r) :
    (conduct own p).run.Keeps side late (fun v _ _ => SameSession v (.ok os)) D s r := by
  refine Party.Keeps.bind_late (keeps_within h) ?_
  intro v _ _ hv
  obtain ⟨os', own', rfl, hsame⟩ := hv
  exact .done (.ok hsame)

theorem comes_conduct : (conduct own p).run.Comes side [] s r p own r := by
  have hlift : (liftM (p.within own : Party G σ _) : ExceptT Error (Party G σ) _).run.Comes side []
      s r p own r := Party.comes_bind.trans Party.comes_within
  exact Party.comes_bind.trans hlift

/-- Party two sets up in any case; party one may refuse the base. -/
theorem settles_session
    (h : AreFed (sessionOne G draw config₁ kdf₁ n).run s₁ r₁
      (sessionTwo G draw config₂ kdf₂ n).run s₂ r₂) :
    Settles SameSession SameSession (sessionOne G draw config₁ kdf₁ n).run s₁ r₁
      (sessionTwo G draw config₂ kdf₂ n).run s₂ r₂ := by
  rw [sessionOne_eq, sessionTwo_eq] at h ⊢
  obtain ⟨t, rest, ht, -⟩ := h.isFed_two.first.exists_sample
  cases hsetup : Committer.ofSetup G ⟨G.encodeElement (G.gpow t)⟩ with
  | error e =>
    obtain ⟨os, hlate⟩ :=
      @exists_keeps_tossesTwo_late G draw config₂ kdf₂ (Verifier.ofTrapdoor G t) rest n
    exact .one ((Committer.says_setup hsetup).bind_error (.error rfl))
      ((Verifier.says_setup ht).bind (E := []) (keeps_conduct hlate))
  | ok c =>
    have hone := @Committer.says_setup G .one r₁ _ s₁ _ _ hsetup
    have htwo := @Verifier.says_setup G .two _ _ _ s₂ _ ht
    have htosses := (h.comes hone.comes htwo.comes).comes comes_conduct comes_conduct
    cases settles_tosses htosses with
    | one g₁ g₂ => exact Settles.bind (.one (keeps_conduct g₁) (keeps_conduct g₂)) hone htwo
    | two g₁ g₂ => exact Settles.bind (.two (keeps_conduct g₁) (keeps_conduct g₂)) hone htwo

end

end CoinToss

end TwoParty
