import TwoParty.CoinToss.Session
import TwoParty.Proofs.Kdf
import TwoParty.Proofs.Pedersen.Honest

/-!
# TwoParty.Proofs.CoinToss.Honest

One toss between two honest parties, on one commitment session with base `g ^ t`.

Both stores are empty before and after a toss that succeeds, and the committer is then
one number further.  `TossDraws.mishap` says whether party two stops the toss, as a
function of what party one draws.
-/

namespace TwoParty

open LawfulGroup Pedersen

/-- What party one draws in a toss: the value and the randomness of the commitment, the
nonces `k₁` and `k₂` of the knowledge proof, and the nonce of the value proof. -/
structure TossDraws (G : DlogGroup) where
  value : G.Exponent
  randomness : G.Exponent
  nonceR : G.Exponent
  nonceX : G.Exponent
  nonce : G.Exponent

namespace TossDraws

variable {G : DlogGroup}

def drawn (d : TossDraws G) : List G.Exponent :=
  [d.value, d.randomness, d.nonceR, d.nonceX, d.nonce]

variable [LawfulGroup G]

def opening (d : TossDraws G) (t : ZMod G.order) : Opening G :=
  honestOpening t d.value d.randomness

def commitmentLog (d : TossDraws G) (t : ZMod G.order) : ZMod G.order :=
  residue d.randomness + t * residue d.value

def knowledgeLog (d : TossDraws G) (t : ZMod G.order) : ZMod G.order :=
  residue d.nonceR + t * residue d.nonceX

/-- Neither logarithm is zero. -/
def Good (d : TossDraws G) (t : ZMod G.order) : Prop :=
  d.commitmentLog t ≠ 0 ∧ d.knowledgeLog t ≠ 0

/-- Why party two stops the toss, if it does. -/
def mishap (d : TossDraws G) (t : ZMod G.order) : Option Cheating :=
  if d.commitmentLog t = 0 then some (.outsideGroup "commitment" G.name)
  else if d.knowledgeLog t = 0 then some .rejectedKnowledge
  else none

/-- Draws without a mishap are the good ones. -/
theorem mishap_eq_none_iff (d : TossDraws G) (t : ZMod G.order) :
    d.mishap t = none ↔ d.Good t := by
  by_cases hcommitment : d.commitmentLog t = 0
  · simp [mishap, Good, hcommitment]
  · by_cases hknowledge : d.knowledgeLog t = 0
    · simp [mishap, Good, hcommitment, hknowledge]
    · simp [mishap, Good, hcommitment, hknowledge]

/-- What is said in the toss under a number, up to where party two stops it. -/
def said (d : TossDraws G) (draw : Challenger) (t : ZMod G.order) (id : CommitmentId)
    (share : Bytes) : Dialogue :=
  (.one, LawfulMessage.text (commitMessage id (d.opening t))) ::
    if d.commitmentLog t = 0 then []
    else
      (.one, LawfulMessage.text
          (knowledgeMessage draw (exp t) id (d.opening t) d.nonceR d.nonceX)) ::
        if d.knowledgeLog t = 0 then []
        else [(.two, share),
          (.one, LawfulMessage.text (decommitMessage draw (exp t) id (d.opening t) d.nonce))]

end TossDraws

namespace CoinToss

variable {G : DlogGroup} [LawfulGroup G] {d : TossDraws G} {t : ZMod G.order}
  {draw : Challenger} {config : TossConfig} {kdf : Kdf} {id : CommitmentId} {share : Bytes}
  {random random' : ByteSource} {result : Except Error TossOutput}

theorem checkShare_eq {length : Nat} (h : share.length = length) :
    checkShare length share = .ok () :=
  if_neg (not_not.2 h)

/-- The result is the pad combined with the share. -/
theorem output_eq {length : Nat} {value pad : Bytes} (hpad : kdf.derive value length = .ok pad)
    (hlength : pad.length = share.length) :
    output kdf length value share = .ok ⟨Bytes.xorPad pad share⟩ := by
  have hequal : ¬ pad.length ≠ share.length := not_not.2 hlength
  simp only [output, hpad, TossOutput.combine, bind, Except.bind, if_neg hequal]

/-- Within the KDF limit the output of a toss is the share masked by a pad of its own length. -/
theorem exists_output_eq (value : Bytes) (hkdf : kdf.IsExact)
    (hcheck : kdf.check config.bytes = .ok ()) (hshare : share.length = config.bytes) :
    ∃ pad, kdf.derive value config.bytes = .ok pad ∧ pad.length = config.bytes ∧
      output kdf config.bytes value share = .ok ⟨Bytes.xorPad pad share⟩ := by
  obtain ⟨pad, hpad, hlength⟩ := hkdf _ hcheck value
  exact ⟨pad, hpad, hlength, output_eq hpad (hlength.trans hshare.symm)⟩

/-- A result comes from a pad as long as the share. -/
theorem exists_pad_of_output {length : Nat} {value : Bytes} {o : TossOutput}
    (h : output kdf length value share = .ok o) :
    ∃ pad, kdf.derive value length = .ok pad ∧ pad.length = share.length ∧
      o.bytes = Bytes.xorPad pad share := by
  cases hpad : kdf.derive value length with
  | error e => simp [output, hpad, bind, Except.bind] at h
  | ok pad =>
    simp only [output, hpad, bind, Except.bind, TossOutput.combine] at h
    split at h
    · cases h
    · next hlength =>
      cases h
      exact ⟨pad, rfl, not_not.1 hlength, rfl⟩

/-! ## The two halves of a toss -/

section
variable {m : Type → Type} [Monad m] [MonadChannel m]

/-- What party one does once it has committed. -/
def afterCommit (config : TossConfig) (kdf : Kdf) (scheme : Commitment.Committing m)
    (value : scheme.Value) (id : CommitmentId) : ExceptT Error m TossOutput := do
  scheme.proveKnowledge id
  let share ← Channel.receiveBytes "receiving party two's share"
  checkShare config.bytes share
  scheme.proveValue id
  output kdf config.bytes (scheme.valueBytes value) share

/-- Party one's toss, cut after the commitment. -/
theorem tossOne_eq (config : TossConfig) (kdf : Kdf) (scheme : Commitment.Committing m) :
    tossOne config kdf scheme = (do
      kdf.check config.bytes
      let value ← scheme.randomValue
      let id ← scheme.commit value
      afterCommit config kdf scheme value id) := rfl

/-- What party two does with a commitment that it accepted. -/
def afterAccept (config : TossConfig) (kdf : Kdf) (scheme : Commitment.Verifying m)
    (share : Bytes) (id : CommitmentId) : ExceptT Error m TossOutput := do
  unless ← scheme.verifyKnowledge id do
    throw (.cheatAttempt .rejectedKnowledge)
  Channel.sendBytes "sending party two's share" share
  match ← scheme.verifyValue id with
  | none => throw (.cheatAttempt .rejectedValue)
  | some value => output kdf config.bytes (scheme.valueBytes value) share

/-- Party two's toss, cut after the commitment is accepted. -/
theorem tossTwo_eq [MonadBytes m] (config : TossConfig) (kdf : Kdf)
    (scheme : Commitment.Verifying m) :
    tossTwo config kdf scheme = (do
      kdf.check config.bytes
      let share ← (MonadBytes.drawBytes config.bytes : m _)
      let id ← scheme.receiveCommitment
      afterAccept config kdf scheme share id) := rfl

end

/-- A toss as party one that nothing stops, from any state of the committer. -/
theorem says_tossOne_of_drawn {G : DlogGroup} {d : TossDraws G} {random random' : ByteSource}
    (draw : Challenger) (c : Committer G) (hcheck : kdf.check config.bytes = .ok ())
    (hshare : share.length = config.bytes) (h : G.Drawn random d.drawn random')
    (hresult : output kdf config.bytes (G.encodeExponent d.value) share = result) :
    let o := c.openingWith d.value d.randomness
    Says .one [
        (.one, LawfulMessage.text (commitMessage c.nextId o)),
        (.one, LawfulMessage.text (knowledgeMessage draw c.h c.nextId o d.nonceR d.nonceX)),
        (.two, share),
        (.one, LawfulMessage.text (decommitMessage draw c.h c.nextId o d.nonce))]
      (tossOne config kdf (Committer.side G draw)) c random result
      ((c.countId.keep c.nextId o).forget c.nextId) random' := by
  intro o
  have hopen : (c.countId.keep c.nextId o).opening c.nextId = .ok o := Committer.opening_keep _ _
  obtain ⟨u₁, hx, u₂, hr, u₃, hk₁, u₄, hk₂, u₅, hk, rfl⟩ := h
  rw [tossOne_eq]
  refine (says_except hcheck).bind (D := []) ?_
  refine (says_drawExponent hx).bind (D := []) ?_
  refine (Committer.says_commit d.value hr).bind ?_
  refine (Committer.says_proveKnowledge hopen ⟨u₃, hk₁, u₄, hk₂, rfl⟩).bind ?_
  refine (says_receiveBytes _ share).bind ?_
  refine (says_except (checkShare_eq hshare)).bind (D := []) ?_
  refine (Committer.says_proveValue hopen hk).bind (E := []) ?_
  exact says_except hresult

/-! ## The two states between tosses -/

/-- The committer before the toss with a number. -/
def committerAt (t : ZMod G.order) (id : CommitmentId) : Committer G := ⟨exp t, id, .empty⟩

def verifierAt (t : ZMod G.order) : Verifier G := ⟨exp t, .empty⟩

/-- The committer with the opening of a toss. -/
def committerIn (t : ZMod G.order) (id : CommitmentId) (d : TossDraws G) : Committer G :=
  (committerAt t id).countId.keep id (d.opening t)

/-- The verifier with the commitment of a toss. -/
def verifierIn (t : ZMod G.order) (id : CommitmentId) (d : TossDraws G) : Verifier G :=
  ⟨exp t, Store.empty.insert id (d.opening t).commitment⟩

/-- A committer that forgets its opened commitment is the one before the next toss. -/
theorem forget_committerIn : (committerIn t id d).forget id = committerAt t (id + 1) := by
  simp [committerIn, committerAt, Committer.forget, Committer.keep, Committer.countId,
    Store.erase_insert_empty]

/-- A verifier that forgets the opened commitment is the one it was before the toss. -/
theorem forget_verifierIn : (verifierIn t id d).forget id = verifierAt t := by
  simp [verifierIn, verifierAt, Verifier.forget, Store.erase_insert_empty]

/-! ## Party one -/

section
variable {late : Bool} {E : Dialogue}
  {Q : Except Error TossOutput → Committer G → ByteSource → Prop}

/-- Committing sends the commitment message and keeps the opening under the next id. -/
theorem says_commit (h : G.sample random = some (d.randomness, random')) :
    Says .one [(.one, LawfulMessage.text (commitMessage id (d.opening t)))]
      (Committer.commit d.value) (committerAt t id) random (.ok id)
      (committerIn t id d) random' :=
  Committer.says_commit (c := committerAt t id) d.value h

/-- The knowledge proof of the commitment of a toss is one message, and it leaves the committer as
it was. -/
theorem says_proveKnowledge (h : G.Drawn random [d.nonceR, d.nonceX] random') :
    Says .one [(.one, LawfulMessage.text
        (knowledgeMessage draw (exp t) id (d.opening t) d.nonceR d.nonceX))]
      (Committer.proveKnowledge draw id) (committerIn t id d) random (.ok ())
      (committerIn t id d) random' :=
  Committer.says_proveKnowledge (c := committerIn t id d) (Committer.opening_keep _ _) h

/-- The knowledge proof is sent too late. -/
theorem keeps_proveKnowledge_late {f : Unit → ExceptT Error (Party G (Committer G)) TossOutput}
    (h : G.Drawn random [d.nonceR, d.nonceX] random')
    (herror : ∀ v, IsIo v → Q v (committerIn t id d) random')
    (hf : (f ()).run.Keeps .one true Q [] (committerIn t id d) random') :
    (Committer.proveKnowledge draw id >>= f).run.Keeps .one true Q []
      (committerIn t id d) random :=
  Committer.keeps_proveKnowledge_late (c := committerIn t id d) (Committer.opening_keep _ _) h
    herror hf

/-- Party one's toss keeps to a dialogue that starts with the commitment if the rest of the toss
keeps to the rest of it. -/
theorem keeps_tossOne (hcheck : kdf.check config.bytes = .ok ())
    (h : G.Drawn random [d.value, d.randomness] random')
    (hrest : (afterCommit config kdf (Committer.side G draw) d.value id).run.Keeps .one late Q E
      (committerIn t id d) random') :
    (tossOne config kdf (Committer.side G draw)).run.Keeps .one late Q
      ((.one, LawfulMessage.text (commitMessage id (d.opening t))) :: E) (committerAt t id)
      random := by
  obtain ⟨u, hx, u', hr, rfl⟩ := h
  rw [tossOne_eq]
  refine (says_except hcheck).bind (D := []) ?_
  refine (says_drawExponent hx).bind (D := []) ?_
  exact (says_commit hr).bind hrest

/-- A toss that party two does not stop. -/
theorem says_tossOne (hcheck : kdf.check config.bytes = .ok ()) (hd : d.Good t)
    (hshare : share.length = config.bytes) (h : G.Drawn random d.drawn random')
    (hresult : output kdf config.bytes (G.encodeExponent d.value) share = result) :
    Says .one (d.said draw t id share) (tossOne config kdf (Committer.side G draw))
      (committerAt t id) random result (committerAt t (id + 1)) random' := by
  obtain ⟨hcommitment, hknowledge⟩ := hd
  have hforget : committerAt t (id + 1) = (committerIn t id d).forget id := forget_committerIn.symm
  rw [TossDraws.said, if_neg hcommitment, if_neg hknowledge, hforget]
  exact says_tossOne_of_drawn draw (committerAt t id) hcheck hshare h hresult

/-- A toss that party two stops; party one notices when it sends or waits next. -/
theorem keeps_tossOne_of_mishap (hcheck : kdf.check config.bytes = .ok ())
    (hd : ¬ d.Good t) (h : G.Drawn random d.drawn random') :
    (tossOne config kdf (Committer.side G draw)).run.Keeps .one true (fun v _ _ => IsIo v)
      (d.said draw t id share) (committerAt t id) random := by
  obtain ⟨u₁, hx, u₂, hr, u₃, hk₁, u₄, hk₂, -⟩ := h
  have hproof : G.Drawn u₂ [d.nonceR, d.nonceX] u₄ := ⟨u₃, hk₁, u₄, hk₂, rfl⟩
  by_cases hcommitment : d.commitmentLog t = 0
  · rw [TossDraws.said, if_pos hcommitment]
    refine keeps_tossOne hcheck ⟨u₁, hx, u₂, hr, rfl⟩ ?_
    refine keeps_proveKnowledge_late hproof (fun v hv => hv) ?_
    exact keeps_receiveBytes_late _ fun v hv => hv
  · have hknowledge : d.knowledgeLog t = 0 := by
      by_contra hknowledge
      exact hd ⟨hcommitment, hknowledge⟩
    rw [TossDraws.said, if_neg hcommitment, if_pos hknowledge]
    refine keeps_tossOne hcheck ⟨u₁, hx, u₂, hr, rfl⟩ ?_
    refine (says_proveKnowledge hproof).bind ?_
    exact keeps_receiveBytes_late _ fun v hv => hv

end

/-! ## Party two -/

section
variable {late : Bool} {E : Dialogue} {Q : Except Error TossOutput → Verifier G → ByteSource → Prop}

/-- Party two's toss keeps to a dialogue that starts with the commitment if the rest of the toss
keeps to the rest of it. -/
theorem keeps_tossTwo (hcheck : kdf.check config.bytes = .ok ())
    (hd : d.commitmentLog t ≠ 0)
    (hrest : (afterAccept config kdf (Verifier.side G draw) (random.peek config.bytes)
      id).run.Keeps .two late Q E (verifierIn t id d) (random.advance config.bytes)) :
    (tossTwo config kdf (Verifier.side G draw)).run.Keeps .two late Q
      ((.one, LawfulMessage.text (commitMessage id (d.opening t))) :: E) (verifierAt t)
      random := by
  have haccept : (verifierAt t).accept (commitMessage id (d.opening t)) =
      .ok (verifierIn t id d) := (accept_commitMessage rfl).trans (if_neg hd)
  rw [tossTwo_eq]
  refine (says_except hcheck).bind (D := []) ?_
  refine (says_drawBytes config.bytes).bind (D := []) ?_
  exact (Verifier.says_receiveCommitment haccept).bind hrest

/-- The verifier answers the honest knowledge proof by whether its announcement is not the
identity. -/
theorem says_verifyKnowledge :
    Says .two [(.one, LawfulMessage.text
        (knowledgeMessage draw (exp t) id (d.opening t) d.nonceR d.nonceX))]
      (Verifier.verifyKnowledge draw id) (verifierIn t id d) random
      (.ok (decide (d.knowledgeLog t ≠ 0))) (verifierIn t id d) random := by
  have hverify := @verifyOpening_knowledgeMessage G id _ draw t d.randomness d.value d.nonceR
    d.nonceX
  rw [TossDraws.knowledgeLog, ← hverify]
  exact Verifier.says_verifyKnowledge (v := verifierIn t id d)
    (Verifier.commitment_insert (verifierAt t) _) rfl

/-- The verifier accepts the honest opening of a canonical value and forgets the commitment. -/
theorem says_verifyValue (hx : scalar (residue d.value) = d.value) (hk : residue d.nonce ≠ 0) :
    Says .two [(.one, LawfulMessage.text
        (decommitMessage draw (exp t) id (d.opening t) d.nonce))]
      (Verifier.verifyValue draw id) (verifierIn t id d) random (.ok (some d.value))
      (verifierAt t) random := by
  have hforget : verifierAt t = (verifierIn t id d).forget id := forget_verifierIn.symm
  have hreveal := @revealed_decommitMessage G id _ draw t d.randomness d.value d.nonce hx hk
  rw [hforget, ← hreveal]
  exact Verifier.says_verifyValue (v := verifierIn t id d)
    (Verifier.commitment_insert (verifierAt t) _) rfl

/-- A toss that party two does not stop. -/
theorem says_tossTwo (hcheck : kdf.check config.bytes = .ok ()) (hd : d.Good t)
    (hx : scalar (residue d.value) = d.value) (hk : residue d.nonce ≠ 0)
    (hresult : output kdf config.bytes (G.encodeExponent d.value) (random.peek config.bytes) =
      result) :
    Says .two (d.said draw t id (random.peek config.bytes))
      (tossTwo config kdf (Verifier.side G draw)) (verifierAt t) random result (verifierAt t)
      (random.advance config.bytes) := by
  obtain ⟨hcommitment, hknowledge⟩ := hd
  rw [TossDraws.said, if_neg hcommitment, if_neg hknowledge]
  refine keeps_tossTwo hcheck hcommitment ?_
  refine says_verifyKnowledge.bind ?_
  simp only [decide_eq_true hknowledge, if_true]
  refine (says_sendBytes _ _).bind ?_
  refine (says_verifyValue hx hk).bind (E := []) ?_
  exact says_except hresult

/-- A toss that party two stops. -/
theorem keeps_tossTwo_of_mishap {m : Cheating} (hcheck : kdf.check config.bytes = .ok ())
    (hd : d.mishap t = some m) :
    (tossTwo config kdf (Verifier.side G draw)).run.Keeps .two false
      (fun v _ _ => v = .error (.cheatAttempt m)) (d.said draw t id share) (verifierAt t)
      random := by
  by_cases hcommitment : d.commitmentLog t = 0
  · rw [TossDraws.mishap, if_pos hcommitment] at hd
    rw [TossDraws.said, if_pos hcommitment]
    have hrefused : (verifierAt t).accept (commitMessage id (d.opening t)) =
        .error (.cheatAttempt m) := by
      refine (accept_commitMessage rfl).trans ((if_pos hcommitment).trans ?_)
      rw [Option.some.inj hd]
    refine (says_except hcheck).bind (D := []) ?_
    refine (says_drawBytes config.bytes).bind (D := []) ?_
    exact (Verifier.says_receiveCommitment_error hrefused).bind_error rfl
  · rw [TossDraws.mishap, if_neg hcommitment] at hd
    have hknowledge : d.knowledgeLog t = 0 := by
      by_contra hknowledge
      rw [if_neg hknowledge] at hd
      contradiction
    rw [if_pos hknowledge] at hd
    rw [TossDraws.said, if_neg hcommitment, if_pos hknowledge]
    refine keeps_tossTwo hcheck hcommitment ?_
    refine says_verifyKnowledge.bind (E := []) ?_
    simp only [hknowledge, ne_eq, not_true_eq_false, decide_false, Bool.false_eq_true, if_false]
    refine (says_throw _).bind_error ?_
    rw [Option.some.inj hd]

end

end CoinToss

end TwoParty
