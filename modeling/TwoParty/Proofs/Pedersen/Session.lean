import TwoParty.Proofs.Group.SafePrime
import TwoParty.Proofs.Pedersen.Calls
import TwoParty.Proofs.Pedersen.Honest

/-!
# TwoParty.Proofs.Pedersen.Session

Two honest parties with any number of commitments under way at once.

A session is a list of steps, each a call of the committer and the matching call of the
verifier.  The two stores are tied by `Matched`: under every open number they have the
opening and the commitment of the same value.  One step says one message and keeps the
stores matched (`Matched.exists_says`), so both parties keep to one dialogue.
-/

namespace TwoParty

open LawfulGroup Service

namespace Pedersen

variable {G : DlogGroup}

/-! ## Steps -/

/-- A call of the committer, with what it draws, and the matching call of the verifier. -/
inductive Step (G : DlogGroup) where
  | commit (value randomness : G.Exponent)
  | prove (id : CommitmentId) (nonceR nonceX : G.Exponent)
  | reveal (id : CommitmentId) (nonce : G.Exponent)

namespace Step

def drawn : Step G → List G.Exponent
  | .commit _ r => [r]
  | .prove _ k₁ k₂ => [k₁, k₂]
  | .reveal _ k => [k]

def committerCall : Step G → Committer.Call G
  | .commit x _ => .commit x
  | .prove id _ _ => .knowledge id
  | .reveal id _ => .value id

def verifierCall : Step G → Verifier.Call
  | .commit _ _ => .receive
  | .prove id _ _ => .knowledge id
  | .reveal id _ => .value id

/-- The commitment that the step goes back to. -/
def earlier? : Step G → Option CommitmentId
  | .commit _ _ => none
  | .prove id _ _ => some id
  | .reveal id _ => some id

def committed? : Step G → Option (G.Exponent × G.Exponent)
  | .commit x r => some (x, r)
  | .prove _ _ _ => none
  | .reveal _ _ => none

end Step

/-- The values that were committed, with their randomness, in order. -/
def committed (steps : List (Step G)) : List (G.Exponent × G.Exponent) :=
  steps.filterMap Step.committed?

variable {steps : List (Step G)} {step : Step G} {id : CommitmentId} {x r k : G.Exponent}

def number (steps : List (Step G)) : CommitmentId := UInt64.ofNat (committed steps).length

theorem committed_append (steps after : List (Step G)) :
    committed (steps ++ after) = committed steps ++ committed after := List.filterMap_append

theorem committed_concat_commit :
    committed (steps ++ [.commit x r]) = committed steps ++ [(x, r)] := committed_append _ _

/-- A step that does not commit is not counted. -/
theorem committed_concat (h : step.committed? = none) :
    committed (steps ++ [step]) = committed steps := by
  rw [committed_append, committed, committed, List.filterMap_cons, h]
  exact List.append_nil _

variable [LawfulGroup G] {t : ZMod G.order}

/-- The value was committed under the number, in a commitment that the verifier accepts, and
has not been revealed since. -/
def Open (t : ZMod G.order) (steps : List (Step G)) (id : CommitmentId) (x r : G.Exponent) : Prop :=
  Since (fun before step => step = .commit x r ∧ (committed before).length = id.toNat)
    (fun step => ∃ k, step = .reveal id k) steps ∧ residue r + t * residue x ≠ 0

theorem not_open_nil : ¬ Open t [] id x r := fun h => not_since_nil h.1

/-- A step opens what it commits to, if the verifier accepts it, and closes what it reveals. -/
theorem open_concat :
    Open t (steps ++ [step]) id x r ↔
      (step = .commit x r ∧ (committed steps).length = id.toNat ∧
        residue r + t * residue x ≠ 0) ∨
      (Open t steps id x r ∧ ¬ ∃ k, step = .reveal id k) := by
  rw [Open, Open, since_concat]
  tauto

/-- A step that does not commit opens nothing. -/
theorem Open.of_concat (h : Open t (steps ++ [step]) id x r) (hstep : step.committed? = none) :
    Open t steps id x r ∧ ¬ ∃ k, step = .reveal id k := by
  rcases open_concat.1 h with ⟨rfl, -⟩ | h
  · cases hstep
  · exact h

/-- A commitment is open as long as its number is not revealed. -/
theorem open_of_commit (before after : List (Step G))
    (hnumber : (committed before).length = id.toNat)
    (hsum : residue r + t * residue x ≠ 0) (hafter : ∀ k, .reveal id k ∉ after) :
    Open t (before ++ .commit x r :: after) id x r := by
  refine ⟨⟨before, _, after, rfl, ⟨rfl, hnumber⟩, ?_⟩, hsum⟩
  rintro later hlater ⟨k, rfl⟩
  exact hafter k hlater

/-- The number of an open commitment tells its value. -/
theorem Open.committed_eq (h : Open t steps id x r) :
    (committed steps)[id.toNat]? = some (x, r) := by
  obtain ⟨⟨before, step, after, rfl, ⟨rfl, hnumber⟩, -⟩, -⟩ := h
  rw [committed_append, ← hnumber, List.getElem?_append_right le_rfl, Nat.sub_self]
  rfl

/-- After the steps before them, the steps go back to open commitments only. -/
def Orderly (t : ZMod G.order) : (before steps : List (Step G)) → Prop
  | _, [] => True
  | before, step :: steps =>
    (∀ id, step.earlier? = some id → ∃ x r, Open t before id x r) ∧
      Orderly t (before ++ [step]) steps

/-! ## Answers -/

/-- What the two parties get from a step after others. -/
inductive Answered (draw : Challenger) (t : ZMod G.order) (before : List (Step G)) :
    Step G → (Committer.service G draw).Reply → (Verifier.service G draw).Reply → Prop where
  | accepted {x r : G.Exponent} (h : residue r + t * residue x ≠ 0) :
    Answered draw t before (.commit x r) ⟨.commit x, .ok (number before)⟩
      ⟨.receive, .ok (number before)⟩
  | refused {x r : G.Exponent} (h : residue r + t * residue x = 0) :
    Answered draw t before (.commit x r) ⟨.commit x, .ok (number before)⟩
      ⟨.receive, .error (.cheatAttempt (.outsideGroup "commitment" G.name))⟩
  | judged {id : CommitmentId} {k₁ k₂ : G.Exponent} :
    Answered draw t before (.prove id k₁ k₂) ⟨.knowledge id, .ok ()⟩
      ⟨.knowledge id, .ok (decide (residue k₁ + t * residue k₂ ≠ 0))⟩
  | opened {id : CommitmentId} {k x r : G.Exponent}
    (h : (committed before)[id.toNat]? = some (x, r)) :
    Answered draw t before (.reveal id k) ⟨.value id, .ok ()⟩ ⟨.value id, .ok (some x)⟩

/-- What the two parties get from the steps of a session. -/
inductive Replied (draw : Challenger) (t : ZMod G.order) :
    List (Step G) → List (Committer.service G draw).Reply → List (Verifier.service G draw).Reply →
      Prop where
  | nil : Replied draw t [] [] []
  | concat {steps ones twos step one two} (h : Replied draw t steps ones twos)
    (hstep : Answered draw t steps step one two) :
    Replied draw t (steps ++ [step]) (ones ++ [one]) (twos ++ [two])

/-- Both parties get one reply for each step. -/
theorem Replied.length_eq {draw : Challenger} {ones : List (Committer.service G draw).Reply}
    {twos : List (Verifier.service G draw).Reply} (h : Replied draw t steps ones twos) :
    ones.length = steps.length ∧ twos.length = steps.length := by
  induction h with
  | nil => exact ⟨rfl, rfl⟩
  | concat _ _ ih => simp [ih]

/-- Every step is answered. -/
theorem Replied.answered {draw : Challenger} {ones : List (Committer.service G draw).Reply}
    {twos : List (Verifier.service G draw).Reply} (h : Replied draw t steps ones twos)
    {before after : List (Step G)} (hsteps : steps = before ++ step :: after) :
    ∃ one two, ones[before.length]? = some one ∧ twos[before.length]? = some two ∧
      Answered draw t before step one two := by
  induction h generalizing after with
  | nil => exact absurd hsteps.symm (List.append_ne_nil_of_right_ne_nil _ (List.cons_ne_nil _ _))
  | concat h hlast ih =>
    obtain ⟨hones, htwos⟩ := h.length_eq
    -- The step is the last one, or it was there before the last one.
    rcases List.eq_nil_or_concat after with rfl | ⟨after, last, rfl⟩
    · obtain ⟨rfl, hstep⟩ := List.append_inj' hsteps rfl
      cases hstep
      refine ⟨_, _, ?_, ?_, hlast⟩
      · rw [← hones, List.getElem?_concat_length]
      · rw [← htwos, List.getElem?_concat_length]
    · rw [List.concat_eq_append, ← List.cons_append, ← List.append_assoc] at hsteps
      obtain ⟨rfl, -⟩ := List.append_inj' hsteps rfl
      obtain ⟨one, two, hone, htwo, hanswered⟩ := ih rfl
      have hlt : before.length < (before ++ step :: after).length := by simp
      refine ⟨one, two, ?_, ?_, hanswered⟩
      · rw [List.getElem?_append_left (hones ▸ hlt), hone]
      · rw [List.getElem?_append_left (htwos ▸ hlt), htwo]

/-! ## The two stores -/

/-- The two states after the steps, with base `g ^ t`. -/
structure Matched (t : ZMod G.order) (steps : List (Step G)) (c : Committer G) (v : Verifier G) :
    Prop where
  committer_h : c.h = exp t
  verifier_h : v.h = exp t
  nextId_eq : c.nextId = number steps
  /-- The committer can open what is open. -/
  opening : ∀ {id x r}, Open t steps id x r →
    c.openings.find? id = some (honestOpening t x r)
  /-- The verifier holds the commitment to it. -/
  commitment : ∀ {id x r}, Open t steps id x r →
    v.commitments.find? id = some (Sigma.commit G (exp t) r x)
  /-- The verifier holds nothing under a number that was not used. -/
  issued : ∀ {id y}, v.commitments.find? id = some y → id.toNat < (committed steps).length

namespace Matched

variable {draw : Challenger} {c c' : Committer G} {v v' : Verifier G} {k₁ k₂ : G.Exponent}
  {random random' source : ByteSource}

theorem eq_nextId_iff (h : Matched t steps c v) (hcount : (committed steps).length < 2 ^ 64) :
    id = c.nextId ↔ (committed steps).length = id.toNat := by
  rw [h.nextId_eq, number, eq_ofNat_iff hcount]

/-- What is open is under an earlier number than the next one. -/
theorem ne_nextId (h : Matched t steps c v) (hcount : (committed steps).length < 2 ^ 64)
    (hopen : Open t steps id x r) : id ≠ c.nextId := by
  intro hid
  obtain ⟨hlt, -⟩ := List.getElem?_eq_some_iff.1 hopen.committed_eq
  rw [(h.eq_nextId_iff hcount).1 hid] at hlt
  exact lt_irrefl _ hlt

/-- The verifier holds nothing under the next number. -/
theorem find?_nextId (h : Matched t steps c v) (hcount : (committed steps).length < 2 ^ 64) :
    v.commitments.find? c.nextId = none := by
  cases hfind : v.commitments.find? c.nextId with
  | none => rfl
  | some y =>
    have hlt := h.issued hfind
    rw [(h.eq_nextId_iff hcount).1 rfl] at hlt
    exact absurd hlt (lt_irrefl _)

/-- A commitment takes the next number. -/
theorem nextId_commit (h : Matched t steps c v) :
    c.nextId + 1 = number (steps ++ [.commit x r]) := by
  rw [h.nextId_eq, number, number, committed_concat_commit, List.length_append, UInt64.ofNat_add]
  rfl

/-- A commitment that the verifier accepts. -/
theorem accepted (h : Matched t steps c v) (hcount : (committed steps).length < 2 ^ 64) :
    Matched t (steps ++ [.commit x r]) (c.countId.keep c.nextId (honestOpening t x r))
      { v with commitments := v.commitments.insert c.nextId (Sigma.commit G (exp t) r x) } := by
  refine ⟨h.committer_h, h.verifier_h, h.nextId_commit, ?_, ?_, ?_⟩
  · intro id x' r' hopen
    refine (Store.find?_insert _ _ _ _).trans ?_
    -- Open is what was open before, under an earlier number, and the new commitment.
    rcases open_concat.1 hopen with ⟨hstep, hnumber, -⟩ | ⟨hopen, -⟩
    · cases hstep
      exact if_pos ((h.eq_nextId_iff hcount).2 hnumber)
    · exact (if_neg (h.ne_nextId hcount hopen)).trans (h.opening hopen)
  · intro id x' r' hopen
    refine (Store.find?_insert _ _ _ _).trans ?_
    rcases open_concat.1 hopen with ⟨hstep, hnumber, -⟩ | ⟨hopen, -⟩
    · cases hstep
      exact if_pos ((h.eq_nextId_iff hcount).2 hnumber)
    · exact (if_neg (h.ne_nextId hcount hopen)).trans (h.commitment hopen)
  · intro id y hfind
    rw [Store.find?_insert] at hfind
    rw [committed_concat_commit, List.length_append]
    split at hfind
    · next hid =>
      rw [(h.eq_nextId_iff hcount).1 hid]
      exact Nat.lt_succ_self _
    · exact Nat.lt_succ_of_lt (h.issued hfind)

/-- A commitment that the verifier refuses. -/
theorem refused (h : Matched t steps c v) (hcount : (committed steps).length < 2 ^ 64)
    (hsum : residue r + t * residue x = 0) :
    Matched t (steps ++ [.commit x r]) (c.countId.keep c.nextId (honestOpening t x r)) v := by
  have hopen : ∀ {id x' r'}, Open t (steps ++ [.commit x r]) id x' r' → Open t steps id x' r' := by
    intro id x' r' hopen
    rcases open_concat.1 hopen with ⟨hstep, -, hne⟩ | ⟨hopen, -⟩
    · cases hstep
      exact absurd hsum hne
    · exact hopen
  refine ⟨h.committer_h, h.verifier_h, h.nextId_commit, ?_, ?_, ?_⟩
  · intro id x' r' hconcat
    refine (Store.find?_insert _ _ _ _).trans ?_
    exact (if_neg (h.ne_nextId hcount (hopen hconcat))).trans (h.opening (hopen hconcat))
  · intro id x' r' hconcat
    exact h.commitment (hopen hconcat)
  · intro id y hfind
    rw [committed_concat_commit, List.length_append]
    exact Nat.lt_succ_of_lt (h.issued hfind)

/-- A proof of knowledge. -/
theorem judged (h : Matched t steps c v) : Matched t (steps ++ [.prove id k₁ k₂]) c v := by
  have hcommitted : committed (steps ++ [.prove id k₁ k₂]) = committed steps := committed_concat rfl
  refine ⟨h.committer_h, h.verifier_h, ?_, ?_, ?_, ?_⟩
  · rw [number, hcommitted, h.nextId_eq, number]
  · exact fun hopen => h.opening (hopen.of_concat rfl).1
  · exact fun hopen => h.commitment (hopen.of_concat rfl).1
  · rw [hcommitted]
    exact h.issued

/-- An opening. -/
theorem opened (h : Matched t steps c v) :
    Matched t (steps ++ [.reveal id k]) (c.forget id) (v.forget id) := by
  have hcommitted : committed (steps ++ [.reveal id k]) = committed steps := committed_concat rfl
  have hopen : ∀ {other x r}, Open t (steps ++ [.reveal id k]) other x r →
      Open t steps other x r ∧ other ≠ id := by
    intro other x r hconcat
    obtain ⟨hopen, hreveal⟩ := hconcat.of_concat rfl
    refine ⟨hopen, ?_⟩
    rintro rfl
    exact hreveal ⟨k, rfl⟩
  refine ⟨h.committer_h, h.verifier_h, ?_, ?_, ?_, ?_⟩
  · rw [number, hcommitted, ← number, ← h.nextId_eq]
    rfl
  · intro other x r hconcat
    obtain ⟨hconcat, hne⟩ := hopen hconcat
    rw [Committer.forget, Store.find?_erase, if_neg hne, h.opening hconcat]
  · intro other x r hconcat
    obtain ⟨hconcat, hne⟩ := hopen hconcat
    rw [Verifier.forget, Store.find?_erase, if_neg hne, h.commitment hconcat]
  · intro other y hfind
    rw [Verifier.forget, Store.find?_erase] at hfind
    rw [hcommitted]
    split at hfind
    · cases hfind
    · exact h.issued hfind

/-- A step between honest parties is one message, and keeps the states matched. -/
theorem exists_says (h : Matched t steps c v) (hcount : (committed steps).length < 2 ^ 64)
    (hreduced : ∀ p ∈ committed steps, scalar (residue p.1) = p.1)
    (hopen : ∀ id, step.earlier? = some id → ∃ x r, Open t steps id x r)
    (hdrawn : G.Drawn random step.drawn random') :
    ∃ m one two c' v',
      Says .one [(.one, m)] ((Committer.service G draw).perform step.committerCall) c random one c'
        random' ∧
      Says .two [(.one, m)] ((Verifier.service G draw).perform step.verifierCall) v source two v'
        source ∧
      Answered draw t steps step ⟨step.committerCall, one⟩ ⟨step.verifierCall, two⟩ ∧
      Matched t (steps ++ [step]) c' v' := by
  cases step with
  | commit x r =>
    obtain ⟨_, hr, rfl⟩ := hdrawn
    have hopening : c.openingWith x r = honestOpening t x r := by
      rw [Committer.openingWith, h.committer_h, honestOpening]
    have hone : Says .one _ (Committer.commit x) c random _ _ _ := Committer.says_commit x hr
    rw [hopening] at hone
    have hfresh : v.commitments.contains c.nextId = false := by
      rw [Store.contains, h.find?_nextId hcount]
      rfl
    have haccept := @accept_commitMessage G c.nextId _ t r x v hfresh
    -- The commitment is the identity if the two parts cancel, and then it is refused.
    by_cases hsum : residue r + t * residue x = 0
    · rw [if_pos hsum] at haccept
      refine ⟨_, _, _, _, _, hone, Verifier.says_receiveCommitment_error haccept, ?_,
        h.refused hcount hsum⟩
      rw [h.nextId_eq]
      exact .refused hsum
    · rw [if_neg hsum] at haccept
      refine ⟨_, _, _, _, _, hone, Verifier.says_receiveCommitment haccept, ?_, h.accepted hcount⟩
      rw [h.nextId_eq]
      exact .accepted hsum
  | prove id k₁ k₂ =>
    obtain ⟨x, r, hid⟩ := hopen id rfl
    have hone : Says .one _ (Committer.proveKnowledge draw id) c random _ _ _ :=
      Committer.says_proveKnowledge (Committer.opening_eq_ok_iff.2 (h.opening hid)) hdrawn
    have htwo : Says .two [(.one, LawfulMessage.text
          (knowledgeMessage draw (exp t) id (honestOpening t x r) k₁ k₂))]
        (Verifier.verifyKnowledge draw id) v source _ v source :=
      Verifier.says_verifyKnowledge (Verifier.commitment_eq_ok_iff.2 (h.commitment hid)) rfl
    rw [h.committer_h] at hone
    rw [h.verifier_h, verifyOpening_knowledgeMessage] at htwo
    exact ⟨_, _, _, _, _, hone, htwo, .judged, h.judged⟩
  | reveal id k =>
    obtain ⟨x, r, hid⟩ := hopen id rfl
    obtain ⟨_, hk, rfl⟩ := hdrawn
    -- What is open was committed, and committed values are reduced.
    have hx : scalar (residue x) = x :=
      hreduced (x, r) (List.mem_of_getElem? hid.committed_eq)
    have hone : Says .one _ (Committer.proveValue draw id) c random _ _ _ :=
      Committer.says_proveValue (Committer.opening_eq_ok_iff.2 (h.opening hid)) hk
    have htwo : Says .two [(.one, LawfulMessage.text
          (decommitMessage draw (exp t) id (honestOpening t x r) k))]
        (Verifier.verifyValue draw id) v source _ (v.forget id) source :=
      Verifier.says_verifyValue (Verifier.commitment_eq_ok_iff.2 (h.commitment hid)) rfl
    rw [h.committer_h] at hone
    rw [h.verifier_h, revealed_decommitMessage hx (residue_ne_zero_of_sample hk)] at htwo
    exact ⟨_, _, _, _, _, hone, htwo, .opened hid.committed_eq, h.opened⟩

/-- Both parties keep to one dialogue. -/
theorem exists_keeps {before : List (Step G)} (h : Matched t before c v) (draw : Challenger)
    (source : ByteSource) (hcount : (committed (before ++ steps)).length < 2 ^ 64)
    (hreduced : ∀ p ∈ committed (before ++ steps), scalar (residue p.1) = p.1)
    (horderly : Orderly t before steps)
    (hdrawn : G.Drawn random (steps.flatMap Step.drawn) random') :
    ∃ D ones twos c' v',
      ((Committer.service G draw).script (steps.map Step.committerCall)).Keeps .one false
        (fun replies c _ => replies = ones ∧ c = c') D c random ∧
      ((Verifier.service G draw).script (steps.map Step.verifierCall)).Keeps .two false
        (fun replies v _ => replies = twos ∧ v = v') D v source ∧
      Matched t (before ++ steps) c' v' ∧
      ∀ {ones₀ twos₀}, Replied draw t before ones₀ twos₀ →
        Replied draw t (before ++ steps) (ones₀ ++ ones) (twos₀ ++ twos) := by
  -- On the steps to come: each one moves to `before`, and the states stay matched.
  induction steps generalizing before c v random with
  | nil =>
    refine ⟨[], [], [], c, v, .done ⟨rfl, rfl⟩, .done ⟨rfl, rfl⟩, ?_, ?_⟩
    · rwa [List.append_nil]
    · intro ones₀ twos₀ hreplied
      simpa using hreplied
  | cons step steps ih =>
    obtain ⟨hopen, horderly⟩ := horderly
    rw [List.flatMap_cons, DlogGroup.drawn_append] at hdrawn
    obtain ⟨u, hstep, hdrawn⟩ := hdrawn
    have hcons : before ++ step :: steps = before ++ [step] ++ steps := by simp
    rw [hcons] at hcount hreduced ⊢
    have hbefore : (committed before).length < 2 ^ 64 := by
      rw [committed_append, committed_append, List.length_append, List.length_append] at hcount
      omega
    have hreducedBefore : ∀ p ∈ committed before, scalar (residue p.1) = p.1 := by
      intro p hp
      exact hreduced p (by simp [committed_append, hp])
    obtain ⟨m, one, two, c₁, v₁, hone, htwo, hanswered, hmatched⟩ :=
      h.exists_says hbefore hreducedBefore hopen hstep
    obtain ⟨D, ones, twos, c', v', hones, htwos, hend, hreplied⟩ :=
      ih hmatched hcount hreduced horderly hdrawn
    refine ⟨[(.one, m)] ++ D, ⟨step.committerCall, one⟩ :: ones, ⟨step.verifierCall, two⟩ :: twos,
      c', v', keeps_script hone (hones.mono ?_), keeps_script htwo (htwos.mono ?_), hend, ?_⟩
    · rintro _ _ _ ⟨rfl, rfl⟩
      exact ⟨rfl, rfl⟩
    · rintro _ _ _ ⟨rfl, rfl⟩
      exact ⟨rfl, rfl⟩
    · intro ones₀ twos₀ hreplied₀
      have hall := hreplied (hreplied₀.concat hanswered)
      rwa [List.append_assoc ones₀, List.append_assoc twos₀] at hall

end Matched

/-! ## Sessions -/

/-- Set up as the committer, and make the calls. -/
def openCommitter (G : DlogGroup) (draw : Challenger) {σ : Type} (calls : List (Committer.Call G)) :
    ExceptT Error (Party G σ) (List (Committer.service G draw).Reply × Committer G) := do
  let committer ← Committer.setup
  (Party.within committer ((Committer.service G draw).script calls) : Party G σ _)

/-- Set up as the verifier, and make the calls. -/
def openVerifier (G : DlogGroup) (draw : Challenger) {σ : Type} (calls : List Verifier.Call) :
    ExceptT Error (Party G σ) (List (Verifier.service G draw).Reply × Verifier G) := do
  let verifier ← Verifier.setup
  (Party.within verifier ((Verifier.service G draw).script calls) : Party G σ _)

/-- What the two sides end with: the committer stands at side `one`. -/
abbrev SessionResult (G : DlogGroup) (draw : Challenger) : Side → Type
  | .one => Except Error (List (Committer.service G draw).Reply × Committer G)
  | .two => Except Error (List (Verifier.service G draw).Reply × Verifier G)

def sessionParties (G : DlogGroup) (σ : Side → Type) (draw : Challenger) (steps : List (Step G)) :
    (s : Side) → Party G (σ s) (SessionResult G draw s)
  | .one => (openCommitter G draw (steps.map Step.committerCall)).run
  | .two => (openVerifier G draw (steps.map Step.verifierCall)).run

theorem matched_nil (t : ZMod G.order) :
    Matched t [] (⟨exp t, 0, .empty⟩ : Committer G) ⟨exp t, .empty⟩ where
  committer_h := rfl
  verifier_h := rfl
  nextId_eq := rfl
  opening hopen := absurd hopen not_open_nil
  commitment hopen := absurd hopen not_open_nil
  issued := nofun

/-- After a set-up that succeeds, every step of an orderly session is answered as it should be,
whatever the schedule.  Numbers have 64 bits, which keep fewer than `2 ^ 64` commitments apart. -/
theorem alwaysEnds_replied {σ : Side → Type} {store : (s : Side) → σ s} {random : Side → ByteSource}
    {rest₁ rest₂ : ByteSource} {trapdoor : G.Exponent} (draw : Challenger)
    (htrapdoor : G.sample (random .two) = some (trapdoor, rest₂)) (hne : residue trapdoor ≠ 1)
    (hdrawn : G.Drawn (random .one) (steps.flatMap Step.drawn) rest₁)
    (hcount : (committed steps).length < 2 ^ 64)
    (hreduced : ∀ p ∈ committed steps, scalar (residue p.1) = p.1)
    (horderly : Orderly (residue trapdoor) [] steps) :
    (Duet.start (sessionParties G σ draw steps) store random).AlwaysEnds fun e =>
      ∃ ones c twos v, e.EndsWith .one (.ok (ones, c)) ∧ e.EndsWith .two (.ok (twos, v)) ∧
        Replied draw (residue trapdoor) steps ones twos ∧ Matched (residue trapdoor) steps c v := by
  obtain ⟨D, ones, twos, c, v, hones, htwos, hmatched, hreplied⟩ :=
    (matched_nil (residue trapdoor)).exists_keeps draw rest₂ hcount hreduced horderly hdrawn
  have hsetup := ofSetup_encode (residue_ne_zero_of_sample htrapdoor)
  rw [if_neg hne, ← gpow_eq] at hsetup
  rw [← gpow_eq] at hones htwos
  have hends := @Duet.alwaysEnds_endsWith G σ (SessionResult G draw) _
    (sessionParties G σ draw steps) store random _ _ .one
    ((Committer.says_setup hsetup).bind (keeps_within hones))
    ((Verifier.says_setup htrapdoor).bind (keeps_within htwos.toLate))
  refine hends.mono ?_
  rintro e ⟨_, _, hone, ⟨_, _, rfl, rfl, rfl⟩, htwo, ⟨_, _, rfl, rfl, rfl⟩, -⟩
  exact ⟨_, _, _, _, hone, htwo, hreplied .nil, hmatched⟩

/-! ## Modulo 23 -/

section
open SafePrime

/-- Commitments to 3, 5 and 3 modulo 23; the second one is opened before the first. -/
def smallSteps : List (Step small.group) :=
  [.commit three three, .commit (5 : Nat) three, .prove 1 three three, .reveal 1 three,
    .commit three three, .reveal 0 three]

/-- The steps go back to open commitments only. -/
theorem orderly_smallSteps : Orderly (residue three) [] smallSteps := by
  have hprove : ∃ x r, Open (residue three) [.commit three three, .commit (5 : Nat) three] 1 x r :=
    ⟨_, _, open_of_commit [_] [] rfl (by decide) (by simp)⟩
  have hreveal₁ : ∃ x r, Open (residue three) [.commit three three, .commit (5 : Nat) three,
      .prove 1 three three] 1 x r :=
    ⟨_, _, open_of_commit [_] [_] rfl (by decide) (by simp)⟩
  have hreveal₀ : ∃ x r, Open (residue three) [.commit three three, .commit (5 : Nat) three,
      .prove 1 three three, .reveal 1 three, .commit three three] 0 x r :=
    ⟨_, _, open_of_commit [] _ rfl (by decide) (by simp)⟩
  refine ⟨nofun, nofun, ?_, ?_, nofun, ?_, trivial⟩
  · rintro _ ⟨⟩
    exact hprove
  · rintro _ ⟨⟩
    exact hreveal₁
  · rintro _ ⟨⟩
    exact hreveal₀

/-- The verifier is convinced of the second value and gets both in the order of the openings. -/
theorem alwaysEnds_replied_small :
    (Duet.start (sessionParties small.group (fun _ => Unit) (fun _ _ n => List.replicate n 0)
        smallSteps) (fun _ => ()) (fun _ => threes 0)).AlwaysEnds fun e =>
      ∃ ones c twos v, e.EndsWith .one (.ok (ones, c)) ∧ e.EndsWith .two (.ok (twos, v)) ∧
        twos[2]? = some ⟨.knowledge 1, .ok true⟩ ∧
        twos[3]? = some ⟨.value 1, .ok (some (5 : Nat))⟩ ∧
        twos[5]? = some ⟨.value 0, .ok (some three)⟩ := by
  have hreduced : ∀ p ∈ committed smallSteps, scalar (residue p.1) = p.1 := by decide +kernel
  have hdrawn : small.group.Drawn (threes 0) (smallSteps.flatMap Step.drawn) (threes 28) :=
    drawn_threes 7 0
  have h := @alwaysEnds_replied _ smallSteps _ (fun _ => Unit) (fun _ => ()) (fun _ => threes 0) _ _
    three (fun _ _ n => List.replicate n 0) (sample_threes 0) (by decide) hdrawn (by decide)
    hreduced orderly_smallSteps
  refine h.mono ?_
  rintro e ⟨ones, c, twos, v, hone, htwo, hreplied, -⟩
  refine ⟨ones, c, twos, v, hone, htwo, ?_, ?_, ?_⟩
  · obtain ⟨_, _, -, hreply, hanswered⟩ := hreplied.answered
      (show smallSteps = [.commit three three, .commit (5 : Nat) three] ++
        .prove 1 three three :: _ from rfl)
    cases hanswered
    exact hreply
  · obtain ⟨_, _, -, hreply, hanswered⟩ := hreplied.answered
      (show smallSteps = [.commit three three, .commit (5 : Nat) three, .prove 1 three three] ++
        .reveal 1 three :: _ from rfl)
    cases hanswered with
    | opened hcommitted =>
      cases hcommitted
      exact hreply
  · obtain ⟨_, _, -, hreply, hanswered⟩ := hreplied.answered
      (show smallSteps = [.commit three three, .commit (5 : Nat) three, .prove 1 three three,
        .reveal 1 three, .commit three three] ++ .reveal 0 three :: [] from rfl)
    cases hanswered with
    | opened hcommitted =>
      cases hcommitted
      exact hreply

end

end Pedersen

end TwoParty
