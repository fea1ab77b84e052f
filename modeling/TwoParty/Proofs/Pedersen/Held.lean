import TwoParty.Proofs.Group.Canonical
import TwoParty.Proofs.Pedersen.Binding
import TwoParty.Proofs.Pedersen.Calls
import TwoParty.Proofs.Solo.Duet

/-!
# TwoParty.Proofs.Pedersen.Held

What the verifier holds after any calls, whatever it was sent.

Under a number the store has the commitment that was accepted under it, until the number's
value is asked for (`find?_iff_held`).  `Careful` says what a single call may do to it, and
what it takes to open a commitment; since an opening is a closing entry of the log, two
openings under one number have an acceptance between them (`opensOnce_of_leads`).
-/

namespace TwoParty

open Party Service

namespace Pedersen

/-! ## Revealed values -/

variable {G : DlogGroup} {draw : Challenger} {id : CommitmentId} {c : G.Element}

/-- A revealed value is the one that the message encodes. -/
theorem decodeExponent_of_revealed {h : G.Element} {m : DecommitMessage} {x : G.Exponent}
    (hm : Verifier.revealed G draw h c id m = some x) : G.decodeExponent m.value = .ok x := by
  unfold Verifier.revealed DlogGroup.exponent at hm
  cases hdecode : G.decodeExponent m.value with
  | error reason =>
    rw [hdecode] at hm
    cases hm
  | ok value =>
    rw [hdecode] at hm
    split at hm
    · contradiction
    · next hvalue =>
      cases hvalue
      split at hm
      · cases hm
        rfl
      · cases hm

namespace Verifier

variable {t : G.Exponent} {v v' : Verifier G} {r₀ r r' : ByteSource}
  {log : List (service G draw).Entry} {entry : (service G draw).Entry}

/-! ## Acceptances -/

/-- A commitment is accepted under a number that is free if it is a member. -/
theorem accept_eq_ok_iff {m : CommitMessage} :
    v.accept m = .ok v' ↔ v.commitments.find? m.id = none ∧
      ∃ c, G.member "commitment" m.commitment = .ok c ∧
        v' = { v with commitments := v.commitments.insert m.id c } := by
  unfold accept Store.contains
  cases hfind : v.commitments.find? m.id with
  | some c => simp [bind, Except.bind, throw, throwThe, MonadExceptOf.throw]
  | none =>
    cases hmember : G.member "commitment" m.commitment with
    | error err => simp [bind, Except.bind]
    | ok c => simp [bind, Except.bind, pure, Except.pure, eq_comm]

/-- The call heard a commitment to a member and accepted it under the number. -/
def Accepted (id : CommitmentId) (c : G.Element) (entry : (service G draw).Entry) : Prop :=
  ∃ (data : Bytes) (m : CommitMessage), Message.read data = .ok m ∧ m.id = id ∧
    G.member "commitment" m.commitment = .ok c ∧
    entry = ⟨.receive, [.received (some (.ok data))], .ok id⟩

theorem Accepted.call_eq (h : Accepted id c entry) : entry.call = .receive := by
  obtain ⟨data, m, -, -, -, rfl⟩ := h
  rfl

theorem not_accepted_of_error {err : Error} (h : entry.answer = .error err) :
    ¬ Accepted id c entry := by
  rintro ⟨data, m, -, -, -, rfl⟩
  cases h

/-- A call that heard a message and accepted it did so with the commitment of the message. -/
theorem accepted_iff {answer : Except Error Bytes} {m : CommitMessage}
    (h : understood "receiving commitment" answer = .ok m) :
    Accepted id c
        (⟨.receive, [.received (some answer)], .ok m.id⟩ : (service G draw).Entry) ↔
      m.id = id ∧ G.member "commitment" m.commitment = .ok c := by
  obtain ⟨data, rfl, hread⟩ := understood_eq_ok_iff.1 h
  constructor
  · rintro ⟨data', m', hread', hid, hmember, hentry⟩
    cases hentry
    cases hread.symm.trans hread'
    exact ⟨rfl, hmember⟩
  · rintro ⟨rfl, hmember⟩
    exact ⟨data, m, hread, rfl, hmember, rfl⟩

/-- The commitment was accepted under the number, and the number's value has not been asked
for since. -/
def Held (log : List (service G draw).Entry) (id : CommitmentId) (c : G.Element) : Prop :=
  Since (fun _ entry => Accepted id c entry) (fun entry => entry.call = .value id) log

/-! ## One call -/

namespace Acts

/-- No call changes the base. -/
theorem h_eq (h : Acts draw v entry v') : v'.h = v.h := by
  cases h with
  | accepted _ haccept =>
    obtain ⟨-, c, -, rfl⟩ := accept_eq_ok_iff.1 haccept
    rfl
  | _ => rfl

/-- Looking at a proof of knowledge changes nothing. -/
theorem of_knowledge (h : Acts draw v entry v') (hcall : entry.call = .knowledge id) : v' = v := by
  cases h <;> cases hcall <;> rfl

/-- Whatever comes of asking for a value, its commitment is gone. -/
theorem of_value (h : Acts draw v entry v') (hcall : entry.call = .value id) :
    v' = v.forget id := by
  cases h with
  | strayValue hfind =>
    cases hcall
    rw [forget, Store.erase_eq_self hfind]
  | _ => cases hcall <;> rfl

/-- The commitments after a call: the one that it accepted, and all but the one whose value
it asked for. -/
theorem find?_iff (h : Acts draw v entry v') :
    v'.commitments.find? id = some c ↔
      Accepted id c entry ∨ (v.commitments.find? id = some c ∧ entry.call ≠ .value id) := by
  -- Most calls change nothing and accept nothing.
  have hunchanged : ¬ Accepted id c entry → entry.call ≠ .value id → v' = v →
      (v'.commitments.find? id = some c ↔
        Accepted id c entry ∨ (v.commitments.find? id = some c ∧ entry.call ≠ .value id)) := by
    rintro hnot hcall rfl
    exact ((or_iff_right hnot).trans (and_iff_left hcall)).symm
  obtain ⟨call, during, answer⟩ := entry
  cases call with
  | knowledge other =>
    exact hunchanged (fun haccepted => nomatch haccepted.call_eq) nofun (h.of_knowledge rfl)
  | value other =>
    have hnot : ¬ Accepted id c (⟨.value other, during, answer⟩ : (service G draw).Entry) :=
      fun haccepted => nomatch haccepted.call_eq
    rw [h.of_value rfl, forget, Store.find?_erase]
    by_cases hid : id = other
    · subst hid
      simp [hnot]
    · simp [hnot, hid, Ne.symm hid]
  | receive =>
    cases h with
    | unheard _ => exact hunchanged (not_accepted_of_error rfl) nofun rfl
    | refused _ _ => exact hunchanged (not_accepted_of_error rfl) nofun rfl
    | @accepted answer m _ hm haccept =>
      obtain ⟨hfresh, c₁, hmember, rfl⟩ := accept_eq_ok_iff.1 haccept
      rw [accepted_iff hm, hmember, Store.find?_insert]
      -- The number was free, so what is found there now was accepted by this call.
      by_cases hid : id = m.id
      · subst hid
        simp [hfresh]
      · simp [hid, Ne.symm hid]

end Acts

/-! ## Any calls -/

/-- The base is the one of the trapdoor, after any calls. -/
theorem h_of_leads (h : (service G draw).Leads (ofTrapdoor G t) r₀ log v r) : v.h = G.gpow t := by
  induction h with
  | nil => rfl
  | concat _ hentry ih => exact (acts_of_happens hentry).2.h_eq.trans ih

/-- The store is told by the log. -/
theorem find?_iff_held (h : (service G draw).Leads (ofTrapdoor G t) r₀ log v r) :
    v.commitments.find? id = some c ↔ Held log id c := by
  -- The log is told from its end, one call at a time.
  induction h with
  | nil => exact iff_of_false nofun not_since_nil
  | concat _ hentry ih => rw [(acts_of_happens hentry).2.find?_iff, ih, Held, Held, since_concat]

/-! ## What a call may do -/

/-- What the verifier owes its caller at a call. -/
structure Careful (draw : Challenger) (v : Verifier G) (r : ByteSource)
    (entry : (service G draw).Entry) (v' : Verifier G) (r' : ByteSource) : Prop where
  /-- No call takes randomness. -/
  random : r' = r
  /-- What is accepted is a commitment to a member, under the number that it names. -/
  accepted : ∀ {during id}, entry = ⟨.receive, during, .ok id⟩ → ∃ c, Accepted id c entry
  /-- A commitment that is not accepted changes nothing. -/
  refused : ∀ {during err}, entry = ⟨.receive, during, .error err⟩ → v' = v
  /-- Nor does looking at a proof of knowledge. -/
  knowledge : ∀ {id}, entry.call = .knowledge id → v' = v
  /-- Whatever comes of asking for a value, its commitment is gone and no other one. -/
  value : ∀ {id}, entry.call = .value id → v' = v.forget id
  /-- Nothing is heard on behalf of a number that is not in the store. -/
  stray : ∀ {id}, entry.call = .knowledge id ∨ entry.call = .value id →
    v.commitments.find? id = none →
    entry.during = [] ∧ entry.answer = .error (.invalidInput (.unknownCommitment id)) ∧ v' = v
  foreignKnowledge : ∀ {id data} {m : KnowledgeMessage}, entry.call = .knowledge id →
    entry.during = [.received (some (.ok data))] → Message.read data = .ok m → m.id ≠ id →
    entry.answer = .error (.protocolFormat (.wrongCommitment m.id id))
  foreignValue : ∀ {id data} {m : DecommitMessage}, entry.call = .value id →
    entry.during = [.received (some (.ok data))] → Message.read data = .ok m → m.id ≠ id →
    entry.answer = .error (.protocolFormat (.wrongCommitment m.id id))
  /-- A value comes out of a message about it, with a proof about the stored commitment. -/
  opened : ∀ {id during x}, entry = ⟨.value id, during, .ok (some x)⟩ →
    ∃ c data, ∃ m : DecommitMessage, v.commitments.find? id = some c ∧
      during = [.received (some (.ok data))] ∧ Message.read data = .ok m ∧ m.id = id ∧
      m.value = G.encodeExponent x ∧
      (Sigma.verifyDlog G draw (valueTranscript id) G.generator
        (G.mul c (G.pow v.h (G.neg x))) m.proof).1 = true

namespace Acts

variable {during : List Event} {data : Bytes}

/-- Nothing is heard of a knowledge proof for a number that is not in the store. -/
theorem of_stray_knowledge {answer : Except Error Bool}
    (h : Acts draw v ⟨.knowledge id, during, answer⟩ v') (hfind : v.commitments.find? id = none) :
    during = [] ∧ answer = .error (.invalidInput (.unknownCommitment id)) := by
  cases h with
  | strayKnowledge _ => exact ⟨rfl, rfl⟩
  | unheardKnowledge hstored _ => cases hfind.symm.trans hstored
  | foreignKnowledge hstored _ _ => cases hfind.symm.trans hstored
  | judged hstored _ _ => cases hfind.symm.trans hstored

theorem of_stray_value {answer : Except Error (Option G.Exponent)}
    (h : Acts draw v ⟨.value id, during, answer⟩ v') (hfind : v.commitments.find? id = none) :
    during = [] ∧ answer = .error (.invalidInput (.unknownCommitment id)) := by
  cases h with
  | strayValue _ => exact ⟨rfl, rfl⟩
  | unheardValue hstored _ => cases hfind.symm.trans hstored
  | foreignValue hstored _ _ => cases hfind.symm.trans hstored
  | opened hstored _ _ => cases hfind.symm.trans hstored

/-- A knowledge proof for another number is refused. -/
theorem of_foreign_knowledge {answer : Except Error Bool} {m : KnowledgeMessage}
    (h : Acts draw v ⟨.knowledge id, [.received (some (.ok data))], answer⟩ v')
    (hread : Message.read data = .ok m) (hid : m.id ≠ id) :
    answer = .error (.protocolFormat (.wrongCommitment m.id id)) := by
  have hm := understood_ok "receiving knowledge proof" hread
  cases h with
  | unheardKnowledge _ herror => cases hm.symm.trans herror
  | foreignKnowledge _ hm' _ =>
    cases hm.symm.trans hm'
    rfl
  | judged _ hm' hid' =>
    cases hm.symm.trans hm'
    exact absurd hid' hid

theorem of_foreign_value {answer : Except Error (Option G.Exponent)} {m : DecommitMessage}
    (h : Acts draw v ⟨.value id, [.received (some (.ok data))], answer⟩ v')
    (hread : Message.read data = .ok m) (hid : m.id ≠ id) :
    answer = .error (.protocolFormat (.wrongCommitment m.id id)) := by
  have hm := understood_ok "receiving decommitment" hread
  cases h with
  | unheardValue _ herror => cases hm.symm.trans herror
  | foreignValue _ hm' _ =>
    cases hm.symm.trans hm'
    rfl
  | opened _ hm' hid' =>
    cases hm.symm.trans hm'
    exact absurd hid' hid

/-- An opening names its number, and its message was accepted for the stored commitment. -/
theorem of_opened {x : G.Exponent} (h : Acts draw v ⟨.value id, during, .ok (some x)⟩ v') :
    ∃ c data, ∃ m : DecommitMessage, v.commitments.find? id = some c ∧
      during = [.received (some (.ok data))] ∧ Message.read data = .ok m ∧ m.id = id ∧
      revealed G draw v.h c id m = some x := by
  generalize hanswer : (.ok (some x) : Except Error (Option G.Exponent)) = answer at h
  cases h with
  | opened hstored hm hid =>
    obtain ⟨data, rfl, hread⟩ := understood_eq_ok_iff.1 hm
    exact ⟨_, data, _, hstored, rfl, hread, hid, (Except.ok.inj hanswer).symm⟩
  | _ => cases hanswer

end Acts

/-- Every call is careful, in any state. -/
theorem careful_of_happens [CanonicalExponents G] (h : entry.Happens v r v' r') :
    Careful draw v r entry v' r' := by
  obtain ⟨hrandom, hacts⟩ := acts_of_happens h
  obtain ⟨call, during, answer⟩ := entry
  constructor
  case random => exact hrandom
  case accepted =>
    intro during id hentry
    cases hentry
    cases hacts with
    | @accepted answer m _ hm haccept =>
      obtain ⟨-, c, hmember, -⟩ := accept_eq_ok_iff.1 haccept
      exact ⟨c, (accepted_iff hm).2 ⟨rfl, hmember⟩⟩
  case refused =>
    intro during err hentry
    cases hentry
    cases hacts with
    | unheard _ => rfl
    | refused _ _ => rfl
  case knowledge => exact hacts.of_knowledge
  case value => exact hacts.of_value
  case stray =>
    rintro id (hcall | hcall) hfind
    · cases hcall
      obtain ⟨hduring, hanswer⟩ := hacts.of_stray_knowledge hfind
      exact ⟨hduring, hanswer, hacts.of_knowledge rfl⟩
    · cases hcall
      obtain ⟨hduring, hanswer⟩ := hacts.of_stray_value hfind
      refine ⟨hduring, hanswer, ?_⟩
      rw [hacts.of_value rfl, forget, Store.erase_eq_self hfind]
  case foreignKnowledge =>
    intro id data m hcall hduring hread hid
    cases hcall
    cases hduring
    exact hacts.of_foreign_knowledge hread hid
  case foreignValue =>
    intro id data m hcall hduring hread hid
    cases hcall
    cases hduring
    exact hacts.of_foreign_value hread hid
  case opened =>
    intro id during x hentry
    cases hentry
    obtain ⟨c, data, m, hfind, hduring, hread, hid, hrevealed⟩ := hacts.of_opened
    have hvalue := CanonicalExponents.encode_of_decode (decodeExponent_of_revealed hrevealed)
    exact ⟨c, data, m, hfind, hduring, hread, hid, hvalue.symm, verifyDlog_of_revealed hrevealed⟩

/-! ## Openings -/

/-- Two openings under one number have an acceptance under it between them. -/
def OpensOnce (log : List (service G draw).Entry) : Prop :=
  ∀ {id before during₁ x between during₂ y after},
    log = before ++ ⟨.value id, during₁, .ok (some x)⟩ ::
      (between ++ ⟨.value id, during₂, .ok (some y)⟩ :: after) →
    ∃ entry ∈ between, ∃ c, Accepted id c entry

/-- No acceptance is opened twice, after any calls. -/
theorem opensOnce_of_leads (h : (service G draw).Leads (ofTrapdoor G t) r₀ log v r) :
    OpensOnce log := by
  intro id before during₁ x between during₂ y after hlog
  rw [← List.cons_append, ← List.append_assoc] at hlog
  obtain ⟨u, s, u', s', hbefore, hsecond, -⟩ := h.split hlog
  obtain ⟨c, -, -, hfind, -⟩ := (acts_of_happens hsecond).2.of_opened
  -- The first opening closed the number, so it was opened again before the second.
  have hheld := (find?_iff_held hbefore).1 hfind
  obtain ⟨_, entry, _, rfl, haccepted⟩ := hheld.exists_reopened rfl
    fun _ haccepted => nomatch haccepted.call_eq
  exact ⟨entry, by simp, c, haccepted⟩

/-- At every point of every run the store is what the log says, the next call is careful,
and every acceptance was opened at most once. -/
theorem held_of_leads [CanonicalExponents G]
    (h : (service G draw).Leads (ofTrapdoor G t) r₀ log v r) :
    (v.h = G.gpow t ∧ ∀ id c, v.commitments.find? id = some c ↔ Held log id c) ∧
      (∀ entry v' r', entry.Happens v r v' r' → Careful draw v r entry v' r') ∧
      OpensOnce log := by
  refine ⟨⟨h_of_leads h, ?_⟩, ?_, opensOnce_of_leads h⟩
  · intro id c
    exact find?_iff_held h
  · intro entry v' r' hentry
    exact careful_of_happens hentry

/-! ## Calls that go well -/

/-- A commitment that is accepted is heard by a call. -/
theorem happens_receive {m : CommitMessage} (h : v.accept m = .ok v') :
    (⟨.receive, [.received (some (.ok (LawfulMessage.text m)))], .ok m.id⟩ :
      (service G draw).Entry).Happens v r v' r := by
  have hsays : Says .two _ receiveCommitment v r _ v' r := says_receiveCommitment h
  exact hsays.runs

/-- The opening of a stored number is heard by a call. -/
theorem happens_value {m : DecommitMessage} (hfind : v.commitments.find? m.id = some c) :
    (⟨.value m.id, [.received (some (.ok (LawfulMessage.text m)))],
      .ok (revealed G draw v.h c m.id m)⟩ : (service G draw).Entry).Happens v r
        (v.forget m.id) r := by
  have hsays : Says .two _ (verifyValue draw m.id) v r _ _ r :=
    says_verifyValue (commitment_eq_ok_iff.2 hfind) rfl
  exact hsays.runs

/-! ## Modulo 23 -/

section
open LawfulGroup SafePrime

def smallVerifier : Verifier small.group := ofTrapdoor small.group three

def smallOpening : Opening small.group := honestOpening 3 three three

def smallHolder : Verifier small.group :=
  { smallVerifier with commitments := Store.empty.insert 0 smallOpening.commitment }

def smallReceive : (service small.group (repeating 0)).Entry :=
  ⟨.receive, [.received (some (.ok (LawfulMessage.text (commitMessage 0 smallOpening))))], .ok 0⟩

def smallValue : (service small.group (repeating 0)).Entry :=
  ⟨.value 0, [.received (some (.ok (LawfulMessage.text
    (decommitMessage (repeating 0) (exp 3) 0 smallOpening three))))], .ok (some three)⟩

theorem happens_smallReceive (r : ByteSource) :
    smallReceive.Happens smallVerifier r smallHolder r := by
  refine happens_receive (m := commitMessage 0 smallOpening) ?_
  rw [smallOpening, accept_commitMessage rfl, if_neg (by decide)]
  rfl

theorem happens_smallValue (r : ByteSource) :
    smallValue.Happens smallHolder r smallVerifier r := by
  let m := decommitMessage (repeating 0) (exp 3) 0 smallOpening three
  have hforget : smallHolder.forget m.id = smallVerifier :=
    congrArg (Verifier.mk _) (Store.erase_insert_empty 0 smallOpening.commitment)
  have hbase : smallHolder.h = exp 3 := gpow_eq three
  have hrevealed : revealed small.group (repeating 0) (exp 3) smallOpening.commitment m.id m =
      some three := revealed_decommitMessage rfl (by decide)
  have hvalue := @happens_value _ (repeating 0) _ smallHolder r m
    (Store.find?_insert_self .empty 0 smallOpening.commitment)
  rw [hforget, hbase, hrevealed] at hvalue
  exact hvalue

/-- The commitment is heard, opened, heard once more and opened once more. -/
theorem held_of_leads_small :
    ∃ (log : List (service small.group (repeating 0)).Entry) (v : Verifier small.group),
      (service small.group (repeating 0)).Leads smallVerifier (threes 0) log v (threes 0) ∧
      log.length = 3 ∧ Held log 0 smallOpening.commitment ∧ OpensOnce (log ++ [smallValue]) ∧
      Careful (repeating 0) v (threes 0) smallValue smallVerifier (threes 0) := by
  have hlog := ((Leads.nil.concat (happens_smallReceive (threes 0))).concat
    (happens_smallValue (threes 0))).concat (happens_smallReceive (threes 0))
  have hvalue := happens_smallValue (threes 0)
  obtain ⟨⟨-, hheld⟩, hcareful, -⟩ := held_of_leads hlog
  obtain ⟨-, -, honce⟩ := held_of_leads (hlog.concat hvalue)
  exact ⟨_, _, hlog, rfl, (hheld 0 _).1 rfl, honce, hcareful _ _ _ hvalue⟩

end

end Verifier

end Pedersen

end TwoParty
