import TwoParty.Proofs.Pedersen.Binding
import TwoParty.Proofs.Pedersen.Calls
import TwoParty.Proofs.Solo.Duet

/-!
# TwoParty.Proofs.Pedersen.Issued

What the committer holds and has said after any calls, whatever became of its messages.

The number of a commitment is the number of commitments before it: it is counted before
anything can fail.  `Ledger` reads the state off the log of the calls.  An opening is
forgotten before its message is sent, so no number is opened twice
(`revealsOnce_of_leads`).
-/

namespace TwoParty

open Party Service

namespace Pedersen

namespace Committer

variable {G : DlogGroup} {draw : Challenger} {c₀ c c' : Committer G} {r₀ r r' : ByteSource}
  {h : G.Element} {id : CommitmentId} {log : List (service G draw).Entry}
  {entry : (service G draw).Entry}

/-! ## The log -/

def Call.committed? : Call G → Option G.Exponent
  | .commit x => some x
  | .knowledge _ => none
  | .value _ => none

/-- The values that were committed, in order. -/
def commits (log : List (service G draw).Entry) : List G.Exponent :=
  log.filterMap fun entry => entry.call.committed?

theorem commits_append (log after : List (service G draw).Entry) :
    commits (log ++ after) = commits log ++ commits after := List.filterMap_append

theorem commits_singleton : commits [entry] = entry.call.committed?.toList := by
  cases hcall : entry.call.committed? <;> simp [commits, hcall]

/-- A call that does not commit is not counted. -/
theorem commits_concat (hcall : entry.call.committed? = none) :
    commits (log ++ [entry]) = commits log := by
  rw [commits_append, commits_singleton, hcall]
  exact List.append_nil _

/-- Later calls do not take commitments back. -/
theorem length_commits_le (log after : List (service G draw).Entry) :
    (commits log).length ≤ (commits (log ++ after)).length := by
  rw [commits_append, List.length_append]
  exact Nat.le_add_right _ _

/-- The number was issued, and its value has not been asked for since. -/
def Outstanding (log : List (service G draw).Entry) (id : CommitmentId) : Prop :=
  Since (fun before entry => (∃ x, entry.call = .commit x) ∧ (commits before).length = id.toNat)
    (fun entry => entry.call = .value id) log

/-- A call that commits issues the next number, and one that reveals takes its number back. -/
theorem outstanding_concat :
    Outstanding (log ++ [entry]) id ↔
      ((∃ x, entry.call = .commit x) ∧ (commits log).length = id.toNat) ∨
        (Outstanding log id ∧ entry.call ≠ .value id) :=
  since_concat

/-! ## The state -/

/-- The state of a committer with base `h` is what the log says. -/
structure Ledger (h : G.Element) (log : List (service G draw).Entry) (c : Committer G) : Prop where
  h_eq : c.h = h
  /-- The next number is the number of commitments so far. -/
  nextId_eq : c.nextId = UInt64.ofNat (commits log).length
  /-- The stored openings are those of the outstanding numbers. -/
  stored_iff : ∀ id, (∃ o, c.openings.find? id = some o) ↔ Outstanding log id
  /-- An opening is that of the value committed under its number. -/
  opening : ∀ {id o}, c.openings.find? id = some o →
    (commits log)[id.toNat]? = some o.value ∧
      o.commitment = Sigma.commit G h o.randomness o.value

theorem ledger_nil : Ledger h ([] : List (service G draw).Entry) ⟨h, 0, .empty⟩ where
  h_eq := rfl
  nextId_eq := rfl
  stored_iff _ := iff_of_false nofun not_since_nil
  opening := nofun

namespace Acts

/-- Proving knowledge changes nothing. -/
theorem of_knowledge (hacts : Acts draw c r entry c' r') (hcall : entry.call = .knowledge id) :
    c' = c := by
  cases hacts <;> cases hcall <;> rfl

/-- Whatever comes of revealing a value, its opening is gone. -/
theorem of_value (hacts : Acts draw c r entry c' r') (hcall : entry.call = .value id) :
    c' = c.forget id := by
  cases hacts with
  | strayValue hfind =>
    cases hcall
    rw [forget, Store.erase_eq_self hfind]
  | _ => cases hcall <;> rfl

end Acts

namespace Ledger

variable {x k : G.Exponent}

/-- The next number is the one that is the number of commitments so far. -/
theorem eq_nextId_iff (hledger : Ledger h log c) (hcount : (commits log).length < 2 ^ 64) :
    id = c.nextId ↔ (commits log).length = id.toNat := by
  rw [hledger.nextId_eq, eq_ofNat_iff hcount]

/-- Committing, whatever comes of the message. -/
theorem committed (hledger : Ledger h log c) (hcount : (commits log).length < 2 ^ 64)
    (hcall : entry.call = .commit x) :
    Ledger h (log ++ [entry]) (c.countId.keep c.nextId (c.openingWith x k)) := by
  have hcommits : commits (log ++ [entry]) = commits log ++ [x] := by
    rw [commits_append, commits_singleton, hcall]
    rfl
  refine ⟨hledger.h_eq, ?_, ?_, ?_⟩
  · rw [hcommits, List.length_append, UInt64.ofNat_add, ← hledger.nextId_eq]
    rfl
  · intro id
    rw [outstanding_concat, ← hledger.stored_iff, ← hledger.eq_nextId_iff hcount, hcall, keep,
      Store.find?_insert]
    -- The next number is not outstanding yet; all others stay as they are.
    by_cases hid : id = c.nextId
    · simp [hid]
    · simp [hid, countId]
  · intro id o ho
    rw [keep, Store.find?_insert] at ho
    rw [hcommits]
    split at ho
    · next hid =>
      cases ho
      rw [← (hledger.eq_nextId_iff hcount).1 hid]
      exact ⟨List.getElem?_concat_length, by rw [openingWith, hledger.h_eq]⟩
    · obtain ⟨hvalue, hcommitment⟩ := hledger.opening ho
      -- An earlier value keeps its place, for the list only grows.
      obtain ⟨hlt, -⟩ := List.getElem?_eq_some_iff.1 hvalue
      exact ⟨(List.getElem?_append_left hlt).trans hvalue, hcommitment⟩

/-- Proving knowledge, or failing to. -/
theorem idle (hledger : Ledger h log c) (hcall : entry.call = .knowledge id) :
    Ledger h (log ++ [entry]) c := by
  have hcommits : commits (log ++ [entry]) = commits log := commits_concat (by rw [hcall]; rfl)
  refine ⟨hledger.h_eq, ?_, ?_, ?_⟩
  · rw [hcommits, hledger.nextId_eq]
  · intro other
    rw [outstanding_concat, hledger.stored_iff, hcall]
    simp
  · intro other o ho
    rw [hcommits]
    exact hledger.opening ho

/-- Revealing a value, whatever comes of the message. -/
theorem forgotten (hledger : Ledger h log c) (hcall : entry.call = .value id) :
    Ledger h (log ++ [entry]) (c.forget id) := by
  have hcommits : commits (log ++ [entry]) = commits log := commits_concat (by rw [hcall]; rfl)
  refine ⟨hledger.h_eq, ?_, ?_, ?_⟩
  · rw [hcommits, ← hledger.nextId_eq]
    rfl
  · intro other
    rw [outstanding_concat, ← hledger.stored_iff, hcall, forget, Store.find?_erase]
    by_cases hid : other = id
    · simp [hid]
    · simp [hid, Ne.symm hid]
  · intro other o ho
    rw [forget, Store.find?_erase] at ho
    rw [hcommits]
    split at ho
    · cases ho
    · exact hledger.opening ho

/-- Every call keeps the ledger. -/
theorem step (hledger : Ledger h log c) (hcount : (commits log).length < 2 ^ 64)
    (hentry : entry.Happens c r c' r') : Ledger h (log ++ [entry]) c' := by
  have hacts := acts_of_happens hentry
  cases hcall : entry.call with
  | commit x =>
    cases hacts with
    | committed answer hk => exact hledger.committed hcount rfl
    | _ => cases hcall
  | knowledge id =>
    rw [hacts.of_knowledge hcall]
    exact hledger.idle hcall
  | value id =>
    rw [hacts.of_value hcall]
    exact hledger.forgotten hcall

end Ledger

/-- A committer starts without openings and counts from zero. -/
theorem eq_of_ofSetup {m : SetupMessage} (hsetup : ofSetup G m = .ok c₀) :
    c₀ = ⟨c₀.h, 0, .empty⟩ := by
  unfold ofSetup at hsetup
  cases hmember : G.member "h" m.h with
  | error err =>
    rw [hmember] at hsetup
    cases hsetup
  | ok h =>
    simp only [hmember, bind, Except.bind] at hsetup
    split at hsetup
    · cases hsetup
    · cases hsetup
      rfl

/-- The ledger is kept by any calls. -/
theorem ledger_of_leads {m : SetupMessage} (hsetup : ofSetup G m = .ok c₀)
    (hlog : (service G draw).Leads c₀ r₀ log c r) (hcount : (commits log).length < 2 ^ 64) :
    Ledger c₀.h log c := by
  -- Fewer commitments were made before a call than in the end, so the bound goes down the log.
  induction hlog with
  | nil =>
    rw [eq_of_ofSetup hsetup]
    exact ledger_nil
  | concat _ hentry ih =>
    have hbefore := (length_commits_le _ _).trans_lt hcount
    exact (ih hbefore).step hbefore hentry

/-! ## Messages -/

/-- The call puts out the message that reveals the value under a number. -/
def Reveals (id : CommitmentId) (entry : (service G draw).Entry) : Prop :=
  entry.call = .value id ∧ entry.during ≠ []

/-- No number is revealed a second time. -/
def RevealsOnce (log : List (service G draw).Entry) : Prop :=
  ∀ {id before first between second after},
    log = before ++ first :: (between ++ second :: after) → Reveals id first → ¬ Reveals id second

/-- What is revealed was in the store. -/
theorem Acts.exists_stored (hacts : Acts draw c r entry c' r') (hreveals : Reveals id entry) :
    ∃ o, c.openings.find? id = some o := by
  obtain ⟨hcall, hduring⟩ := hreveals
  cases hacts with
  | strayValue _ => exact absurd rfl hduring
  | revealed hfind _ =>
    cases hcall
    exact ⟨_, hfind⟩
  | _ => cases hcall

/-- No number is revealed twice, after any calls. -/
theorem revealsOnce_of_leads {m : SetupMessage} (hsetup : ofSetup G m = .ok c₀)
    (hlog : (service G draw).Leads c₀ r₀ log c r) (hcount : (commits log).length < 2 ^ 64) :
    RevealsOnce log := by
  intro id before first between second after heq hfirst hsecond
  -- At a call that reveals, the ledger says that its number is outstanding.
  have hstored : ∀ {before entry after}, log = before ++ entry :: after → Reveals id entry →
      ∃ c₁ o, Ledger c₀.h before c₁ ∧ c₁.openings.find? id = some o := by
    intro before entry after heq hreveals
    obtain ⟨c₁, r₁, c₂, r₂, hbefore, hentry, -⟩ := hlog.split heq
    obtain ⟨o, hfind⟩ := (acts_of_happens hentry).exists_stored hreveals
    rw [heq] at hcount
    exact ⟨c₁, o, ledger_of_leads hsetup hbefore ((length_commits_le _ _).trans_lt hcount), hfind⟩
  obtain ⟨c₁, o₁, hledger₁, hfind₁⟩ := hstored heq hfirst
  rw [← List.cons_append, ← List.append_assoc] at heq
  obtain ⟨c₂, o₂, hledger₂, hfind₂⟩ := hstored heq hsecond
  -- The number was issued before the first call, so not between the two.
  have houtstanding := (hledger₂.stored_iff id).1 ⟨o₂, hfind₂⟩
  have hnot : ¬ ∃ x, first.call = .commit x := by
    rintro ⟨x, hcall⟩
    cases hfirst.1.symm.trans hcall
  obtain ⟨between₁, later, between₂, -, -, hissued⟩ :=
    houtstanding.exists_reopened hfirst.1 fun _ hopens => hnot hopens.1
  obtain ⟨hlt, -⟩ := List.getElem?_eq_some_iff.1 (hledger₁.opening hfind₁).1
  have hle := length_commits_le before (first :: between₁)
  omega

/-! ## One call -/

/-- What the committer does at a call, after the calls of a log. -/
structure Proper (log : List (service G draw).Entry) (c : Committer G) (r : ByteSource)
    (entry : (service G draw).Entry) (c' : Committer G) (r' : ByteSource) : Prop where
  /-- The number of a commitment is the number of those before it, whether or not the message
  gets through. -/
  commit : ∀ {x}, entry.call = .commit x → ∃ (m : CommitMessage) (sent : Except Error Unit),
    m.id.toNat = (commits log).length ∧
    entry = ⟨.commit x, [.sent (LawfulMessage.text m) (some sent)],
      (sent.mapError (·.during "sending commitment")).map fun _ => m.id⟩
  /-- A proof of knowledge is the only message of its call. -/
  knowledge : ∀ {id}, entry.call = .knowledge id → entry.during = [] ∨
    ∃ (m : KnowledgeMessage) (sent : Except Error Unit), m.id = id ∧
      entry.during = [.sent (LawfulMessage.text m) (some sent)]
  /-- What is revealed under a number is the value that was committed under it. -/
  value : ∀ {id}, entry.call = .value id → entry.during = [] ∨
    ∃ (m : DecommitMessage) (x : G.Exponent) (sent : Except Error Unit), m.id = id ∧
      (commits log)[id.toNat]? = some x ∧ m.value = G.encodeExponent x ∧
      entry.during = [.sent (LawfulMessage.text m) (some sent)]
  /-- Nothing happens on behalf of a number that is not in the store. -/
  stray : ∀ {id}, entry.call = .knowledge id ∨ entry.call = .value id →
    c.openings.find? id = none →
    entry.during = [] ∧ entry.answer = .error (.invalidInput (.unknownCommitment id)) ∧
      c' = c ∧ r' = r

/-- Every call is proper, where the ledger is kept. -/
theorem proper_of_happens (hledger : Ledger h log c) (hcount : (commits log).length < 2 ^ 64)
    (hentry : entry.Happens c r c' r') : Proper log c r entry c' r' := by
  have hacts := acts_of_happens hentry
  obtain ⟨call, during, answer⟩ := entry
  constructor
  case commit =>
    intro x hcall
    cases hcall
    cases hacts with
    | committed sent _ =>
      exact ⟨_, sent, ((hledger.eq_nextId_iff hcount).1 rfl).symm, rfl⟩
  case knowledge =>
    intro id hcall
    cases hcall
    cases hacts with
    | strayKnowledge _ => exact .inl rfl
    | proved _ _ => exact .inr ⟨_, _, rfl, rfl⟩
  case value =>
    intro id hcall
    cases hcall
    cases hacts with
    | strayValue _ => exact .inl rfl
    | revealed hstored _ => exact .inr ⟨_, _, _, rfl, (hledger.opening hstored).1, rfl, rfl⟩
  case stray =>
    rintro id (hcall | hcall) hfind
    · cases hcall
      cases hacts with
      | strayKnowledge _ => exact ⟨rfl, rfl, rfl, rfl⟩
      | proved hstored _ => cases hfind.symm.trans hstored
    · cases hcall
      cases hacts with
      | strayValue _ => exact ⟨rfl, rfl, rfl, rfl⟩
      | revealed hstored _ => cases hfind.symm.trans hstored

/-- At every point of every run with fewer than `2 ^ 64` commitments the state is what the log
says, no number was revealed twice, and the next call is proper. -/
theorem issued_of_leads {m : SetupMessage} (hsetup : ofSetup G m = .ok c₀)
    (hlog : (service G draw).Leads c₀ r₀ log c r) (hcount : (commits log).length < 2 ^ 64) :
    Ledger c₀.h log c ∧ RevealsOnce log ∧
      ∀ entry c' r', entry.Happens c r c' r' → Proper log c r entry c' r' := by
  have hledger := ledger_of_leads hsetup hlog hcount
  refine ⟨hledger, revealsOnce_of_leads hsetup hlog hcount, ?_⟩
  intro entry c' r' hentry
  exact proper_of_happens hledger hcount hentry

/-! ## Calls that go well, or fail to send -/

/-- A commitment is a call, whether or not its message gets through. -/
theorem happens_commit {x k : G.Exponent} (answer : Except Error Unit)
    (hk : G.sample r = some (k, r')) :
    (⟨.commit x, [.sent (LawfulMessage.text (commitMessage c.nextId (c.openingWith x k)))
        (some answer)], (answer.mapError (·.during "sending commitment")).map fun _ => c.nextId⟩ :
      (service G draw).Entry).Happens c r (c.countId.keep c.nextId (c.openingWith x k)) r' := by
  show (commit x).run.Runs _ _ _ _
  rw [commit, runs_get_bind, runs_set_bind, runs_drawExponent_bind]
  refine .inr ⟨k, r', hk, ?_⟩
  rw [runs_set_bind, runs_bind_except]
  cases answer with
  | error err =>
    refine .inr (.inl ⟨_, _, _, rfl, ?_⟩)
    exact runs_sendMessage.2 ⟨.error err, rfl, rfl, rfl, rfl⟩
  | ok u =>
    refine .inr (.inr ⟨[_], [], u, _, _, rfl, ?_, .done⟩)
    exact runs_sendMessage.2 ⟨.ok u, rfl, rfl, rfl, rfl⟩

theorem happens_value {o : Opening G} {k : G.Exponent} (hfind : c.openings.find? id = some o)
    (hk : G.sample r = some (k, r')) :
    (⟨.value id, [.sent (LawfulMessage.text (decommitMessage draw c.h id o k)) (some (.ok ()))],
      .ok ()⟩ : (service G draw).Entry).Happens c r (c.forget id) r' := by
  have hsays : Says .one _ (proveValue draw id) c r (.ok ()) _ r' :=
    says_proveValue (opening_eq_ok_iff.2 hfind) hk
  exact hsays.runs

/-! ## Modulo 23 -/

section
open LawfulGroup SafePrime

/-- A commitment that is lost, one that gets through, and the opening of the second. -/
theorem issued_of_leads_small :
    ∃ (m : SetupMessage) (c₀ c : Committer small.group)
      (log : List (service small.group (repeating 0)).Entry) (r : ByteSource),
      ofSetup small.group m = .ok c₀ ∧
      (service small.group (repeating 0)).Leads c₀ (threes 0) log c r ∧
      commits log = [three, three] ∧ (∃ entry ∈ log, Reveals 1 entry) ∧
      Outstanding log 0 ∧ ¬ Outstanding log 1 ∧ RevealsOnce log := by
  let c₀ : Committer small.group := ⟨exp 3, 0, .empty⟩
  let c₁ := c₀.countId.keep 0 (c₀.openingWith three three)
  let c₂ := c₁.countId.keep 1 (c₁.openingWith three three)
  have hsetup : ofSetup small.group ⟨small.group.encodeElement (exp 3)⟩ = .ok c₀ := by
    rw [ofSetup_encode (by decide), if_neg (by decide)]
  have hlost := @happens_commit _ (repeating 0) c₀ _ _ three three
    (.error (.io "send" .brokenPipe)) (sample_threes 0)
  have hsent := @happens_commit _ (repeating 0) c₁ _ _ three three (.ok ()) (sample_threes 4)
  have hvalue := @happens_value _ (repeating 0) c₂ _ _ 1 (c₁.openingWith three three) three
    (Store.find?_insert_self _ _ _) (sample_threes 8)
  have hlog := ((Leads.nil.concat hlost).concat hsent).concat hvalue
  obtain ⟨hledger, honce, -⟩ := issued_of_leads hsetup hlog (by decide)
  refine ⟨_, c₀, _, _, _, hsetup, hlog, rfl, ?_, ?_, ?_, honce⟩
  · exact ⟨_, List.mem_append_right _ (List.mem_singleton_self _), rfl, List.cons_ne_nil _ _⟩
  · exact (hledger.stored_iff 0).1 ⟨_, rfl⟩
  · rw [← hledger.stored_iff]
    exact nofun

end

end Committer

end Pedersen

end TwoParty
