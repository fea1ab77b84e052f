import TwoParty.Proofs.Duet.Says
import TwoParty.Proofs.Solo.Basic

/-!
# TwoParty.Proofs.Solo.Service

Operations on one store that may be called in any order.

`Service.Leads` follows the store through a log of calls, each with what the transport saw
of it and with its answer.  The transport answers as it likes, so a statement about all logs
is a statement about every order of calls and every peer.

What the store holds after a log is told by what happened last: `Since` says that an entry
of the log opened something and that none has closed it since (`since_concat`).
-/

namespace TwoParty

open Party

variable {G : DlogGroup} {σ α β : Type}

/-! ## Messages -/

namespace Party

variable {s s' : σ} {r r' : ByteSource} {es : List Event} {step : String} [Message α]

/-- What becomes of the answer of the transport, when the party waits for a message. -/
def understood (step : String) (answer : Except Error Bytes) : Except Error α :=
  answer.mapError (·.during step) >>= Channel.readMessage step

/-- A message is understood if it arrives and can be read. -/
theorem understood_eq_ok_iff {answer : Except Error Bytes} {m : α} :
    understood step answer = .ok m ↔ ∃ data, answer = .ok data ∧ Message.read data = .ok m := by
  cases answer with
  | error err => simp [understood, Except.mapError, bind, Except.bind]
  | ok data =>
    have hbind : understood step (.ok data) =
        (Channel.readMessage step data : Except Error α) := rfl
    rw [hbind]
    cases hread : (Message.read data : Except Json.Error α) with
    | error reason => simp [Channel.readMessage_of_error step hread, hread]
    | ok m' => simp [Channel.readMessage_of_read step hread, hread]

theorem understood_ok (step : String) {data : Bytes} {m : α} (h : Message.read data = .ok m) :
    understood step (.ok data) = .ok m :=
  understood_eq_ok_iff.2 ⟨data, rfl, h⟩

/-- What comes of waiting for a message. -/
theorem runs_receiveMessage {e : Ending σ (Except Error α)} :
    (Channel.receiveMessage step : ExceptT Error (Party G σ) α).run.Runs s r es e ↔
      ∃ answer, es = [.received answer] ∧ e = answer.map fun v => (understood step v, s, r) := by
  rw [Channel.receiveMessage, runs_receiveBytes_bind]
  constructor
  · rintro (⟨rfl, rfl⟩ | ⟨err, rfl, rfl⟩ | ⟨data, es', rfl, h⟩)
    · exact ⟨none, rfl, rfl⟩
    · exact ⟨some (.error err), rfl, rfl⟩
    · obtain ⟨rfl, rfl⟩ := runs_except.1 h
      exact ⟨some (.ok data), rfl, rfl⟩
  · rintro ⟨answer, rfl, rfl⟩
    rcases answer with _ | err | data
    · exact .inl ⟨rfl, rfl⟩
    · exact .inr (.inl ⟨err, rfl, rfl⟩)
    · exact .inr (.inr ⟨data, [], rfl, runs_except.2 ⟨rfl, rfl⟩⟩)

/-- What comes of waiting for a message, in a run that ends. -/
theorem runs_receiveMessage_bind {f : α → ExceptT Error (Party G σ) β} {a : Except Error β} :
    (Channel.receiveMessage step >>= f).run.Runs s r es (some (a, s', r')) ↔
      (∃ answer err, understood (α := α) step answer = .error err ∧
        es = [.received (some answer)] ∧ a = .error err ∧ s' = s ∧ r' = r) ∨
      ∃ answer m es', understood step answer = .ok m ∧ es = .received (some answer) :: es' ∧
        (f m).run.Runs s r es' (some (a, s', r')) := by
  rw [Channel.receiveMessage, LawfulMonad.bind_assoc, runs_receiveBytes_bind]
  constructor
  · rintro (⟨-, h⟩ | ⟨err, rfl, h⟩ | ⟨data, es', rfl, h⟩)
    · cases h
    · cases h
      exact .inl ⟨.error err, _, rfl, rfl, rfl, rfl, rfl⟩
    · cases hread : (Channel.readMessage step data : Except Error α) with
      | error err =>
        rw [hread, runs_error_bind] at h
        obtain ⟨rfl, h⟩ := h
        cases h
        exact .inl ⟨.ok data, err, hread, rfl, rfl, rfl, rfl⟩
      | ok m =>
        rw [hread, runs_ok_bind] at h
        exact .inr ⟨.ok data, m, es', hread, rfl, h⟩
  · rintro (⟨answer, err, herr, rfl, rfl, rfl, rfl⟩ | ⟨answer, m, es', hm, rfl, h⟩)
    · cases answer with
      | error e =>
        cases herr
        exact .inr (.inl ⟨e, rfl, rfl⟩)
      | ok data =>
        have hread : (Channel.readMessage step data : Except Error α) = .error err := herr
        refine .inr (.inr ⟨data, [], rfl, ?_⟩)
        rw [hread, runs_error_bind]
        exact ⟨rfl, rfl⟩
    · cases answer with
      | error e => cases hm
      | ok data =>
        have hread : (Channel.readMessage step data : Except Error α) = .ok m := hm
        refine .inr (.inr ⟨data, es', rfl, ?_⟩)
        rwa [hread, runs_ok_bind]

/-- What comes of sending a message, in a run that ends. -/
theorem runs_sendMessage [LawfulMessage α] {m : α} {a : Except Error Unit} :
    (Channel.sendMessage step m : ExceptT Error (Party G σ) Unit).run.Runs s r es
        (some (a, s', r')) ↔
      ∃ answer, es = [.sent (LawfulMessage.text m) (some answer)] ∧
        a = answer.mapError (·.during step) ∧ s' = s ∧ r' = r := by
  rw [Channel.sendMessage, LawfulMessage.write_eq, runs_sendBytes]
  constructor
  · rintro ⟨answer, rfl, h⟩
    obtain ⟨v, rfl, hv⟩ := Option.map_eq_some_iff.1 h.symm
    cases hv
    exact ⟨v, rfl, rfl, rfl, rfl⟩
  · rintro ⟨answer, rfl, rfl, rfl, rfl⟩
    exact ⟨some answer, rfl, rfl⟩

end Party

/-! ## Histories -/

section
variable {ρ : Type} {opens : List ρ → ρ → Prop} {closes : ρ → Prop} {log : List ρ} {entry : ρ}

/-- Some entry opened, given the entries before it, and no later one closed. -/
def Since (opens : List ρ → ρ → Prop) (closes : ρ → Prop) (log : List ρ) : Prop :=
  ∃ before entry after, log = before ++ entry :: after ∧ opens before entry ∧
    ∀ later ∈ after, ¬ closes later

theorem not_since_nil : ¬ Since opens closes [] := by
  rintro ⟨before, entry, after, h, -⟩
  exact List.append_ne_nil_of_right_ne_nil before (List.cons_ne_nil entry after) h.symm

/-- The last entry opened, or it did not close what was open before. -/
theorem since_concat :
    Since opens closes (log ++ [entry]) ↔
      opens log entry ∨ (Since opens closes log ∧ ¬ closes entry) := by
  constructor
  · rintro ⟨before, first, after, h, hopens, hafter⟩
    -- The entry that opened is the last one, or it stands before the last one.
    rcases List.eq_nil_or_concat after with rfl | ⟨after, last, rfl⟩
    · obtain ⟨rfl, hentry⟩ := List.append_inj' h rfl
      cases hentry
      exact .inl hopens
    · rw [List.concat_eq_append, ← List.cons_append, ← List.append_assoc] at h
      obtain ⟨rfl, hentry⟩ := List.append_inj' h rfl
      cases hentry
      refine .inr ⟨⟨before, first, after, rfl, hopens, ?_⟩, ?_⟩
      · intro later hlater
        exact hafter later (by simp [hlater])
      · exact hafter _ (by simp)
  · rintro (h | ⟨⟨before, first, after, rfl, hopens, hafter⟩, hentry⟩)
    · exact ⟨log, entry, [], rfl, h, by simp⟩
    · refine ⟨before, first, after ++ [entry], by simp, hopens, ?_⟩
      intro later hlater
      rcases List.mem_append.1 hlater with hlater | hlater
      · exact hafter later hlater
      · rw [List.mem_singleton.1 hlater]
        exact hentry

/-- What is open after an entry that closed was opened later than that. -/
theorem Since.exists_reopened {before between : List ρ}
    (h : Since opens closes (before ++ entry :: between)) (hcloses : closes entry)
    (hopens : ∀ earlier, ¬ opens earlier entry) :
    ∃ between₁ later between₂, between = between₁ ++ later :: between₂ ∧
      opens (before ++ entry :: between₁) later := by
  induction between using List.reverseRecOn with
  | nil =>
    rcases since_concat.1 h with h | ⟨-, h⟩
    · exact absurd h (hopens before)
    · exact absurd hcloses h
  | append_singleton between last ih =>
    rw [← List.cons_append, ← List.append_assoc] at h
    rcases since_concat.1 h with h | ⟨h, -⟩
    · exact ⟨between, last, [], rfl, h⟩
    · obtain ⟨between₁, later, between₂, rfl, hlater⟩ := ih h
      exact ⟨between₁, later, between₂ ++ [last], by simp, hlater⟩

end

/-! ## Services -/

/-- The operations that can be called on a store. -/
structure Service (G : DlogGroup) (σ : Type) where
  Call : Type
  /-- What a call answers, if it does not fail. -/
  Answer : Call → Type
  perform : (call : Call) → ExceptT Error (Party G σ) (Answer call)

namespace Service

variable {S : Service G σ} {s s' s'' : σ} {r r' r'' : ByteSource}

/-- A call that came back: what the transport saw of it, and what it answered. -/
structure Entry (S : Service G σ) where
  call : S.Call
  during : List Event
  answer : Except Error (S.Answer call)

/-- The call came back so from the first store and randomness, and left the second. -/
def Entry.Happens (entry : S.Entry) (s : σ) (r : ByteSource) (s' : σ) (r' : ByteSource) : Prop :=
  (S.perform entry.call).run.Runs s r entry.during (some (entry.answer, s', r'))

/-- The calls of the log, one after the other, lead from the first store and randomness to
the second. -/
inductive Leads (S : Service G σ) (s : σ) (r : ByteSource) :
    List S.Entry → σ → ByteSource → Prop where
  | nil : Leads S s r [] s r
  | concat {log s' r' entry s'' r''} (h : Leads S s r log s' r')
    (hentry : entry.Happens s' r' s'' r'') : Leads S s r (log ++ [entry]) s'' r''

/-- Every entry of a log happened from where the entries before it led. -/
theorem Leads.split {log after : List S.Entry} {entry : S.Entry} (h : S.Leads s r log s' r')
    {before : List S.Entry} (hlog : log = before ++ entry :: after) :
    ∃ t u t' u', S.Leads s r before t u ∧ entry.Happens t u t' u' ∧
      S.Leads t' u' after s' r' := by
  induction h generalizing after with
  | nil => exact absurd hlog.symm (List.append_ne_nil_of_right_ne_nil _ (List.cons_ne_nil _ _))
  | @concat log s' r' last s'' r'' h hlast ih =>
    rcases List.eq_nil_or_concat after with rfl | ⟨after, final, rfl⟩
    · obtain ⟨rfl, hentry⟩ := List.append_inj' hlog rfl
      cases hentry
      exact ⟨s', r', s'', r'', h, hlast, .nil⟩
    · rw [List.concat_eq_append, ← List.cons_append, ← List.append_assoc] at hlog
      obtain ⟨rfl, hentry⟩ := List.append_inj' hlog rfl
      cases hentry
      obtain ⟨t, u, t', u', hbefore, hentry, hafter⟩ := ih rfl
      exact ⟨t, u, t', u', hbefore, hentry, List.concat_eq_append ▸ hafter.concat hlast⟩

/-! ## Calls in a given order -/

structure Reply (S : Service G σ) where
  call : S.Call
  answer : Except Error (S.Answer call)

/-- Make the calls one after the other, whatever they answer. -/
def script (S : Service G σ) : List S.Call → Party G σ (List S.Reply)
  | [] => return []
  | call :: calls => do
    let answer ← (S.perform call).run
    let replies ← S.script calls
    return ⟨call, answer⟩ :: replies

/-- A call and then the others: one dialogue after the other, and one reply more. -/
theorem keeps_script {side : Side} {D E : Dialogue} {call : S.Call} {calls : List S.Call}
    {answer : Except Error (S.Answer call)} {Q : List S.Reply → σ → ByteSource → Prop}
    (h : Says side D (S.perform call) s r answer s' r')
    (hrest : (S.script calls).Keeps side false
      (fun replies s r => Q (⟨call, answer⟩ :: replies) s r) E s' r') :
    (S.script (call :: calls)).Keeps side false Q (D ++ E) s r := by
  refine Party.Keeps.bind h ?_
  rintro _ _ _ ⟨rfl, rfl, rfl⟩
  exact hrest.bind_late fun replies s r hQ => .done hQ

end Service

end TwoParty
