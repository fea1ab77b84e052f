import TwoParty.Commitment
import TwoParty.Proofs.Solo.Basic

/-!
# TwoParty.Proofs.Commitment.Log

What a caller of the verifying side of a commitment scheme goes through.

A log lists the calls of the scheme, each with the events during the call and its answer,
and between them the messages that the caller sends itself.  `Happened` ties a log to a
scheme: every entry is a run of the operation that it names, from where the entry before it
ended.
-/

namespace TwoParty

open Party

namespace Commitment

variable {G : DlogGroup} {σ α V : Type}

/-- A call of the verifying side, with its answer (`none` if it never returns), or a message
that the caller sends itself. -/
inductive Entry (V : Type) where
  | commitment (during : List Event) (answer : Option (Except Error CommitmentId))
  | knowledge (id : CommitmentId) (during : List Event) (answer : Option (Except Error Bool))
  | value (id : CommitmentId) (during : List Event) (answer : Option (Except Error (Option V)))
  | sent (message : Bytes) (answer : Option (Except Error Unit))

/-- A call with its events and its answer, and where it leaves the caller. -/
def Calls (x : ExceptT Error (Party G σ) α) (s : σ) (r : ByteSource) (during : List Event)
    (answer : Option (Except Error α)) (after : Option (σ × ByteSource)) : Prop :=
  ∃ e, x.run.Runs s r during e ∧ answer = e.map (·.1) ∧ after = e.map (·.2)

theorem Calls.of_runs {x : ExceptT Error (Party G σ) α} {s : σ} {r : ByteSource}
    {es : List Event} {e : Ending σ (Except Error α)} (h : x.run.Runs s r es e) :
    Calls x s r es (e.map (·.1)) (e.map (·.2)) :=
  ⟨e, h, rfl, rfl⟩

namespace Entry

/-- What the transport sees of an entry. -/
def events : Entry V → List Event
  | commitment during _ => during
  | knowledge _ during _ => during
  | value _ during _ => during
  | sent m answer => [.sent m answer]

/-- The message that the caller sends itself. -/
def own? : Entry V → Option Bytes
  | sent m _ => some m
  | _ => none

/-- The entry is true of the scheme from this state on. -/
def Happens (scheme : Verifying (Party G σ)) (s : σ) (r : ByteSource) :
    Entry scheme.Value → Option (σ × ByteSource) → Prop
  | commitment during answer, after => Calls scheme.receiveCommitment s r during answer after
  | knowledge id during answer, after => Calls (scheme.verifyKnowledge id) s r during answer after
  | value id during answer, after => Calls (scheme.verifyValue id) s r during answer after
  | sent _ answer, after => after = answer.map fun _ => (s, r)

end Entry

/-- The entries are true of the scheme, one after the other. -/
inductive Happened (scheme : Verifying (Party G σ)) :
    σ → ByteSource → List (Entry scheme.Value) → Prop where
  | nil {s r} : Happened scheme s r []
  | cons {s r entry s' r' log} (h : entry.Happens scheme s r (some (s', r')))
    (rest : Happened scheme s' r' log) : Happened scheme s r (entry :: log)
  | stuck {s r entry} (h : entry.Happens scheme s r none) : Happened scheme s r [entry]

variable {scheme : Verifying (Party G σ)} {s : σ} {r : ByteSource}
  {after : Option (σ × ByteSource)}

theorem Happened.single {entry : Entry scheme.Value} (h : entry.Happens scheme s r after) :
    Happened scheme s r [entry] := by
  cases after with
  | none => exact .stuck h
  | some after => exact .cons h .nil

/-! ## Schemes that only listen -/

/-- The scheme puts out no message. -/
structure Listens (scheme : Verifying (Party G σ)) : Prop where
  commitment : Silent scheme.receiveCommitment
  knowledge (id : CommitmentId) : Silent (scheme.verifyKnowledge id)
  value (id : CommitmentId) : Silent (scheme.verifyValue id)

/-- Over a scheme that only listens, the messages of an entry are the party's own. -/
theorem Listens.messages_events {entry : Entry scheme.Value} (hscheme : Listens scheme)
    (h : entry.Happens scheme s r after) : messages entry.events = entry.own?.toList := by
  cases entry with
  | commitment during answer =>
    obtain ⟨e, hrun, -⟩ := h
    exact hscheme.commitment _ _ _ _ hrun
  | knowledge id during answer =>
    obtain ⟨e, hrun, -⟩ := h
    exact hscheme.knowledge id _ _ _ _ hrun
  | value id during answer =>
    obtain ⟨e, hrun, -⟩ := h
    exact hscheme.value id _ _ _ _ hrun
  | sent m answer => rfl

/-- All messages are the caller's own. -/
theorem Listens.messages_log {log : List (Entry scheme.Value)} (hscheme : Listens scheme)
    (h : Happened scheme s r log) :
    messages (log.flatMap Entry.events) = log.filterMap Entry.own? := by
  induction h with
  | nil => rfl
  | @cons s r entry s' r' log h rest ih =>
    rw [List.flatMap_cons, messages_append, ih, hscheme.messages_events h]
    cases entry <;> rfl
  | @stuck s r entry h =>
    rw [List.flatMap_singleton, hscheme.messages_events h]
    cases entry <;> rfl

end Commitment

end TwoParty
