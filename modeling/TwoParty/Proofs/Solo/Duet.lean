import TwoParty.Proofs.Duet.Says
import TwoParty.Proofs.Solo.Basic

/-!
# TwoParty.Proofs.Solo.Duet

One party alone and one of two parties.

* `Duet.exists_runs_of_reaches` — whatever its peer is and whoever moves, a party of a duet
  is on one of its runs, and what it put on the line is what got through so far in that run;
* `Says.runs` — a party that goes through a dialogue has a run with the events of the
  dialogue.
-/

namespace TwoParty

open Party

variable {G : DlogGroup}

/-! ## The parties of a duet -/

/-- What a memory channel can answer, or leave without an answer. -/
inductive Party.Event.OnMemory : Event → Prop where
  | passed {m} : OnMemory (.sent m (some (.ok ())))
  /-- The peer's end was dropped. -/
  | refused {m} : OnMemory (.sent m (some (.error MemoryChannel.sendError)))
  | heard {m} : OnMemory (.received (some (.ok m)))
  /-- The peer's end was dropped and nothing is left to read. -/
  | ended : OnMemory (.received (some (.error MemoryChannel.receiveError)))
  /-- Nothing comes. -/
  | waiting : OnMemory (.received none)

namespace Actor

variable {σ α : Type} {p : Party G σ α} {store : σ} {random : ByteSource} {es : List Event}
  {a a' : Actor G σ α} {l l' : Line} {side : Side}

/-- The party `p` met with these events and now stands here. -/
def Met (p : Party G σ α) (store : σ) (random : ByteSource) (es : List Event) :
    Actor G σ α → Prop
  | .working q s r => ∀ es' e, q.Runs s r es' e → p.Runs store random (es ++ es') e
  | .returned a s r => p.Runs store random es (some (a, s, r))
  | .gone a s r => p.Runs store random es (some (a, s, r))

/-- A send on a line succeeds or is refused. -/
theorem onMemory_send (l : Line) (side : Side) (m : Bytes) :
    Event.OnMemory (.sent m (some (l.send side m).1)) := by
  rcases l.result_send_eq side m with hok | hrefused
  · rw [hok]
    exact .passed
  · rw [hrefused]
    exact .refused

theorem met_start : (Actor.working p store random).Met p store random [] :=
  fun _ _ h => h

/-- What a send puts on the line is what got through. -/
theorem sent_send (l : Line) (side : Side) (m : Bytes) :
    (l.send side m).2.sent =
      l.sent ++ (passed [.sent m (some (l.send side m).1)]).map fun m => (side, m) := by
  cases h : l.channel.inbox side.other with
  | unread q => simp [Line.send_unread h, passed, Event.passed?]
  | dropped => simp [Line.send_dropped h, passed, Event.passed?]

/-- A step of a party adds to its events. -/
theorem Met.move (h : a.Met p store random es) (hm : a.move side l = some (a', l')) :
    ∃ new, a'.Met p store random (es ++ new) ∧ (∀ event ∈ new, event.OnMemory) ∧
      l'.sent = l.sent ++ (passed new).map fun m => (side, m) := by
  -- A step that the transport does not see.
  have quiet : ∀ a' : Actor G σ α, a'.Met p store random es →
      ∃ new, a'.Met p store random (es ++ new) ∧ (∀ event ∈ new, event.OnMemory) ∧
        l.sent = l.sent ++ (passed new).map fun m => (side, m) := by
    intro a' ha'
    refine ⟨[], ?_, List.forall_mem_nil _, (List.append_nil _).symm⟩
    rwa [List.append_nil]
  cases a with
  | gone b s r => cases hm
  | returned b s r =>
    cases hm
    exact quiet (.gone b s r) h
  | working q s r =>
    cases q with
    | done b =>
      cases hm
      refine quiet (.returned b s r) ?_
      rw [← List.append_nil es]
      exact h _ _ .done
    | read next =>
      cases hm
      exact quiet (.working _ _ _) fun es' e hr => h es' e (.read hr)
    | write new next =>
      cases hm
      exact quiet (.working _ _ _) fun es' e hr => h es' e (.write hr)
    | exponent next =>
      obtain ⟨⟨x, rest⟩, hx, heq⟩ := Option.map_eq_some_iff.1 hm
      cases heq
      exact quiet (.working _ _ _) fun es' e hr => h es' e (.exponent hx hr)
    | bytes n next =>
      cases hm
      exact quiet (.working _ _ _) fun es' e hr => h es' e (.bytes hr)
    | send m next =>
      cases hm
      refine ⟨[.sent m (some (l.send side m).1)], ?_, ?_, sent_send l side m⟩
      · intro es' e hr
        rw [List.append_assoc]
        exact h _ e (.send hr)
      · exact List.forall_mem_singleton.2 (onMemory_send l side m)
    | receive next =>
      -- Whatever the channel answers, the receive is one event.
      have heard : ∀ {answer} {l' : Line}, Event.OnMemory (.received (some answer)) →
          l'.sent = l.sent →
          ∃ new, (Actor.working (next answer) s r).Met p store random (es ++ new) ∧
            (∀ event ∈ new, event.OnMemory) ∧
            l'.sent = l.sent ++ (passed new).map fun m => (side, m) := by
        intro answer l' hmemory hl'
        refine ⟨[.received (some answer)], ?_, List.forall_mem_singleton.2 hmemory,
          hl'.trans (List.append_nil _).symm⟩
        intro es' e hr
        rw [List.append_assoc]
        exact h _ e (.receive hr)
      rw [Actor.move] at hm
      split at hm
      · cases hm
        exact heard .heard rfl
      · cases hm
        exact heard .ended rfl
      · cases hm

end Actor

namespace Line

/-- What a side put on the line. -/
def said (l : Line) (side : Side) : List Bytes := (l.sent.filter (·.1 = side)).map (·.2)

/-- What a side said grows by what it sends. -/
theorem said_self {l l' : Line} {side : Side} {ms : List Bytes}
    (h : l'.sent = l.sent ++ ms.map fun m => (side, m)) : l'.said side = l.said side ++ ms := by
  simp [said, h, List.filter_map, Function.comp_def]

theorem said_of_ne {l l' : Line} {side mover : Side} {ms : List Bytes} (hne : mover ≠ side)
    (h : l'.sent = l.sent ++ ms.map fun m => (mover, m)) : l'.said side = l.said side := by
  simp [said, h, List.filter_map, Function.comp_def, hne]

end Line

namespace Duet

variable {σ α : Side → Type} {party : (s : Side) → Party G (σ s) (α s)} {store : (s : Side) → σ s}
  {random : Side → ByteSource} {d : Duet G σ α}

/-- Whatever the peer is, each party is on one of its runs. -/
theorem exists_met_of_reaches (h : Reaches (start party store random) d) (side : Side) :
    ∃ es, (d.actor side).Met (party side) (store side) (random side) es ∧
      passed es = d.line.said side := by
  induction h generalizing side with
  | refl => exact ⟨[], Actor.met_start, rfl⟩
  | tail _ hm ih =>
    obtain ⟨mover, hm⟩ := hm
    obtain ⟨a, l, ha, rfl⟩ := move_eq_some_iff.1 hm
    obtain ⟨es, hmet, hpassed⟩ := ih mover
    obtain ⟨new, hmet', -, hsent⟩ := hmet.move ha
    -- The side that moved has met one event more, and for the other one nothing has changed.
    by_cases hside : mover = side
    · subst hside
      refine ⟨es ++ new, ?_, ?_⟩
      · rw [actor_put_self]
        exact hmet'
      · rw [passed_append, hpassed, line_put, Line.said_self hsent]
    · obtain ⟨es', hother, hpassed'⟩ := ih side
      refine ⟨es', ?_, ?_⟩
      · rw [actor_put_of_ne _ (Ne.symm hside)]
        exact hother
      · rw [hpassed', line_put, Line.said_of_ne hside hsent]

/-- What a side put on the line is what gets through at the start of one of its runs. -/
theorem exists_runs_of_reaches (h : Reaches (start party store random) d) (side : Side) :
    ∃ es es' e, (party side).Runs (store side) (random side) (es ++ es') e ∧
      passed es = d.line.said side := by
  obtain ⟨es, hmet, hpassed⟩ := exists_met_of_reaches h side
  cases ha : d.actor side with
  | working q s r =>
    rw [ha] at hmet
    obtain ⟨es', e, hrun⟩ := q.exists_runs s r
    exact ⟨es, es', e, hmet es' e hrun, hpassed⟩
  | returned a s r =>
    rw [ha] at hmet
    refine ⟨es, [], some (a, s, r), ?_, hpassed⟩
    rw [List.append_nil]
    exact hmet
  | gone a s r =>
    rw [ha] at hmet
    refine ⟨es, [], some (a, s, r), ?_, hpassed⟩
    rw [List.append_nil]
    exact hmet

def both (one two : Type) : Side → Type
  | .one => one
  | .two => two

/-- Two given parties at their first step. -/
def startWith {σ τ α β : Type} (one : Party G σ α) (two : Party G τ β) (s : σ) (t : τ)
    (random : Side → ByteSource) : Duet G (both σ τ) (both α β) :=
  .start (fun | .one => one | .two => two) (fun | .one => s | .two => t) random

end Duet

/-! ## Dialogues -/

section
variable {σ α : Type} {side : Side} {D : Dialogue} {p : Party G σ α} {store store' : σ}
  {random random' : ByteSource} {Q : α → σ → ByteSource → Prop}

/-- The events of one side in a dialogue. -/
def Dialogue.events (side : Side) (D : Dialogue) : List Event :=
  D.map fun m => if m.1 = side then .sent m.2 (some (.ok ())) else .received (some (.ok m.2))

@[simp] theorem Dialogue.events_cons_self (m : Bytes) :
    Dialogue.events side ((side, m) :: D) = .sent m (some (.ok ())) :: Dialogue.events side D := by
  simp [Dialogue.events]

@[simp] theorem Dialogue.events_cons_other (m : Bytes) :
    Dialogue.events side ((side.other, m) :: D) =
      .received (some (.ok m)) :: Dialogue.events side D := by
  simp [Dialogue.events]

/-- What the other side says is heard. -/
theorem Dialogue.events_cons_of_ne {s : Side} (h : s ≠ side) (m : Bytes) :
    Dialogue.events side ((s, m) :: D) = .received (some (.ok m)) :: Dialogue.events side D := by
  simp [Dialogue.events, h]

theorem Dialogue.events_append (D E : Dialogue) :
    Dialogue.events side (D ++ E) = Dialogue.events side D ++ Dialogue.events side E :=
  List.map_append

/-- Keeping to a dialogue is a run. -/
theorem Party.Keeps.exists_runs (h : p.Keeps side false Q D store random) :
    ∃ a s r, Q a s r ∧ p.Runs store random (Dialogue.events side D) (some (a, s, r)) := by
  induction h with
  | done h => exact ⟨_, _, _, h, .done⟩
  | read h ih =>
    obtain ⟨a, s, r, hQ, hr⟩ := ih
    exact ⟨a, s, r, hQ, .read hr⟩
  | write h ih =>
    obtain ⟨a, s, r, hQ, hr⟩ := ih
    exact ⟨a, s, r, hQ, .write hr⟩
  | exponent hx h ih =>
    obtain ⟨a, s, r, hQ, hr⟩ := ih
    exact ⟨a, s, r, hQ, .exponent hx hr⟩
  | bytes h ih =>
    obtain ⟨a, s, r, hQ, hr⟩ := ih
    exact ⟨a, s, r, hQ, .bytes hr⟩
  | send h ih =>
    obtain ⟨a, s, r, hQ, hr⟩ := ih
    refine ⟨a, s, r, hQ, ?_⟩
    rw [Dialogue.events_cons_self]
    exact .send hr
  | receive h ih =>
    obtain ⟨a, s, r, hQ, hr⟩ := ih
    refine ⟨a, s, r, hQ, ?_⟩
    rw [Dialogue.events_cons_other]
    exact .receive hr
  | sendLate hlate => contradiction
  | receiveLate hlate => contradiction

/-- Keeping to a dialogue is a run, with the dialogue for its events. -/
theorem Says.runs {x : ExceptT Error (Party G σ) α} {v : Except Error α}
    (h : Says side D x store random v store' random') :
    x.run.Runs store random (Dialogue.events side D) (some (v, store', random')) := by
  obtain ⟨a, s, r, ⟨rfl, rfl, rfl⟩, hr⟩ := h.exists_runs
  exact hr

end

end TwoParty
