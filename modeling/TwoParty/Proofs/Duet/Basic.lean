import Mathlib.Order.GameAdd
import TwoParty.Party

/-!
# TwoParty.Proofs.Duet.Basic

Two parties at the two ends of one memory channel.

A move lets one party take its next step; which party moves is open, so a statement
about all moves is a statement about all schedules.  A party that is finished drops
its end as a move of its own.

* `wellFounded_moves` — every run is finite, whatever the parties do;
* `alwaysEnds_iff` — `AlwaysEnds Q`: every run that cannot go on ends in `Q`;
* `reaches_run` — moving one party alone is `Party.run`.
-/

namespace TwoParty

/-! ## The line between the parties -/

/-- A memory channel and all messages that were put on it, oldest first. -/
structure Line where
  channel : MemoryChannel
  sent : List (Side × Bytes)

namespace Line

def start : Line := ⟨.pair, []⟩

/-- Send a message from an end; what is refused does not count as sent. -/
def send (l : Line) (s : Side) (m : Bytes) : Except Error Unit × Line :=
  match l.channel.send s m with
  | (.ok (), c) => (.ok (), ⟨c, l.sent ++ [(s, m)]⟩)
  | (.error e, c) => (.error e, ⟨c, l.sent⟩)

def drop (l : Line) (s : Side) : Line := ⟨l.channel.drop s, l.sent⟩

/-- A send to an end that is there is put behind what lies unread, and counts as sent. -/
theorem send_unread {l : Line} {s : Side} {q : List Bytes} (h : l.channel.inbox s.other = .unread q)
    (m : Bytes) :
    l.send s m =
      (.ok (), ⟨l.channel.setInbox s.other (.unread (q ++ [m])), l.sent ++ [(s, m)]⟩) := by
  simp [send, MemoryChannel.send, h]

/-- A send to a dropped end is refused and leaves the line as it was. -/
theorem send_dropped {l : Line} {s : Side} (h : l.channel.inbox s.other = .dropped) (m : Bytes) :
    l.send s m = (.error MemoryChannel.sendError, l) := by
  simp [send, MemoryChannel.send, h]

/-- The channel below does not notice that what is sent is written down. -/
theorem channel_send (l : Line) (s : Side) (m : Bytes) :
    (l.send s m).2.channel = (l.channel.send s m).2 := by
  unfold send
  split <;> next h => rw [h]

/-- The answer to a send is the one of the channel below. -/
theorem result_send (l : Line) (s : Side) (m : Bytes) :
    (l.send s m).1 = (l.channel.send s m).1 := by
  unfold send
  split <;> next h => rw [h]

end Line

/-! ## One party -/

/-- Where one of two parties stands. -/
inductive Actor (G : DlogGroup) (σ α : Type) where
  /-- It has still something to do. -/
  | working (party : Party G σ α) (store : σ) (random : ByteSource)
  /-- It is finished and holds its end of the channel. -/
  | returned (result : α) (store : σ) (random : ByteSource)
  /-- It is finished and its end is dropped. -/
  | gone (result : α) (store : σ) (random : ByteSource)

namespace Actor

variable {G : DlogGroup} {σ α : Type}

/-- The next step at an end of the line; `none` if the party is gone, waits with nothing
to come, or finds no exponent in its randomness. -/
def move (s : Side) (l : Line) : Actor G σ α → Option (Actor G σ α × Line)
  | .working (.done a) store random => some (.returned a store random, l)
  | .working (.read next) store random => some (.working (next store) store random, l)
  | .working (.write store next) _ random => some (.working next store random, l)
  | .working (.exponent next) store random =>
    (G.sample random).map fun (e, random) => (.working (next e) store random, l)
  | .working (.bytes n next) store random =>
    some (.working (next (random.peek n)) store (random.advance n), l)
  | .working (.send m next) store random =>
    some (.working (next (l.send s m).1) store random, (l.send s m).2)
  | .working (.receive next) store random =>
    match l.channel.receive s with
    | (.message m, c) => some (.working (next (.ok m)) store random, ⟨c, l.sent⟩)
    | (.ended, _) => some (.working (next (.error MemoryChannel.receiveError)) store random, l)
    | (.pending, _) => none
  | .returned a store random => some (.gone a store random, l.drop s)
  | .gone _ _ _ => none

/-- The first actor is a step after the second. -/
def After (after before : Actor G σ α) : Prop :=
  ∃ s l l', before.move s l = some (after, l')

theorem acc_gone (a : α) (store : σ) (random : ByteSource) :
    Acc After (.gone a store random : Actor G σ α) := by
  refine .intro _ ?_
  intro b hb
  obtain ⟨s, l, l', h⟩ := hb
  contradiction

theorem acc_returned (a : α) (store : σ) (random : ByteSource) :
    Acc After (.returned a store random : Actor G σ α) := by
  refine .intro _ ?_
  intro b hb
  obtain ⟨s, l, l', h⟩ := hb
  cases h
  exact acc_gone a store random

/-- A party has only so many steps to take. -/
theorem acc_working (p : Party G σ α) (store : σ) (random : ByteSource) :
    Acc After (.working p store random) := by
  -- One case for each kind of step; only a receive can have two successors.
  induction p generalizing store random with
  | done a =>
    refine .intro _ ?_
    intro b hb
    obtain ⟨s, l, l', h⟩ := hb
    cases h
    exact acc_returned a store random
  | read next ih =>
    refine .intro _ ?_
    intro b hb
    obtain ⟨s, l, l', h⟩ := hb
    cases h
    exact ih store store random
  | write new next ih =>
    refine .intro _ ?_
    intro b hb
    obtain ⟨s, l, l', h⟩ := hb
    cases h
    exact ih new random
  | exponent next ih =>
    refine .intro _ ?_
    intro b hb
    obtain ⟨s, l, l', h⟩ := hb
    obtain ⟨⟨e, rest⟩, -, he⟩ := Option.map_eq_some_iff.1 h
    cases he
    exact ih e store rest
  | bytes n next ih =>
    refine .intro _ ?_
    intro b hb
    obtain ⟨s, l, l', h⟩ := hb
    cases h
    exact ih _ store _
  | send m next ih =>
    refine .intro _ ?_
    intro b hb
    obtain ⟨s, l, l', h⟩ := hb
    cases h
    exact ih _ store random
  | receive next ih =>
    refine .intro _ ?_
    intro b hb
    obtain ⟨s, l, l', h⟩ := hb
    rw [move] at h
    split at h
    · cases h
      exact ih _ store random
    · cases h
      exact ih _ store random
    · contradiction

/-- No party moves forever. -/
theorem wellFounded_after : WellFounded (After : Actor G σ α → Actor G σ α → Prop) := by
  constructor
  intro a
  cases a with
  | working p store random => exact acc_working p store random
  | returned a store random => exact acc_returned a store random
  | gone a store random => exact acc_gone a store random

/-- A party at an end of the line reaches another state by its own moves. -/
def Reaches (s : Side) : Actor G σ α × Line → Actor G σ α × Line → Prop :=
  Relation.ReflTransGen fun x y => x.1.move s x.2 = some y

/-- A run that finishes is a sequence of moves. -/
theorem reaches_run {s : Side} {p : Party G σ α} {store : σ} {random : ByteSource} {a : α}
    {desk : Party.Desk σ} (l : Line)
    (h : p.run ⟨store, random, l.channel, s⟩ = (.finished a, desk)) :
    ∃ sent, Reaches s (.working p store random, l)
      (.returned a desk.store desk.random, ⟨desk.channel, sent⟩) := by
  -- The line shows the same channel as the desk, and keeps what was sent besides.
  induction p generalizing store random l with
  | done b =>
    cases h
    exact ⟨l.sent, .single rfl⟩
  | read next ih =>
    obtain ⟨sent, hr⟩ := ih store l h
    exact ⟨sent, hr.head rfl⟩
  | write new next ih =>
    obtain ⟨sent, hr⟩ := ih l h
    exact ⟨sent, hr.head rfl⟩
  | exponent next ih =>
    rw [Party.run] at h
    split at h
    · next e rest he =>
      obtain ⟨sent, hr⟩ := ih e l h
      exact ⟨sent, hr.head (by simp [move, he])⟩
    · cases h
  | bytes n next ih =>
    obtain ⟨sent, hr⟩ := ih _ l h
    exact ⟨sent, hr.head rfl⟩
  | send m next ih =>
    have hc := l.channel_send s m
    have hres := l.result_send s m
    change (next (l.channel.send s m).1).run ⟨store, random, (l.channel.send s m).2, s⟩ = _ at h
    rw [← hc, ← hres] at h
    obtain ⟨sent, hr⟩ := ih _ (l.send s m).2 h
    exact ⟨sent, hr.head rfl⟩
  | receive next ih =>
    rw [Party.run] at h
    split at h
    · next m c hm =>
      obtain ⟨sent, hr⟩ := ih (.ok m) ⟨c, l.sent⟩ h
      exact ⟨sent, hr.head (by simp only [move, hm])⟩
    · next c hm =>
      obtain ⟨sent, hr⟩ := ih (.error MemoryChannel.receiveError) l h
      exact ⟨sent, hr.head (by simp only [move, hm])⟩
    · cases h

end Actor

/-! ## Two parties -/

/-- Two parties and the line between them. -/
structure Duet (G : DlogGroup) (σ α : Side → Type) where
  actor : (s : Side) → Actor G (σ s) (α s)
  line : Line

namespace Duet

variable {G : DlogGroup} {σ α : Side → Type}

/-- Both parties at their first step, nothing being sent. -/
def start (party : (s : Side) → Party G (σ s) (α s)) (store : (s : Side) → σ s)
    (random : Side → ByteSource) : Duet G σ α :=
  ⟨fun s => .working (party s) (store s) (random s), .start⟩

/-- Put a party and the line somewhere else. -/
def put (d : Duet G σ α) (s : Side) (a : Actor G (σ s) (α s)) (l : Line) : Duet G σ α :=
  ⟨Function.update d.actor s a, l⟩

@[simp] theorem line_put (d : Duet G σ α) (s : Side) (a : Actor G (σ s) (α s)) (l : Line) :
    (d.put s a l).line = l := rfl

@[simp] theorem actor_put_self (d : Duet G σ α) (s : Side) (a : Actor G (σ s) (α s)) (l : Line) :
    (d.put s a l).actor s = a := by
  simp [put]

theorem actor_put_of_ne (d : Duet G σ α) {s t : Side} (h : t ≠ s) (a : Actor G (σ s) (α s))
    (l : Line) : (d.put s a l).actor t = d.actor t := by
  simp [put, h]

theorem put_put (d : Duet G σ α) (s : Side) (a b : Actor G (σ s) (α s)) (l m : Line) :
    (d.put s a l).put s b m = d.put s b m := by
  simp [put]

theorem put_actor_self (d : Duet G σ α) (s : Side) : d.put s (d.actor s) d.line = d := by
  simp [put]

/-- One party takes its next step, if it can. -/
def move (d : Duet G σ α) (s : Side) : Option (Duet G σ α) :=
  ((d.actor s).move s d.line).map fun (a, l) => d.put s a l

/-- A move of a side is a move of its party, with the line it leaves. -/
theorem move_eq_some_iff {d d' : Duet G σ α} {s : Side} :
    d.move s = some d' ↔ ∃ a l, (d.actor s).move s d.line = some (a, l) ∧
      d' = d.put s a l := by
  simp [move, eq_comm]

/-- A side cannot move exactly if its party cannot. -/
theorem move_eq_none_iff {d : Duet G σ α} {s : Side} :
    d.move s = none ↔ (d.actor s).move s d.line = none := by
  simp [move]

def IsStuck (d : Duet G σ α) : Prop := ∀ s, d.move s = none

def Moves (d d' : Duet G σ α) : Prop := ∃ s, d.move s = some d'

/-- Some moves lead from the first state to the second. -/
def Reaches : Duet G σ α → Duet G σ α → Prop := Relation.ReflTransGen Moves

/-- Every run is finite, whatever the parties do and whoever moves. -/
theorem wellFounded_moves : WellFounded fun d' d : Duet G σ α => Moves d d' := by
  let actors : Duet G σ α → Actor G (σ .one) (α .one) × Actor G (σ .two) (α .two) :=
    fun d => (d.actor .one, d.actor .two)
  have hwf := (Actor.wellFounded_after (G := G) (σ := σ .one) (α := α .one)).prod_gameAdd
    (Actor.wellFounded_after (G := G) (σ := σ .two) (α := α .two))
  refine Subrelation.wf ?_ (InvImage.wf actors hwf)
  intro d' d hd
  obtain ⟨s, h⟩ := hd
  obtain ⟨a, l, ha, rfl⟩ := move_eq_some_iff.1 h
  cases s with
  | one => exact .fst ⟨.one, d.line, l, ha⟩
  | two => exact .snd ⟨.two, d.line, l, ha⟩

/-- Every run from this state comes to an end, and every end satisfies `Q`. -/
inductive AlwaysEnds (Q : Duet G σ α → Prop) : Duet G σ α → Prop where
  | intro {d : Duet G σ α} (stuck : d.IsStuck → Q d)
    (move : ∀ s d', d.move s = some d' → AlwaysEnds Q d') : AlwaysEnds Q d

variable {Q Inv : Duet G σ α → Prop} {d d' : Duet G σ α}

/-- A run that is under way ends as the whole run does. -/
theorem AlwaysEnds.of_reaches (h : AlwaysEnds Q d) (hr : Reaches d d') : AlwaysEnds Q d' := by
  induction hr with
  | refl => exact h
  | tail hr hm ih =>
    obtain ⟨s, hm⟩ := hm
    obtain ⟨-, hmove⟩ := ih
    exact hmove s _ hm

theorem AlwaysEnds.mono {Q' : Duet G σ α → Prop} (h : AlwaysEnds Q d) (hQ : ∀ d, Q d → Q' d) :
    AlwaysEnds Q' d := by
  induction h with
  | intro stuck move ih => exact .intro (fun hs => hQ _ (stuck hs)) ih

/-- It is enough to look at the ends of the runs. -/
theorem alwaysEnds_iff : AlwaysEnds Q d ↔ ∀ d', Reaches d d' → d'.IsStuck → Q d' := by
  constructor
  · intro h d' hr hs
    obtain ⟨stuck, -⟩ := h.of_reaches hr
    exact stuck hs
  · intro h
    induction d using wellFounded_moves.induction with
    | _ d ih =>
      refine .intro (fun hs => h d .refl hs) fun s d' hm => ?_
      exact ih d' ⟨s, hm⟩ fun e hr hs => h e (hr.head ⟨s, hm⟩) hs

/-- A property that every move keeps, and that says enough where no move is left. -/
theorem alwaysEnds_of_invariant (hd : Inv d)
    (hmove : ∀ d s d', Inv d → d.move s = some d' → Inv d')
    (hover : ∀ d, Inv d → d.IsStuck → Q d) : AlwaysEnds Q d := by
  have hinv : ∀ d', Reaches d d' → Inv d' := by
    intro d' hr
    induction hr with
    | refl => exact hd
    | tail hr hm ih =>
      obtain ⟨s, hm⟩ := hm
      exact hmove _ s _ ih hm
  exact alwaysEnds_iff.2 fun d' hr hs => hover d' (hinv d' hr) hs

/-! ## One party alone -/

/-- The moves of one party are moves of the duet. -/
theorem reaches_of_actor {s : Side} {x y : Actor G (σ s) (α s) × Line}
    (h : Actor.Reaches s x y) (d : Duet G σ α) : Reaches (d.put s x.1 x.2) (d.put s y.1 y.2) := by
  refine Relation.ReflTransGen.lift
    (fun x : Actor G (σ s) (α s) × Line => d.put s x.1 x.2) ?_ _ _ h
  intro x y hm
  refine ⟨s, move_eq_some_iff.2 ⟨y.1, y.2, ?_, (put_put d s x.1 y.1 x.2 y.2).symm⟩⟩
  show Actor.move s x.2 ((d.put s x.1 x.2).actor s) = some y
  rw [actor_put_self, hm]

/-- As long as nobody else moves, a party does what it does in a run of its own. -/
theorem reaches_run {s : Side} {p : Party G (σ s) (α s)} {store : σ s} {random : ByteSource}
    {a : α s} {desk : Party.Desk (σ s)} (hd : d.actor s = .working p store random)
    (hrun : p.run ⟨store, random, d.line.channel, s⟩ = (.finished a, desk)) :
    ∃ sent, Reaches d (d.put s (.returned a desk.store desk.random) ⟨desk.channel, sent⟩) := by
  obtain ⟨sent, hr⟩ := Actor.reaches_run d.line hrun
  have h := reaches_of_actor hr d
  rw [← hd, put_actor_self] at h
  exact ⟨sent, h⟩

end Duet

end TwoParty
