import TwoParty.Proofs.Duet.Basic

/-!
# TwoParty.Proofs.Duet.Dialogue

Two parties that keep to the same dialogue.

A dialogue is a list of messages with the side that says each.  `Party.Keeps` follows
one party through a dialogue, without its peer, down to its result.  If both parties
keep to one dialogue, every schedule ends with both of them gone, each with the result
that its own run through the dialogue gives: `Duet.alwaysEnds_of_keeps`.

One of the two may outlast the dialogue: its peer finishes at the end, so what it
sends later may still be queued or be refused, and it receives nothing more.

The invariant behind the theorem is `Duet.InStep`: one party is ahead, the other one
lags by the messages that lie in its inbox.
-/

namespace TwoParty

/-- Who says what, in order. -/
abbrev Dialogue := List (Side × Bytes)

@[simp] theorem Side.other_ne (s : Side) : s.other ≠ s := by cases s <;> decide

@[simp] theorem Side.ne_other (s : Side) : s ≠ s.other := by cases s <;> decide

theorem Side.eq_or_eq_other (s t : Side) : t = s ∨ t = s.other := by
  cases s <;> cases t <;> decide

namespace MemoryChannel

variable {c : MemoryChannel} {s : Side}

theorem inbox_setInbox_of_ne {t : Side} (h : t ≠ s) (i : Inbox) :
    (c.setInbox s i).inbox t = c.inbox t := by
  cases s <;> cases t <;> first | rfl | exact absurd rfl h

/-- A receive takes the oldest unread message. -/
theorem receive_cons {m : Bytes} {q : List Bytes} (h : c.inbox s = .unread (m :: q)) :
    c.receive s = (.message m, c.setInbox s (.unread q)) := by
  simp [receive, h]

/-- A receive from an empty inbox waits, or fails if the peer is gone. -/
theorem receive_nil (h : c.inbox s = .unread []) :
    c.receive s = (if c.isDropped s.other then .ended else .pending, c) := by
  simp [receive, h]

/-- Whoever waits has nothing to read, and its peer is still there. -/
theorem not_dropped_of_pending (h : (c.receive s).1 = .pending) :
    (∀ m q, c.inbox s ≠ .unread (m :: q)) ∧ c.inbox s.other ≠ .dropped := by
  constructor
  · intro m q hq
    rw [receive_cons hq] at h
    cases h
  · intro hdropped
    unfold receive at h
    split at h
    · cases h
    · simp [isDropped, hdropped] at h

end MemoryChannel

/-- A send succeeds or is refused. -/
theorem Line.result_send_eq (l : Line) (s : Side) (m : Bytes) :
    (l.send s m).1 = .ok () ∨ (l.send s m).1 = .error MemoryChannel.sendError := by
  cases h : l.channel.inbox s.other with
  | unread q => exact .inl (by rw [Line.send_unread h])
  | dropped => exact .inr (by rw [Line.send_dropped h])

/-! ## One party and its dialogue -/

section
variable {G : DlogGroup} {σ α β : Type} {side s : Side} {late : Bool}
  {Q : α → σ → ByteSource → Prop} {D E : Dialogue}

/-- From this store and randomness the party at `side` keeps to a dialogue and then
finishes as `Q` says.  A `late` party may go on after the dialogue, when its peer takes
no notice any more. -/
inductive Party.Keeps (side : Side) (late : Bool) (Q : α → σ → ByteSource → Prop) :
    Dialogue → Party G σ α → σ → ByteSource → Prop where
  | done {a store random} (h : Q a store random) : Keeps side late Q [] (.done a) store random
  | read {D next store random} (h : Keeps side late Q D (next store) store random) :
    Keeps side late Q D (.read next) store random
  | write {D next new store random} (h : Keeps side late Q D next new random) :
    Keeps side late Q D (.write new next) store random
  | exponent {D next store random e rest} (he : G.sample random = some (e, rest))
    (h : Keeps side late Q D (next e) store rest) :
    Keeps side late Q D (.exponent next) store random
  | bytes {D n next store random}
    (h : Keeps side late Q D (next (random.peek n)) store (random.advance n)) :
    Keeps side late Q D (.bytes n next) store random
  | send {D m next store random} (h : Keeps side late Q D (next (.ok ())) store random) :
    Keeps side late Q ((side, m) :: D) (.send m next) store random
  | receive {D m next store random} (h : Keeps side late Q D (next (.ok m)) store random) :
    Keeps side late Q ((side.other, m) :: D) (.receive next) store random
  | sendLate {m next store random} (hlate : late = true)
    (hsent : Keeps side late Q [] (next (.ok ())) store random)
    (hrefused : Keeps side late Q [] (next (.error MemoryChannel.sendError)) store random) :
    Keeps side late Q [] (.send m next) store random
  | receiveLate {next store random} (hlate : late = true)
    (h : Keeps side late Q [] (next (.error MemoryChannel.receiveError)) store random) :
    Keeps side late Q [] (.receive next) store random

namespace Party

variable {p : Party G σ α} {store : σ} {random : ByteSource}

/-- A party that finishes with the dialogue is in particular not later. -/
theorem Keeps.toLate (h : Keeps side false Q D p store random) :
    Keeps side late Q D p store random := by
  induction h with
  | done h => exact .done h
  | read h ih => exact .read ih
  | write h ih => exact .write ih
  | exponent he h ih => exact .exponent he ih
  | bytes h ih => exact .bytes ih
  | send h ih => exact .send ih
  | receive h ih => exact .receive ih
  | sendLate hlate => contradiction
  | receiveLate hlate => contradiction

theorem Keeps.mono {Q' : α → σ → ByteSource → Prop} (h : Keeps side late Q D p store random)
    (hQ : ∀ a s r, Q a s r → Q' a s r) : Keeps side late Q' D p store random := by
  induction h with
  | done h => exact .done (hQ _ _ _ h)
  | read h ih => exact .read ih
  | write h ih => exact .write ih
  | exponent he h ih => exact .exponent he ih
  | bytes h ih => exact .bytes ih
  | send h ih => exact .send ih
  | receive h ih => exact .receive ih
  | sendLate hlate hs hr ihs ihr => exact .sendLate hlate ihs ihr
  | receiveLate hlate h ih => exact .receiveLate hlate ih

/-- One dialogue after the other. -/
theorem Keeps.bind {R : β → σ → ByteSource → Prop} {f : α → Party G σ β}
    (h : Keeps side false Q D p store random)
    (hf : ∀ a s r, Q a s r → Keeps side late R E (f a) s r) :
    Keeps side late R (D ++ E) (p.bind f) store random := by
  induction h with
  | done h => exact hf _ _ _ h
  | read h ih => exact .read ih
  | write h ih => exact .write ih
  | exponent he h ih => exact .exponent he ih
  | bytes h ih => exact .bytes ih
  | send h ih => exact .send ih
  | receive h ih => exact .receive ih
  | sendLate hlate => contradiction
  | receiveLate hlate => contradiction

/-- After a part that may outlast the dialogue nothing more is said. -/
theorem Keeps.bind_late {R : β → σ → ByteSource → Prop} {f : α → Party G σ β}
    (h : Keeps side late Q D p store random)
    (hf : ∀ a s r, Q a s r → Keeps side late R [] (f a) s r) :
    Keeps side late R D (p.bind f) store random := by
  induction h with
  | done h => exact hf _ _ _ h
  | read h ih => exact .read ih
  | write h ih => exact .write ih
  | exponent he h ih => exact .exponent he ih
  | bytes h ih => exact .bytes ih
  | send h ih => exact .send ih
  | receive h ih => exact .receive ih
  | sendLate hlate hs hr ihs ihr => exact .sendLate hlate ihs ihr
  | receiveLate hlate h ih => exact .receiveLate hlate ih

/-- What is made of a result afterwards does not show in the dialogue. -/
theorem Keeps.map (f : α → β) (h : Keeps side late Q D p store random) :
    Keeps side late (fun b s r => ∃ a, b = f a ∧ Q a s r) D (f <$> p) store random :=
  h.bind_late fun a _ _ hQ => .done ⟨a, rfl, hQ⟩

/-- A party with a store of its own keeps to the same dialogue inside another one. -/
theorem Keeps.within {τ : Type} {own : τ} {p : Party G τ α} {Q : α → τ → ByteSource → Prop}
    (h : Keeps side late Q D p own random) :
    Keeps side late (fun a s r => s = store ∧ Q a.1 a.2 r) D (p.within own) store random := by
  induction h with
  | done h => exact .done ⟨rfl, h⟩
  | read h ih => exact ih
  | write h ih => exact ih
  | exponent he h ih => exact .exponent he ih
  | bytes h ih => exact .bytes ih
  | send h ih => exact .send ih
  | receive h ih => exact .receive ih
  | sendLate hlate hs hr ihs ihr => exact .sendLate hlate ihs ihr
  | receiveLate hlate h ih => exact .receiveLate hlate ih

end Party

namespace Actor

def isGone : Actor G σ α → Bool
  | .gone _ _ _ => true
  | _ => false

/-- What is left of the dialogue for this party; whoever is finished has nothing left. -/
def Keeps (side : Side) (late : Bool) (Q : α → σ → ByteSource → Prop) (D : Dialogue) :
    Actor G σ α → Prop
  | .working p store random => p.Keeps side late Q D store random
  | .returned a store random => D = [] ∧ Q a store random
  | .gone a store random => D = [] ∧ Q a store random

theorem isGone_eq_false_of_keeps {a : Actor G σ α} {e : Side × Bytes}
    (h : a.Keeps side late Q (e :: D)) : a.isGone = false := by
  cases a with
  | working p store random => rfl
  | returned b store random => rfl
  | gone b store random => exact absurd h.1 (List.cons_ne_nil e D)

theorem isGone_eq_false_of_move {a a' : Actor G σ α} {l l' : Line}
    (h : a.move side l = some (a', l')) : a.isGone = false := by
  cases a with
  | working p store random => rfl
  | returned b store random => rfl
  | gone b store random => contradiction

/-- What a party does that keeps to a dialogue, when it moves. -/
inductive Did (side : Side) (late : Bool) (Q : α → σ → ByteSource → Prop) (l : Line) :
    Dialogue → Actor G σ α → Line → Prop where
  /-- A step that the other side does not see. -/
  | quiet {D a} (h : a.Keeps side late Q D) (hgone : a.isGone = false) : Did side late Q l D a l
  | sent {D a m} (hgone : a.isGone = false)
    (h : (l.send side m).1 = .ok () → a.Keeps side late Q D) :
    Did side late Q l ((side, m) :: D) a (l.send side m).2
  | received {D a m} {l' : Line} (hgone : a.isGone = false)
    (hpresent : ∀ q, l.channel.inbox side = .unread (m :: q) →
      a.Keeps side late Q D ∧ l' = ⟨l.channel.setInbox side (.unread q), l.sent⟩)
    (habsent : l.channel.inbox side = .unread [] → l.channel.inbox side.other = .dropped) :
    Did side late Q l ((side.other, m) :: D) a l'
  | sentLate {a m} (hlate : late = true) (hgone : a.isGone = false) (h : a.Keeps side late Q []) :
    Did side late Q l [] a (l.send side m).2
  | receivedLate {a} {l' : Line} (hlate : late = true) (hgone : a.isGone = false)
    (h : l.channel.inbox side = .unread [] → a.Keeps side late Q [] ∧ l' = l) :
    Did side late Q l [] a l'
  | left {a} (hgone : a.isGone = true) (h : a.Keeps side late Q []) :
    Did side late Q l [] a (l.drop side)

/-- A party that keeps to a dialogue does one of these things. -/
theorem Keeps.did {a a' : Actor G σ α} {l l' : Line} (h : a.Keeps side late Q D)
    (hm : a.move side l = some (a', l')) : Did side late Q l D a' l' := by
  cases a with
  | gone b store random => cases hm
  | returned b store random =>
    cases hm
    obtain ⟨rfl, hQ⟩ := h
    exact .left rfl ⟨rfl, hQ⟩
  | working p store random =>
    -- One case for each way to keep to a dialogue; the move is read off it.
    cases h with
    | done h =>
      cases hm
      exact .quiet ⟨rfl, h⟩ rfl
    | read h =>
      cases hm
      exact .quiet h rfl
    | write h =>
      cases hm
      exact .quiet h rfl
    | exponent he h =>
      simp only [move, he, Option.map_some] at hm
      cases hm
      exact .quiet h rfl
    | bytes h =>
      cases hm
      exact .quiet h rfl
    | send h =>
      cases hm
      refine .sent rfl fun hok => ?_
      rw [hok]
      exact h
    | receive h =>
      rw [move] at hm
      split at hm
      · next m c hr =>
        cases hm
        -- What lies in the inbox is another matter: the message of the dialogue, if any.
        refine .received rfl (fun q hq => ?_) fun hq => ?_
        · rw [MemoryChannel.receive_cons hq] at hr
          cases hr
          exact ⟨h, rfl⟩
        · rw [MemoryChannel.receive_nil hq] at hr
          split at hr <;> cases hr
      · next c hr =>
        cases hm
        refine .received rfl (fun q hq => ?_) fun hq => ?_
        · rw [MemoryChannel.receive_cons hq] at hr
          cases hr
        · rw [MemoryChannel.receive_nil hq] at hr
          split at hr
          · next hdropped => simpa [MemoryChannel.isDropped] using hdropped
          · cases hr
      · cases hm
    | sendLate hlate hs hr =>
      cases hm
      refine .sentLate hlate rfl ?_
      -- Late messages may find the peer gone, so both answers are allowed for.
      rcases l.result_send_eq side _ with hok | herror
      · rw [hok]
        exact hs
      · rw [herror]
        exact hr
    | receiveLate hlate h =>
      rw [move] at hm
      split at hm
      · next m c hr =>
        cases hm
        refine .receivedLate hlate rfl fun hq => ?_
        rw [MemoryChannel.receive_nil hq] at hr
        split at hr <;> cases hr
      · cases hm
        exact .receivedLate hlate rfl fun _ => ⟨h, rfl⟩
      · cases hm

/-- A party that keeps to a dialogue and cannot move waits for a message. -/
theorem Keeps.waits {a : Actor G σ α} {l : Line} (h : a.Keeps side late Q D)
    (hgone : a.isGone = false) (hm : a.move side l = none) :
    (l.channel.receive side).1 = .pending ∧
      ((∃ m E, D = (side.other, m) :: E) ∨ D = [] ∧ late = true) := by
  cases a with
  | gone b store random => cases hgone
  | returned b store random => cases hm
  | working p store random =>
    -- Only the two kinds of receive can be stopped.
    cases h with
    | done h => cases hm
    | read h => cases hm
    | write h => cases hm
    | exponent he h => simp [move, he] at hm
    | bytes h => cases hm
    | send h => cases hm
    | sendLate hlate hs hr => cases hm
    | receive h =>
      rw [move] at hm
      split at hm
      · cases hm
      · cases hm
      · next c hr => exact ⟨by rw [hr], .inl ⟨_, _, rfl⟩⟩
    | receiveLate hlate h =>
      rw [move] at hm
      split at hm
      · cases hm
      · cases hm
      · next c hr => exact ⟨by rw [hr], .inr ⟨rfl, hlate⟩⟩

end Actor

end

/-! ## Two parties and their dialogue -/

namespace Duet

variable {G : DlogGroup} {σ α : Side → Type} {first l s t : Side}
  {Q : (s : Side) → α s → σ s → ByteSource → Prop} {D E rest : Dialogue}
  {d d' : Duet G σ α} {mid junk q q' : List Bytes}

/-- A party has the dialogue `D` before it and the messages `q` in its inbox, or it is
gone.  `first` is the side that finishes at the end of the dialogue. -/
structure Stands (d : Duet G σ α) (first : Side) (Q : (s : Side) → α s → σ s → ByteSource → Prop)
    (s : Side) (D : Dialogue) (q : List Bytes) : Prop where
  keeps : (d.actor s).Keeps s (decide (s ≠ first)) (Q s) D
  inbox : d.line.channel.inbox s = if (d.actor s).isGone then .dropped else .unread q

/-- The party that moved. -/
theorem stands_put_self {a : Actor G (σ s) (α s)} {line : Line}
    (h : a.Keeps s (decide (s ≠ first)) (Q s) D)
    (hbox : line.channel.inbox s = if a.isGone then .dropped else .unread q) :
    (d.put s a line).Stands first Q s D q := by
  constructor
  · rwa [actor_put_self]
  · rwa [actor_put_self]

/-- The party that did not move. -/
theorem Stands.put_other {a : Actor G (σ s) (α s)} {line : Line}
    (h : d.Stands first Q t D q) (hts : t ≠ s)
    (hbox : line.channel.inbox t = if (d.actor t).isGone then .dropped else .unread q') :
    (d.put s a line).Stands first Q t D q' := by
  constructor
  · rw [actor_put_of_ne d hts]
    exact h.keeps
  · rwa [actor_put_of_ne d hts]

/-- The two parties are on their way through the dialogue `D`: `l` has `rest` before it
and the other one lags by the messages `mid`.  Behind these lie late messages to a
party that reads no more. -/
structure InStep (d : Duet G σ α) (first : Side) (Q : (s : Side) → α s → σ s → ByteSource → Prop)
    (D : Dialogue) (l : Side) (mid junk : List Bytes) (rest : Dialogue) : Prop where
  ahead : d.Stands first Q l rest []
  behind : d.Stands first Q l.other (mid.map (l, ·) ++ rest) (mid ++ junk)
  noJunk : junk = [] ∨ l ≠ first ∧ rest = []
  said : ∃ past, D = past ++ rest ∧ past <+: d.line.sent ∧ (rest ≠ [] → d.line.sent = past)

/-- Where nobody lags, either side counts as ahead. -/
theorem InStep.swap (h : d.InStep first Q D l [] [] rest) :
    d.InStep first Q D l.other [] [] rest := by
  obtain ⟨ahead, behind, -, said⟩ := h
  cases l with
  | one => exact ⟨behind, ahead, .inl rfl, said⟩
  | two => exact ⟨behind, ahead, .inl rfl, said⟩

/-- What was said stays said. -/
theorem said_append {sent : List (Side × Bytes)} (more : List (Side × Bytes))
    (h : ∃ past, D = past ++ [] ∧ past <+: sent ∧ (([] : Dialogue) ≠ [] → sent = past)) :
    ∃ past, D = past ++ [] ∧ past <+: sent ++ more ∧
      (([] : Dialogue) ≠ [] → sent ++ more = past) := by
  obtain ⟨past, hD, hpast, -⟩ := h
  exact ⟨past, hD, hpast.trans (List.prefix_append sent more), fun hne => absurd rfl hne⟩

/-- Whoever is behind is still there as long as something is left to say. -/
theorem InStep.behind_isGone {e : Side × Bytes} (h : d.InStep first Q D l mid junk (e :: rest)) :
    (d.actor l.other).isGone = false := by
  obtain ⟨e', E, hE⟩ : ∃ e' E, mid.map (l, ·) ++ e :: rest = e' :: E :=
    List.exists_cons_of_ne_nil (by simp)
  exact Actor.isGone_eq_false_of_keeps (hE ▸ h.behind.keeps)

section
variable {a : Actor G (σ l) (α l)} {m : Bytes}

/-- The party that is ahead says the next message of the dialogue. -/
theorem InStep.sent (h : d.InStep first Q D l mid junk ((l, m) :: rest)) (hgone : a.isGone = false)
    (hbox : d.line.channel.inbox l = .unread [])
    (hkeeps : (d.line.send l m).1 = .ok () → a.Keeps l (decide (l ≠ first)) (Q l) rest) :
    ∃ mid junk rest, (d.put l a (d.line.send l m).2).InStep first Q D l mid junk rest := by
  -- There is junk only once the dialogue is over.
  obtain rfl : junk = [] := h.noJunk.resolve_right fun hr => List.cons_ne_nil _ _ hr.2
  have hother : d.line.channel.inbox l.other = .unread mid := by
    rw [h.behind.inbox, h.behind_isGone, List.append_nil]
    rfl
  have hdialogue : (mid ++ [m]).map (l, ·) ++ rest = mid.map (l, ·) ++ (l, m) :: rest := by simp
  have hsend := Line.send_unread hother m
  rw [hsend] at hkeeps ⊢
  refine ⟨mid ++ [m], [], rest, stands_put_self (hkeeps rfl) ?_, ?_, .inl rfl, ?_⟩
  · rw [MemoryChannel.inbox_setInbox_of_ne l.ne_other, hbox, hgone]
    rfl
  · rw [hdialogue]
    refine h.behind.put_other l.other_ne ?_
    rw [MemoryChannel.inbox_setInbox, h.behind_isGone, List.append_nil]
    rfl
  · obtain ⟨past, hD, -, hsent⟩ := h.said
    have hsent := hsent (List.cons_ne_nil _ _)
    refine ⟨past ++ [(l, m)], by simp [hD], ?_, fun _ => ?_⟩
    · show past ++ [(l, m)] <+: d.line.sent ++ [(l, m)]
      rw [hsent]
    · show d.line.sent ++ [(l, m)] = past ++ [(l, m)]
      rw [hsent]

/-- The party that is ahead sends a message after the dialogue. -/
theorem InStep.sentLate (h : d.InStep first Q D l mid junk []) (hlate : l ≠ first)
    (hgone : a.isGone = false) (hbox : d.line.channel.inbox l = .unread [])
    (hkeeps : a.Keeps l (decide (l ≠ first)) (Q l) []) :
    ∃ mid junk rest, (d.put l a (d.line.send l m).2).InStep first Q D l mid junk rest := by
  -- A late message is refused, or it joins the junk.
  cases hother : (d.actor l.other).isGone with
  | true =>
    have hdropped : d.line.channel.inbox l.other = .dropped := by
      rw [h.behind.inbox, hother]
      rfl
    rw [Line.send_dropped hdropped]
    refine ⟨mid, junk, [], stands_put_self hkeeps ?_, ?_, h.noJunk, h.said⟩
    · rw [hbox, hgone]
      rfl
    · exact h.behind.put_other l.other_ne h.behind.inbox
  | false =>
    have hunread : d.line.channel.inbox l.other = .unread (mid ++ junk) := by
      rw [h.behind.inbox, hother]
      rfl
    rw [Line.send_unread hunread]
    refine ⟨mid, junk ++ [m], [], stands_put_self hkeeps ?_, ?_, .inr ⟨hlate, rfl⟩,
      said_append _ h.said⟩
    · rw [MemoryChannel.inbox_setInbox_of_ne l.ne_other, hbox, hgone]
      rfl
    · refine h.behind.put_other l.other_ne ?_
      rw [MemoryChannel.inbox_setInbox, hother, List.append_assoc]
      rfl

end

/-- The party that is ahead moves. -/
theorem InStep.move_ahead (h : d.InStep first Q D l mid junk rest) (hm : d.move l = some d') :
    ∃ mid junk rest, d'.InStep first Q D l mid junk rest := by
  obtain ⟨a, line, hma, rfl⟩ := move_eq_some_iff.1 hm
  have hbox : d.line.channel.inbox l = .unread [] := by
    rw [h.ahead.inbox, Actor.isGone_eq_false_of_move hma]
    rfl
  cases h.ahead.keeps.did hma with
  | quiet hkeeps hgone =>
    refine ⟨mid, junk, rest, stands_put_self hkeeps ?_, ?_, h.noJunk, h.said⟩
    · rw [hbox, hgone]
      rfl
    · exact h.behind.put_other l.other_ne h.behind.inbox
  | sent hgone hkeeps => exact h.sent hgone hbox hkeeps
  | received hgone hpresent habsent =>
    -- whoever lags would have to be gone, but it has this message to say
    have hdropped := habsent hbox
    rw [h.behind.inbox, h.behind_isGone] at hdropped
    cases hdropped
  | sentLate hlate hgone hkeeps => exact h.sentLate (of_decide_eq_true hlate) hgone hbox hkeeps
  | receivedLate hlate hgone hkeeps =>
    obtain ⟨hstill, rfl⟩ := hkeeps hbox
    refine ⟨mid, junk, [], stands_put_self hstill ?_, ?_, h.noJunk, h.said⟩
    · rw [hbox, hgone]
      rfl
    · exact h.behind.put_other l.other_ne h.behind.inbox
  | left hgone hkeeps =>
    refine ⟨mid, junk, [], stands_put_self hkeeps ?_, ?_, h.noJunk, h.said⟩
    · rw [Line.drop, MemoryChannel.drop, MemoryChannel.inbox_setInbox, hgone]
      rfl
    · refine h.behind.put_other l.other_ne ?_
      rw [Line.drop, MemoryChannel.drop, MemoryChannel.inbox_setInbox_of_ne l.other_ne]
      exact h.behind.inbox

/-- The party that lags moves, and does not catch up: it reads what lies in its inbox. -/
theorem InStep.move_behind {m : Bytes} (h : d.InStep first Q D l (m :: mid) junk rest)
    (hm : d.move l.other = some d') : ∃ mid junk rest, d'.InStep first Q D l mid junk rest := by
  obtain ⟨a, line, hma, rfl⟩ := move_eq_some_iff.1 hm
  have hbox : d.line.channel.inbox l.other = .unread (m :: (mid ++ junk)) := by
    rw [h.behind.inbox, Actor.isGone_eq_false_of_move hma]
    rfl
  have hkeeps := h.behind.keeps
  rw [List.map_cons, List.cons_append] at hkeeps
  -- The index has to be a variable for the case split.
  generalize hE : (l, m) :: (mid.map (l, ·) ++ rest) = E at hkeeps
  cases hkeeps.did hma with
  | quiet hkeeps hgone =>
    subst hE
    refine ⟨m :: mid, junk, rest, h.ahead.put_other l.ne_other h.ahead.inbox,
      stands_put_self hkeeps ?_, h.noJunk, h.said⟩
    rw [hbox, hgone]
    rfl
  | sent hgone hkeeps =>
    have hl := congrArg Prod.fst (List.cons.inj hE).1
    exact absurd hl l.ne_other
  | received hgone hpresent habsent =>
    obtain ⟨hm, rfl⟩ := List.cons.inj hE
    obtain rfl : m = _ := congrArg Prod.snd hm
    obtain ⟨hkeeps, rfl⟩ := hpresent _ hbox
    refine ⟨mid, junk, rest, h.ahead.put_other l.ne_other ?_, stands_put_self hkeeps ?_,
      h.noJunk, h.said⟩
    · rw [MemoryChannel.inbox_setInbox_of_ne l.ne_other]
      exact h.ahead.inbox
    · rw [MemoryChannel.inbox_setInbox, hgone]
      rfl
  | sentLate => cases hE
  | receivedLate => cases hE
  | left => cases hE

/-- The party at `first`, with nothing left to read, moves past late messages. -/
theorem InStep.move_last (h : d.InStep first Q D l [] junk []) (hfirst : l ≠ first)
    (hm : d.move l.other = some d') : ∃ mid junk rest, d'.InStep first Q D l mid junk rest := by
  obtain ⟨a, line, hma, rfl⟩ := move_eq_some_iff.1 hm
  have hother : first = l.other := (Side.eq_or_eq_other l first).resolve_left (Ne.symm hfirst)
  have hbox : d.line.channel.inbox l.other = .unread junk := by
    rw [h.behind.inbox, Actor.isGone_eq_false_of_move hma]
    rfl
  have hkeeps := h.behind.keeps
  rw [List.map_nil, List.nil_append] at hkeeps
  cases hkeeps.did hma with
  | quiet hkeeps hgone =>
    refine ⟨[], junk, [], h.ahead.put_other l.ne_other h.ahead.inbox, stands_put_self hkeeps ?_,
      h.noJunk, h.said⟩
    rw [hbox, hgone]
    rfl
  | sentLate hlate => exact absurd hother.symm (of_decide_eq_true hlate)
  | receivedLate hlate => exact absurd hother.symm (of_decide_eq_true hlate)
  | left hgone hkeeps =>
    refine ⟨[], junk, [], h.ahead.put_other l.ne_other ?_, stands_put_self hkeeps ?_,
      h.noJunk, h.said⟩
    · rw [Line.drop, MemoryChannel.drop, MemoryChannel.inbox_setInbox_of_ne l.ne_other]
      exact h.ahead.inbox
    · rw [Line.drop, MemoryChannel.drop, MemoryChannel.inbox_setInbox, hgone]
      rfl

/-- The parties are on their way, one of them ahead. -/
def Talks (d : Duet G σ α) (first : Side) (Q : (s : Side) → α s → σ s → ByteSource → Prop)
    (D : Dialogue) : Prop :=
  ∃ l mid junk rest, d.InStep first Q D l mid junk rest

/-- Every move keeps the parties on their way. -/
theorem Talks.move (h : d.Talks first Q D) (hm : d.move s = some d') : d'.Talks first Q D := by
  obtain ⟨l, mid, junk, rest, h⟩ := h
  obtain rfl | rfl := Side.eq_or_eq_other l s
  · exact ⟨_, h.move_ahead hm⟩
  · cases mid with
    | cons m mid => exact ⟨l, h.move_behind hm⟩
    | nil =>
      obtain rfl | ⟨hfirst, rfl⟩ := h.noJunk
      · exact ⟨l.other, h.swap.move_ahead hm⟩
      · exact ⟨l, h.move_last hfirst hm⟩

/-- Whoever waits behind has read everything. -/
theorem InStep.behind_waits (h : d.InStep first Q D l mid junk rest) (hs : d.IsStuck)
    (hgone : (d.actor l.other).isGone = false) :
    mid = [] ∧ rest = [] ∧ l = first ∧ (d.actor l).isGone = false := by
  have hm := move_eq_none_iff.1 (hs l.other)
  obtain ⟨hpending, hrest⟩ := h.behind.keeps.waits hgone hm
  obtain ⟨hunread, hdropped⟩ := MemoryChannel.not_dropped_of_pending hpending
  have hbox : d.line.channel.inbox l.other = .unread (mid ++ junk) := by
    rw [h.behind.inbox, hgone]
    rfl
  have hmid : mid = [] := by
    cases mid with
    | nil => rfl
    | cons m mid => exact absurd hbox (hunread m (mid ++ junk))
  subst hmid
  rw [List.map_nil, List.nil_append] at hrest
  have hahead : (d.actor l).isGone = false := by
    cases hl : (d.actor l).isGone with
    | false => rfl
    | true =>
      rw [Side.other_other, h.ahead.inbox, hl] at hdropped
      exact absurd rfl hdropped
  rcases hrest with ⟨m, E, rfl⟩ | ⟨hrest, hlate⟩
  · -- both would wait for each other, but the one ahead has this message to send
    have hm := move_eq_none_iff.1 (hs l)
    obtain ⟨-, ⟨n, F, hE⟩ | ⟨hE, -⟩⟩ := h.ahead.keeps.waits hahead hm
    · have hl := congrArg Prod.fst (List.cons.inj hE).1
      exact absurd hl (by simp)
    · cases hE
  · have hfirst := Side.eq_or_eq_other l first
    refine ⟨rfl, hrest, ?_, hahead⟩
    exact (hfirst.resolve_right fun he => of_decide_eq_true hlate he.symm).symm

/-- Where nobody can move, both parties are gone. -/
theorem InStep.isGone_of_isStuck (h : d.InStep first Q D l mid junk rest) (hs : d.IsStuck) :
    (d.actor l).isGone = true ∧ (d.actor l.other).isGone = true := by
  have hahead := move_eq_none_iff.1 (hs l)
  cases hother : (d.actor l.other).isGone with
  | false =>
    obtain ⟨-, rfl, hfirst, hl⟩ := h.behind_waits hs hother
    obtain ⟨-, ⟨m, E, hE⟩ | ⟨-, hlate⟩⟩ := h.ahead.keeps.waits hl hahead
    · cases hE
    · exact absurd hfirst (of_decide_eq_true hlate)
  | true =>
    cases hl : (d.actor l).isGone with
    | true => exact ⟨rfl, rfl⟩
    | false =>
      obtain ⟨hpending, -⟩ := h.ahead.keeps.waits hl hahead
      have hdropped := (MemoryChannel.not_dropped_of_pending hpending).2
      rw [h.behind.inbox, hother] at hdropped
      exact absurd rfl hdropped

/-- Both parties are gone, each with a result that `Q` allows, and the dialogue was
held. -/
structure Over (d : Duet G σ α) (Q : (s : Side) → α s → σ s → ByteSource → Prop)
    (D : Dialogue) : Prop where
  gone : ∀ s, ∃ a store random, d.actor s = .gone a store random ∧ Q s a store random
  said : D <+: d.line.sent

/-- A party that is gone has the dialogue behind it and ended with a result of `Q`. -/
theorem Stands.gone (h : d.Stands first Q s D q) (hgone : (d.actor s).isGone = true) :
    D = [] ∧ ∃ a store random, d.actor s = .gone a store random ∧ Q s a store random := by
  have hkeeps := h.keeps
  cases ha : d.actor s with
  | working p store random => simp [ha, Actor.isGone] at hgone
  | returned a store random => simp [ha, Actor.isGone] at hgone
  | gone a store random =>
    rw [ha] at hkeeps
    exact ⟨hkeeps.1, a, store, random, rfl, hkeeps.2⟩

/-- Where nobody can move, the dialogue is over. -/
theorem Talks.isOver (h : d.Talks first Q D) (hs : d.IsStuck) : d.Over Q D := by
  obtain ⟨l, mid, junk, rest, h⟩ := h
  obtain ⟨hl, hother⟩ := h.isGone_of_isStuck hs
  obtain ⟨rfl, hahead⟩ := h.ahead.gone hl
  obtain ⟨-, hbehind⟩ := h.behind.gone hother
  obtain ⟨past, hD, hpast, -⟩ := h.said
  constructor
  · intro s
    obtain rfl | rfl := Side.eq_or_eq_other l s
    · exact hahead
    · exact hbehind
  · rw [hD, List.append_nil]
    exact hpast

/-- Two parties that keep to one dialogue come to its end in every schedule, with the
results that each one's own run through the dialogue gives. -/
theorem alwaysEnds_of_keeps {party : (s : Side) → Party G (σ s) (α s)} {store : (s : Side) → σ s}
    {random : Side → ByteSource} (first : Side)
    (h : ∀ s, (party s).Keeps s (decide (s ≠ first)) (Q s) D (store s) (random s)) :
    (start party store random).AlwaysEnds fun d => d.Over Q D := by
  refine @alwaysEnds_of_invariant _ _ _ _ (fun d => d.Talks first Q D) _ ?_
    (fun d s d' ht hm => ht.move hm) (fun d ht hs => ht.isOver hs)
  refine ⟨.one, [], [], D, ⟨h .one, rfl⟩, ⟨h .two, rfl⟩, .inl rfl, [], rfl, ?_, fun _ => rfl⟩
  exact List.prefix_rfl

/-- The party at `s` is gone and ended with `a`. -/
def EndsWith (d : Duet G σ α) (s : Side) (a : α s) : Prop :=
  ∃ store random, d.actor s = .gone a store random

/-- As `alwaysEnds_of_keeps`, with one statement about the result of each side. -/
theorem alwaysEnds_endsWith {party : (s : Side) → Party G (σ s) (α s)} {store : (s : Side) → σ s}
    {random : Side → ByteSource} {R₁ : α .one → Prop} {R₂ : α .two → Prop} (first : Side)
    (h₁ : (party .one).Keeps .one (decide (.one ≠ first)) (fun a _ _ => R₁ a) D (store .one)
      (random .one))
    (h₂ : (party .two).Keeps .two (decide (.two ≠ first)) (fun a _ _ => R₂ a) D (store .two)
      (random .two)) :
    (start party store random).AlwaysEnds fun d =>
      ∃ a b, d.EndsWith .one a ∧ R₁ a ∧ d.EndsWith .two b ∧ R₂ b ∧ D <+: d.line.sent := by
  let Q : (s : Side) → α s → σ s → ByteSource → Prop
    | .one, a, _, _ => R₁ a
    | .two, b, _, _ => R₂ b
  have hkeeps : ∀ s, (party s).Keeps s (decide (s ≠ first)) (Q s) D (store s) (random s) := by
    intro s
    cases s with
    | one => exact h₁
    | two => exact h₂
  refine (alwaysEnds_of_keeps first hkeeps).mono fun d h => ?_
  obtain ⟨a, sa, ra, ha, hR₁⟩ := h.gone .one
  obtain ⟨b, sb, rb, hb, hR₂⟩ := h.gone .two
  exact ⟨a, b, ⟨sa, ra, ha⟩, hR₁, ⟨sb, rb, hb⟩, hR₂, h.said⟩

end Duet

end TwoParty
