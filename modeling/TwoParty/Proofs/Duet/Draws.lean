import TwoParty.Proofs.Duet.Schedule
import TwoParty.Proofs.Solo.Announce

/-!
# TwoParty.Proofs.Duet.Draws

The draws of two parties, whoever moves when.

Nothing is assumed about a draw but that it returns in every run of the two together
(`Duet.DrawsReturn`).  Then it returns wherever a dialogue leads both parties, and goes on to
do so while one of them talks and the other one has not read yet: the two are fed
(`areFed_of_drawsReturn`).  The parts of a protocol hand this on to one another
(`AreFed.comes`).
-/

namespace TwoParty

open Party

variable {G : DlogGroup}

/-! ## Parties along their runs -/

namespace Actor

variable {σ α : Type} {a : Actor G σ α} {side : Side} {m : Bytes} {es : List Event}
  {e : Ending σ α} {l : Line} {q : List Bytes} {p : Party G σ α} {store : σ} {random : ByteSource}

/-- The party is at work, and these events lie before it in one of its runs. -/
def Before (es : List Event) (e : Ending σ α) : Actor G σ α → Prop
  | .working p store random => p.Runs store random es e
  | .returned _ _ _ => False
  | .gone _ _ _ => False

/-- As `Before`, where the next step is not one that the party takes unseen. -/
inductive Front : List Event → Ending σ α → Actor G σ α → Prop where
  | done {b s r} : Front [] (some (b, s, r)) (.working (.done b) s r)
  | starved {next s r} (hx : G.sample r = none) : Front [] none (.working (.exponent next) s r)
  | send {n next s r answer rest e'} (h : (next answer).Runs s r rest e') :
    Front (.sent n (some answer) :: rest) e' (.working (.send n next) s r)
  | sendStuck {n next s r} : Front [.sent n none] none (.working (.send n next) s r)
  | receive {next s r answer rest e'} (h : (next answer).Runs s r rest e') :
    Front (.received (some answer) :: rest) e' (.working (.receive next) s r)
  | receiveStuck {next s r} : Front [.received none] none (.working (.receive next) s r)

/-- Left to itself, a party takes its unseen steps. -/
theorem exists_reaches_front (h : p.Runs store random es e) (side : Side) (l : Line) :
    ∃ a, Reaches side (.working p store random, l) (a, l) ∧ a.Front es e := by
  induction h with
  | done => exact ⟨_, .refl, .done⟩
  | read h ih =>
    obtain ⟨a, hr, ha⟩ := ih
    exact ⟨a, hr.head rfl, ha⟩
  | write h ih =>
    obtain ⟨a, hr, ha⟩ := ih
    exact ⟨a, hr.head rfl, ha⟩
  | exponent hx h ih =>
    obtain ⟨a, hr, ha⟩ := ih
    exact ⟨a, hr.head (by simp [move, hx]), ha⟩
  | starved hx => exact ⟨_, .refl, .starved hx⟩
  | bytes h ih =>
    obtain ⟨a, hr, ha⟩ := ih
    exact ⟨a, hr.head rfl, ha⟩
  | send h ih => exact ⟨_, .refl, .send h⟩
  | sendStuck => exact ⟨_, .refl, .sendStuck⟩
  | receive h ih => exact ⟨_, .refl, .receive h⟩
  | receiveStuck => exact ⟨_, .refl, .receiveStuck⟩

/-- A party past some of its events is moved by itself to the front of the next one. -/
theorem Before.exists_front (h : a.Before es e) (side : Side) (l : Line) :
    ∃ a', Reaches side (a, l) (a', l) ∧ a'.Front es e := by
  cases a with
  | working p store random => exact exists_reaches_front h side l
  | returned => cases h
  | gone => cases h

/-- It sends the message that comes next. -/
theorem Before.exists_sent (h : a.Before (.sent m (some (.ok ())) :: es) e)
    (hbox : l.channel.inbox side.other = .unread q) :
    ∃ a', Reaches side (a, l)
        (a', ⟨l.channel.setInbox side.other (.unread (q ++ [m])), l.sent ++ [(side, m)]⟩) ∧
      a'.Before es e := by
  obtain ⟨_, hr, hfront⟩ := h.exists_front side l
  cases hfront with
  | send h => exact ⟨.working _ _ _, hr.tail (by rw [move, Line.send_unread hbox]), h⟩

/-- It reads the message that is queued. -/
theorem Before.exists_heard (h : a.Before (.received (some (.ok m)) :: es) e)
    (hbox : l.channel.inbox side = .unread (m :: q)) :
    ∃ a', Reaches side (a, l) (a', ⟨l.channel.setInbox side (.unread q), l.sent⟩) ∧
      a'.Before es e := by
  obtain ⟨_, hr, hfront⟩ := h.exists_front side l
  cases hfront with
  | receive h =>
    exact ⟨.working _ _ _, hr.tail (by simp only [move, MemoryChannel.receive_cons hbox]), h⟩

/-- It sends all these messages and then draws what is not in reach. -/
theorem Before.exists_starved {ms : List Bytes} (h : a.Before (delivered ms) none)
    (hbox : l.channel.inbox side.other = .unread q) :
    ∃ next store random l', Reaches side (a, l) (.working (.exponent next) store random, l') ∧
      G.sample random = none := by
  induction ms generalizing a l q with
  | nil =>
    obtain ⟨_, hr, hfront⟩ := h.exists_front side l
    cases hfront with
    | starved hx => exact ⟨_, _, _, l, hr, hx⟩
  | cons m ms ih =>
    obtain ⟨a', hr, ha'⟩ := Before.exists_sent h hbox
    have hbox' := MemoryChannel.inbox_setInbox l.channel side.other (.unread (q ++ [m]))
    obtain ⟨next, store, random, l', hr', hx⟩ := @ih a' ⟨_, l.sent ++ [(side, m)]⟩ _ ha' hbox'
    exact ⟨next, store, random, l', hr.trans hr', hx⟩

end Actor

namespace Duet

variable {σ α : Side → Type} {d : Duet G σ α} {D : Dialogue} {es : Side → List Event}
  {end' : (s : Side) → Ending (σ s) (α s)} {party : (s : Side) → Party G (σ s) (α s)}
  {store : (s : Side) → σ s} {random : Side → ByteSource}

/-- Nothing is queued, and each party has these events before it. -/
structure Meets (d : Duet G σ α) (es : Side → List Event)
    (end' : (s : Side) → Ending (σ s) (α s)) : Prop where
  inbox : ∀ s, d.line.channel.inbox s = .unread []
  before : ∀ s, (d.actor s).Before (es s) (end' s)

/-- What a party does by itself is a run of the duet. -/
theorem reaches_put {s : Side} {a : Actor G (σ s) (α s)} {l : Line}
    (h : Actor.Reaches s (d.actor s, d.line) (a, l)) : Reaches d (d.put s a l) := by
  have hr := reaches_of_actor h d
  rwa [put_actor_self] at hr

/-- Two parties that have one dialogue before them can hold it. -/
theorem Meets.exists_reaches (h : d.Meets (fun s => Dialogue.events s D ++ es s) end') :
    ∃ d', Reaches d d' ∧ d'.Meets es end' := by
  -- The speaker moves to its message and sends it, then the listener moves to it and reads it.
  induction D generalizing d with
  | nil => exact ⟨d, .refl, h⟩
  | cons entry D ih =>
    obtain ⟨s, m⟩ := entry
    have hspeaker := h.before s
    rw [Dialogue.events_cons_self, List.cons_append] at hspeaker
    obtain ⟨a, hra, ha⟩ := hspeaker.exists_sent (h.inbox s.other)
    have hr₁ := reaches_put hra
    generalize hl₁ : Line.mk _ _ = l₁ at hr₁
    have hother : (d.put s a l₁).actor s.other = d.actor s.other :=
      actor_put_of_ne d s.other_ne a l₁
    have hbox : l₁.channel.inbox s.other = .unread [m] := by
      rw [← hl₁]
      exact MemoryChannel.inbox_setInbox _ _ _
    have hlistener := h.before s.other
    rw [Dialogue.events_cons_of_ne s.ne_other, List.cons_append, ← hother] at hlistener
    obtain ⟨b, hrb, hb⟩ := hlistener.exists_heard hbox
    have hr₂ := reaches_put hrb
    refine (ih ⟨?_, ?_⟩).imp fun d' hd' => ⟨(hr₁.trans hr₂).trans hd'.1, hd'.2⟩
    · intro t
      obtain rfl | rfl := Side.eq_or_eq_other s t
      · show (l₁.channel.setInbox _ _).inbox _ = _
        rw [MemoryChannel.inbox_setInbox_of_ne t.ne_other, ← hl₁,
          MemoryChannel.inbox_setInbox_of_ne t.ne_other]
        exact h.inbox t
      · exact MemoryChannel.inbox_setInbox _ _ _
    · intro t
      obtain rfl | rfl := Side.eq_or_eq_other s t
      · rw [actor_put_of_ne _ t.ne_other, actor_put_self]
        exact ha
      · rw [actor_put_self]
        exact hb

/-- Nothing is in the way of a party that only sends, so its draws are made in some run. -/
theorem DrawsReturn.not_before {d' : Duet G σ α} {s : Side} {ms : List Bytes}
    (h : d.DrawsReturn) (hr : Reaches d d') (hbox : d'.line.channel.inbox s.other = .unread []) :
    ¬ (d'.actor s).Before (delivered ms) none := by
  intro hbefore
  obtain ⟨next, store, random, l, hra, hx⟩ := hbefore.exists_starved hbox
  refine h _ (hr.trans (reaches_put hra)) s ⟨next, store, random, ?_, hx⟩
  exact actor_put_self d' s _ l

end Duet

/-! ## A supply of exponents -/

section
variable {supply : ByteSource → Prop} (hadvance : ∀ r n, supply r → supply (r.advance n))
  (hsample : ∀ r, supply r → ∃ x rest, G.sample r = some (x, rest) ∧ supply rest)

def Actor.source {σ α : Type} : Actor G σ α → ByteSource
  | .working _ _ random => random
  | .returned _ _ random => random
  | .gone _ _ random => random

include hadvance hsample

/-- A move does not use up a supply of exponents. -/
theorem Actor.supply_of_move {σ α : Type} {a a' : Actor G σ α} {side : Side} {l l' : Line}
    (h : supply a.source) (hm : a.move side l = some (a', l')) : supply a'.source := by
  cases a with
  | gone => cases hm
  | returned =>
    cases hm
    exact h
  | working p store random =>
    cases p with
    | done | read | write | send =>
      cases hm
      exact h
    | bytes n next =>
      cases hm
      exact hadvance _ _ h
    | exponent next =>
      obtain ⟨⟨x, rest⟩, hx, heq⟩ := Option.map_eq_some_iff.1 hm
      cases heq
      obtain ⟨x', rest', hx', hrest⟩ := hsample _ h
      cases hx.symm.trans hx'
      exact hrest
    | receive next =>
      rw [Actor.move] at hm
      split at hm <;> cases hm <;> exact h

/-- Draws return if the randomness of both parties is of a kind from which an exponent can be
drawn, and that stays so whatever is taken. -/
theorem Duet.drawsReturn_of_supply {σ α : Side → Type} {party : (s : Side) → Party G (σ s) (α s)}
    {store : (s : Side) → σ s} {random : Side → ByteSource} (h : ∀ s, supply (random s)) :
    (Duet.start party store random).DrawsReturn := by
  intro e hr
  -- The invariant of the run: both parties keep a supply.
  have hsupply : ∀ s, supply (e.actor s).source := by
    induction hr with
    | refl => exact h
    | tail _ hm ih =>
      obtain ⟨mover, hm⟩ := hm
      obtain ⟨a, l, ha, rfl⟩ := move_eq_some_iff.1 hm
      intro s
      by_cases hs : s = mover
      · subst hs
        rw [actor_put_self]
        exact Actor.supply_of_move hadvance hsample (ih s) ha
      · rw [actor_put_of_ne _ hs]
        exact ih s
  rintro s ⟨next, store', random', ha, hnone⟩
  have hs := hsupply s
  rw [ha] at hs
  obtain ⟨x, rest, hx, -⟩ := hsample _ hs
  cases hnone.symm.trans hx

end

/-! ## Draws along a dialogue -/

/-- As long as everything that the party says gets through and it has not to wait, its draws
return. -/
def Party.IsFed {σ α : Type} (p : Party G σ α) (store : σ) (random : ByteSource) : Prop :=
  ∀ ms, ¬ p.Runs store random (delivered ms) none

/-- Wherever a dialogue leads these two parties, and whatever one of them says from there on,
its draws return. -/
structure AreFed {σ₁ σ₂ α₁ α₂ : Type} (p₁ : Party G σ₁ α₁) (s₁ : σ₁) (r₁ : ByteSource)
    (p₂ : Party G σ₂ α₂) (s₂ : σ₂) (r₂ : ByteSource) : Prop where
  one : ∀ D ms es e, p₂.Runs s₂ r₂ (Dialogue.events .two D ++ es) e →
    ¬ p₁.Runs s₁ r₁ (Dialogue.events .one D ++ delivered ms) none
  two : ∀ D ms es e, p₁.Runs s₁ r₁ (Dialogue.events .one D ++ es) e →
    ¬ p₂.Runs s₂ r₂ (Dialogue.events .two D ++ delivered ms) none

/-- Where draws return in all runs of the two together, the two are fed. -/
theorem areFed_of_drawsReturn {σ α : Side → Type} {party : (s : Side) → Party G (σ s) (α s)}
    {store : (s : Side) → σ s} {random : Side → ByteSource}
    (h : (Duet.start party store random).DrawsReturn) :
    AreFed (party .one) (store .one) (random .one) (party .two) (store .two) (random .two) := by
  -- A schedule that holds the dialogue leads to where each party has the rest before it.
  have hmeets : ∀ D es₁ e₁ es₂ e₂,
      (party .one).Runs (store .one) (random .one) (Dialogue.events .one D ++ es₁) e₁ →
      (party .two).Runs (store .two) (random .two) (Dialogue.events .two D ++ es₂) e₂ →
      ∃ d', Duet.Reaches (Duet.start party store random) d' ∧
        (∀ s, d'.line.channel.inbox s = .unread []) ∧
        (d'.actor .one).Before es₁ e₁ ∧ (d'.actor .two).Before es₂ e₂ := by
    intro D es₁ e₁ es₂ e₂ h₁ h₂
    let es : Side → List Event := Side.pick es₁ es₂
    have hstart : (Duet.start party store random).Meets (fun s => Dialogue.events s D ++ es s)
        (Side.pick e₁ e₂) := by
      constructor
      · intro s
        cases s <;> rfl
      · intro s
        cases s with
        | one => exact h₁
        | two => exact h₂
    obtain ⟨d', hr, hd'⟩ := hstart.exists_reaches
    exact ⟨d', hr, hd'.inbox, hd'.before .one, hd'.before .two⟩
  constructor
  · intro D ms es e h₂ h₁
    obtain ⟨d', hr, hbox, hone, -⟩ := hmeets D _ _ _ _ h₁ h₂
    -- The peer listens, so nothing stops the party before its draw.
    exact h.not_before hr (hbox _) hone
  · intro D ms es e h₁ h₂
    obtain ⟨d', hr, hbox, -, htwo⟩ := hmeets D _ _ _ _ h₁ h₂
    exact h.not_before hr (hbox _) htwo

/-! ## From one place to the next -/

section
variable {σ τ α β : Type} {side : Side} {D E : Dialogue} {p : Party G σ α} {q : Party G τ β}
  {s : σ} {t : τ} {r r' rest : ByteSource}

/-- Through the dialogue the party comes to another place: the runs that begin there are part
of its own. -/
structure Party.Comes (side : Side) (D : Dialogue) (p : Party G σ α) (s : σ) (r : ByteSource)
    (q : Party G τ β) (t : τ) (r' : ByteSource) : Prop where
  holds : ∀ es e, q.Runs t r' es e →
    ∃ es' e', p.Runs s r (Dialogue.events side D ++ (es ++ es')) e'
  starves : ∀ es, q.Runs t r' es none → p.Runs s r (Dialogue.events side D ++ es) none

namespace Party

theorem Comes.refl : p.Comes side [] s r p s r :=
  ⟨fun es e h => ⟨[], e, by rwa [List.append_nil]⟩, fun _ h => h⟩

/-- What is said on the way adds up. -/
theorem Comes.trans {υ γ : Type} {q' : Party G υ γ} {u : υ} {r'' : ByteSource}
    (h : p.Comes side D s r q t r') (h' : q.Comes side E t r' q' u r'') :
    p.Comes side (D ++ E) s r q' u r'' := by
  constructor
  · intro es e hrun
    obtain ⟨es₁, e₁, hrun₁⟩ := h'.holds es e hrun
    obtain ⟨es₂, e₂, hrun₂⟩ := h.holds _ e₁ hrun₁
    refine ⟨es₁ ++ es₂, e₂, ?_⟩
    simpa only [Dialogue.events_append, List.append_assoc] using hrun₂
  · intro es hrun
    rw [Dialogue.events_append, List.append_assoc]
    exact h.starves _ (h'.starves es hrun)

/-- What is said and heard in a part leads to what follows it. -/
theorem Runs.comes {f : α → Party G σ β} {a : α} {s' : σ}
    (h : p.Runs s r (Dialogue.events side D) (some (a, s', r'))) :
    (p.bind f).Comes side D s r (f a) s' r' :=
  ⟨fun es e hrun => ⟨[], e, by rw [List.append_nil]; exact h.bind hrun⟩, fun _ hrun => h.bind hrun⟩

/-- A sequence comes to its first part. -/
theorem comes_bind {f : α → Party G σ β} : (p.bind f).Comes side [] s r p s r := by
  constructor
  · intro es e hrun
    cases e with
    | none => exact ⟨[], none, by simpa [Dialogue.events] using hrun.bind_none⟩
    | some v =>
      obtain ⟨a, s', r'⟩ := v
      obtain ⟨es', e', hnext⟩ := exists_runs (f a) s' r'
      exact ⟨es', e', hrun.bind hnext⟩
  · intro es hrun
    exact hrun.bind_none

/-- A party with a store of its own is what it is inside another one. -/
theorem comes_within {own : τ} : (q.within own).Comes side [] s r q own r :=
  ⟨fun es e hrun => ⟨[], _, by rw [List.append_nil]; exact hrun.within s⟩,
    fun _ hrun => hrun.within s⟩

/-- A draw that gives an exponent comes to what is done with it. -/
theorem comes_exponent {next : G.Exponent → Party G σ α} {x : G.Exponent}
    (hx : G.sample r = some (x, rest)) :
    (Party.exponent next).Comes side [] s r (next x) s rest :=
  ⟨fun es e hrun => ⟨[], e, by rw [List.append_nil]; exact .exponent hx hrun⟩,
    fun _ hrun => .exponent hx hrun⟩

end Party

/-- A part that succeeds comes to what follows it. -/
theorem Says.comes {x : ExceptT Error (Party G σ) α} {f : α → ExceptT Error (Party G σ) β} {a : α}
    {s' : σ} (h : Says side D x s r (.ok a) s' r') :
    (x >>= f).run.Comes side D s r (f a).run s' r' :=
  h.runs.comes

/-! ## Fed parties -/

theorem Dialogue.events_map_self (side : Side) (ms : List Bytes) :
    Dialogue.events side (ms.map (side, ·)) = delivered ms := by
  simp [Dialogue.events, delivered]

/-- A fed party is still fed after it sent some messages. -/
theorem Party.IsFed.comes {ms : List Bytes} (h : p.IsFed s r)
    (hc : p.Comes side (ms.map (side, ·)) s r q t r') : q.IsFed t r' := by
  intro ms' hrun
  refine h (ms ++ ms') ?_
  rw [delivered_append, ← Dialogue.events_map_self side]
  exact hc.starves _ hrun

theorem Party.IsFed.quiet (h : p.IsFed s r) (hc : p.Comes side [] s r q t r') :
    q.IsFed t r' := by
  have hnone : p.Comes side (([] : List Bytes).map (side, ·)) s r q t r' := hc
  exact h.comes hnone

/-- The first part of a fed sequence is fed. -/
theorem Party.IsFed.of_bind {f : α → Party G σ β} (h : (p.bind f).IsFed s r) : p.IsFed s r := by
  have hcomes : (p.bind f).Comes .one [] s r p s r := comes_bind
  exact h.quiet hcomes

theorem Party.IsFed.first {x : ExceptT Error (Party G σ) α}
    {f : α → ExceptT Error (Party G σ) β} (h : (x >>= f).run.IsFed s r) : x.run.IsFed s r :=
  h.of_bind

/-- What follows a silent part is fed; it does not matter at which side the part is silent. -/
theorem Party.IsFed.next {x : ExceptT Error (Party G σ) α} {f : α → ExceptT Error (Party G σ) β}
    {a : α} {s' : σ} (h : (x >>= f).run.IsFed s r) (hx : Says .one [] x s r (.ok a) s' r') :
    (f a).run.IsFed s' r' :=
  h.quiet hx.comes

/-- What follows a message is fed. -/
theorem Party.IsFed.sent {x : ExceptT Error (Party G σ) α} {f : α → ExceptT Error (Party G σ) β}
    {a : α} {s' : σ} {m : Bytes} (h : (x >>= f).run.IsFed s r)
    (hx : Says .one [(.one, m)] x s r (.ok a) s' r') : (f a).run.IsFed s' r' := by
  have hcomes : (x >>= f).run.Comes .one ([m].map (.one, ·)) s r (f a).run s' r' := hx.comes
  exact h.comes hcomes

/-- A draw of a party that is fed. -/
theorem Party.IsFed.exists_sample {next : G.Exponent → Party G σ α}
    (h : (Party.exponent next).IsFed s r) :
    ∃ x rest, G.sample r = some (x, rest) ∧ (next x).IsFed s rest := by
  cases hx : G.sample r with
  | none => exact absurd (.starved hx) (h [])
  | some v =>
    obtain ⟨x, rest⟩ := v
    have hcomes : (Party.exponent next).Comes .one [] s r (next x) s rest := comes_exponent hx
    exact ⟨x, rest, rfl, h.quiet hcomes⟩

end

section
variable {σ₁ σ₂ τ₁ τ₂ α₁ α₂ β₁ β₂ : Type} {p₁ : Party G σ₁ α₁} {p₂ : Party G σ₂ α₂}
  {q₁ : Party G τ₁ β₁} {q₂ : Party G τ₂ β₂} {s₁ : σ₁} {s₂ : σ₂} {t₁ : τ₁} {t₂ : τ₂}
  {r₁ r₁' r₂ r₂' : ByteSource} {D : Dialogue}

theorem AreFed.isFed_one (h : AreFed p₁ s₁ r₁ p₂ s₂ r₂) : p₁.IsFed s₁ r₁ := by
  intro ms
  obtain ⟨es, e, hrun⟩ := exists_runs p₂ s₂ r₂
  exact h.one [] ms es e hrun

theorem AreFed.isFed_two (h : AreFed p₁ s₁ r₁ p₂ s₂ r₂) : p₂.IsFed s₂ r₂ := by
  intro ms
  obtain ⟨es, e, hrun⟩ := exists_runs p₁ s₁ r₁
  exact h.two [] ms es e hrun

/-- Where one dialogue leads both parties, both of them are still fed. -/
theorem AreFed.comes (h : AreFed p₁ s₁ r₁ p₂ s₂ r₂) (h₁ : p₁.Comes .one D s₁ r₁ q₁ t₁ r₁')
    (h₂ : p₂.Comes .two D s₂ r₂ q₂ t₂ r₂') : AreFed q₁ t₁ r₁' q₂ t₂ r₂' := by
  constructor
  · intro E ms es e hrun₂ hrun₁
    obtain ⟨es', e', hholds⟩ := h₂.holds _ e hrun₂
    refine h.one (D ++ E) ms (es ++ es') e' ?_ ?_
    · simpa only [Dialogue.events_append, List.append_assoc] using hholds
    · rw [Dialogue.events_append, List.append_assoc]
      exact h₁.starves _ hrun₁
  · intro E ms es e hrun₁ hrun₂
    obtain ⟨es', e', hholds⟩ := h₁.holds _ e hrun₁
    refine h.two (D ++ E) ms (es ++ es') e' ?_ ?_
    · simpa only [Dialogue.events_append, List.append_assoc] using hholds
    · rw [Dialogue.events_append, List.append_assoc]
      exact h₂.starves _ hrun₂

end

/-! ## Fed parts -/

section
variable {σ₁ σ₂ α₁ α₂ β₁ β₂ : Type} {s₁ t₁ : σ₁} {s₂ t₂ : σ₂} {r₁ u₁ r₂ u₂ : ByteSource}
  {D : Dialogue} {x₁ : ExceptT Error (Party G σ₁) β₁} {x₂ : ExceptT Error (Party G σ₂) β₂}
  {f₁ : β₁ → ExceptT Error (Party G σ₁) α₁} {f₂ : β₂ → ExceptT Error (Party G σ₂) α₂} {b₁ : β₁}
  {b₂ : β₂} {y₁ : ExceptT Error (Party G σ₁) α₁} {y₂ : ExceptT Error (Party G σ₂) α₂}

/-- Fed parts conclude if what follows their first dialogue does. -/
theorem AreFed.concludes_bind (h : AreFed (x₁ >>= f₁).run s₁ r₁ (x₂ >>= f₂).run s₂ r₂)
    (h₁ : Says .one D x₁ s₁ r₁ (.ok b₁) t₁ u₁) (h₂ : Says .two D x₂ s₂ r₂ (.ok b₂) t₂ u₂)
    (hf : AreFed (f₁ b₁).run t₁ u₁ (f₂ b₂).run t₂ u₂ → Concludes (f₁ b₁) t₁ u₁ (f₂ b₂) t₂ u₂) :
    Concludes (x₁ >>= f₁) s₁ r₁ (x₂ >>= f₂) s₂ r₂ :=
  (hf (h.comes h₁.comes h₂.comes)).bind h₁ h₂

/-- Party one takes unseen steps. -/
theorem AreFed.concludes_one (h : AreFed (x₁ >>= f₁).run s₁ r₁ y₂.run s₂ r₂)
    (h₁ : Says .one [] x₁ s₁ r₁ (.ok b₁) t₁ u₁)
    (hf : AreFed (f₁ b₁).run t₁ u₁ y₂.run s₂ r₂ → Concludes (f₁ b₁) t₁ u₁ y₂ s₂ r₂) :
    Concludes (x₁ >>= f₁) s₁ r₁ y₂ s₂ r₂ := by
  cases hf (h.comes h₁.comes .refl) with
  | finished hf₁ hf₂ => exact .finished (h₁.bind hf₁) hf₂
  | leftByOne hf₁ hf₂ => exact .leftByOne (h₁.bind hf₁) hf₂
  | leftByTwo hf₁ hf₂ => exact .leftByTwo (h₁.bind hf₁) hf₂

/-- Party two takes unseen steps. -/
theorem AreFed.concludes_two (h : AreFed y₁.run s₁ r₁ (x₂ >>= f₂).run s₂ r₂)
    (h₂ : Says .two [] x₂ s₂ r₂ (.ok b₂) t₂ u₂)
    (hf : AreFed y₁.run s₁ r₁ (f₂ b₂).run t₂ u₂ → Concludes y₁ s₁ r₁ (f₂ b₂) t₂ u₂) :
    Concludes y₁ s₁ r₁ (x₂ >>= f₂) s₂ r₂ := by
  cases hf (h.comes .refl h₂.comes) with
  | finished hf₁ hf₂ => exact .finished hf₁ (h₂.bind hf₂)
  | leftByOne hf₁ hf₂ => exact .leftByOne hf₁ (h₂.bind hf₂)
  | leftByTwo hf₁ hf₂ => exact .leftByTwo hf₁ (h₂.bind hf₂)

end

end TwoParty
