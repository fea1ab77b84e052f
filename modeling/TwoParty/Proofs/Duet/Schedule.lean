import TwoParty.Proofs.Duet.Says

/-!
# TwoParty.Proofs.Duet.Schedule

What two parties end with, whoever moves when.

A duet is `ScheduleFree` if every schedule ends with both parties gone, each with the one
outcome that no schedule changes, and nobody ever waits while its peer cannot move.  For that
it is enough that the two keep to one dialogue (`Settles`).  The dialogue is found part by part
(`Concludes`).
-/

namespace TwoParty

/-! ## Outcomes -/

section
variable {α : Type} {R : α → α → Prop} {v : Except Error α}

/-- The same value, in the sense of `R`, or errors of the same kind. -/
inductive Alike (R : α → α → Prop) : Except Error α → Except Error α → Prop where
  | ok {a b} (h : R a b) : Alike R (.ok a) (.ok b)
  | error {e f : Error} (h : e.kind = f.kind) : Alike R (.error e) (.error f)

theorem Alike.refl (hR : ∀ a, R a a) (v : Except Error α) : Alike R v v := by
  cases v with
  | error e => exact .error rfl
  | ok a => exact .ok (hR a)

/-- One I/O error is as good as another. -/
theorem IsIo.alike (h : IsIo v) : Alike R v (.error MemoryChannel.receiveError) := by
  obtain ⟨e, rfl, hio⟩ := h
  exact .error hio

end

/-- One thing for each side. -/
def Side.pick {α : Side → Type} (one : α .one) (two : α .two) : (s : Side) → α s
  | .one => one
  | .two => two

variable {G : DlogGroup}

/-! ## Schedules -/

namespace Duet

variable {σ α : Side → Type} {d e : Duet G σ α} {same : (s : Side) → α s → α s → Prop}
  {outcome : (s : Side) → α s}

/-- A party draws an exponent, and none is in reach of its randomness. -/
def Starves (d : Duet G σ α) (s : Side) : Prop :=
  ∃ next store random, d.actor s = .working (.exponent next) store random ∧
    G.sample random = none

/-- A party waits for a message, none is queued, and its peer holds its end. -/
def Waits (d : Duet G σ α) (s : Side) : Prop :=
  ∃ next store random, d.actor s = .working (.receive next) store random ∧
    (d.line.channel.receive s).1 = .pending

/-- Whoever moves when, every exponent that is drawn is in reach. -/
def DrawsReturn (d : Duet G σ α) : Prop := ∀ e, Reaches d e → ∀ s, ¬ e.Starves s

theorem Waits.move_eq_none {s : Side} (h : d.Waits s) : d.move s = none := by
  obtain ⟨next, store, random, ha, hpending⟩ := h
  rw [move_eq_none_iff, ha, Actor.move]
  split
  · next hr => simp [hr] at hpending
  · next hr => simp [hr] at hpending
  · rfl

/-- Every schedule ends with the same outcomes, and none runs into a deadlock. -/
structure ScheduleFree (same : (s : Side) → α s → α s → Prop) (d : Duet G σ α) : Prop where
  /-- Every schedule comes to an end, both parties being gone with their outcomes. -/
  ends : ∃ outcome : (s : Side) → α s,
    d.AlwaysEnds fun e => ∀ s, ∃ a, e.EndsWith s a ∧ same s a (outcome s)
  /-- Whoever waits has a peer that does not wait and can move. -/
  live : ∀ e, Reaches d e → ∀ s, e.Waits s → ¬ e.Waits s.other ∧ ∃ e', e.move s.other = some e'

/-- Where every schedule ends with both parties gone, nobody waits in vain. -/
theorem scheduleFree_of_alwaysEnds
    (h : d.AlwaysEnds fun e => ∀ s, ∃ a, e.EndsWith s a ∧ same s a (outcome s)) :
    d.ScheduleFree same := by
  refine ⟨⟨outcome, h⟩, fun e hr s hwaits => ?_⟩
  have hmove : ∃ e', e.move s.other = some e' := by
    refine Option.ne_none_iff_exists'.1 fun hnone => ?_
    -- Otherwise this is where the run ends, but the party that waits is not gone.
    have hstuck : e.IsStuck := by
      intro t
      obtain rfl | rfl := Side.eq_or_eq_other s t
      · exact hwaits.move_eq_none
      · exact hnone
    obtain ⟨a, ⟨store, random, hgone⟩, -⟩ := alwaysEnds_iff.1 h e hr hstuck s
    obtain ⟨next, store', random', hworks, -⟩ := hwaits
    cases hgone.symm.trans hworks
  refine ⟨fun hother => ?_, hmove⟩
  obtain ⟨e', he'⟩ := hmove
  cases hother.move_eq_none.symm.trans he'

end Duet

/-! ## One dialogue -/

section
variable {σ₁ σ₂ α₁ α₂ β₁ β₂ : Type} {s₁ t₁ : σ₁} {s₂ t₂ : σ₂} {r₁ u₁ r₂ u₂ : ByteSource}
  {D : Dialogue}

/-- The two parties keep to one dialogue, and each has one outcome.  The constructor names the
party that finishes with the dialogue; the other one may outlast it. -/
inductive Settles (R₁ : α₁ → α₁ → Prop) (R₂ : α₂ → α₂ → Prop) (p₁ : Party G σ₁ α₁) (s₁ : σ₁)
    (r₁ : ByteSource) (p₂ : Party G σ₂ α₂) (s₂ : σ₂) (r₂ : ByteSource) : Prop where
  | one {D o₁ o₂} (h₁ : p₁.Keeps .one false (fun a _ _ => R₁ a o₁) D s₁ r₁)
    (h₂ : p₂.Keeps .two true (fun a _ _ => R₂ a o₂) D s₂ r₂) : Settles R₁ R₂ p₁ s₁ r₁ p₂ s₂ r₂
  | two {D o₁ o₂} (h₁ : p₁.Keeps .one true (fun a _ _ => R₁ a o₁) D s₁ r₁)
    (h₂ : p₂.Keeps .two false (fun a _ _ => R₂ a o₂) D s₂ r₂) : Settles R₁ R₂ p₁ s₁ r₁ p₂ s₂ r₂

/-- How far two parts of a protocol get with each other: both come to their ends, or one gives
up and the other one notices. -/
inductive Concludes (x₁ : ExceptT Error (Party G σ₁) α₁) (s₁ : σ₁) (r₁ : ByteSource)
    (x₂ : ExceptT Error (Party G σ₂) α₂) (s₂ : σ₂) (r₂ : ByteSource) : Prop where
  | finished {D v₁ t₁ u₁ v₂ t₂ u₂} (h₁ : Says .one D x₁ s₁ r₁ v₁ t₁ u₁)
    (h₂ : Says .two D x₂ s₂ r₂ v₂ t₂ u₂) : Concludes x₁ s₁ r₁ x₂ s₂ r₂
  | leftByOne {D e t₁ u₁} (h₁ : Says .one D x₁ s₁ r₁ (.error e) t₁ u₁)
    (h₂ : x₂.run.Keeps .two true (fun v _ _ => IsIo v) D s₂ r₂) : Concludes x₁ s₁ r₁ x₂ s₂ r₂
  | leftByTwo {D e t₂ u₂} (h₁ : x₁.run.Keeps .one true (fun v _ _ => IsIo v) D s₁ r₁)
    (h₂ : Says .two D x₂ s₂ r₂ (.error e) t₂ u₂) : Concludes x₁ s₁ r₁ x₂ s₂ r₂

section
variable {x₁ : ExceptT Error (Party G σ₁) β₁} {x₂ : ExceptT Error (Party G σ₂) β₂}
  {f₁ : β₁ → ExceptT Error (Party G σ₁) α₁} {f₂ : β₂ → ExceptT Error (Party G σ₂) α₂} {b₁ : β₁}
  {b₂ : β₂}

/-- Before what settles, the two can hold another dialogue. -/
theorem Settles.bind {R₁ : Except Error α₁ → Except Error α₁ → Prop}
    {R₂ : Except Error α₂ → Except Error α₂ → Prop}
    (h : Settles R₁ R₂ (f₁ b₁).run t₁ u₁ (f₂ b₂).run t₂ u₂)
    (h₁ : Says .one D x₁ s₁ r₁ (.ok b₁) t₁ u₁) (h₂ : Says .two D x₂ s₂ r₂ (.ok b₂) t₂ u₂) :
    Settles R₁ R₂ (x₁ >>= f₁).run s₁ r₁ (x₂ >>= f₂).run s₂ r₂ := by
  cases h with
  | one hf₁ hf₂ => exact .one (h₁.bind hf₁) (h₂.bind hf₂)
  | two hf₁ hf₂ => exact .two (h₁.bind hf₁) (h₂.bind hf₂)

/-- Two first parts that meet, followed by two second parts that conclude. -/
theorem Concludes.bind (h : Concludes (f₁ b₁) t₁ u₁ (f₂ b₂) t₂ u₂)
    (h₁ : Says .one D x₁ s₁ r₁ (.ok b₁) t₁ u₁) (h₂ : Says .two D x₂ s₂ r₂ (.ok b₂) t₂ u₂) :
    Concludes (x₁ >>= f₁) s₁ r₁ (x₂ >>= f₂) s₂ r₂ := by
  cases h with
  | finished hf₁ hf₂ => exact .finished (h₁.bind hf₁) (h₂.bind hf₂)
  | leftByOne hf₁ hf₂ => exact .leftByOne (h₁.bind hf₁) (h₂.bind hf₂)
  | leftByTwo hf₁ hf₂ => exact .leftByTwo (h₁.bind hf₁) (h₂.bind hf₂)

end

/-- Parts that conclude have one outcome each. -/
theorem Concludes.settles {x₁ : ExceptT Error (Party G σ₁) α₁}
    {x₂ : ExceptT Error (Party G σ₂) α₂} (h : Concludes x₁ s₁ r₁ x₂ s₂ r₂) :
    Settles (Alike Eq) (Alike Eq) x₁.run s₁ r₁ x₂.run s₂ r₂ := by
  cases h with
  | finished h₁ h₂ =>
    exact .one (h₁.keeps (.refl (fun _ => rfl) _)) (h₂.keeps (.refl (fun _ => rfl) _))
  | leftByOne h₁ h₂ => exact .one (h₁.keeps (.error rfl)) (h₂.mono fun _ _ _ hv => hv.alike)
  | leftByTwo h₁ h₂ => exact .two (h₁.mono fun _ _ _ hv => hv.alike) (h₂.keeps (.error rfl))

end

/-- What settles does not depend on the schedule. -/
theorem Settles.scheduleFree {σ α : Side → Type} {party : (s : Side) → Party G (σ s) (α s)}
    {store : (s : Side) → σ s} {random : Side → ByteSource}
    {same : (s : Side) → α s → α s → Prop}
    (h : Settles (same .one) (same .two) (party .one) (store .one) (random .one) (party .two)
      (store .two) (random .two)) :
    (Duet.start party store random).ScheduleFree same := by
  have hends : ∃ o₁ o₂, (Duet.start party store random).AlwaysEnds fun e =>
      ∃ a b, e.EndsWith .one a ∧ same .one a o₁ ∧ e.EndsWith .two b ∧ same .two b o₂ := by
    cases h with
    | @one D o₁ o₂ h₁ h₂ =>
      refine ⟨o₁, o₂, (Duet.alwaysEnds_endsWith .one h₁ h₂).mono fun e he => ?_⟩
      obtain ⟨a, b, ha, hsame, hb, hsame', -⟩ := he
      exact ⟨a, b, ha, hsame, hb, hsame'⟩
    | @two D o₁ o₂ h₁ h₂ =>
      refine ⟨o₁, o₂, (Duet.alwaysEnds_endsWith .two h₁ h₂).mono fun e he => ?_⟩
      obtain ⟨a, b, ha, hsame, hb, hsame', -⟩ := he
      exact ⟨a, b, ha, hsame, hb, hsame'⟩
  obtain ⟨o₁, o₂, hends⟩ := hends
  refine @Duet.scheduleFree_of_alwaysEnds _ _ _ _ _ (Side.pick o₁ o₂) (hends.mono fun e he => ?_)
  obtain ⟨a, b, ha, hsame, hb, hsame'⟩ := he
  intro s
  cases s with
  | one => exact ⟨a, ha, hsame⟩
  | two => exact ⟨b, hb, hsame'⟩

end TwoParty
