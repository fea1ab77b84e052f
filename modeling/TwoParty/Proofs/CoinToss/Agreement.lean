import TwoParty.Proofs.CoinToss.Run
import TwoParty.Proofs.Group.SafePrime

/-!
# TwoParty.Proofs.CoinToss.Agreement

Two honest parties at the two ends of a memory channel set up one commitment session and
toss any number of times.

Whatever the schedule, both get the same string from every toss, until one of the two
sums that party two checks is zero (`Agreement`).  The proof follows the parties together
with their final states (`openOne`, `openTwo`), and leaves open what is made of their results
(`alwaysEnds_map`), so that it covers the sessions that keep the results only.
-/

namespace TwoParty

open LawfulGroup Pedersen

namespace CoinToss

/-! ## The two together -/

/-- What the two sides end with: the committer stands at side `one`. -/
abbrev Result (G : DlogGroup) : Side → Type
  | .one => Except Error (List (Except Error TossOutput) × Committer G)
  | .two => Except Error (List (Except Error TossOutput) × Verifier G)

def parties (G : DlogGroup) (σ : Side → Type) (draw : Challenger) (config : TossConfig)
    (kdf : Kdf) (n : Nat) : (s : Side) → Party G (σ s) (Result G s)
  | .one => (openOne G draw config kdf n).run
  | .two => (openTwo G draw config kdf n).run

/-- Both parties of `n` tosses, each with its own length and derivation, without their final
states. -/
def sessions (G : DlogGroup) (σ : Side → Type) (draw : Challenger) (config : Side → TossConfig)
    (kdf : Side → Kdf) (n : Nat) :
    (s : Side) → Party G (σ s) (Except Error (List (Except Error TossOutput)))
  | .one => (sessionOne G draw (config .one) (kdf .one) n).run
  | .two => (sessionTwo G draw (config .two) (kdf .two) n).run

def results {G : DlogGroup} : (s : Side) → Result G s →
    Except Error (List (Except Error TossOutput))
  | .one, one => one.map Prod.fst
  | .two, two => two.map Prod.fst

/-- The sessions are the two parties of which only the results are kept. -/
theorem sessions_eq (G : DlogGroup) (σ : Side → Type) (draw : Challenger) (config : TossConfig)
    (kdf : Kdf) (n : Nat) :
    sessions G σ draw (fun _ => config) (fun _ => kdf) n =
      fun s => results s <$> parties G σ draw config kdf n s := by
  funext s
  cases s with
  | one => exact ExceptT.run_map Prod.fst (openOne G draw config kdf n)
  | two => exact ExceptT.run_map Prod.fst (openTwo G draw config kdf n)

variable {G : DlogGroup} [LawfulGroup G] {ds : List (TossDraws G)} {draw : Challenger}
  {config : TossConfig} {kdf : Kdf} {σ : Side → Type} {store : (s : Side) → σ s}
  {random : Side → ByteSource} {rest₁ rest₂ : ByteSource} {trapdoor : G.Exponent}

def setupMessage (trapdoor : G.Exponent) : SetupMessage := ⟨G.encodeElement (G.gpow trapdoor)⟩

/-- What party one makes of the honest setup message: it refuses the trapdoor `1`, whose base is
the generator, and otherwise holds a committer that has issued no id. -/
theorem ofSetup_setupMessage (h : G.sample (random .two) = some (trapdoor, rest₂)) :
    Committer.ofSetup G (setupMessage trapdoor) =
      if residue trapdoor = 1 then .error (.cheatAttempt .baseIsGenerator)
      else .ok (committerBefore (residue trapdoor) 0) := by
  rw [setupMessage, gpow_eq]
  exact ofSetup_encode (residue_ne_zero_of_sample h)

theorem ofTrapdoor_eq (trapdoor : G.Exponent) :
    Verifier.ofTrapdoor G trapdoor = verifierAt (residue trapdoor) := by
  rw [Verifier.ofTrapdoor, gpow_eq]
  rfl

/-- What the results of the two parties and their final states have to do with each other,
for the draws `ds` of party one, a base `g ^ t`, and the randomness `source` from which
party two takes its shares. -/
structure Agreement (t : ZMod G.order) (config : TossConfig) (kdf : Kdf) (ds : List (TossDraws G))
    (source : ByteSource) (one : List (Except Error TossOutput) × Committer G)
    (two : List (Except Error TossOutput) × Verifier G) : Prop where
  /-- Good tosses give both parties the pad of the value combined with the share. -/
  agree : ∀ i d, ds[i]? = some d → (∀ e ∈ ds.take (i + 1), e.Good t) →
    ∃ o pad, one.1[i]? = some (.ok o) ∧ two.1[i]? = some (.ok o) ∧
      kdf.derive (G.encodeExponent d.value) config.bytes = .ok pad ∧
      o.bytes = Bytes.xorPad pad (share config source i) ∧ o.length = config.bytes
  /-- The first toss that is not good is the last: party two reports its peer. -/
  stop : ∀ i d, ds[i]? = some d → (∀ e ∈ ds.take i, e.Good t) → ¬ d.Good t →
    (∃ r, one.1[i]? = some r ∧ IsIo r) ∧ one.1.length = i + 1 ∧
      (∃ m, two.1[i]? = some (.error (.cheatAttempt m)) ∧ d.mishap t = some m) ∧
      two.1.length = i + 1
  /-- After good tosses nothing is left in the stores, and every toss had its number. -/
  settled : (∀ d ∈ ds, d.Good t) → one.1.length = ds.length ∧ two.1.length = ds.length ∧
    one.2.nextId = UInt64.ofNat ds.length ∧ one.2.openings = .empty ∧ two.2.commitments = .empty

/-- The results the dialogue predicts for the two parties are in agreement, whatever party one
answers at a mishap as long as it is an I/O error. -/
theorem agreement_outcomes {t : ZMod G.order} {source : ByteSource} {c : Committer G}
    {v : Verifier G} {r : Except Error TossOutput} (hkdf : kdf.IsExact)
    (hcheck : kdf.check config.bytes = .ok ()) (hr : IsIo r)
    (hc : (∀ d ∈ ds, d.Good t) → c = committerBefore t ds.length)
    (hv : (∀ d ∈ ds, d.Good t) → v = verifierAt t) :
    Agreement t config kdf ds source (outcomes t config kdf (fun _ => r) ds source, c)
      (outcomes t config kdf (fun m => .error (.cheatAttempt m)) ds source, v) := by
  constructor
  · intro i d hi hgood
    have hshare : (share config source i).length = config.bytes := ByteSource.length_peek _ _
    obtain ⟨pad, hpad, hlength, houtput⟩ := exists_output_eq (G.encodeExponent d.value) hkdf
      hcheck hshare
    refine ⟨⟨Bytes.xorPad pad (share config source i)⟩, pad, ?_, ?_, hpad, rfl, ?_⟩
    · rw [getElem?_outcomes_of_good hi hgood, houtput]
    · rw [getElem?_outcomes_of_good hi hgood, houtput]
    · rw [TossOutput.length, Bytes.length_xorPad, hlength]
  · intro i d hi hgood hbad
    -- The first draws that are not good have a mishap, and both lists of outcomes end there.
    cases hmishap : d.mishap t with
    | none => exact absurd ((d.mishap_eq_none_iff t).1 hmishap) hbad
    | some m =>
      obtain ⟨hone, hone'⟩ := @getElem?_outcomes_of_mishap G config kdf _ ds d t source i
        (fun _ => r) m hi hgood hmishap
      obtain ⟨htwo, htwo'⟩ := @getElem?_outcomes_of_mishap G config kdf _ ds d t source i
        (fun m => .error (.cheatAttempt m)) m hi hgood hmishap
      exact ⟨⟨r, hone, hr⟩, hone', ⟨m, htwo, rfl⟩, htwo'⟩
  · intro hgood
    rw [hc hgood, hv hgood]
    exact ⟨length_outcomes_of_good hgood, length_outcomes_of_good hgood, rfl, rfl, rfl⟩

/-- Party one, once it accepts the setup, keeps to the dialogue and returns the predicted outcomes
with the committer they leave. -/
theorem keeps_openOne {τ : Type} {own : τ} {source : ByteSource} (hkdf : kdf.IsExact)
    (hcheck : kdf.check config.bytes = .ok ())
    (hsetup : Committer.ofSetup G (setupMessage trapdoor) =
      .ok (committerBefore (residue trapdoor) 0))
    (h : G.Drawn (random .one) (ds.flatMap TossDraws.drawn) rest₁) :
    (openOne G draw config kdf ds.length).run.Keeps .one true
      (fun one _ _ => ∃ rs c, one = .ok (rs, c) ∧
        (∃ r, IsIo r ∧ rs = outcomes (residue trapdoor) config kdf (fun _ => r) ds source) ∧
        ((∀ d ∈ ds, d.Good (residue trapdoor)) →
          c = committerBefore (residue trapdoor) (0 + ds.length)))
      ((.two, LawfulMessage.text (setupMessage trapdoor)) ::
        talk draw (residue trapdoor) config 0 ds source) own (random .one) := by
  refine (Committer.says_setup hsetup).bind ?_
  exact keeps_within (keeps_tossesOne hkdf hcheck h)

/-- Party two keeps to the dialogue from its own setup on and returns the predicted outcomes with
the verifier they leave. -/
theorem keeps_openTwo {τ : Type} {own : τ} (hkdf : kdf.IsExact)
    (hcheck : kdf.check config.bytes = .ok ())
    (h₁ : G.Drawn (random .one) (ds.flatMap TossDraws.drawn) rest₁)
    (h₂ : G.sample (random .two) = some (trapdoor, rest₂)) :
    (openTwo G draw config kdf ds.length).run.Keeps .two false
      (fun two _ _ => ∃ rs v, two = .ok (rs, v) ∧
        rs = outcomes (residue trapdoor) config kdf (fun m => .error (.cheatAttempt m)) ds rest₂ ∧
        ((∀ d ∈ ds, d.Good (residue trapdoor)) → v = verifierAt (residue trapdoor)))
      ((.two, LawfulMessage.text (setupMessage trapdoor)) ::
        talk draw (residue trapdoor) config 0 ds rest₂) own (random .two) := by
  have hdrawn : ∀ d ∈ ds, scalar (residue d.value) = d.value ∧ residue d.nonce ≠ 0 := by
    intro d hd
    have hall := spec_of_drawn h₁
    have hvalue := hall d.value (List.mem_flatMap.2 ⟨d, hd, by simp [TossDraws.drawn]⟩)
    have hnonce := hall d.nonce (List.mem_flatMap.2 ⟨d, hd, by simp [TossDraws.drawn]⟩)
    exact ⟨hvalue.2, hnonce.1⟩
  refine (Verifier.says_setup h₂).bind ?_
  rw [ofTrapdoor_eq]
  exact keeps_within (keeps_tossesTwo hkdf hcheck hdrawn)

/-! ## Any schedule -/

/-- How two honest parties come to their end, for a base `g ^ t`. -/
structure Ends (t : ZMod G.order) (config : TossConfig) (kdf : Kdf) (ds : List (TossDraws G))
    (source : ByteSource) (one : Result G .one) (two : Result G .two) : Prop where
  /-- The base is the generator: the committer refuses it, and party two loses its peer. -/
  refused : t = 1 → one = .error (.cheatAttempt .baseIsGenerator) ∧
    ∃ rs v, two = .ok (rs, v) ∧ ∀ r ∈ rs, IsIo r
  /-- Any other base will do. -/
  agreed : t ≠ 1 → ∃ a b, one = .ok a ∧ two = .ok b ∧ Agreement t config kdf ds source a b

variable {α : Side → Type}

/-- Whatever the schedule and whatever is made of the results in the end. -/
theorem alwaysEnds_map (f : (s : Side) → Result G s → α s) (draw : Challenger)
    (hkdf : kdf.IsExact) (hcheck : kdf.check config.bytes = .ok ())
    (h₁ : G.Drawn (random .one) (ds.flatMap TossDraws.drawn) rest₁)
    (h₂ : G.sample (random .two) = some (trapdoor, rest₂)) :
    (Duet.start (fun s => f s <$> parties G σ draw config kdf ds.length s) store
        random).AlwaysEnds fun e =>
      ∃ one two, e.EndsWith .one (f .one one) ∧ e.EndsWith .two (f .two two) ∧
        Ends (residue trapdoor) config kdf ds rest₂ one two ∧
        (residue trapdoor ≠ 1 → (.two, LawfulMessage.text (setupMessage trapdoor)) ::
          talk draw (residue trapdoor) config 0 ds rest₂ <+: e.line.sent) := by
  have hsetup := ofSetup_setupMessage h₂
  by_cases hone : residue trapdoor = 1
  · -- Party one stops during the set-up, so party two is the one that may outlast it.
    rw [if_pos hone] at hsetup
    have hk₁ : (parties G σ draw config kdf ds.length .one).Keeps .one false
        (fun one _ _ => one = .error (.cheatAttempt .baseIsGenerator))
        [(.two, LawfulMessage.text (setupMessage trapdoor))] (store .one) (random .one) :=
      (Committer.says_setup hsetup).bind_error rfl
    have hk₂ : (parties G σ draw config kdf ds.length .two).Keeps .two true
        (fun two _ _ => ∃ rs v, two = .ok (rs, v) ∧ ∀ r ∈ rs, IsIo r)
        [(.two, LawfulMessage.text (setupMessage trapdoor))] (store .two) (random .two) :=
      (Verifier.says_setup h₂).bind (E := []) (keeps_within (keeps_tossesTwo_late hcheck))
    have hends := @Duet.alwaysEnds_endsWith G σ α _
      (fun s => f s <$> parties G σ draw config kdf ds.length s) store random _ _ .one
      (hk₁.map (f .one)) (hk₂.map (f .two))
    refine hends.mono fun e he => ?_
    obtain ⟨_, _, hend₁, ⟨one, rfl, rfl⟩, hend₂, ⟨two, rfl, htwo⟩, -⟩ := he
    exact ⟨_, two, hend₁, hend₂, ⟨fun _ => ⟨rfl, htwo⟩, fun hne => absurd hone hne⟩,
      fun hne => absurd hone hne⟩
  -- Both follow the dialogue to its end, and party two is the one that stops at a mishap.
  · rw [if_neg hone] at hsetup
    have hk₁ := (@keeps_openOne G _ ds draw config kdf random rest₁ trapdoor (σ .one) (store .one)
      rest₂ hkdf hcheck hsetup h₁).map (f .one)
    have hk₂ := (@keeps_openTwo G _ ds draw config kdf random rest₁ rest₂ trapdoor (σ .two)
      (store .two) hkdf hcheck h₁ h₂).map (f .two)
    have hends := @Duet.alwaysEnds_endsWith G σ α _
      (fun s => f s <$> parties G σ draw config kdf ds.length s) store random _ _ .two hk₁ hk₂
    refine hends.mono fun e he => ?_
    obtain ⟨_, _, hend₁, ⟨_, rfl, rs, c, rfl, ⟨r, hr, rfl⟩, hc⟩, hend₂,
      ⟨_, rfl, rs', v, rfl, rfl, hv⟩, hsaid⟩ := he
    rw [Nat.zero_add] at hc
    exact ⟨_, _, hend₁, hend₂, ⟨fun heq => absurd heq hone,
      fun _ => ⟨_, _, rfl, rfl, agreement_outcomes hkdf hcheck hr hc hv⟩⟩, fun _ => hsaid⟩

/-- Whatever the schedule, two honest parties agree on every toss up to the first in
which one of the two sums is zero; if the base is the generator there are none.  So it is for
the sessions, and with the final states for the parties that keep them. -/
theorem alwaysEnds_agreement (draw : Challenger) (hkdf : kdf.IsExact)
    (hcheck : kdf.check config.bytes = .ok ())
    (h₁ : G.Drawn (random .one) (ds.flatMap TossDraws.drawn) rest₁)
    (h₂ : G.sample (random .two) = some (trapdoor, rest₂)) :
    ((Duet.start (parties G σ draw config kdf ds.length) store random).AlwaysEnds fun e =>
      (residue trapdoor = 1 → e.EndsWith .one (.error (.cheatAttempt .baseIsGenerator)) ∧
        ∃ rs v, e.EndsWith .two (.ok (rs, v)) ∧ ∀ r ∈ rs, IsIo r) ∧
      (residue trapdoor ≠ 1 → ∃ one two, e.EndsWith .one (.ok one) ∧ e.EndsWith .two (.ok two) ∧
        Agreement (residue trapdoor) config kdf ds rest₂ one two ∧
        (.two, LawfulMessage.text (setupMessage trapdoor)) ::
          talk draw (residue trapdoor) config 0 ds rest₂ <+: e.line.sent)) ∧
    (Duet.start (sessions G σ draw (fun _ => config) (fun _ => kdf) ds.length) store
        random).AlwaysEnds fun e =>
      (residue trapdoor = 1 → e.EndsWith .one (.error (.cheatAttempt .baseIsGenerator)) ∧
        ∃ rs, e.EndsWith .two (.ok rs) ∧ ∀ r ∈ rs, IsIo r) ∧
      (residue trapdoor ≠ 1 → ∃ one two, e.EndsWith .one (.ok one.1) ∧
        e.EndsWith .two (.ok two.1) ∧
        Agreement (residue trapdoor) config kdf ds rest₂ one two) := by
  constructor
  · have h := @alwaysEnds_map G _ ds config kdf σ store random rest₁ rest₂ trapdoor (Result G)
      (fun _ => id) draw hkdf hcheck h₁ h₂
    simp only [id_map] at h
    refine h.mono fun e he => ?_
    obtain ⟨one, two, hone, htwo, hends, hsaid⟩ := he
    constructor
    · intro heq
      obtain ⟨rfl, rs, v, rfl, hio⟩ := hends.refused heq
      exact ⟨hone, rs, v, htwo, hio⟩
    · intro hne
      obtain ⟨a, b, rfl, rfl, hagree⟩ := hends.agreed hne
      exact ⟨a, b, hone, htwo, hagree, hsaid hne⟩
  · rw [sessions_eq]
    refine (alwaysEnds_map results draw hkdf hcheck h₁ h₂).mono fun e he => ?_
    obtain ⟨one, two, hone, htwo, hends, -⟩ := he
    constructor
    · intro heq
      obtain ⟨rfl, rs, v, rfl, hio⟩ := hends.refused heq
      exact ⟨hone, rs, htwo, hio⟩
    · intro hne
      obtain ⟨a, b, rfl, rfl, hagree⟩ := hends.agreed hne
      exact ⟨a, b, hone, htwo, hagree⟩

/-- Two tosses of 128 bits modulo 23. -/
theorem alwaysEnds_agreement_small :
    (Duet.start (parties SafePrime.small.group (fun _ => Unit) (fun _ _ n => List.replicate n 0)
        .standard (Kdf.hkdf []) 2) (fun _ => ()) (fun _ => SafePrime.threes 0)).AlwaysEnds
      fun e => ∃ one two, e.EndsWith .one (.ok one) ∧ e.EndsWith .two (.ok two) ∧
        (∃ o, one.1[1]? = some (.ok o) ∧ two.1[1]? = some (.ok o) ∧ o.length = 16) ∧
        one.2.nextId = 2 := by
  let d : TossDraws SafePrime.small.group :=
    ⟨SafePrime.three, SafePrime.three, SafePrime.three, SafePrime.three, SafePrime.three⟩
  have hgood : d.Good (residue SafePrime.three) := by
    constructor
    · show (3 : ZMod 11) + 3 * 3 ≠ 0
      decide
    · show (3 : ZMod 11) + 3 * 3 ≠ 0
      decide
  have hall : ∀ e ∈ [d, d], e.Good (residue SafePrime.three) := by
    simp [hgood]
  have hne : residue SafePrime.three ≠ 1 := by
    show (3 : ZMod 11) ≠ 1
    decide
  have h := @alwaysEnds_agreement SafePrime.small.group _ [d, d] .standard (Kdf.hkdf [])
    (fun _ => Unit) (fun _ => ()) (fun _ => SafePrime.threes 0) _ _ SafePrime.three
    (fun _ _ n => List.replicate n 0) (Kdf.isExact_hkdf []) rfl (SafePrime.drawn_threes 10 0)
    (SafePrime.sample_threes 0)
  refine h.1.mono fun e he => ?_
  obtain ⟨one, two, hone, htwo, hagree, -⟩ := he.2 hne
  obtain ⟨o, pad, ho, ho', -, -, hlength⟩ := hagree.agree 1 d rfl hall
  exact ⟨one, two, hone, htwo, ⟨o, ho, ho', hlength⟩, (hagree.settled hall).2.2.1⟩

end CoinToss

end TwoParty
