import TwoParty.Proofs.CoinToss.Honest

/-!
# TwoParty.Proofs.CoinToss.Run

Tosses one after another between two honest parties.

Before toss `i` the committer is at number `i` and both stores are empty; a toss that is
not stopped leads from there to number `i + 1`.  That carries the induction on the draws
of party one: both parties keep to the dialogue `talk`, and their results are `outcomes`.
-/

namespace TwoParty

open LawfulGroup Pedersen

namespace CoinToss

/-! ## Sequences of tosses -/

section
variable {G : DlogGroup} {σ : Type} {side : Side} {late : Bool} {D E : Dialogue}
  {toss : ExceptT Error (Party G σ) TossOutput} {o : TossOutput} {n : Nat}
  {Q : List (Except Error TossOutput) → σ → ByteSource → Prop}
  {store store' : σ} {random random' : ByteSource}

/-- A toss that succeeds is followed by the remaining ones. -/
theorem keeps_tosses_ok (h : Says side D toss store random (.ok o) store' random')
    (hrest : (tosses toss n).Keeps side late (fun os s r => Q (.ok o :: os) s r) E store'
      random') :
    (tosses toss (n + 1)).Keeps side late Q (D ++ E) store random := by
  refine Party.Keeps.bind h ?_
  intro v s r hv
  obtain ⟨rfl, rfl, rfl⟩ := hv
  exact hrest.bind_late fun os s r hQ => .done hQ

/-- A toss that fails is the last. -/
theorem keeps_tosses_error
    (h : toss.run.Keeps side late (fun v s r => ∃ e, v = .error e ∧ Q [.error e] s r) D store
      random) :
    (tosses toss (n + 1)).Keeps side late Q D store random := by
  refine Party.Keeps.bind_late h ?_
  intro v s r hv
  obtain ⟨e, rfl, hQ⟩ := hv
  exact .done hQ

end

variable {G : DlogGroup} {draw : Challenger} {config : TossConfig} {kdf : Kdf}

/-- Party two, when its peer gave up before the toss. -/
theorem keeps_tossTwo_late {v : Verifier G} {source : ByteSource}
    (hcheck : kdf.check config.bytes = .ok ()) :
    (tossTwo config kdf (Verifier.side G draw)).run.Keeps .two true (fun r _ _ => IsIo r) [] v
      source := by
  refine (says_except hcheck).bind (D := []) (E := []) ?_
  refine (says_drawBytes config.bytes).bind (D := []) (E := []) ?_
  exact Verifier.keeps_receiveCommitment_late fun r hr => hr

/-- Party two, when its peer gave up before the first toss. -/
theorem keeps_tossesTwo_late {n : Nat} {v : Verifier G} {source : ByteSource}
    (hcheck : kdf.check config.bytes = .ok ()) :
    (tosses (tossTwo config kdf (Verifier.side G draw)) n).Keeps .two true
      (fun two _ _ => ∀ r ∈ two, IsIo r) [] v source := by
  cases n with
  | zero => exact .done (by simp)
  | succ n =>
    refine keeps_tosses_error ((keeps_tossTwo_late hcheck).mono ?_)
    intro v s r hv
    obtain ⟨e, rfl, hio⟩ := hv
    refine ⟨e, rfl, ?_⟩
    intro r hr
    rw [List.mem_singleton.1 hr]
    exact ⟨e, rfl, hio⟩

variable [LawfulGroup G] {ds : List (TossDraws G)} {d : TossDraws G} {t : ZMod G.order}
  {random random' source : ByteSource} {i : Nat}

/-! ## What is said and what comes out -/

/-- The share of party two in toss `i`, where `source` is its randomness after setting up. -/
def share (config : TossConfig) (source : ByteSource) (i : Nat) : Bytes :=
  (source.advance (i * config.bytes)).peek config.bytes

theorem share_zero : share config source 0 = source.peek config.bytes := by
  rw [share, Nat.zero_mul]
  rfl

/-- Later shares are the shares of the source past the first one. -/
theorem share_succ :
    share config source (i + 1) = share config (source.advance config.bytes) i := by
  simp only [share, ByteSource.advance, Nat.succ_mul]
  congr 2
  omega

/-- What is said from toss `i` on, up to the first that party two stops. -/
def talk (draw : Challenger) (t : ZMod G.order) (config : TossConfig) :
    Nat → List (TossDraws G) → ByteSource → Dialogue
  | _, [], _ => []
  | i, d :: ds, source =>
    d.said draw t (.ofNat i) (source.peek config.bytes) ++
      match d.mishap t with
      | none => talk draw t config (i + 1) ds (source.advance config.bytes)
      | some _ => []

/-- The results of one party: the outputs of the good tosses up to the first that party
two stops, and what this party makes of that one. -/
def outcomes (t : ZMod G.order) (config : TossConfig) (kdf : Kdf)
    (stopped : Cheating → Except Error TossOutput) :
    List (TossDraws G) → ByteSource → List (Except Error TossOutput)
  | [], _ => []
  | d :: ds, source =>
    match d.mishap t with
    | none => output kdf config.bytes (G.encodeExponent d.value) (source.peek config.bytes) ::
        outcomes t config kdf stopped ds (source.advance config.bytes)
    | some m => [stopped m]

section
variable {stopped : Cheating → Except Error TossOutput}

/-- Good draws give the masked share, and the tosses go on. -/
theorem outcomes_cons_of_good (hd : d.Good t) :
    outcomes t config kdf stopped (d :: ds) source =
      output kdf config.bytes (G.encodeExponent d.value) (source.peek config.bytes) ::
        outcomes t config kdf stopped ds (source.advance config.bytes) := by
  rw [outcomes, (d.mishap_eq_none_iff t).2 hd]

/-- A mishap gives the error of the party, and the tosses stop. -/
theorem outcomes_cons_of_mishap {m : Cheating} (hd : d.mishap t = some m) :
    outcomes t config kdf stopped (d :: ds) source = [stopped m] := by
  rw [outcomes, hd]

/-- Without a mishap every toss has an outcome. -/
theorem length_outcomes_of_good (hgood : ∀ d ∈ ds, d.Good t) :
    (outcomes t config kdf stopped ds source).length = ds.length := by
  induction ds generalizing source with
  | nil => rfl
  | cons d ds ih =>
    obtain ⟨hd, hds⟩ := List.forall_mem_cons.1 hgood
    rw [outcomes_cons_of_good hd, List.length_cons, List.length_cons, ih hds]

/-- A toss that comes to its end. -/
theorem getElem?_outcomes_of_good (hi : ds[i]? = some d)
    (hgood : ∀ e ∈ ds.take (i + 1), e.Good t) :
    (outcomes t config kdf stopped ds source)[i]? =
      some (output kdf config.bytes (G.encodeExponent d.value) (share config source i)) := by
  -- Each toss moves the source on by its share, so the source is generalised with the index.
  induction ds generalizing source i with
  | nil => contradiction
  | cons e ds ih =>
    rw [List.take_succ_cons] at hgood
    obtain ⟨he, hds⟩ := List.forall_mem_cons.1 hgood
    rw [outcomes_cons_of_good he]
    cases i with
    | zero =>
      rw [List.getElem?_cons_zero] at hi ⊢
      rw [share_zero, Option.some.inj hi]
    | succ i =>
      rw [List.getElem?_cons_succ] at hi ⊢
      rw [share_succ]
      exact ih hi hds

/-- The first toss that is stopped is the last. -/
theorem getElem?_outcomes_of_mishap {m : Cheating} (hi : ds[i]? = some d)
    (hgood : ∀ e ∈ ds.take i, e.Good t) (hd : d.mishap t = some m) :
    (outcomes t config kdf stopped ds source)[i]? = some (stopped m) ∧
      (outcomes t config kdf stopped ds source).length = i + 1 := by
  induction ds generalizing source i with
  | nil => contradiction
  | cons e ds ih =>
    cases i with
    | zero =>
      rw [List.getElem?_cons_zero] at hi
      rw [Option.some.inj hi, outcomes_cons_of_mishap hd]
      exact ⟨rfl, rfl⟩
    | succ i =>
      rw [List.take_succ_cons] at hgood
      obtain ⟨he, hds⟩ := List.forall_mem_cons.1 hgood
      rw [List.getElem?_cons_succ] at hi
      rw [outcomes_cons_of_good he, List.getElem?_cons_succ, List.length_cons]
      obtain ⟨hlast, hlength⟩ := @ih (source.advance config.bytes) i hi hds
      exact ⟨hlast, by rw [hlength]⟩

end

/-! ## The two parties -/

/-- The committer before toss `i` of a run. -/
def committerBefore (t : ZMod G.order) (i : Nat) : Committer G := committerAt t (UInt64.ofNat i)

/-- The committer before a later toss is the one that has issued the id of the toss before. -/
theorem committerBefore_succ (t : ZMod G.order) (i : Nat) :
    committerBefore (G := G) t (i + 1) = committerAt t (UInt64.ofNat i + 1) := by
  rw [committerBefore, UInt64.ofNat_add]
  rfl

/-- Party one.  Of a toss that is stopped it notices that its peer is gone. -/
theorem keeps_tossesOne (hkdf : kdf.IsExact) (hcheck : kdf.check config.bytes = .ok ())
    (h : G.Drawn random (ds.flatMap TossDraws.drawn) random') :
    (tosses (tossOne config kdf (Committer.side G draw)) ds.length).Keeps .one true
      (fun one c _ => (∃ r, IsIo r ∧ one = outcomes t config kdf (fun _ => r) ds source) ∧
        ((∀ d ∈ ds, d.Good t) → c = committerBefore t (i + ds.length)))
      (talk draw t config i ds source) (committerBefore t i) random := by
  -- One toss after another, each with an id and a share of its own.
  induction ds generalizing i source random with
  | nil => exact .done ⟨⟨_, ⟨MemoryChannel.sendError, rfl, rfl⟩, rfl⟩, fun _ => rfl⟩
  | cons d ds ih =>
    rw [List.flatMap_cons, DlogGroup.drawn_append] at h
    obtain ⟨u, hd, hds⟩ := h
    rw [talk]
    cases hmishap : d.mishap t with
    | none =>
      have hgood := (d.mishap_eq_none_iff t).1 hmishap
      have hshare : (source.peek config.bytes).length = config.bytes := source.length_peek _
      obtain ⟨pad, -, -, houtput⟩ := exists_output_eq (G.encodeExponent d.value) hkdf hcheck hshare
      refine keeps_tosses_ok (says_tossOne hcheck hgood hshare hd houtput) ?_
      rw [← committerBefore_succ]
      refine (ih hds).mono ?_
      intro one c _ hone
      obtain ⟨⟨r, hr, rfl⟩, hc⟩ := hone
      refine ⟨⟨r, hr, ?_⟩, ?_⟩
      · rw [outcomes_cons_of_good hgood, houtput]
      · intro hall
        rw [hc (List.forall_mem_cons.1 hall).2, List.length_cons]
        congr 1
        omega
    | some m =>
      -- A mishap leaves nothing to say, and this toss is the last one.
      have hbad : ¬ d.Good t := by
        intro hgood
        rw [(d.mishap_eq_none_iff t).2 hgood] at hmishap
        contradiction
      rw [List.append_nil]
      refine keeps_tosses_error ?_
      refine (keeps_tossOne_of_mishap hcheck hbad hd).mono ?_
      intro v c _ hv
      obtain ⟨e, rfl, hio⟩ := hv
      refine ⟨e, rfl, ⟨_, ⟨e, rfl, hio⟩, ?_⟩, ?_⟩
      · rw [outcomes_cons_of_mishap hmishap]
      · intro hall
        exact absurd (List.forall_mem_cons.1 hall).1 hbad

/-- Party two. -/
theorem keeps_tossesTwo (hkdf : kdf.IsExact) (hcheck : kdf.check config.bytes = .ok ())
    (h : ∀ d ∈ ds, scalar (residue d.value) = d.value ∧ residue d.nonce ≠ 0) :
    (tosses (tossTwo config kdf (Verifier.side G draw)) ds.length).Keeps .two false
      (fun two v _ => two = outcomes t config kdf (fun m => .error (.cheatAttempt m)) ds source ∧
        ((∀ d ∈ ds, d.Good t) → v = verifierAt t))
      (talk draw t config i ds source) (verifierAt t) source := by
  induction ds generalizing i source with
  | nil => exact .done ⟨rfl, fun _ => rfl⟩
  | cons d ds ih =>
    obtain ⟨⟨hx, hk⟩, hds⟩ := List.forall_mem_cons.1 h
    rw [talk]
    cases hmishap : d.mishap t with
    | none =>
      have hgood := (d.mishap_eq_none_iff t).1 hmishap
      have hshare : (source.peek config.bytes).length = config.bytes := source.length_peek _
      obtain ⟨pad, -, -, houtput⟩ := exists_output_eq (G.encodeExponent d.value) hkdf hcheck hshare
      refine keeps_tosses_ok (says_tossTwo hcheck hgood hx hk houtput) ?_
      refine (ih hds).mono ?_
      intro two v _ htwo
      obtain ⟨rfl, hv⟩ := htwo
      refine ⟨?_, ?_⟩
      · rw [outcomes_cons_of_good hgood, houtput]
      · intro hall
        exact hv (List.forall_mem_cons.1 hall).2
    | some m =>
      rw [List.append_nil]
      refine keeps_tosses_error ?_
      refine (keeps_tossTwo_of_mishap hcheck hmishap).mono ?_
      intro v c _ hv
      refine ⟨_, hv, ?_, ?_⟩
      · rw [outcomes_cons_of_mishap hmishap]
      · intro hall
        rw [(d.mishap_eq_none_iff t).2 (List.forall_mem_cons.1 hall).1] at hmishap
        contradiction

end CoinToss

end TwoParty
