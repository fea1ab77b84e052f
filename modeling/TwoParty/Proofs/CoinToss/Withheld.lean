import TwoParty.Proofs.CoinToss.Honest
import TwoParty.Proofs.Commitment.Log
import TwoParty.Proofs.Group.SafePrime
import TwoParty.Proofs.Solo.Duet

/-!
# TwoParty.Proofs.CoinToss.Withheld

Party two of a coin toss against any commitment scheme and any party one.

Party two withholds its share until the scheme has accepted a commitment and the proof of
knowledge for it, and it has a result only if the scheme then reveals a value.  `CourseTwo`
lists how far a toss can get, one case for each place where it can end; every run takes one
of these courses (`exists_courseTwo_of_runs`), and the promises are read off the cases
(`CourseTwo.guarded`).
-/

namespace TwoParty

open LawfulGroup Party Pedersen Commitment

namespace CoinToss

variable {G : DlogGroup} {σ : Type}

/-! ## How far a toss gets -/

/-- The log of a toss as party two, and the end of its run. -/
inductive CourseTwo (config : TossConfig) (kdf : Kdf) (scheme : Commitment.Verifying (Party G σ))
    (share : Bytes) : List (Entry scheme.Value) → Ending σ (Except Error TossOutput) → Prop where
  | refused {e} (he : Failed e) : CourseTwo config kdf scheme share [] e
  | uncommitted {es answer e} (he : Failed e) :
    CourseTwo config kdf scheme share [.commitment es answer] e
  | unproved {id es es' answer e} (h : ∀ b, answer ≠ some (.ok b)) (he : Failed e) :
    CourseTwo config kdf scheme share
      [.commitment es (some (.ok id)), .knowledge id es' answer] e
  | disproved {id es es' s r} :
    CourseTwo config kdf scheme share
      [.commitment es (some (.ok id)), .knowledge id es' (some (.ok false))]
      (some (.error (.cheatAttempt .rejectedKnowledge), s, r))
  | unsent {id es es' answer e} (he : Failed e) :
    CourseTwo config kdf scheme share
      [.commitment es (some (.ok id)), .knowledge id es' (some (.ok true)), .sent share answer] e
  | unrevealed {id es es' es'' answer e} (h : ∀ v, answer ≠ some (.ok v)) (he : Failed e) :
    CourseTwo config kdf scheme share
      [.commitment es (some (.ok id)), .knowledge id es' (some (.ok true)),
        .sent share (some (.ok ())), .value id es'' answer] e
  | disclaimed {id es es' es'' s r} :
    CourseTwo config kdf scheme share
      [.commitment es (some (.ok id)), .knowledge id es' (some (.ok true)),
        .sent share (some (.ok ())), .value id es'' (some (.ok none))]
      (some (.error (.cheatAttempt .rejectedValue), s, r))
  | revealed {id es es' es'' value s r} :
    CourseTwo config kdf scheme share
      [.commitment es (some (.ok id)), .knowledge id es' (some (.ok true)),
        .sent share (some (.ok ())), .value id es'' (some (.ok (some value)))]
      (some (output kdf config.bytes (scheme.valueBytes value) share, s, r))

variable {config : TossConfig} {kdf : Kdf} {scheme : Commitment.Verifying (Party G σ)}
  {store : σ} {random : ByteSource} {share : Bytes} {es : List Event}
  {log : List (Entry scheme.Value)} {e : Ending σ (Except Error TossOutput)}

/-- What party two does once its share is sent. -/
def afterShare {m : Type → Type} [Monad m] (config : TossConfig) (kdf : Kdf)
    (scheme : Commitment.Verifying m) (share : Bytes) (id : CommitmentId) :
    ExceptT Error m TossOutput := do
  match ← scheme.verifyValue id with
  | none => throw (.cheatAttempt .rejectedValue)
  | some value => output kdf config.bytes (scheme.valueBytes value) share

/-- The courses of a run once the share is sent. -/
theorem exists_courseTwo_afterShare {id : CommitmentId} {s : σ} {r : ByteSource}
    (before before' : List Event) (h : (afterShare config kdf scheme share id).run.Runs s r es e) :
    ∃ log, Happened scheme s r log ∧ log.flatMap Entry.events = es ∧
      CourseTwo config kdf scheme share (.commitment before (some (.ok id)) ::
        .knowledge id before' (some (.ok true)) :: .sent share (some (.ok ())) :: log) e := by
  rcases h.of_bind with ⟨e', hvalue, hfailed, he⟩ | ⟨es₁, es₂, value, s₁, r₁, rfl, hvalue, hend⟩
  · exact ⟨[.value id es _], .single (.of_runs hvalue), List.append_nil es,
      .unrevealed hfailed.answer_ne he⟩
  cases value with
  | none =>
    obtain ⟨rfl, rfl⟩ := runs_throw.1 hend
    exact ⟨[.value id es₁ (some (.ok none))], .single (.of_runs hvalue), rfl, .disclaimed⟩
  | some value =>
    obtain ⟨rfl, rfl⟩ := runs_except.1 hend
    exact ⟨[.value id es₁ (some (.ok (some value)))], .single (.of_runs hvalue), rfl, .revealed⟩

/-- The courses of a run once a commitment is accepted. -/
theorem exists_courseTwo_afterAccept {id : CommitmentId} {s : σ} {r : ByteSource}
    (before : List Event) (h : (afterAccept config kdf scheme share id).run.Runs s r es e) :
    ∃ log, Happened scheme s r log ∧ log.flatMap Entry.events = es ∧
      CourseTwo config kdf scheme share (.commitment before (some (.ok id)) :: log) e := by
  -- Each step either ends the run, which names the course, or goes on with what is left of it.
  rcases h.of_bind with ⟨e', hknow, hfailed, he⟩ | ⟨es₁, es₂, known, s₁, r₁, rfl, hknow, hrest⟩
  · exact ⟨[.knowledge id es _], .single (.of_runs hknow), List.append_nil es,
      .unproved hfailed.answer_ne he⟩
  cases known with
  | false =>
    obtain ⟨rfl, rfl⟩ := runs_done.1 hrest
    exact ⟨[.knowledge id es₁ _], .single (.of_runs hknow), rfl, .disproved⟩
  | true =>
    rcases Runs.of_bind hrest with
      ⟨e', hsend, -, he⟩ | ⟨es₃, es₄, _, s₂, r₂, rfl, hsend, hvalue⟩
    · obtain ⟨answer, rfl, rfl⟩ := runs_sendBytes.1 hsend
      exact ⟨[.knowledge id es₁ (some (.ok true)), .sent share answer],
        .cons (.of_runs hknow) (.single rfl), rfl, .unsent he⟩
    · obtain ⟨rfl, rfl, rfl⟩ := runs_sendBytes_ok.1 hsend
      have hshare : (afterShare config kdf scheme share id).run.Runs s₂ r₂ es₄ e := hvalue
      obtain ⟨log, hlog, rfl, hcourse⟩ := exists_courseTwo_afterShare before es₁ hshare
      exact ⟨.knowledge id es₁ (some (.ok true)) :: .sent share (some (.ok ())) :: log,
        .cons (.of_runs hknow) (.cons rfl hlog), rfl, hcourse⟩

/-- Every run takes one of the courses. -/
theorem exists_courseTwo_of_runs (h : (tossTwo config kdf scheme).run.Runs store random es e) :
    ∃ log, Happened scheme store (random.advance config.bytes) log ∧
      log.flatMap Entry.events = es ∧
      CourseTwo config kdf scheme (random.peek config.bytes) log e := by
  rw [tossTwo_eq] at h
  cases hcheck : kdf.check config.bytes with
  | error err =>
    rw [hcheck, runs_error_bind] at h
    obtain ⟨rfl, rfl⟩ := h
    exact ⟨[], .nil, rfl, .refused (failed_error err store random)⟩
  | ok _ =>
    rw [hcheck, runs_ok_bind, runs_drawBytes_bind] at h
    rcases h.of_bind with ⟨e', hcommit, -, he⟩ | ⟨es₁, es₂, id, s, r, rfl, hcommit, hrest⟩
    · exact ⟨[.commitment es _], .single (.of_runs hcommit), List.append_nil es,
        .uncommitted he⟩
    · obtain ⟨log, hlog, rfl, hcourse⟩ := exists_courseTwo_afterAccept es₁ hrest
      exact ⟨.commitment es₁ (some (.ok id)) :: log, .cons (.of_runs hcommit) hlog, rfl, hcourse⟩

/-! ## What the courses have in common -/

/-- What party two is held to, given the share, the log of a run and the end of the run. -/
structure Guarded (config : TossConfig) (kdf : Kdf) (scheme : Commitment.Verifying (Party G σ))
    (share : Bytes) (log : List (Entry scheme.Value)) (e : Ending σ (Except Error TossOutput)) :
    Prop where
  /-- It sends at most one message, which is the share. -/
  once : log.filterMap Entry.own? = [] ∨ log.filterMap Entry.own? = [share]
  /-- It sends only after a commitment and the proof of knowledge for it were accepted. -/
  withheld {before m answer rest} (h : log = before ++ .sent m answer :: rest) :
    ∃ id es es', before =
      [.commitment es (some (.ok id)), .knowledge id es' (some (.ok true))]
  /-- It has a result only if after the share the committed value was revealed, and then
  the result is the pad of the value combined with the share. -/
  opened {o s r} (h : e = some (.ok o, s, r)) :
    ∃ id es₁ es₂ es₃ value pad,
      log = [.commitment es₁ (some (.ok id)), .knowledge id es₂ (some (.ok true)),
        .sent share (some (.ok ())), .value id es₃ (some (.ok (some value)))] ∧
      kdf.derive (scheme.valueBytes value) config.bytes = .ok pad ∧
      pad.length = share.length ∧ o.bytes = Bytes.xorPad pad share
  rejectedKnowledge {id es} (h : .knowledge id es (some (.ok false)) ∈ log) :
    ∃ s r, e = some (.error (.cheatAttempt .rejectedKnowledge), s, r)
  rejectedValue {id es} (h : .value id es (some (.ok none)) ∈ log) :
    ∃ s r, e = some (.error (.cheatAttempt .rejectedValue), s, r)

/-- The share is sent at most once, and nothing else is. -/
theorem CourseTwo.once (h : CourseTwo config kdf scheme share log e) :
    log.filterMap Entry.own? = [] ∨ log.filterMap Entry.own? = [share] := by
  cases h with
  | refused _ | uncommitted _ | unproved _ _ | disproved => exact .inl rfl
  | unsent _ | unrevealed _ _ | disclaimed | revealed => exact .inr rfl

/-- What comes before the share is an accepted commitment and a knowledge proof that held. -/
theorem CourseTwo.withheld {before rest : List (Entry scheme.Value)} {m : Bytes}
    {answer : Option (Except Error Unit)} (h : CourseTwo config kdf scheme share log e)
    (heq : log = before ++ .sent m answer :: rest) :
    ∃ id es es', before =
      [.commitment es (some (.ok id)), .knowledge id es' (some (.ok true))] := by
  cases h with
  | refused _ | uncommitted _ | unproved _ _ | disproved =>
    simp [List.cons_eq_append_iff] at heq
  | unsent _ | unrevealed _ _ | disclaimed | revealed =>
    simp [List.cons_eq_append_iff] at heq
    exact ⟨_, _, _, heq.1⟩

/-- A result comes after the share was sent and the commitment opened, and it is the share masked
by the pad of the opened value. -/
theorem CourseTwo.opened {o : TossOutput} {s : σ} {r : ByteSource}
    (h : CourseTwo config kdf scheme share log (some (.ok o, s, r))) :
    ∃ id es₁ es₂ es₃ value pad,
      log = [.commitment es₁ (some (.ok id)), .knowledge id es₂ (some (.ok true)),
        .sent share (some (.ok ())), .value id es₃ (some (.ok (some value)))] ∧
      kdf.derive (scheme.valueBytes value) config.bytes = .ok pad ∧
      pad.length = share.length ∧ o.bytes = Bytes.xorPad pad share := by
  generalize he : (some (.ok o, s, r) : Ending σ (Except Error TossOutput)) = e at h
  cases h with
  | revealed =>
    obtain ⟨houtput, -⟩ := Prod.mk.inj (Option.some.inj he)
    obtain ⟨pad, hpad, hlength, hbytes⟩ := exists_pad_of_output houtput.symm
    exact ⟨_, _, _, _, _, pad, rfl, hpad, hlength, hbytes⟩
  | disproved | disclaimed => cases he
  | refused hfailed | uncommitted hfailed | unproved _ hfailed | unsent hfailed
  | unrevealed _ hfailed => exact absurd he.symm (hfailed _ _ _)

/-- A rejected knowledge proof ends the toss as cheating. -/
theorem CourseTwo.rejectedKnowledge {id : CommitmentId}
    (h : CourseTwo config kdf scheme share log e)
    (hmem : .knowledge id es (some (.ok false)) ∈ log) :
    ∃ s r, e = some (.error (.cheatAttempt .rejectedKnowledge), s, r) := by
  cases h with
  | disproved => exact ⟨_, _, rfl⟩
  | unproved hanswer _ =>
    simp at hmem
    exact absurd hmem.2.2.symm (hanswer _)
  | refused _ | uncommitted _ | unsent _ | unrevealed _ _ | disclaimed | revealed =>
    simp at hmem

/-- A rejected opening ends the toss as cheating. -/
theorem CourseTwo.rejectedValue {id : CommitmentId} (h : CourseTwo config kdf scheme share log e)
    (hmem : .value id es (some (.ok none)) ∈ log) :
    ∃ s r, e = some (.error (.cheatAttempt .rejectedValue), s, r) := by
  cases h with
  | disclaimed => exact ⟨_, _, rfl⟩
  | unrevealed hanswer _ =>
    simp at hmem
    exact absurd hmem.2.2.symm (hanswer _)
  | refused _ | uncommitted _ | unproved _ _ | disproved | unsent _ | revealed =>
    simp at hmem

/-- Every course of party two is guarded. -/
theorem CourseTwo.guarded (h : CourseTwo config kdf scheme share log e) :
    Guarded config kdf scheme share log e where
  once := h.once
  withheld := h.withheld
  opened := by
    rintro o s r rfl
    exact h.opened
  rejectedKnowledge := h.rejectedKnowledge
  rejectedValue := h.rejectedValue

/-! ## The promises -/

/-- The verifying side of the Pedersen scheme puts out no message after its set-up. -/
theorem listens_side (G : DlogGroup) (draw : Challenger) : Listens (Verifier.side G draw) where
  commitment := by
    refine .bind (silent_receiveMessage _) fun m => ?_
    refine .bind silent_get fun v => ?_
    refine .bind (silent_except (v.accept m)) fun v' => ?_
    exact .bind (silent_set v') fun _ => silent_pure m.id
  knowledge := by
    intro id
    refine .bind silent_get fun v => ?_
    refine .bind (silent_except (v.commitment id)) fun c => ?_
    refine .bind (silent_receiveMessage _) fun m => ?_
    exact .bind (silent_except (Verifier.checkId id m.id)) fun _ => silent_pure _
  value := by
    intro id
    refine .bind silent_get fun v => ?_
    refine .bind (silent_except (v.commitment id)) fun c => ?_
    refine .bind (silent_set (v.forget id)) fun _ => ?_
    refine .bind (silent_receiveMessage _) fun m => ?_
    exact .bind (silent_except (Verifier.checkId id m.id)) fun _ => silent_pure _

/-- Over the Pedersen verifier, which only listens, the one message party two ever sends is its
share. -/
theorem messages_of_tossTwo {draw : Challenger} {v : Verifier G}
    {e : Ending (Verifier G) (Except Error TossOutput)}
    (h : (tossTwo config kdf (Verifier.side G draw)).run.Runs v random es e) :
    messages es = [] ∨ messages es = [random.peek config.bytes] := by
  obtain ⟨log, hlog, rfl, hcourse⟩ := exists_courseTwo_of_runs h
  rw [(listens_side G draw).messages_log hlog]
  exact hcourse.once

/-- Next to any party one and under any schedule, party two puts at most its share on the
line. -/
theorem said_two_of_reaches {τ α : Type} {one : Party G τ α} {own : τ} {draw : Challenger}
    {v : Verifier G} {random : Side → ByteSource}
    {d : Duet G (Duet.both τ (Verifier G)) (Duet.both α (Except Error TossOutput))}
    (h : (Duet.startWith one (tossTwo config kdf (Verifier.side G draw)).run own v random).Reaches
      d) :
    d.line.said .two = [] ∨ d.line.said .two = [(random .two).peek config.bytes] := by
  obtain ⟨es, es', e, hrun, hpassed⟩ := Duet.exists_runs_of_reaches h .two
  have hsub : (d.line.said .two).Sublist (messages (es ++ es')) := by
    rw [← hpassed, messages_append]
    exact (passed_sublist_messages es).trans (List.sublist_append_left _ _)
  rcases messages_of_tossTwo hrun with hnone | hone
  · rw [hnone] at hsub
    exact .inl (List.sublist_nil.1 hsub)
  · rw [hone] at hsub
    exact List.sublist_singleton.1 hsub

/-- The share of party two depends on nothing but its randomness and the length, and
whatever the commitment scheme and the peer do, party two keeps its promises about it.
With the Pedersen scheme the share is the only message of the toss, also on a line with any
other party and under any schedule. -/
theorem exists_share_guarded (config : TossConfig) (random : ByteSource) :
    ∃ share : Bytes, share.length = config.bytes ∧
      (∀ {G : DlogGroup} {σ : Type} (scheme : Commitment.Verifying (Party G σ)) (kdf : Kdf)
        {store : σ} {es : List Event} {e : Ending σ (Except Error TossOutput)},
        (tossTwo config kdf scheme).run.Runs store random es e →
        ∃ log, Happened scheme store (random.advance config.bytes) log ∧
          log.flatMap Entry.events = es ∧ Guarded config kdf scheme share log e) ∧
      (∀ {G : DlogGroup} (draw : Challenger) (kdf : Kdf) {v : Verifier G} {es : List Event}
        {e : Ending (Verifier G) (Except Error TossOutput)},
        (tossTwo config kdf (Verifier.side G draw)).run.Runs v random es e →
        messages es = [] ∨ messages es = [share]) ∧
      ∀ {G : DlogGroup} {τ α : Type} (one : Party G τ α) (draw : Challenger) (kdf : Kdf) {own : τ}
        {v : Verifier G} {sources : Side → ByteSource}
        {d : Duet G (Duet.both τ (Verifier G)) (Duet.both α (Except Error TossOutput))},
        sources .two = random →
        (Duet.startWith one (tossTwo config kdf (Verifier.side G draw)).run own v
          sources).Reaches d →
        d.line.said .two = [] ∨ d.line.said .two = [share] := by
  refine ⟨random.peek config.bytes, random.length_peek _, ?_, ?_, ?_⟩
  · intro G σ scheme kdf store es e h
    obtain ⟨log, hlog, hevents, hcourse⟩ := exists_courseTwo_of_runs h
    exact ⟨log, hlog, hevents, hcourse.guarded⟩
  · intro G draw kdf v es e h
    exact messages_of_tossTwo h
  · intro G τ α one draw kdf own v sources d hsource h
    rw [← hsource]
    exact said_two_of_reaches h

/-- A toss of 128 bits modulo 23 with an honest party one. -/
theorem exists_share_guarded_small :
    ∃ es o v r,
      (tossTwo .standard (Kdf.hkdf []) (Verifier.side SafePrime.small.group
        fun _ _ n => List.replicate n 0)).run.Runs (verifierAt 3) (SafePrime.threes 0) es
        (some (.ok o, v, r)) ∧
      ∃ (share : Bytes) (log : List (Entry SafePrime.small.group.Exponent)),
        share.length = 16 ∧ log.flatMap Entry.events = es ∧ log.filterMap Entry.own? = [share] := by
  let d : TossDraws SafePrime.small.group :=
    ⟨SafePrime.three, SafePrime.three, SafePrime.three, SafePrime.three, SafePrime.three⟩
  have hgood : d.Good 3 := by
    constructor
    · show (3 : ZMod 11) + 3 * 3 ≠ 0
      decide
    · show (3 : ZMod 11) + 3 * 3 ≠ 0
      decide
  obtain ⟨pad, -, -, houtput⟩ := @exists_output_eq .standard (Kdf.hkdf [])
    ((SafePrime.threes 0).peek 16) (SafePrime.small.group.encodeExponent d.value)
    (Kdf.isExact_hkdf []) rfl ((SafePrime.threes 0).length_peek 16)
  have hsays := @says_tossTwo SafePrime.small.group _ d 3 (fun _ _ n => List.replicate n 0)
    .standard (Kdf.hkdf []) 0 (SafePrime.threes 0) _ rfl hgood rfl (by decide) houtput
  obtain ⟨share, hlength, hguarded, -⟩ := exists_share_guarded .standard (SafePrime.threes 0)
  obtain ⟨log, -, hevents, hlog⟩ := hguarded _ _ hsays.runs
  obtain ⟨id, es₁, es₂, es₃, value, pad, rfl, -⟩ := hlog.opened rfl
  exact ⟨_, _, _, _, hsays.runs, share, _, hlength, hevents, rfl⟩

end CoinToss

end TwoParty
