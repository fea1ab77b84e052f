import TwoParty.Proofs.CoinToss.Honest
import TwoParty.Proofs.Pedersen.Blame

/-!
# TwoParty.Proofs.CoinToss.Blame

When a toss blames its caller.

A length that the derivation cannot produce is the only thing that a caller can do wrong, and
it is refused before anything happens.  Later on there are four more places where the caller
would be blamed: the two look-ups of a number, the derivation, and the combination of the
shares.  None of them is ever reached in that way, whatever the state of the scheme and
whatever the peer does (`blamesLengthOnly_toss`).
-/

namespace TwoParty

open Party Pedersen

namespace CoinToss

variable {G : DlogGroup} {σ : Type} {config : TossConfig} {kdf : Kdf} {draw : Challenger}
  {share : Bytes} {s : σ}

/-! ## After the check of the length -/

/-- A share of the agreed length is combined with a pad of the same length. -/
theorem allowed_output {Q : TossOutput → σ → Prop} (hkdf : kdf.IsExact)
    (hcheck : kdf.check config.bytes = .ok ()) (hshare : share.length = config.bytes)
    (value : Bytes) (hQ : ∀ o, Q o s) : Allowed Q (output kdf config.bytes value share) s := by
  obtain ⟨pad, -, -, houtput⟩ := exists_output_eq value hkdf hcheck hshare
  rw [houtput]
  exact hQ _

/-- Checking the length of a share fails by a protocol error only, and it does not touch the
state. -/
theorem allowed_checkShare {length : Nat} :
    Allowed (fun _ s' => share.length = length ∧ s' = s) (checkShare length share) s := by
  unfold checkShare
  split
  · exact Error.isExternal_protocolFormat _
  · next hlength => exact ⟨not_not.1 hlength, rfl⟩

/-- Party one, once its commitment is stored. -/
theorem blameless_afterCommit (hkdf : kdf.IsExact) (hcheck : kdf.check config.bytes = .ok ())
    {c : Committer G} {id : CommitmentId} {o : Opening G} (h : c.openings.find? id = some o)
    (value : G.Exponent) :
    Blameless (afterCommit config kdf (Committer.side G draw) value id) c fun _ _ => True := by
  refine (Committer.blameless_proveKnowledge h).bind fun _ c' hc => ?_
  subst hc
  refine (blameless_receiveBytes _).bind fun share c' hc => ?_
  subst hc
  refine (blameless_except allowed_checkShare).bind fun _ c' hc => ?_
  obtain ⟨hshare, rfl⟩ := hc
  refine (Committer.blameless_proveValue h).bind fun _ c' _ => ?_
  -- The opening is gone now, and nothing asks for it again.
  exact blameless_except (allowed_output hkdf hcheck hshare _ fun _ => trivial)

/-- Party two, once a commitment is stored. -/
theorem blameless_afterAccept (hkdf : kdf.IsExact) (hcheck : kdf.check config.bytes = .ok ())
    {v : Verifier G} {id : CommitmentId} {c : G.Element} (h : v.commitments.find? id = some c)
    (hshare : share.length = config.bytes) :
    Blameless (afterAccept config kdf (Verifier.side G draw) share id) v fun _ _ => True := by
  refine (Verifier.blameless_verifyKnowledge h).bind fun known v' hv => ?_
  subst hv
  cases known with
  | false => exact blameless_except (Error.isExternal_cheatAttempt _)
  | true =>
    refine (blameless_sendBytes _ _).bind fun _ v' hv => ?_
    subst hv
    refine (Verifier.blameless_verifyValue h).bind fun value v' _ => ?_
    cases value with
    | none => exact blameless_except (Error.isExternal_cheatAttempt _)
    | some value => exact blameless_except (allowed_output hkdf hcheck hshare _ fun _ => trivial)

/-- Past the KDF limit a toss of party one never answers with invalid input. -/
theorem blameless_tossOne (hkdf : kdf.IsExact) (hcheck : kdf.check config.bytes = .ok ())
    (c : Committer G) :
    Blameless (tossOne config kdf (Committer.side G draw)) c fun _ _ => True := by
  rw [tossOne_eq, hcheck]
  refine Blameless.ok_bind ?_
  refine blameless_drawExponent.bind fun value c' hc => ?_
  subst hc
  refine (Committer.blameless_commit value).bind fun id c' hc => ?_
  obtain ⟨o, ho⟩ := hc
  exact blameless_afterCommit hkdf hcheck ho value

/-- Past the KDF limit a toss of party two never answers with invalid input. -/
theorem blameless_tossTwo (hkdf : kdf.IsExact) (hcheck : kdf.check config.bytes = .ok ())
    (v : Verifier G) :
    Blameless (tossTwo config kdf (Verifier.side G draw)) v fun _ _ => True := by
  rw [tossTwo_eq, hcheck]
  refine Blameless.ok_bind ?_
  refine (blameless_drawBytes config.bytes).bind fun share v' hv => ?_
  obtain ⟨hshare, rfl⟩ := hv
  refine Verifier.blameless_receiveCommitment.bind fun id v' hv => ?_
  obtain ⟨c, hc⟩ := hv
  exact blameless_afterAccept hkdf hcheck hc hshare

/-! ## The check of the length -/

/-- A toss of `length` bytes blames its caller for the length and for nothing else. -/
structure BlamesLengthOnly (kdf : Kdf) (length : Nat)
    (toss : ExceptT Error (Party G σ) TossOutput) : Prop where
  /-- A length beyond the limit is refused at once: no message, no draw, the same store. -/
  runs_iff : ∀ {max}, kdf.maxOutput = some max → max < length → ∀ {s r es e},
    toss.run.Runs s r es e ↔
      es = [] ∧ e = some (.error (.invalidInput (.kdfLimit max length)), s, r)
  failsAs_invalidInput_iff : ∀ {s r es e}, toss.run.Runs s r es e →
    (∀ event ∈ es, event.OnMemory) →
    (FailsAs e .invalidInput ↔ ∃ max, kdf.maxOutput = some max ∧ max < length)
  kind_of_failsAs : (∀ max, kdf.maxOutput = some max → length ≤ max) → ∀ {s r es e},
    toss.run.Runs s r es e → (∀ event ∈ es, event.OnMemory) → ∀ {kind}, FailsAs e kind →
    kind = .io ∨ kind = .cheatAttempt ∨ kind = .protocolFormat

section
variable {length : Nat} {toss : ExceptT Error (Party G σ) TossOutput}
  {rest : Unit → ExceptT Error (Party G σ) TossOutput} {r : ByteSource} {es : List Event}
  {e : Ending σ (Except Error TossOutput)}

/-- A toss that begins with the KDF check has one run over the limit: the refusal, before any
event. -/
theorem runs_iff_of_limit (htoss : toss = (liftM (kdf.check length) >>= rest)) {max : Nat}
    (hmax : kdf.maxOutput = some max) (hlt : max < length) :
    toss.run.Runs s r es e ↔
      es = [] ∧ e = some (.error (.invalidInput (.kdfLimit max length)), s, r) := by
  have hcheck : kdf.check length = .error (.invalidInput (.kdfLimit max length)) := by
    simp [Kdf.check, hmax, hlt]
  rw [htoss, hcheck, runs_error_bind]

/-- A toss that checks its length first and is to blame for nothing later. -/
theorem blamesLengthOnly_of_blameless (htoss : toss = (liftM (kdf.check length) >>= rest))
    (hrest : kdf.check length = .ok () → ∀ s, Blameless toss s fun _ _ => True) :
    BlamesLengthOnly kdf length toss := by
  have hkind : (∀ max, kdf.maxOutput = some max → length ≤ max) → ∀ {s r es e},
      toss.run.Runs s r es e → (∀ event ∈ es, event.OnMemory) → ∀ {kind}, FailsAs e kind →
      kind = .io ∨ kind = .cheatAttempt ∨ kind = .protocolFormat := by
    intro hle s r es e hrun hmemory kind hfails
    obtain ⟨err, hend, rfl⟩ := hfails
    exact (hrest (Kdf.check_eq_ok_iff.2 hle) s).isExternal_of_runs hrun hmemory hend
  refine ⟨fun hmax hlt => runs_iff_of_limit htoss hmax hlt,
    fun hrun hmemory => ⟨fun hfails => ?_, fun hlimit => ?_⟩, hkind⟩
  · by_contra hlimit
    simp only [not_exists, not_and, not_lt] at hlimit
    obtain h | h | h := hkind hlimit hrun hmemory hfails <;> contradiction
  · obtain ⟨max, hmax, hlt⟩ := hlimit
    obtain ⟨-, rfl⟩ := (runs_iff_of_limit htoss hmax hlt).1 hrun
    exact failsAs_error.2 rfl

end

/-- Both parties of a toss, in any state of the commitment scheme, against any peer at the other
end of a memory channel (`Actor.exists_met_of_faces`). -/
theorem blamesLengthOnly_toss (G : DlogGroup) (config : TossConfig) (draw : Challenger)
    (hkdf : kdf.IsExact) :
    BlamesLengthOnly kdf config.bytes (tossOne config kdf (Committer.side G draw)) ∧
    BlamesLengthOnly kdf config.bytes (tossTwo config kdf (Verifier.side G draw)) :=
  ⟨blamesLengthOnly_of_blameless (tossOne_eq _ _ _) (blameless_tossOne hkdf),
    blamesLengthOnly_of_blameless (tossTwo_eq _ _ _) (blameless_tossTwo hkdf)⟩

/-- With HKDF, 8161 bytes are refused without a draw, and 16 bytes fail when nobody is at the
other end. -/
theorem blamesLengthOnly_toss_small :
    let draw : Challenger := fun _ _ n => List.replicate n 0
    let toss := fun config =>
      tossTwo config (Kdf.hkdf []) (Verifier.side SafePrime.small.group draw)
    let v := Verifier.ofTrapdoor SafePrime.small.group SafePrime.three
    (Kdf.hkdf []).IsExact ∧
    (∀ es e, (toss { bits := 65288 }).run.Runs v (SafePrime.threes 0) es e →
      es = [] ∧ FailsAs e .invalidInput) ∧
    ∃ es e, (toss .standard).run.Runs v (SafePrime.threes 0) es e ∧ FailsAs e .io ∧
      ¬ FailsAs e .invalidInput := by
  intro draw toss v
  have hexact := Kdf.isExact_hkdf []
  have hlong := (blamesLengthOnly_toss SafePrime.small.group { bits := 65288 } draw hexact).2
  have hshort := (blamesLengthOnly_toss SafePrime.small.group .standard draw hexact).2
  refine ⟨hexact, fun es e hrun => ?_, ?_⟩
  · obtain ⟨rfl, rfl⟩ := (hlong.runs_iff rfl (by decide)).1 hrun
    exact ⟨rfl, failsAs_error.2 rfl⟩
  · have hrun : (toss .standard).run.Runs v (SafePrime.threes 0)
        [.received (some (.error MemoryChannel.receiveError))]
        (some (.error (MemoryChannel.receiveError.during "receiving commitment"), v,
          (SafePrime.threes 0).advance 16)) := .bytes (.receive .done)
    have hmemory : ∀ event ∈ [Event.received (some (.error MemoryChannel.receiveError))],
        event.OnMemory := List.forall_mem_singleton.2 .ended
    refine ⟨_, _, hrun, failsAs_error.2 rfl, fun hfails => ?_⟩
    obtain ⟨max, hmax, hlt⟩ := (hshort.failsAs_invalidInput_iff hrun hmemory).1 hfails
    cases hmax
    exact absurd hlt (by decide)

end CoinToss

end TwoParty
