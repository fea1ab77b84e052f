import Mathlib.Data.Set.Function
import TwoParty.Proofs.CoinToss.Honest
import TwoParty.Proofs.Group.SafePrime
import TwoParty.Proofs.Pedersen.Announce

/-!
# TwoParty.Proofs.CoinToss.Committed

Party one of a coin toss over Pedersen commitments, against any party two.

What party one says before it waits for the share is determined by its state and its
randomness (`exists_announces`), and what it says afterwards is the opening of the value that
it committed to.  `CourseOne` lists how far a toss can get; every run takes one of these
courses (`exists_courseOne`).
-/

namespace TwoParty

open Party hiding bind_assoc
open Pedersen

namespace Bytes

/-- Of two strings of one length, each is a pad for the other. -/
theorem xorPad_comm {a b : Bytes} (h : a.length = b.length) : xorPad a b = xorPad b a := by
  induction a generalizing b with
  | nil => rw [List.length_eq_zero_iff.1 h.symm]
  | cons x a ih =>
    cases b with
    | nil => cases h
    | cons y b => rw [xorPad, xorPad, UInt8.xor_comm, ih (Nat.succ.inj h)]

/-- Combining with a pad is a bijection of the strings of its length. -/
theorem bijOn_xorPad {pad : Bytes} {n : Nat} (h : pad.length = n) :
    Set.BijOn (xorPad pad) {s | s.length = n} {s | s.length = n} := by
  have hmaps : Set.MapsTo (xorPad pad) {s | s.length = n} {s | s.length = n} := by
    intro s _
    exact (length_xorPad pad s).trans h
  have hinv : Set.LeftInvOn (xorPad pad) (xorPad pad) {s | s.length = n} := by
    intro s hs
    rw [xorPad_comm (h.trans (hmaps hs).symm), xorPad_comm (h.trans hs.symm), xorPad_xorPad]
  exact Set.InvOn.bijOn ⟨hinv, hinv⟩ hmaps hmaps

end Bytes

namespace CoinToss

variable {G : DlogGroup}

/-! ## Before and after the share -/

/-- What party one does before it waits for the share: the value and the number of its
commitment. -/
def announce (config : TossConfig) (kdf : Kdf) (draw : Challenger) :
    ExceptT Error (Party G (Committer G)) (G.Exponent × CommitmentId) := do
  kdf.check config.bytes
  let value ← (Party.drawExponent : Party G (Committer G) _)
  let id ← Committer.commit value
  Committer.proveKnowledge draw id
  return (value, id)

/-- What party one does from then on. -/
def conclude (config : TossConfig) (kdf : Kdf) (draw : Challenger) (value : G.Exponent)
    (id : CommitmentId) : ExceptT Error (Party G (Committer G)) TossOutput := do
  let share ← Channel.receiveBytes "receiving party two's share"
  checkShare config.bytes share
  Committer.proveValue draw id
  output kdf config.bytes (G.encodeExponent value) share

/-- A toss of party one is its announcements followed by the conclusion. -/
theorem tossOne_eq_announce (config : TossConfig) (kdf : Kdf) (draw : Challenger) :
    tossOne config kdf (Committer.side G draw) =
      announce config kdf draw >>= fun v => conclude config kdf draw v.1 v.2 := by
  simp only [announce, bind_assoc, pure_bind]
  rfl

def openingOf (c : Committer G) (d : TossDraws G) : Opening G :=
  c.openingWith d.value d.randomness

def revealing (draw : Challenger) (c : Committer G) (d : TossDraws G) : Bytes :=
  LawfulMessage.text (decommitMessage draw c.h c.nextId (openingOf c d) d.nonce)

/-- The message is the commitment to a drawn value, or the proof of knowledge for it. -/
def IsAnnouncement (draw : Challenger) (c : Committer G) (random : ByteSource) (m : Bytes) : Prop :=
  ∃ x r rest, G.Drawn random [x, r] rest ∧
    (m = LawfulMessage.text (commitMessage c.nextId (c.openingWith x r)) ∨
      ∃ k₁ k₂, m = LawfulMessage.text
        (knowledgeMessage draw c.h c.nextId (c.openingWith x r) k₁ k₂))

variable {config : TossConfig} {kdf : Kdf} {draw : Challenger} {c : Committer G}
  {random : ByteSource}

/-- The commitment to a drawn value and the proof of knowledge for it, and how party one goes
on. -/
theorem exists_announces_commit (draw : Challenger) (c : Committer G) {x : G.Exponent}
    {random₁ : ByteSource} (hx : G.sample random = some (x, random₁)) :
    ∃ ms out,
      Announces (Committer.commit x >>= fun id => Committer.proveKnowledge draw id >>= fun _ =>
        pure (x, id)) c random₁ ms out ∧
      (∀ m ∈ ms, IsAnnouncement draw c random m) ∧
      (Failed out ∨ ∃ r k₁ k₂ rest, G.Drawn random [x, r, k₁, k₂] rest ∧
        out = some (.ok (x, c.nextId), c.countId.keep c.nextId (c.openingWith x r), rest)) := by
  -- Each draw may starve the party, which then says no more; the next step takes up the others.
  rcases Committer.announces_commit c x random₁ with hcommit | ⟨r, random₂, hr, hcommit⟩
  · exact ⟨[], none, .bind_none hcommit, by simp, .inl failed_none⟩
  have hopen : (c.countId.keep c.nextId (c.openingWith x r)).opening c.nextId =
      .ok (c.openingWith x r) := Committer.opening_keep _ _
  have hdrawn : G.Drawn random [x, r] random₂ := ⟨random₁, hx, random₂, hr, rfl⟩
  have hfirst : IsAnnouncement draw c random
      (LawfulMessage.text (commitMessage c.nextId (c.openingWith x r))) :=
    ⟨x, r, random₂, hdrawn, .inl rfl⟩
  rcases Committer.announces_proveKnowledge draw hopen random₂ with
    hknow | ⟨k₁, k₂, rest, hk, hknow⟩
  · exact ⟨_, none, .bind hcommit (.bind_none hknow), by simpa using hfirst, .inl failed_none⟩
  · have hsecond : IsAnnouncement draw c random (LawfulMessage.text
        (knowledgeMessage draw c.h c.nextId (c.openingWith x r) k₁ k₂)) :=
      ⟨x, r, random₂, hdrawn, .inr ⟨k₁, k₂, rfl⟩⟩
    exact ⟨_, _, .bind hcommit (.bind hknow (.quiet (says_pure _))),
      by simpa using ⟨hfirst, hsecond⟩,
      .inr ⟨r, k₁, k₂, rest, ⟨random₁, hx, random₂, hr, hk⟩, rfl⟩⟩

/-- What party one says before the share, and how it goes on. -/
theorem exists_announces (config : TossConfig) (kdf : Kdf) (draw : Challenger) (c : Committer G)
    (random : ByteSource) :
    ∃ ms out, Announces (announce config kdf draw) c random ms out ∧
      (∀ m ∈ ms, IsAnnouncement draw c random m) ∧
      (Failed out ∨ ∃ x r k₁ k₂ rest, kdf.check config.bytes = .ok () ∧
        G.Drawn random [x, r, k₁, k₂] rest ∧
        out = some (.ok (x, c.nextId), c.countId.keep c.nextId (c.openingWith x r), rest)) := by
  cases hcheck : kdf.check config.bytes with
  | error err =>
    refine ⟨[], some (.error err, c, random), ?_, by simp, .inl (failed_error err c random)⟩
    intro es e hrun
    rw [announce, hcheck, runs_error_bind] at hrun
    exact .inl hrun
  | ok _ =>
    cases hx : G.sample random with
    | none =>
      refine ⟨[], none, ?_, by simp, .inl failed_none⟩
      refine .bind_quiet (says_except hcheck) ?_
      exact .bind_none (announces_starved hx)
    | some drawn =>
      obtain ⟨x, random₁⟩ := drawn
      obtain ⟨ms, out, hrest, hms, hout⟩ := exists_announces_commit draw c hx
      refine ⟨ms, out, ?_, hms, ?_⟩
      · refine .bind_quiet (says_except hcheck) ?_
        exact .bind_quiet (says_drawExponent hx) hrest
      · rcases hout with hfailed | ⟨r, k₁, k₂, rest, hdrawn, rfl⟩
        · exact .inl hfailed
        · exact .inr ⟨x, r, k₁, k₂, rest, rfl, hdrawn, rfl⟩

/-! ## How far a toss gets -/

/-- The events of party one from the share on, and the end of its run. -/
inductive Conclusion (config : TossConfig) (kdf : Kdf) (draw : Challenger) (c : Committer G)
    (random : ByteSource) :
    List Event → Ending (Committer G) (Except Error TossOutput) → Prop where
  | unanswered : Conclusion config kdf draw c random [.received none] none
  | closed {err f s r} (hkind : f.kind = err.kind) :
    Conclusion config kdf draw c random [.received (some (.error err))] (some (.error f, s, r))
  | misshapen {share s r} (hlength : share.length ≠ config.bytes) :
    Conclusion config kdf draw c random [.received (some (.ok share))]
      (some (.error (.protocolFormat (.shareLength config.bytes share.length)), s, r))
  | starved {share} (hlength : share.length = config.bytes) :
    Conclusion config kdf draw c random [.received (some (.ok share))] none
  | undelivered {share d rest answer e} (hlength : share.length = config.bytes)
    (hd : G.Drawn random d.drawn rest) (he : Failed e) :
    Conclusion config kdf draw c random
      [.received (some (.ok share)), .sent (revealing draw c d) answer] e
  | revealed {share d rest s r} (hlength : share.length = config.bytes)
    (hcheck : kdf.check config.bytes = .ok ()) (hd : G.Drawn random d.drawn rest) :
    Conclusion config kdf draw c random
      [.received (some (.ok share)), .sent (revealing draw c d) (some (.ok ()))]
      (some (output kdf config.bytes (G.encodeExponent d.value) share, s, r))

variable {es : List Event} {e : Ending (Committer G) (Except Error TossOutput)}

/-- Every run of the concluding half ends as a conclusion describes. -/
theorem conclusion_of_runs {x r k₁ k₂ : G.Exponent} {rest : ByteSource}
    (hcheck : kdf.check config.bytes = .ok ()) (hdrawn : G.Drawn random [x, r, k₁, k₂] rest)
    (h : (conclude config kdf draw x c.nextId).run.Runs
      (c.countId.keep c.nextId (c.openingWith x r)) rest es e) :
    Conclusion config kdf draw c random es e := by
  rcases runs_receiveBytes_bind.1 h with ⟨rfl, rfl⟩ | ⟨err, rfl, rfl⟩ | ⟨share, es, rfl, hrest⟩
  · exact .unanswered
  · exact .closed (Error.kind_during err _)
  by_cases hlength : share.length ≠ config.bytes
  · rw [checkShare, if_pos hlength, runs_error_bind] at hrest
    obtain ⟨rfl, rfl⟩ := hrest
    exact .misshapen hlength
  rw [checkShare, if_neg hlength, runs_ok_bind] at hrest
  have hlength := not_not.1 hlength
  have hopen : (c.countId.keep c.nextId (c.openingWith x r)).opening c.nextId =
      .ok (c.openingWith x r) := Committer.opening_keep _ _
  -- The opening is the only message left, so a run is cut off at it or passes it.
  rcases Committer.announces_proveValue draw hopen rest with hvalue | ⟨k, rest', hk, hvalue⟩
  · rcases hvalue.bind_none _ _ hrest with ⟨rfl, rfl⟩ | hstop
    · exact .starved hlength
    · exact absurd hstop not_interrupted_nil
  · let d : TossDraws G := ⟨x, r, k₁, k₂, k⟩
    have hd : G.Drawn random d.drawn rest' :=
      (@DlogGroup.drawn_append G random rest' [x, r, k₁, k₂] [k]).2
        ⟨rest, hdrawn, rest', hk, rfl⟩
    rcases hvalue.bind (.quiet (says_except rfl)) _ _ hrest with ⟨rfl, rfl⟩ | hstop
    · exact .revealed hlength hcheck hd
    · obtain ⟨answer, rfl⟩ := hstop.eq_singleton
      exact .undelivered hlength hd hstop.failed

/-- The events of a toss as party one with these announcements, and the end of its run. -/
inductive CourseOne (config : TossConfig) (kdf : Kdf) (draw : Challenger) (c : Committer G)
    (random : ByteSource) (announced : List Bytes) :
    List Event → Ending (Committer G) (Except Error TossOutput) → Prop where
  | interrupted {events out} (h : Interrupted announced events out) :
    CourseOne config kdf draw c random announced events out
  | halted {out} (hout : Failed out) :
    CourseOne config kdf draw c random announced (delivered announced) out
  | concluded {events out} (h : Conclusion config kdf draw c random events out) :
    CourseOne config kdf draw c random announced (delivered announced ++ events) out

/-- Every run takes one of the courses, with announcements that do not depend on it. -/
theorem exists_courseOne (config : TossConfig) (kdf : Kdf) (draw : Challenger) (c : Committer G)
    (random : ByteSource) :
    ∃ announced, (∀ m ∈ announced, IsAnnouncement draw c random m) ∧
      ∀ {es e}, (tossOne config kdf (Committer.side G draw)).run.Runs c random es e →
        CourseOne config kdf draw c random announced es e := by
  obtain ⟨ms, out, hannounce, hms, hout⟩ := exists_announces config kdf draw c random
  refine ⟨ms, hms, ?_⟩
  intro es e h
  rw [tossOne_eq_announce] at h
  rcases hannounce.of_bind h with hstop | ⟨rfl, -, rfl⟩ | ⟨err, s, r, rfl, -, rfl⟩ |
    ⟨es', a, s, r, rfl, rfl, hrest⟩
  · exact .interrupted hstop
  · exact .halted failed_none
  · exact .halted (failed_error err s r)
  · rcases hout with hfailed | ⟨x, r, k₁, k₂, rest, hcheck, hdrawn, hout⟩
    · exact absurd rfl (hfailed _ _ _)
    · cases hout
      exact .concluded (conclusion_of_runs hcheck hdrawn hrest)

/-! ## What the courses have in common -/

/-- What party one is held to, given what it announces, the events of a run and its end. -/
structure Committed (config : TossConfig) (draw : Challenger) (c : Committer G)
    (random : ByteSource) (announced : List Bytes) (es : List Event)
    (e : Ending (Committer G) (Except Error TossOutput)) : Prop where
  /-- Before the share it says nothing but the announcements, in their order. -/
  inOrder : messages (before es) <+: announced
  /-- It says all of them if its sends succeed. -/
  complete (h : ∀ m answer, .sent m answer ∈ before es → answer = some (.ok ())) :
    messages (before es) = announced
  /-- It waits only for the share, and only once all announcements got through. -/
  waits (h : after es ≠ []) : before es = delivered announced
  /-- It says something else only if the share has the right length, and then it reveals
  the value that it committed to. -/
  withheld (h : messages (after es) ≠ []) :
    ∃ share answer d rest, share.length = config.bytes ∧ G.Drawn random d.drawn rest ∧
      after es = [.received (some (.ok share)), .sent (revealing draw c d) answer]
  misshapen {share es'} (h : after es = .received (some (.ok share)) :: es')
    (hlength : share.length ≠ config.bytes) :
    es' = [] ∧ ∃ s r,
      e = some (.error (.protocolFormat (.shareLength config.bytes share.length)), s, r)
  closed {err es'} (h : after es = .received (some (.error err)) :: es') :
    es' = [] ∧ ∃ f s r, e = some (.error f, s, r) ∧ f.kind = err.kind
  unanswered {es'} (h : after es = .received none :: es') : es' = [] ∧ e = none

/-- A party that never waits. -/
theorem Committed.of_after_eq_nil {announced : List Bytes}
    (inOrder : messages (before es) <+: announced)
    (complete : (∀ m answer, .sent m answer ∈ before es → answer = some (.ok ())) →
      messages (before es) = announced)
    (hafter : after es = []) : Committed config draw c random announced es e where
  inOrder := inOrder
  complete := complete
  waits h := absurd hafter h
  withheld h := by simp [hafter, messages] at h
  misshapen h := by simp [hafter] at h
  closed h := by simp [hafter] at h
  unanswered h := by simp [hafter] at h

/-- A toss that is interrupted while it announces gives a committed course. -/
theorem Interrupted.committed {announced : List Bytes} (h : Interrupted announced es e) :
    Committed config draw c random announced es e := by
  refine .of_after_eq_nil ?_ ?_ h.after_eq
  · rw [h.before_eq]
    exact h.isPrefix_messages
  · intro hsent
    rw [h.before_eq] at hsent
    obtain ⟨m, answer, hmem, hne⟩ := h.exists_sent
    exact absurd (hsent m answer hmem) hne

/-- A party that waits starts its conclusion with it. -/
theorem Conclusion.before_eq (h : Conclusion config kdf draw c random es e) : before es = [] := by
  cases h <;> rfl

/-- A conclusion starts by waiting, so all its events come after the announcements. -/
theorem Conclusion.after_eq (h : Conclusion config kdf draw c random es e) : after es = es := by
  cases h <;> rfl

/-- A conclusion that follows delivered announcements gives a committed course. -/
theorem Conclusion.committed {announced : List Bytes}
    (h : Conclusion config kdf draw c random es e) :
    Committed config draw c random announced (delivered announced ++ es) e := by
  have hbefore : before (delivered announced ++ es) = delivered announced := by
    rw [before_delivered_append, h.before_eq, List.append_nil]
  have hafter : after (delivered announced ++ es) = es := by
    rw [after_delivered_append, h.after_eq]
  constructor
  · rw [hbefore, messages_delivered]
  · rw [hbefore, messages_delivered]
    exact fun _ => rfl
  · exact fun _ => hbefore
  -- What follows the share is read off the five ways in which a conclusion can go.
  all_goals rw [hafter]
  · intro hsaid
    cases h with
    | unanswered | closed | misshapen | starved => exact absurd rfl hsaid
    | undelivered hlength hd => exact ⟨_, _, _, _, hlength, hd, rfl⟩
    | revealed hlength _ hd => exact ⟨_, _, _, _, hlength, hd, rfl⟩
  · intro share es' heq hlength
    cases h with
    | misshapen => cases heq; exact ⟨rfl, _, _, rfl⟩
    | unanswered | closed => cases heq
    | starved h | undelivered h | revealed h => cases heq; exact absurd h hlength
  · intro err es' heq
    cases h with
    | closed hkind => cases heq; exact ⟨rfl, _, _, _, rfl, hkind⟩
    | unanswered | misshapen | starved | undelivered | revealed => cases heq
  · intro es' heq
    cases h with
    | unanswered => cases heq; exact ⟨rfl, rfl⟩
    | closed | misshapen | starved | undelivered | revealed => cases heq

/-- Every course of party one is committed, wherever it stops. -/
theorem CourseOne.committed {announced : List Bytes}
    (h : CourseOne config kdf draw c random announced es e) :
    Committed config draw c random announced es e := by
  cases h with
  | interrupted h => exact Interrupted.committed h
  | concluded h => exact h.committed
  | halted hout =>
    have hbefore : before (delivered announced) = delivered announced := by
      simpa [before] using before_delivered_append announced []
    have hafter : after (delivered announced) = [] := by
      simpa [after] using after_delivered_append announced []
    refine .of_after_eq_nil ?_ ?_ hafter
    · rw [hbefore, messages_delivered]
    · rw [hbefore, messages_delivered]
      exact fun _ => rfl

/-! ## Results -/

/-- A result is the pad of the committed value, combined with the share that was heard. -/
theorem CourseOne.of_ok {announced : List Bytes} {o : TossOutput} {s : Committer G}
    {r : ByteSource} (h : CourseOne config kdf draw c random announced es (some (.ok o, s, r))) :
    ∃ share, ∃ d : TossDraws G, ∃ rest pad, heard es = [share] ∧ share.length = config.bytes ∧
      kdf.check config.bytes = .ok () ∧ G.Drawn random d.drawn rest ∧
      kdf.derive (G.encodeExponent d.value) config.bytes = .ok pad ∧
      pad.length = config.bytes ∧ o.bytes = Bytes.xorPad pad share := by
  generalize he : (some (.ok o, s, r) : Ending (Committer G) (Except Error TossOutput)) = e at h
  cases h with
  | interrupted h => exact absurd he.symm (h.failed _ _ _)
  | halted hout => exact absurd he.symm (hout _ _ _)
  | concluded h =>
    cases h with
    | unanswered | closed | misshapen | starved => cases he
    | undelivered _ _ hfailed => exact absurd he.symm (hfailed _ _ _)
    | @revealed share d rest _ _ hlength hcheck hd =>
      obtain ⟨houtput, -⟩ := Prod.mk.inj (Option.some.inj he)
      obtain ⟨pad, hpad, hequal, hbytes⟩ := exists_pad_of_output houtput.symm
      refine ⟨share, d, rest, pad, ?_, hlength, hcheck, hd, hpad, hequal.trans hlength, hbytes⟩
      rw [heard_append, heard_delivered]
      rfl

/-- Party one over any group, from any state of the committer, with any randomness.

What it announces before the share is the same in all runs, and it reveals its value only
after it heard a share of the right length.  If some run has a result, then all results are
the share that was heard, combined with one pad, which is derived from the committed value;
every share of the right length has its result, and the results correspond to the shares. -/
theorem exists_announced_committed (config : TossConfig) (kdf : Kdf) (draw : Challenger)
    (c : Committer G) (random : ByteSource) :
    (∃ announced : List Bytes, (∀ m ∈ announced, IsAnnouncement draw c random m) ∧
      ∀ {es e}, (tossOne config kdf (Committer.side G draw)).run.Runs c random es e →
        Committed config draw c random announced es e) ∧
    ∀ {es o s r},
      (tossOne config kdf (Committer.side G draw)).run.Runs c random es (some (.ok o, s, r)) →
      ∃ x rest pad, G.sample random = some (x, rest) ∧
        kdf.derive (G.encodeExponent x) config.bytes = .ok pad ∧ pad.length = config.bytes ∧
        (∀ {es' o' s' r'},
          (tossOne config kdf (Committer.side G draw)).run.Runs c random es'
            (some (.ok o', s', r')) →
          ∃ share, heard es' = [share] ∧ share.length = config.bytes ∧
            o'.bytes = Bytes.xorPad pad share ∧ Bytes.xorPad o'.bytes share = pad) ∧
        (∀ share : Bytes, share.length = config.bytes → ∃ es' o' s' r',
          (tossOne config kdf (Committer.side G draw)).run.Runs c random es'
            (some (.ok o', s', r')) ∧ heard es' = [share]) ∧
        Set.BijOn (Bytes.xorPad pad) {s | s.length = config.bytes}
          {s | s.length = config.bytes} := by
  obtain ⟨announced, hannounced, hcourse⟩ := exists_courseOne config kdf draw c random
  refine ⟨⟨announced, hannounced, fun h => (hcourse h).committed⟩, ?_⟩
  intro es o s r h
  -- The run with a result fixes the draws, and with them the pad of all runs.
  obtain ⟨-, d, rest, pad, -, -, hcheck, hd, hpad, hlength, -⟩ := (hcourse h).of_ok
  obtain ⟨random₁, hx, hlater⟩ := hd
  refine ⟨d.value, random₁, pad, hx, hpad, hlength, ?_, ?_, Bytes.bijOn_xorPad hlength⟩
  · intro es' o' s' r' h'
    obtain ⟨share, d', -, pad', hheard, hshare, -, ⟨random₁', hx', -⟩, hpad', -, ho⟩ :=
      (hcourse h').of_ok
    obtain ⟨hvalue, -⟩ := Prod.mk.inj (Option.some.inj (hx.symm.trans hx'))
    rw [← hvalue, hpad] at hpad'
    obtain rfl := Except.ok.inj hpad'
    exact ⟨share, hheard, hshare, ho, by rw [ho, Bytes.xorPad_xorPad]⟩
  · intro share hshare
    -- For the converse the toss is run against this share.
    have hresult := output_eq hpad (hlength.trans hshare.symm)
    have hsays := says_tossOne_of_drawn draw c hcheck hshare ⟨random₁, hx, hlater⟩ hresult
    exact ⟨_, _, _, _, hsays.runs, rfl⟩

/-- Two tosses of 128 bits modulo 23 with the same randomness and different shares. -/
theorem exists_announced_committed_small :
    ∃ (announced : List Bytes) (pad : Bytes), ∀ byte : UInt8, ∃ es o c r,
      (tossOne .standard (Kdf.hkdf []) (Committer.side SafePrime.small.group
        fun _ _ n => List.replicate n 0)).run.Runs (committerAt 3 0) (SafePrime.threes 0) es
        (some (.ok o, c, r)) ∧
      messages (before es) = announced ∧ heard es = [List.replicate 16 byte] ∧
      Bytes.xorPad o.bytes (List.replicate 16 byte) = pad := by
  let d : TossDraws SafePrime.small.group :=
    ⟨SafePrime.three, SafePrime.three, SafePrime.three, SafePrime.three, SafePrime.three⟩
  have hruns : ∀ byte, ∃ es o c r,
      (tossOne .standard (Kdf.hkdf []) (Committer.side SafePrime.small.group
        fun _ _ n => List.replicate n 0)).run.Runs (committerAt 3 0) (SafePrime.threes 0) es
        (some (.ok o, c, r)) ∧
      heard es = [List.replicate 16 byte] ∧ after es ≠ [] := by
    intro byte
    obtain ⟨pad, -, -, houtput⟩ := @exists_output_eq .standard (Kdf.hkdf [])
      (List.replicate 16 byte) (SafePrime.small.group.encodeExponent d.value)
      (Kdf.isExact_hkdf []) rfl List.length_replicate
    have hsays := says_tossOne_of_drawn (fun _ _ n => List.replicate n 0) (committerAt 3 0) rfl
      List.length_replicate (SafePrime.drawn_threes 5 0) houtput
    exact ⟨_, _, _, _, hsays.runs, rfl, List.cons_ne_nil _ _⟩
  obtain ⟨⟨announced, -, hcommitted⟩, hresults⟩ :=
    @exists_announced_committed SafePrime.small.group .standard (Kdf.hkdf [])
      (fun _ _ n => List.replicate n 0) (committerAt 3 0) (SafePrime.threes 0)
  obtain ⟨es₀, o₀, c₀, r₀, hrun₀, -⟩ := hruns 0
  obtain ⟨x, rest, pad, -, -, -, hpad, -⟩ := hresults hrun₀
  refine ⟨announced, pad, ?_⟩
  intro byte
  obtain ⟨es, o, c, r, hrun, hheard, hafter⟩ := hruns byte
  obtain ⟨share, hshare, -, -, ho⟩ := hpad hrun
  have hsame : share = List.replicate 16 byte :=
    List.singleton_inj.1 (hshare.symm.trans hheard)
  refine ⟨es, o, c, r, hrun, ?_, hheard, ?_⟩
  · rw [(hcommitted hrun).waits hafter, messages_delivered]
  · rw [← hsame, ho]

end CoinToss

end TwoParty
