import TwoParty.Proofs.Group.Member
import TwoParty.Transfer.Sender

/-!
# TwoParty.Proofs.Transfer.Request

What the sender of a transfer makes of a request: the message is sound and its proof, if
one is asked for, is accepted, or there is one first objection.
-/

namespace TwoParty

namespace Transfer

/-! ## The checks -/

section
variable (G : DlogGroup) (draw : Challenger) (level : Level) (m : ReceiverMessage)

/-- At the malicious level the proof has to be there and to verify for `a`, bound to the
rest of the message. -/
def Proved (a : G.Element) (proof : Option DlogProof) : Prop :=
  level = .malicious →
    ∃ p, proof = some p ∧ Sigma.verifyKnowledge G draw m.proofContext G.generator a p = true

/-- The parts of the message denote these members, the last two of which differ. -/
structure Sound (s : SenderSession G) : Prop where
  a : G.Denotes m.a s.a
  b : G.Denotes m.b s.b
  z0 : G.Denotes m.z0 s.z0
  z1 : G.Denotes m.z1 s.z1
  keys : s.z0 ≠ s.z1

/-- The first check that fails, in the order in which the sender makes them. -/
inductive Objection (proof : Option DlogProof) : Cheating → Prop where
  | a {c} (h : G.Unfit "a" m.a c) : Objection proof c
  | missingProof {a} (ha : G.Denotes m.a a) (hlevel : level = .malicious)
    (hproof : proof = none) : Objection proof .missingKeyProof
  | rejectedProof {a p} (ha : G.Denotes m.a a) (hlevel : level = .malicious)
    (hproof : proof = some p)
    (hp : Sigma.verifyKnowledge G draw m.proofContext G.generator a p = false) :
    Objection proof .rejectedKeyProof
  | b {a c} (ha : G.Denotes m.a a) (hproved : Proved G draw level m a proof)
    (h : G.Unfit "b" m.b c) : Objection proof c
  | z0 {a b c} (ha : G.Denotes m.a a) (hproved : Proved G draw level m a proof)
    (hb : G.Denotes m.b b) (h : G.Unfit "z0" m.z0 c) : Objection proof c
  | z1 {a b z c} (ha : G.Denotes m.a a) (hproved : Proved G draw level m a proof)
    (hb : G.Denotes m.b b) (hz0 : G.Denotes m.z0 z) (h : G.Unfit "z1" m.z1 c) :
    Objection proof c
  | equalKeys {a b z} (ha : G.Denotes m.a a) (hproved : Proved G draw level m a proof)
    (hb : G.Denotes m.b b) (hz0 : G.Denotes m.z0 z) (hz1 : G.Denotes m.z1 z) :
    Objection proof .equalKeys

end

variable {G : DlogGroup} {draw : Challenger} {level : Level} {m : ReceiverMessage}
  {proof : Option DlogProof} {a : G.Element} {s : SenderSession G} {c : Cheating}

/-- A proof that is there and verifies passes the check of the level. -/
theorem Proved.checkKey_eq (h : Proved G draw level m a proof) :
    level.checkKey G draw m a proof = .ok () := by
  cases level with
  | privacy => rfl
  | malicious =>
    obtain ⟨p, rfl, hp⟩ := h rfl
    exact if_pos hp

/-- A sound message with its proof is accepted. -/
theorem Sound.ofMessage_eq (h : Sound G m s) (hproved : Proved G draw level m s.a proof) :
    SenderSession.ofMessage G draw level m proof = .ok s := by
  simp [SenderSession.ofMessage, h.a.member_eq, h.b.member_eq, h.z0.member_eq, h.z1.member_eq,
    hproved.checkKey_eq, h.keys, bind, Except.bind, pure, Except.pure]

/-- An objection is evidence against the receiver. -/
theorem Objection.ofMessage_eq (h : Objection G draw level m proof c) :
    SenderSession.ofMessage G draw level m proof = .error (.cheatAttempt c) := by
  cases h with
  | a h => simp [SenderSession.ofMessage, h.member_eq, bind, Except.bind]
  | missingProof ha hlevel hproof =>
    simp [SenderSession.ofMessage, ha.member_eq, hlevel, hproof, Level.checkKey, bind, Except.bind]
  | rejectedProof ha hlevel hproof hp =>
    simp [SenderSession.ofMessage, ha.member_eq, hlevel, hproof, Level.checkKey, hp, bind,
      Except.bind]
  | b ha hproved h =>
    simp [SenderSession.ofMessage, ha.member_eq, hproved.checkKey_eq, h.member_eq, bind,
      Except.bind]
  | z0 ha hproved hb h =>
    simp [SenderSession.ofMessage, ha.member_eq, hproved.checkKey_eq, hb.member_eq, h.member_eq,
      bind, Except.bind]
  | z1 ha hproved hb hz0 h =>
    simp [SenderSession.ofMessage, ha.member_eq, hproved.checkKey_eq, hb.member_eq,
      hz0.member_eq, h.member_eq, bind, Except.bind]
  | equalKeys ha hproved hb hz0 hz1 =>
    simp [SenderSession.ofMessage, ha.member_eq, hproved.checkKey_eq, hb.member_eq,
      hz0.member_eq, hz1.member_eq, bind, Except.bind, throw, throwThe, MonadExceptOf.throw]

/-- The proof is accepted, or there is an objection to it. -/
theorem proved_cases (draw : Challenger) (level : Level) (ha : G.Denotes m.a a)
    (proof : Option DlogProof) :
    Proved G draw level m a proof ∨ ∃ c, Objection G draw level m proof c := by
  cases level with
  | privacy => exact .inl fun h => by contradiction
  | malicious =>
    cases proof with
    | none => exact .inr ⟨_, .missingProof ha rfl rfl⟩
    | some p =>
      cases hp : Sigma.verifyKnowledge G draw m.proofContext G.generator a p with
      | false => exact .inr ⟨_, .rejectedProof ha rfl rfl hp⟩
      | true => exact .inl fun _ => ⟨p, rfl, hp⟩

/-- Every request is accepted or objected to. -/
theorem request_cases (draw : Challenger) (level : Level) (m : ReceiverMessage)
    (proof : Option DlogProof) :
    (∃ s, Sound G m s ∧ Proved G draw level m s.a proof) ∨
      ∃ c, Objection G draw level m proof c := by
  -- The checks in their order; the first that fails is the objection.
  obtain ⟨a, ha⟩ | ⟨c, hc⟩ := DlogGroup.member_cases (G := G) "a" m.a
  · obtain hproved | hobjection := proved_cases draw level ha proof
    · obtain ⟨b, hb⟩ | ⟨c, hc⟩ := DlogGroup.member_cases (G := G) "b" m.b
      · obtain ⟨z0, hz0⟩ | ⟨c, hc⟩ := DlogGroup.member_cases (G := G) "z0" m.z0
        · obtain ⟨z1, hz1⟩ | ⟨c, hc⟩ := DlogGroup.member_cases (G := G) "z1" m.z1
          · by_cases hkeys : z0 = z1
            · subst hkeys
              exact .inr ⟨_, .equalKeys ha hproved hb hz0 hz1⟩
            · exact .inl ⟨⟨a, b, z0, z1⟩, ⟨ha, hb, hz0, hz1, hkeys⟩, hproved⟩
          · exact .inr ⟨c, .z1 ha hproved hb hz0 hc⟩
        · exact .inr ⟨c, .z0 ha hproved hb hc⟩
      · exact .inr ⟨c, .b ha hproved hc⟩
    · exact .inr hobjection
  · exact .inr ⟨c, .a hc⟩

/-- There is only one first objection. -/
theorem Objection.unique {c' : Cheating} (h : Objection G draw level m proof c)
    (h' : Objection G draw level m proof c') : c = c' := by
  have heq := h.ofMessage_eq.symm.trans h'.ofMessage_eq
  cases heq
  rfl

theorem Objection.eq_iff {c' : Cheating} (h : Objection G draw level m proof c) :
    c = c' ↔ Objection G draw level m proof c' := by
  constructor
  · rintro rfl
    exact h
  · exact h.unique

/-- A request that is accepted is not objected to. -/
theorem Objection.not_accepted (h : Objection G draw level m proof c) :
    ¬ ∃ s, Sound G m s ∧ Proved G draw level m s.a proof := by
  rintro ⟨s, hsound, hproved⟩
  have heq := h.ofMessage_eq.symm.trans (hsound.ofMessage_eq hproved)
  contradiction

/-! ## What the sender hears -/

def requestLength : Level → Nat
  | .privacy => 1
  | .malicious => 2

/-- The sender has heard a whole request, whose first message it could read.  A proof that
it cannot read counts as none. -/
inductive Request : Level → List Bytes → ReceiverMessage → Option DlogProof → Prop where
  | privacy {data m} (h : Message.read data = .ok m) : Request .privacy [data] m none
  | malicious {data data' m} (h : Message.read data = .ok m) :
    Request .malicious [data, data'] m (Message.read data').toOption

/-- The sender could read what it has heard, and something of the request is missing. -/
inductive Begun : Level → List Bytes → Prop where
  | nil {l} : Begun l []
  | message {data} {m : ReceiverMessage} (h : Message.read data = .ok m) :
    Begun .malicious [data]

/-- The first message is not a message of a receiver. -/
inductive Unread : List Bytes → Prop where
  | cons {data rest reason} (h : (Message.read data : Except _ ReceiverMessage) = .error reason) :
    Unread (data :: rest)

/-- What was heard is a request that passes all checks. -/
def Accepts (G : DlogGroup) (draw : Challenger) (level : Level) (ms : List Bytes) : Prop :=
  ∃ m proof s, Request level ms m proof ∧ Sound G m s ∧ Proved G draw level m s.a proof

/-- What was heard is a request that fails a check. -/
def Objects (G : DlogGroup) (draw : Challenger) (level : Level) (ms : List Bytes)
    (c : Cheating) : Prop :=
  ∃ m proof, Request level ms m proof ∧ Objection G draw level m proof c

variable {ms : List Bytes} {m' : ReceiverMessage} {proof' : Option DlogProof}

/-- What was heard is one request at most. -/
theorem Request.unique (h : Request level ms m proof) (h' : Request level ms m' proof') :
    m = m' ∧ proof = proof' := by
  cases h with
  | privacy h =>
    cases h' with
    | privacy h' => exact ⟨Except.ok.inj (h.symm.trans h'), rfl⟩
  | malicious h =>
    cases h' with
    | malicious h' => exact ⟨Except.ok.inj (h.symm.trans h'), rfl⟩

theorem requestLength_pos (level : Level) : 0 < requestLength level := by
  cases level <;> decide

/-- A request has all its messages. -/
theorem Request.length_eq (h : Request level ms m proof) : ms.length = requestLength level := by
  cases h <;> rfl

/-- A request that is begun lacks a message. -/
theorem Begun.length_lt (h : Begun level ms) : ms.length < requestLength level := by
  cases h with
  | nil => exact requestLength_pos level
  | message => exact Nat.one_lt_two

theorem Request.not_unread (h : Request level ms m proof) : ¬ Unread ms := by
  intro hunread
  cases hunread with
  | cons hread =>
    cases h with
    | privacy h => exact absurd (h.symm.trans hread) (by simp)
    | malicious h => exact absurd (h.symm.trans hread) (by simp)

theorem Begun.not_unread (h : Begun level ms) : ¬ Unread ms := by
  intro hunread
  cases hunread with
  | cons hread =>
    cases h with
    | message h => exact absurd (h.symm.trans hread) (by simp)

/-- As long as something is missing there is no verdict. -/
theorem Begun.not_request (h : Begun level ms) : ¬ Request level ms m proof :=
  fun hrequest => absurd hrequest.length_eq (Nat.ne_of_lt h.length_lt)

theorem Begun.not_accepts (h : Begun level ms) : ¬ Accepts G draw level ms := by
  rintro ⟨m, proof, s, hrequest, -⟩
  exact h.not_request hrequest

theorem Begun.not_objects (h : Begun level ms) : ¬ Objects G draw level ms c := by
  rintro ⟨m, proof, hrequest, -⟩
  exact h.not_request hrequest

theorem Unread.not_accepts (h : Unread ms) : ¬ Accepts G draw level ms := by
  rintro ⟨m, proof, s, hrequest, -⟩
  exact hrequest.not_unread h

theorem Unread.not_objects (h : Unread ms) : ¬ Objects G draw level ms c := by
  rintro ⟨m, proof, hrequest, -⟩
  exact hrequest.not_unread h

/-- What was heard is objected to as its request is. -/
theorem Request.objects_iff (h : Request level ms m proof) :
    Objects G draw level ms c ↔ Objection G draw level m proof c := by
  constructor
  · rintro ⟨m', proof', h', hc⟩
    obtain ⟨rfl, rfl⟩ := h.unique h'
    exact hc
  · exact fun hc => ⟨m, proof, h, hc⟩

/-- What was heard is accepted as its request is. -/
theorem Request.accepts_iff (h : Request level ms m proof) :
    Accepts G draw level ms ↔ ∃ s, Sound G m s ∧ Proved G draw level m s.a proof := by
  constructor
  · rintro ⟨m', proof', s, h', hs⟩
    obtain ⟨rfl, rfl⟩ := h.unique h'
    exact ⟨s, hs⟩
  · rintro ⟨s, hs⟩
    exact ⟨m, proof, s, h, hs⟩

/-- A request that is objected to is not accepted. -/
theorem Objection.not_accepts (hc : Objection G draw level m proof c)
    (h : Request level ms m proof) : ¬ Accepts G draw level ms :=
  fun haccepts => hc.not_accepted (h.accepts_iff.1 haccepts)

/-- What is accepted is a whole request. -/
theorem Accepts.length_eq (h : Accepts G draw level ms) : ms.length = requestLength level := by
  obtain ⟨m, proof, s, hrequest, -⟩ := h
  exact hrequest.length_eq

theorem Accepts.not_unread (h : Accepts G draw level ms) : ¬ Unread ms :=
  fun hunread => hunread.not_accepts h

theorem Accepts.not_objects (h : Accepts G draw level ms) : ¬ Objects G draw level ms c := by
  rintro ⟨m, proof, hrequest, hc⟩
  exact hc.not_accepted (hrequest.accepts_iff.1 h)

end Transfer

end TwoParty
