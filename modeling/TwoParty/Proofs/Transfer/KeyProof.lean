import TwoParty.Proofs.Channel.Parse
import TwoParty.Proofs.Sigma.Responses
import TwoParty.Transfer.Level

/-!
# TwoParty.Proofs.Transfer.KeyProof

A receiver's proof cannot be moved to another message.

The parts of a message can be read back from the context of its proof, so another message
has another history (`keyHistory_inj`).  A proof that is accepted after two histories has
one first message and one response for both.  The verifier's equation then leaves nothing
but equal challenges: the two histories collide (`Sigma.Collide`).
-/

namespace TwoParty

open LawfulGroup

/-! ## The context -/

namespace ReceiverMessage

variable {m m' : ReceiverMessage}

/-- The parts of a message that the proof about `a` is bound to. -/
def rest (m : ReceiverMessage) : List Bytes := [m.b, m.z0, m.z1]

/-- The length of every such part is a 32-bit word. -/
def FitsContext (m : ReceiverMessage) : Prop := ∀ part ∈ m.rest, part.length < UInt32.size

instance (m : ReceiverMessage) : Decidable m.FitsContext :=
  inferInstanceAs (Decidable (∀ part ∈ m.rest, part.length < UInt32.size))

/-- The context of the proof is a label and the frames of the other parts. -/
theorem proofContext_eq (m : ReceiverMessage) :
    m.proofContext = Bytes.ofText "twopc-ot-receiver" ++ m.rest.flatMap frame := by
  simp [proofContext, rest, framed, frame]

/-- Behind its label, a context is a stream of frames. -/
theorem FitsContext.parse (h : m.FitsContext) :
    Framing.Parse UInt32.size (m.rest.flatMap frame) m.rest [] where
  eq := (List.append_nil _).symm
  fits part hpart := ⟨(h part hpart).le, h part hpart⟩
  stops := .inl (.head (Nat.zero_lt_succ 3))

/-- Contexts are equal only if the parts are, since frames can be parsed in one way. -/
theorem rest_eq_of_proofContext_eq (h : m.FitsContext) (h' : m'.FitsContext)
    (heq : m.proofContext = m'.proofContext) : m.rest = m'.rest := by
  rw [proofContext_eq, proofContext_eq] at heq
  have hparse := h'.parse
  rw [← List.append_cancel_left heq] at hparse
  exact (h.parse.unique hparse).1

end ReceiverMessage

/-! ## Histories -/

namespace Sigma

variable {G : DlogGroup} {draw : Challenger} {tr tr' : Transcript}

/-- The history after which the challenge of a proof with this statement and first message
is drawn. -/
def dlogHistory (G : DlogGroup) (tr : Transcript) (base image first : G.Element) : Transcript :=
  absorb G (absorbDlog G tr base image) "t" first

/-- The same statement after different histories makes different histories. -/
theorem dlogHistory_inj {base image first : G.Element} :
    dlogHistory G tr base image first = dlogHistory G tr' base image first ↔ tr = tr' := by
  cases tr
  cases tr'
  simp [dlogHistory, absorb, absorbDlog, absorbStatement, Transcript.append]

theorem contextTranscript_inj {context context' : Bytes} :
    contextTranscript context = contextTranscript context' ↔ context = context' := by
  simp [contextTranscript, Transcript.append]

/-- Two different histories after which the challenges act alike. -/
structure Collide (G : DlogGroup) [LawfulGroup G] (draw : Challenger) (t t' : Transcript) :
    Prop where
  ne : t ≠ t'
  residue_eq : residue (challenge G draw t).1 = residue (challenge G draw t').1

/-- What the verifier accepts decodes. -/
theorem decodes_of_accepted {base image : G.Element} {p : DlogProof}
    (h : (verifyDlog G draw tr base image p).1 = true) : p.Decodes G := by
  by_contra hp
  simp [verifyDlog_of_not_decodes hp] at h

variable [LawfulGroup G]

/-- A proof that is accepted of two images raises them to one power. -/
theorem mul_challenge_eq {b y y' f : ZMod G.order} {p : DlogProof}
    (hfirst : G.element true p.t = .ok (exp f))
    (h : (verifyDlog G draw tr (exp b) (exp y) p).1 = true)
    (h' : (verifyDlog G draw tr' (exp b) (exp y') p).1 = true) :
    y * residue (dlogChallenge G draw tr (exp b) (exp y) (exp f)).1 =
      y' * residue (dlogChallenge G draw tr' (exp b) (exp y') (exp f)).1 := by
  obtain ⟨z, hz, hline⟩ := (verifyDlog_accepts_iff draw tr b y hfirst p.response).1 h
  obtain ⟨z', hz', hline'⟩ := (verifyDlog_accepts_iff draw tr' b y' hfirst p.response).1 h'
  obtain rfl : z = z' := Except.ok.inj (hz.symm.trans hz')
  exact add_left_cancel (hline.symm.trans hline')

end Sigma

/-! ## The receiver's proof -/

/-- The history after which the challenge of the receiver's proof is drawn. -/
def ReceiverMessage.keyHistory (G : DlogGroup) (m : ReceiverMessage) (a first : G.Element) :
    Transcript :=
  Sigma.dlogHistory G (Sigma.contextTranscript m.proofContext) G.generator a first

/-- The histories of two proofs about the same `a` differ as their contexts do. -/
theorem ReceiverMessage.keyHistory_inj {G : DlogGroup} {m m' : ReceiverMessage}
    {a first : G.Element} :
    m.keyHistory G a first = m'.keyHistory G a first ↔ m.proofContext = m'.proofContext :=
  Sigma.dlogHistory_inj.trans Sigma.contextTranscript_inj

/-- A proof that passes the check of the malicious level verifies. -/
theorem Level.verifyKnowledge_of_checkKey {G : DlogGroup} {draw : Challenger}
    {m : ReceiverMessage} {a : G.Element} {p : DlogProof}
    (h : malicious.checkKey G draw m a (some p) = .ok ()) :
    Sigma.verifyKnowledge G draw m.proofContext G.generator a p = true := by
  by_contra hp
  simp [checkKey, hp] at h

/-- How a proof of knowledge of a logarithm holds to what it was made for. -/
structure BindsProofs (G : DlogGroup) [LawfulGroup G] (draw : Challenger) : Prop where
  /-- The context of a receiver's proof determines the rest of its message. -/
  rest_eq : ∀ {m m' : ReceiverMessage}, m.FitsContext → m'.FitsContext →
    m.proofContext = m'.proofContext → m.rest = m'.rest
  /-- A proof that passes with two messages makes their histories collide. -/
  collide : ∀ {m m' : ReceiverMessage}, m.FitsContext → m'.FitsContext → m.rest ≠ m'.rest →
    ∀ {a : G.Element} {p : DlogProof}, G.isMember a = true →
    Level.malicious.checkKey G draw m a (some p) = .ok () →
    Level.malicious.checkKey G draw m' a (some p) = .ok () →
    m.proofContext ≠ m'.proofContext ∧ ∃ first, G.element true p.t = .ok first ∧
      Sigma.Collide G draw (m.keyHistory G a first) (m'.keyHistory G a first)
  /-- Images for which one proof is accepted have the same power, each with its own
  challenge. -/
  pow_eq : ∀ {tr tr' : Transcript} (b : ZMod G.order) {image image' : G.Element} {p : DlogProof},
    G.isMember image = true → G.isMember image' = true →
    (Sigma.verifyDlog G draw tr (exp b) image p).1 = true →
    (Sigma.verifyDlog G draw tr' (exp b) image' p).1 = true →
    ∃ first, G.element true p.t = .ok first ∧
      G.pow image (Sigma.dlogChallenge G draw tr (exp b) image first).1 =
        G.pow image' (Sigma.dlogChallenge G draw tr' (exp b) image' first).1

/-- Over a lawful group, proofs hold to what they were made for. -/
theorem bindsProofs_of_lawful (G : DlogGroup) [LawfulGroup G] (draw : Challenger) :
    BindsProofs G draw where
  rest_eq := ReceiverMessage.rest_eq_of_proofContext_eq
  collide {m m'} hm hm' hne {a p} ha h h' := by
    have hcontext : m.proofContext ≠ m'.proofContext := fun heq =>
      hne (ReceiverMessage.rest_eq_of_proofContext_eq hm hm' heq)
    have hverify := Level.verifyKnowledge_of_checkKey h
    have hverify' := Level.verifyKnowledge_of_checkKey h'
    -- An accepted proof decodes, so its first message has a logarithm.
    obtain ⟨first, z, hfirst, -⟩ := Sigma.decodes_of_accepted hverify
    obtain ⟨f, -, rfl⟩ := exists_of_element hfirst
    obtain ⟨y, hy, rfl⟩ := (isMember_iff a).1 ha
    have hhistory : m.keyHistory G (exp y) (exp f) ≠ m'.keyHistory G (exp y) (exp f) :=
      fun heq => hcontext (ReceiverMessage.keyHistory_inj.1 heq)
    refine ⟨hcontext, exp f, hfirst, hhistory, ?_⟩
    rw [Sigma.verifyKnowledge, ← exp_one] at hverify hverify'
    have hpower := Sigma.mul_challenge_eq hfirst hverify hverify'
    rw [exp_one] at hpower
    -- `a` is not the identity, so its logarithm cancels
    exact mul_left_cancel₀ hy hpower
  pow_eq {tr tr'} b {image image' p} himage himage' h h' := by
    obtain ⟨first, z, hfirst, -⟩ := Sigma.decodes_of_accepted h
    obtain ⟨f, -, rfl⟩ := exists_of_element hfirst
    obtain ⟨y, -, rfl⟩ := (isMember_iff image).1 himage
    obtain ⟨y', -, rfl⟩ := (isMember_iff image').1 himage'
    refine ⟨exp f, hfirst, ?_⟩
    rw [pow_exp, pow_exp, Sigma.mul_challenge_eq hfirst h h']

/-- With challenges that never change, one proof passes with every message. -/
theorem exists_proof_of_constant : ∃ p : DlogProof, ∀ m,
    Level.malicious.checkKey SafePrime.small.group (fun _ _ n => List.replicate n 1) m (exp 3)
      (some p) = .ok () := by
  have hproved : ∀ tr, (Sigma.verifyDlog SafePrime.small.group (fun _ _ n => List.replicate n 1)
      tr (exp 1) (exp 3) (Sigma.dlogProof SafePrime.small.group (fun _ _ n => List.replicate n 1)
        ⟨[]⟩ (exp 1) (exp 3) SafePrime.three SafePrime.three).1).1 = true := fun tr =>
    Sigma.verifyDlog_of_image_eq _ tr (b := 1) (w := SafePrime.three) (k := SafePrime.three)
      (by decide) (by decide)
  exact ⟨_, fun m => if_pos (exp_one (G := SafePrime.small.group) ▸ hproved _)⟩

/-- Then the histories of any two messages collide, here of two that differ in `b`. -/
theorem bindsProofs_of_lawful_constant : ∃ first,
    Sigma.Collide SafePrime.small.group (fun _ _ n => List.replicate n 1)
      (ReceiverMessage.keyHistory SafePrime.small.group ⟨[], [], [], []⟩ (exp 3) first)
      (ReceiverMessage.keyHistory SafePrime.small.group ⟨[], [1], [], []⟩ (exp 3) first) := by
  obtain ⟨p, hp⟩ := exists_proof_of_constant
  obtain ⟨-, first, -, hcollide⟩ := (bindsProofs_of_lawful SafePrime.small.group _).collide
    (by decide) (by decide) (by decide) (isMember_exp.2 (by decide)) (hp ⟨[], [], [], []⟩)
    (hp ⟨[], [1], [], []⟩)
  exact ⟨first, hcollide⟩

end TwoParty
