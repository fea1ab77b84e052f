import Mathlib.Tactic.Ring
import TwoParty.Proofs.Sigma.Completeness
import TwoParty.Proofs.Transfer.Payload
import TwoParty.Transfer.Receiver
import TwoParty.Transfer.Sender

/-!
# TwoParty.Proofs.Transfer.Honest

An honest transfer as a computation: the receiver's message for given exponents, what
the sender makes of it, and what the receiver makes of the reply.

* `ofMessage_message` — the sender accepts the message unless `g ^ γ` is the shared key;
* `replyWith_eq` — the reply, whose key material is `g ^ (α u + v)`;
* `check_output` — the receiver ends with its choice, or names the first identity.
-/

namespace TwoParty

open LawfulGroup

/-! ## Logarithms of key material and keys -/

namespace SenderSession

variable {G : DlogGroup}

/-- One of the two keys that the receiver sent. -/
def z (s : SenderSession G) (i : ChoiceBit) : G.Element := i.select s.z0 s.z1

variable [LawfulGroup G] {s : SenderSession G} {a b ζ : ZMod G.order}

/-- The key material of a sender that received `g ^ a`. -/
theorem material_eq (ha : s.a = exp a) (u v : G.Exponent) :
    s.material u v = exp (a * residue u + residue v) := by
  rw [material, ha, pow_exp, gpow_eq, mul_exp]

/-- The key that belongs to `g ^ ζ`, of a sender that received `g ^ b`. -/
theorem key_eq (hb : s.b = exp b) (u v : G.Exponent) :
    s.key (exp ζ) u v = exp (ζ * residue u + b * residue v) := by
  rw [key, hb, pow_exp, pow_exp, mul_exp]

end SenderSession

/-! ## Honest exponents -/

/-- The exponents that the two sides of a transfer draw; the proof nonce is drawn at the
malicious level only. -/
structure TransferDraws (G : DlogGroup) where
  alpha : G.Exponent
  beta : G.Exponent
  gamma : G.Exponent
  nonce : G.Exponent
  u0 : G.Exponent
  v0 : G.Exponent
  u1 : G.Exponent
  v1 : G.Exponent

namespace TransferDraws

variable {G : DlogGroup}

def receiver (d : TransferDraws G) : Level → List G.Exponent
  | .privacy => [d.alpha, d.beta, d.gamma]
  | .malicious => [d.alpha, d.beta, d.gamma, d.nonce]

def sender (d : TransferDraws G) : List G.Exponent := [d.u0, d.v0, d.u1, d.v1]

def message (d : TransferDraws G) (choice : ChoiceBit) : ReceiverMessage :=
  ReceiverSession.messageWith G choice d.alpha d.beta d.gamma

def proof (d : TransferDraws G) (draw : Challenger) (level : Level) (choice : ChoiceBit) :
    Option DlogProof :=
  match level with
  | .privacy => none
  | .malicious => some (Sigma.dlogProof G draw
      (Sigma.contextTranscript (d.message choice).proofContext) G.generator (G.gpow d.alpha)
      d.alpha d.nonce).1

def session (d : TransferDraws G) (choice : ChoiceBit) : SenderSession G where
  a := G.gpow d.alpha
  b := G.gpow d.beta
  z0 := choice.select (G.pow (G.gpow d.alpha) d.beta) (G.gpow d.gamma)
  z1 := choice.select (G.gpow d.gamma) (G.pow (G.gpow d.alpha) d.beta)

/-- The first exponent that the sender draws for an input. -/
def u (d : TransferDraws G) (i : ChoiceBit) : G.Exponent := i.select d.u0 d.u1

/-- The second exponent that the sender draws for an input. -/
def v (d : TransferDraws G) (i : ChoiceBit) : G.Exponent := i.select d.v0 d.v1

def key (d : TransferDraws G) (choice i : ChoiceBit) : G.Element :=
  (d.session choice).key ((d.session choice).z i) (d.u i) (d.v i)

variable [LawfulGroup G] (d : TransferDraws G) (choice i : ChoiceBit)

/-- The logarithm of the shared key. -/
def shared : ZMod G.order := residue d.alpha * residue d.beta

/-- The logarithm of `z`: the shared key for the chosen input, anything for the other. -/
def zLog : ZMod G.order := if i = choice then d.shared else residue d.gamma

/-- The logarithm of the key material. -/
def log : ZMod G.order := residue d.alpha * residue (d.u i) + residue (d.v i)

def keyLog : ZMod G.order := d.zLog choice i * residue (d.u i) + residue d.beta * residue (d.v i)

/-- The sender's session in logarithms. -/
theorem session_eq : d.session choice =
    ⟨exp (residue d.alpha), exp (residue d.beta), exp (d.zLog choice .zero),
      exp (d.zLog choice .one)⟩ := by
  cases choice with
  | zero => simp [session, gpow_eq, pow_exp, ChoiceBit.select, zLog, shared]
  | one => simp [session, gpow_eq, pow_exp, ChoiceBit.select, zLog, shared]

/-- The element that the sender reads at an index, through its logarithm. -/
theorem z_session : (d.session choice).z i = exp (d.zLog choice i) := by
  rw [session_eq]
  cases i <;> rfl

/-- The receiver's first message in logarithms. -/
theorem message_eq : d.message choice =
    ⟨G.encodeElement (exp (residue d.alpha)), G.encodeElement (exp (residue d.beta)),
      G.encodeElement (exp (d.zLog choice .zero)), G.encodeElement (exp (d.zLog choice .one))⟩ := by
  cases choice with
  | zero =>
    simp [message, ReceiverSession.messageWith, gpow_eq, pow_exp, ChoiceBit.select, zLog, shared]
  | one =>
    simp [message, ReceiverSession.messageWith, gpow_eq, pow_exp, ChoiceBit.select, zLog, shared]

/-- The key of an input, through its logarithm. -/
theorem key_eq : d.key choice i = exp (d.keyLog choice i) := by
  rw [key, z_session, session_eq, SenderSession.key_eq rfl, keyLog]

/-- The chosen key is the key material to the power `β`. -/
theorem keyLog_self : d.keyLog choice choice = d.log choice * residue d.beta := by
  rw [keyLog, log, zLog, if_pos rfl, shared]
  ring

/-! ## The sender's checks -/

variable {d choice} (draw : Challenger) (level : Level)

/-- The receiver's proof of an honest message is accepted. -/
theorem checkKey_proof (hnonce : level = .malicious → residue d.nonce ≠ 0) :
    level.checkKey G draw (d.message choice) (exp (residue d.alpha))
      (d.proof draw level choice) = .ok () := by
  cases level with
  | privacy => rfl
  | malicious =>
    have hverify := Sigma.verifyDlog_of_image_eq (G := G) draw
      (Sigma.contextTranscript (d.message choice).proofContext) (w := d.alpha) one_ne_zero
      (hnonce rfl)
    rw [one_mul, exp_one, ← gpow_eq] at hverify
    rw [← gpow_eq]
    exact if_pos hverify

/-- An honest message is accepted unless `z₀` and `z₁` agree. -/
theorem ofMessage_message (hα : residue d.alpha ≠ 0) (hβ : residue d.beta ≠ 0)
    (hγ : residue d.gamma ≠ 0) (hnonce : level = .malicious → residue d.nonce ≠ 0) :
    SenderSession.ofMessage G draw level (d.message choice) (d.proof draw level choice) =
      if residue d.gamma = d.shared then .error (.cheatAttempt .equalKeys)
      else .ok (d.session choice) := by
  have hshared : d.shared ≠ 0 := mul_ne_zero hα hβ
  have hz : ∀ i, d.zLog choice i ≠ 0 := by
    intro i
    by_cases hi : i = choice
    · rwa [zLog, if_pos hi]
    · rwa [zLog, if_neg hi]
  have heq : d.zLog choice .zero = d.zLog choice .one ↔ residue d.gamma = d.shared := by
    cases choice with
    | zero => exact eq_comm
    | one => exact Iff.rfl
  have hproof := @checkKey_proof G _ d choice draw level hnonce
  have hsession := d.session_eq choice
  rw [message_eq] at hproof
  rw [message_eq, SenderSession.ofMessage]
  simp only [member_encode_of_ne _ hα, member_encode_of_ne _ hβ, member_encode_of_ne _ (hz _),
    hproof, bind, Except.bind, exp_inj, heq]
  by_cases h : residue d.gamma = d.shared
  · simp only [if_pos h]
    rfl
  · simp only [if_neg h, hsession]
    rfl

/-! ## The reply -/

variable {kind : PayloadKind} (d choice)

/-- The field of the reply that is the identity, if any; the first one counts. -/
def lost (kind : PayloadKind) (x0 x1 : kind.Input G) : Option String :=
  if d.log .zero = 0 then some "w0"
  else if d.log .one = 0 then some "w1"
  else kind.hidden x0 x1 (d.key choice .zero) (d.key choice .one)

/-- The exponents with which a transfer succeeds. -/
structure Succeeds (kind : PayloadKind) (x0 x1 : kind.Input G) : Prop where
  keys : residue d.gamma ≠ residue d.alpha * residue d.beta
  material0 : residue d.alpha * residue d.u0 + residue d.v0 ≠ 0
  material1 : residue d.alpha * residue d.u1 + residue d.v1 ≠ 0
  visible : kind.Visible x0 x1 (d.key choice .zero) (d.key choice .one)

/-- What the receiver ends with when the sender has accepted its message. -/
def received (kind : PayloadKind) (x0 x1 : kind.Input G) : Except Error (kind.Input G) :=
  match d.lost choice kind x0 x1 with
  | some field => .error (PayloadKind.identityError G field)
  | none => .ok (choice.select x0 x1)

variable {d choice}

/-- Nothing is lost if both key materials and both ciphertexts are members. -/
theorem lost_eq_none_iff (x0 x1 : kind.Input G) :
    d.lost choice kind x0 x1 = none ↔
      d.log .zero ≠ 0 ∧ d.log .one ≠ 0 ∧
        kind.Visible x0 x1 (d.key choice .zero) (d.key choice .one) := by
  rw [lost, ← PayloadKind.hidden_eq_none_iff]
  by_cases h0 : d.log .zero = 0
  · simp [h0]
  · by_cases h1 : d.log .one = 0
    · simp [h0, h1]
    · simp [h0, h1]

/-- The receiver ends with a value exactly when no field was lost. -/
theorem received_eq_ok_iff (x0 x1 : kind.Input G) :
    d.received choice kind x0 x1 = .ok (choice.select x0 x1) ↔
      d.log .zero ≠ 0 ∧ d.log .one ≠ 0 ∧
        kind.Visible x0 x1 (d.key choice .zero) (d.key choice .one) := by
  rw [← lost_eq_none_iff, received]
  cases d.lost choice kind x0 x1 with
  | none => simp
  | some field => simp

def reply (d : TransferDraws G) (c0 c1 : Bytes) : SenderMessage :=
  ⟨G.encodeElement (exp (d.log .zero)), G.encodeElement (exp (d.log .one)), c0, c1⟩

/-- The reply on masked inputs. -/
theorem replyWith_eq {x0 x1 : kind.Input G} {c0 c1 : Bytes}
    (h : kind.Masked x0 x1 (d.keyLog choice .zero) (d.keyLog choice .one) c0 c1) :
    (d.session choice).replyWith (kind.payload G) x0 x1 d.u0 d.v0 d.u1 d.v1 =
      .ok (d.reply c0 c1) := by
  have hm0 := h.mask0
  have hm1 := h.mask1
  rw [← key_eq] at hm0 hm1
  simp only [key, u, v, SenderSession.z, ChoiceBit.select] at hm0 hm1
  have ha : (d.session choice).a = exp (residue d.alpha) := gpow_eq d.alpha
  rw [SenderSession.replyWith, SenderSession.material_eq ha, SenderSession.material_eq ha]
  simp only [hm0, hm1, bind, Except.bind]
  rfl

/-- What the receiver makes of the reply. -/
theorem check_output {x0 x1 : kind.Input G} {c0 c1 : Bytes}
    (h : kind.Masked x0 x1 (d.keyLog choice .zero) (d.keyLog choice .one) c0 c1) :
    (ReceiverSession.check ⟨choice, d.beta⟩ (kind.payload G) (d.reply c0 c1) >>=
      VerifiedReply.output) = d.received choice kind x0 x1 := by
  rw [received, lost, key_eq, key_eq, ReceiverSession.check, reply]
  -- In the order of the checks: the two key materials, then the ciphertexts.
  by_cases h0 : d.log .zero = 0
  · simp [member_encode, h0, PayloadKind.identityError, bind, Except.bind]
  · by_cases h1 : d.log .one = 0
    · simp [member_encode, h0, h1, PayloadKind.identityError, bind, Except.bind]
    · rw [if_neg h0, if_neg h1]
      simp only [member_encode_of_ne _ h0, member_encode_of_ne _ h1, bind, Except.bind]
      cases hhidden : kind.hidden x0 x1 (exp (d.keyLog choice .zero))
          (exp (d.keyLog choice .one)) with
      | some field =>
        rw [h.decode_hidden field hhidden]
      | none =>
        obtain ⟨e0, e1, hdecode, hopen0, hopen1⟩ := h.decode_visible hhidden
        rw [hdecode]
        cases choice with
        | zero => exact hopen0 (d.log .zero) d.beta (d.keyLog_self .zero)
        | one => exact hopen1 (d.log .one) d.beta (d.keyLog_self .one)

end TransferDraws

end TwoParty
