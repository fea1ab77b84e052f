import Mathlib.Tactic.Ring
import TwoParty.Proofs.Group.Lawful
import TwoParty.Proofs.Kdf
import TwoParty.Transfer.Payload

/-!
# TwoParty.Proofs.Transfer.Payload

The two kinds of payloads, as one family, and what becomes of two inputs that were
masked with keys `g ^ κ₀` and `g ^ κ₁`.

Accepted inputs can always be masked (`exists_masked`).  The ciphertexts pass the
receiver's check unless one of them is the identity, and then the exponent that opens
the key takes the mask off (`Masked`).
-/

namespace TwoParty

open LawfulGroup

inductive PayloadKind where
  | groupElement
  | byteArray (kdf : Kdf)

namespace PayloadKind

def payload (G : DlogGroup) : PayloadKind → Payload G
  | groupElement => .groupElement G
  | byteArray kdf => .byteArray G kdf

/-- Nothing is asked of the group; a derivation has to keep what its check promises. -/
def IsTotal : PayloadKind → Prop
  | groupElement => True
  | byteArray kdf => kdf.IsTotal

abbrev Input (kind : PayloadKind) (G : DlogGroup) : Type := (kind.payload G).Input

variable {G : DlogGroup}

/-! ## Byte strings -/

section
variable {kdf : Kdf} {x0 x1 c0 c1 : Bytes}

/-- Accepted inputs have one length, and their pads can be derived. -/
theorem length_eq_of_validate_byteArray
    (h : (Payload.byteArray G kdf).validate x0 x1 = .ok ()) :
    x0.length = x1.length ∧ kdf.check x0.length = .ok () := by
  simp only [Payload.byteArray] at h
  split at h
  · contradiction
  · next hlen => exact ⟨not_not.1 hlen, h⟩

/-- Ciphertexts of one length within the limit are taken as they are. -/
theorem decode_byteArray (hlen : c0.length = c1.length) (hcheck : kdf.check c0.length = .ok ()) :
    (Payload.byteArray G kdf).decode c0 c1 = .ok (c0, c1) := by
  simp [Payload.byteArray, Payload.checkCiphertexts, hlen, hlen ▸ hcheck, Except.map]

theorem mask_byteArray {key : G.Element} {x pad : Bytes}
    (h : kdf.derive (G.encodeElement key) x.length = .ok pad) :
    (Payload.byteArray G kdf).mask key x = .ok (Bytes.xorPad x pad) := by
  simp [Payload.byteArray, Payload.pad, h, bind, Except.bind, pure, Except.pure]

/-- The same pad removes itself. -/
theorem unmask_byteArray {w : G.Element} {beta : G.Exponent} {x pad : Bytes}
    (h : kdf.derive (G.encodeElement (G.pow w beta)) x.length = .ok pad) :
    (Payload.byteArray G kdf).unmask w beta (Bytes.xorPad x pad) = .ok x := by
  simp [Payload.byteArray, Payload.pad, h, Bytes.xorPad_xorPad, bind, Except.bind, pure,
    Except.pure]

end

/-! ## Refused inputs -/

/-- An input is refused for one reason only, that it is not in the group. -/
theorem eq_of_checkInput_eq_error {name : String} {x : G.Element} {err : Error}
    (h : Payload.checkInput G name x = .error err) :
    err = .invalidInput (.inputOutsideGroup name G.name) := by
  unfold Payload.checkInput at h
  split at h
  · contradiction
  · exact (Except.error.inj h).symm

/-- Refused inputs are the caller's mistake. -/
theorem kind_of_validate_eq_error {kind : PayloadKind} {x0 x1 : kind.Input G} {err : Error}
    (h : (kind.payload G).validate x0 x1 = .error err) : err.kind = .invalidInput := by
  cases kind with
  | groupElement =>
    simp only [payload, Payload.groupElement] at h
    cases h0 : Payload.checkInput G "x0" x0 with
    | error err0 =>
      rw [h0] at h
      cases h
      rw [eq_of_checkInput_eq_error h0]
      rfl
    | ok u =>
      rw [h0] at h
      rw [eq_of_checkInput_eq_error h]
      rfl
  | byteArray kdf =>
    simp only [payload, Payload.byteArray] at h
    split at h
    · cases h
      rfl
    · obtain ⟨max, -, -, rfl⟩ := Kdf.exists_of_check_eq_error h
      rfl

/-! ## Identities -/

variable [LawfulGroup G] {kind : PayloadKind}

/-- Neither masked input is the identity; there is no such mishap for byte strings. -/
def Visible : (kind : PayloadKind) → (x0 x1 : kind.Input G) → (key0 key1 : G.Element) → Prop
  | groupElement, x0, x1, key0, key1 => G.mul x0 key0 ≠ one G ∧ G.mul x1 key1 ≠ one G
  | byteArray _, _, _, _, _ => True

/-- The name of the first ciphertext that is the identity. -/
def hidden : (kind : PayloadKind) → (x0 x1 : kind.Input G) → (key0 key1 : G.Element) →
    Option String
  | groupElement, x0, x1, key0, key1 =>
    if G.mul x0 key0 = one G then some "c0"
    else if G.mul x1 key1 = one G then some "c1"
    else none
  | byteArray _, _, _, _, _ => none

/-- No ciphertext is the identity exactly if both inputs stay visible. -/
theorem hidden_eq_none_iff (x0 x1 : kind.Input G) (key0 key1 : G.Element) :
    kind.hidden x0 x1 key0 key1 = none ↔ kind.Visible x0 x1 key0 key1 := by
  cases kind with
  | groupElement =>
    by_cases h0 : G.mul x0 key0 = one G
    · simp [hidden, Visible, h0]
    · by_cases h1 : G.mul x1 key1 = one G
      · simp [hidden, Visible, h0, h1]
      · simp [hidden, Visible, h0, h1]
  | byteArray kdf => simp [hidden, Visible]

/-- The error of a receiver that finds the identity where a member should be. -/
def identityError (G : DlogGroup) (field : String) : Error :=
  .cheatAttempt (.outsideGroup field G.name)

/-! ## Group elements -/

/-- An input that passes has a logarithm. -/
theorem exists_of_checkInput {name : String} {x : G.Element}
    (h : Payload.checkInput G name x = .ok ()) : ∃ a, exp a = x := by
  unfold Payload.checkInput at h
  split at h
  · next hm =>
    obtain ⟨a, -, ha⟩ := (isMember_iff x).1 hm
    exact ⟨a, ha⟩
  · contradiction

/-- Accepted inputs are elements of the group. -/
theorem exists_of_validate_groupElement {x0 x1 : G.Element}
    (h : (Payload.groupElement G).validate x0 x1 = .ok ()) :
    ∃ a0 a1, exp a0 = x0 ∧ exp a1 = x1 := by
  cases h0 : Payload.checkInput G "x0" x0 with
  | error e =>
    simp [Payload.groupElement, h0, bind, Except.bind] at h
  | ok u =>
    simp only [Payload.groupElement, h0, bind, Except.bind] at h
    obtain ⟨a0, ha0⟩ := exists_of_checkInput h0
    obtain ⟨a1, ha1⟩ := exists_of_checkInput h
    exact ⟨a0, a1, ha0, ha1⟩

/-- Of two encoded elements the first that is the identity is refused. -/
theorem decode_groupElement (c0 c1 : ZMod G.order) :
    (Payload.groupElement G).decode (G.encodeElement (exp c0)) (G.encodeElement (exp c1)) =
      if c0 = 0 then .error (identityError G "c0")
      else if c1 = 0 then .error (identityError G "c1")
      else .ok (exp c0, exp c1) := by
  simp only [Payload.groupElement, member_encode]
  by_cases h0 : c0 = 0
  · simp [h0, identityError, bind, Except.bind]
  · by_cases h1 : c1 = 0
    · simp [h0, h1, identityError, bind, Except.bind]
    · simp [h0, h1, bind, Except.bind, pure, Except.pure]

/-- Whoever knows the exponent of the key takes it off again. -/
theorem unmask_groupElement (a κ ω : ZMod G.order) {beta : G.Exponent} (h : κ = ω * residue beta) :
    (Payload.groupElement G).unmask (exp ω) beta (exp (a + κ)) = .ok (exp a) := by
  have hlog : a + κ + ω * -residue beta = a := by rw [h]; ring
  simp only [Payload.groupElement, pow_exp, neg_eq, residue_scalar, mul_exp, hlog]

/-! ## Masked inputs -/

/-- Two inputs masked with the keys `g ^ κ₀` and `g ^ κ₁`, and what a receiver makes of
the ciphertexts: whoever knows an exponent `β` with `key = w ^ β` opens them, unless
one of them is the identity. -/
structure Masked (kind : PayloadKind) (x0 x1 : kind.Input G) (κ0 κ1 : ZMod G.order)
    (c0 c1 : Bytes) : Prop where
  mask0 : (kind.payload G).mask (exp κ0) x0 = .ok c0
  mask1 : (kind.payload G).mask (exp κ1) x1 = .ok c1
  decode_hidden : ∀ field, kind.hidden x0 x1 (exp κ0) (exp κ1) = some field →
    (kind.payload G).decode c0 c1 = .error (identityError G field)
  decode_visible : kind.hidden x0 x1 (exp κ0) (exp κ1) = none →
    ∃ e0 e1, (kind.payload G).decode c0 c1 = .ok (e0, e1) ∧
      (∀ ω beta, κ0 = ω * residue beta → (kind.payload G).unmask (exp ω) beta e0 = .ok x0) ∧
      (∀ ω beta, κ1 = ω * residue beta → (kind.payload G).unmask (exp ω) beta e1 = .ok x1)

/-- Accepted group elements can be masked with any keys. -/
theorem masked_groupElement {x0 x1 : G.Element} (κ0 κ1 : ZMod G.order)
    (h : (Payload.groupElement G).validate x0 x1 = .ok ()) :
    ∃ c0 c1, Masked .groupElement x0 x1 κ0 κ1 c0 c1 := by
  obtain ⟨a0, a1, rfl, rfl⟩ := exists_of_validate_groupElement h
  have hdecode := decode_groupElement (G := G) (a0 + κ0) (a1 + κ1)
  -- Elements are equal as their logarithms are, so a ciphertext is the identity if two of them
  -- cancel.
  have hhidden : hidden .groupElement (exp a0) (exp a1) (exp κ0) (exp κ1) =
      if a0 + κ0 = 0 then some "c0" else if a1 + κ1 = 0 then some "c1" else none := by
    simp only [hidden, mul_exp, one, exp_inj]
  refine ⟨G.encodeElement (exp (a0 + κ0)), G.encodeElement (exp (a1 + κ1)), ?_⟩
  constructor
  · simp only [payload, Payload.groupElement, mul_exp]
  · simp only [payload, Payload.groupElement, mul_exp]
  · intro field hfield
    rw [hhidden] at hfield
    refine hdecode.trans ?_
    split at hfield
    · next h0 =>
      cases hfield
      exact if_pos h0
    · next h0 =>
      split at hfield
      · next h1 =>
        cases hfield
        exact (if_neg h0).trans (if_pos h1)
      · contradiction
  · intro hnone
    rw [hhidden] at hnone
    have h0 : a0 + κ0 ≠ 0 := fun h0 => by simp [h0] at hnone
    have h1 : a1 + κ1 ≠ 0 := fun h1 => by simp [h0, h1] at hnone
    rw [if_neg h0, if_neg h1] at hdecode
    exact ⟨exp (a0 + κ0), exp (a1 + κ1), hdecode, fun ω beta => unmask_groupElement a0 κ0 ω,
      fun ω beta => unmask_groupElement a1 κ1 ω⟩

/-- Accepted byte strings can be masked with any keys. -/
theorem masked_byteArray {kdf : Kdf} {x0 x1 : Bytes} (κ0 κ1 : ZMod G.order) (hkdf : kdf.IsTotal)
    (h : (Payload.byteArray G kdf).validate x0 x1 = .ok ()) :
    ∃ c0 c1, Masked (G := G) (.byteArray kdf) x0 x1 κ0 κ1 c0 c1 := by
  obtain ⟨hlen, hcheck⟩ := length_eq_of_validate_byteArray h
  obtain ⟨pad0, h0⟩ := hkdf _ hcheck (G.encodeElement (exp κ0))
  obtain ⟨pad1, h1⟩ := hkdf _ hcheck (G.encodeElement (exp κ1))
  rw [hlen] at h1
  refine ⟨Bytes.xorPad x0 pad0, Bytes.xorPad x1 pad1, mask_byteArray h0, mask_byteArray h1,
    fun field hfield => absurd hfield (by simp [hidden]), fun _ => ?_⟩
  refine ⟨_, _, decode_byteArray (by simp [hlen]) (by simpa using hcheck), ?_, ?_⟩
  · intro ω beta hκ
    refine unmask_byteArray ?_
    rwa [pow_exp, ← hκ]
  · intro ω beta hκ
    refine unmask_byteArray ?_
    rwa [pow_exp, ← hκ]

/-- Accepted inputs can be masked with any keys. -/
theorem exists_masked {x0 x1 : kind.Input G} (κ0 κ1 : ZMod G.order) (hkind : kind.IsTotal)
    (h : (kind.payload G).validate x0 x1 = .ok ()) :
    ∃ c0 c1, kind.Masked x0 x1 κ0 κ1 c0 c1 := by
  cases kind with
  | groupElement => exact masked_groupElement κ0 κ1 h
  | byteArray kdf => exact masked_byteArray κ0 κ1 hkind h

end PayloadKind

end TwoParty
