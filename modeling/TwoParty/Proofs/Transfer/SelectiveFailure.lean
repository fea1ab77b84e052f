import TwoParty.Proofs.Group.SafePrime
import TwoParty.Proofs.Transfer.Payload
import TwoParty.Transfer.Receiver

/-!
# TwoParty.Proofs.Transfer.SelectiveFailure

The receiver's reaction to a reply does not depend on its choice.

Both halves of a reply are checked before one of them is used, and what happens to the
chosen half afterwards can only fail for its length, which both halves share
(`verdict_unmask_eq`).
-/

namespace TwoParty

/-- Success or the error, without the result. -/
def verdict {α : Type} (r : Except Error α) : Except Error Unit := r.map fun _ => ()

/-! ## Derivations that fail alike for all seeds -/

/-- Whether a derivation fails, and how, depends on the length alone. -/
def Kdf.IsSeedBlind (k : Kdf) : Prop :=
  ∀ seed seed' length, verdict (k.derive seed length) = verdict (k.derive seed' length)

/-- Whether HKDF succeeds is a matter of the length. -/
theorem Kdf.isSeedBlind_hkdf (info : Bytes) : (Kdf.hkdf info).IsSeedBlind := by
  intro seed seed' length
  by_cases h : Kdf.hkdfMax < length
  · simp only [hkdf, if_pos h]
  · simp only [hkdf, if_neg h, verdict, Except.map]

theorem Kdf.isSeedBlind_kdf1 (digest : Digest) : (Kdf.kdf1 digest).IsSeedBlind := by
  intro seed seed' length
  by_cases h : Kdf.counterLimit < (length + digest.size - 1) / digest.size
  · simp only [kdf1, if_pos h]
  · simp only [kdf1, if_neg h, verdict, Except.map]

/-- Nothing is asked of the group. -/
def PayloadKind.IsSeedBlind : PayloadKind → Prop
  | groupElement => True
  | byteArray kdf => kdf.IsSeedBlind

/-! ## Both choices -/

namespace ReceiverSession

variable {G : DlogGroup} {kind : PayloadKind}

/-- What the receiver makes of a reply. -/
def conclude (s : ReceiverSession G) (P : Payload G) (m : SenderMessage) : Except Error P.Input :=
  s.check P m >>= VerifiedReply.output

/-- Ciphertexts that pass the check are of one length. -/
theorem length_eq_of_decode_byteArray {kdf : Kdf} {c0 c1 e0 e1 : Bytes}
    (h : (Payload.byteArray G kdf).decode c0 c1 = .ok (e0, e1)) : e0.length = e1.length := by
  simp only [Payload.byteArray] at h
  cases hcheck : Payload.checkCiphertexts kdf c0 c1 with
  | error e =>
    rw [hcheck] at h
    cases h
  | ok u =>
    rw [hcheck] at h
    cases h
    unfold Payload.checkCiphertexts at hcheck
    split at hcheck
    · cases hcheck
    · next hlen => exact not_not.1 hlen

/-- Opening a byte string fails as its pad does. -/
theorem verdict_unmask_byteArray {kdf : Kdf} (w : G.Element) (beta : G.Exponent) (c : Bytes) :
    verdict ((Payload.byteArray G kdf).unmask w beta c) =
      verdict (kdf.derive (G.encodeElement (G.pow w beta)) c.length) := by
  simp only [Payload.byteArray, Payload.pad, bind, Except.bind]
  cases kdf.derive (G.encodeElement (G.pow w beta)) c.length with
  | error e => rfl
  | ok pad => rfl

/-- Ciphertexts that pass the check can be opened alike. -/
theorem verdict_unmask_eq (hkind : kind.IsSeedBlind) {c0 c1 : Bytes}
    {e0 e1 : (kind.payload G).Ciphertext} (h : (kind.payload G).decode c0 c1 = .ok (e0, e1))
    (w0 w1 : G.Element) (beta : G.Exponent) :
    verdict ((kind.payload G).unmask w0 beta e0) =
      verdict ((kind.payload G).unmask w1 beta e1) := by
  cases kind with
  | groupElement => rfl
  | byteArray kdf =>
    have hlen := length_eq_of_decode_byteArray h
    calc
      verdict ((Payload.byteArray G kdf).unmask w0 beta e0)
        = verdict (kdf.derive (G.encodeElement (G.pow w0 beta)) (List.length e0)) :=
          verdict_unmask_byteArray w0 beta e0
      _ = verdict (kdf.derive (G.encodeElement (G.pow w1 beta)) (List.length e1)) := by
          rw [hlen]
          exact hkind _ _ _
      _ = verdict ((Payload.byteArray G kdf).unmask w1 beta e1) :=
          (verdict_unmask_byteArray w1 beta e1).symm

/-- The receiver reacts to every reply alike, whatever it chose. -/
theorem verdict_conclude_eq (hkind : kind.IsSeedBlind) (beta : G.Exponent) (m : SenderMessage) :
    verdict (conclude ⟨.zero, beta⟩ (kind.payload G) m) =
      verdict (conclude ⟨.one, beta⟩ (kind.payload G) m) := by
  simp only [conclude, check, bind, Except.bind]
  cases G.member "w0" m.w0 with
  | error e => rfl
  | ok w0 =>
    cases G.member "w1" m.w1 with
    | error e => rfl
    | ok w1 =>
      cases hdecode : (kind.payload G).decode m.c0 m.c1 with
      | error e => rfl
      | ok ciphertexts =>
        obtain ⟨e0, e1⟩ := ciphertexts
        exact verdict_unmask_eq hkind hdecode w0 w1 beta

/-- Two-byte ciphertexts under HKDF, modulo 23: the reply is fine for one choice, so it is
fine for the other. -/
theorem verdict_conclude_eq_small :
    verdict (conclude ⟨.zero, SafePrime.three⟩
        ((PayloadKind.byteArray (.hkdf [])).payload SafePrime.small.group)
        ⟨[2], [3], [1, 2], [3, 4]⟩) = .ok () ∧
      verdict (conclude ⟨.one, SafePrime.three⟩
        ((PayloadKind.byteArray (.hkdf [])).payload SafePrime.small.group)
        ⟨[2], [3], [1, 2], [3, 4]⟩) = .ok () := by
  have hzero : verdict (conclude ⟨.zero, SafePrime.three⟩
      ((PayloadKind.byteArray (.hkdf [])).payload SafePrime.small.group)
      ⟨[2], [3], [1, 2], [3, 4]⟩) = .ok () := by rfl
  have heq := @verdict_conclude_eq SafePrime.small.group (.byteArray (.hkdf []))
    (Kdf.isSeedBlind_hkdf []) SafePrime.three ⟨[2], [3], [1, 2], [3, 4]⟩
  exact ⟨hzero, heq.symm.trans hzero⟩

end ReceiverSession

end TwoParty
