import TwoParty.Proofs.Group.Member
import TwoParty.Proofs.Transfer.Payload
import TwoParty.Proofs.Transfer.SelectiveFailure

/-!
# TwoParty.Proofs.Transfer.Reply

What the receiver of a transfer makes of a reply: it is usable, or there is one first fault.

Once a reply has passed the check the input is recovered: the length limit of the pad was
checked with the ciphertexts (`exists_unmask`).
-/

namespace TwoParty

/-! ## Payloads -/

namespace PayloadKind

/-- Group elements; or byte strings under one of the given derivations with a limit, or any
other one that derives every length that it lets pass. -/
inductive Admitted : PayloadKind → Prop where
  | groupElement : Admitted .groupElement
  | hkdf (info : Bytes) : Admitted (.byteArray (.hkdf info))
  | kdf1 {d : Kdf.Digest} (h : d.IsFixed) : Admitted (.byteArray (.kdf1 d))
  | exact {kdf : Kdf} (h : kdf.IsExact) : Admitted (.byteArray kdf)

/-- The admitted payloads are total. -/
theorem Admitted.isTotal {kind : PayloadKind} (h : kind.Admitted) : kind.IsTotal := by
  cases h with
  | groupElement => trivial
  | hkdf info => exact (Kdf.isExact_hkdf info).isTotal
  | kdf1 h => exact (Kdf.isExact_kdf1 h).isTotal
  | exact h => exact h.isTotal

variable {G : DlogGroup} {kind : PayloadKind} {c0 c1 : Bytes} {err : Error}

/-- Both ciphertexts are as they should be. -/
def Whole (G : DlogGroup) (c0 c1 : Bytes) : PayloadKind → Prop
  | groupElement => (∃ x, G.Denotes c0 x) ∧ ∃ x, G.Denotes c1 x
  | byteArray kdf => c0.length = c1.length ∧ ∀ max, kdf.maxOutput = some max → c0.length ≤ max

/-- What is wrong with the ciphertexts. -/
inductive Spoilt (G : DlogGroup) (c0 c1 : Bytes) : PayloadKind → Error → Prop where
  | c0 {c} (h : G.Unfit "c0" c0 c) : Spoilt G c0 c1 .groupElement (.cheatAttempt c)
  | c1 {x c} (h0 : G.Denotes c0 x) (h : G.Unfit "c1" c1 c) :
    Spoilt G c0 c1 .groupElement (.cheatAttempt c)
  | unequal {kdf} (h : c0.length ≠ c1.length) :
    Spoilt G c0 c1 (.byteArray kdf)
      (.protocolFormat (.unequalCiphertexts c0.length c1.length))
  | tooLong {kdf max} (hlen : c0.length = c1.length) (hmax : kdf.maxOutput = some max)
    (h : max < c0.length) :
    Spoilt G c0 c1 (.byteArray kdf)
      (.protocolFormat (.ciphertextRejected (.kdfLimit max c0.length)))

/-- The input has the length of its ciphertext; for group elements there is nothing to say. -/
def Fits (c : Bytes) : (kind : PayloadKind) → kind.Input G → Prop
  | groupElement, _ => True
  | byteArray _, x => List.length (α := UInt8) x = c.length

/-- Spoilt ciphertexts are refused for what is wrong with them. -/
theorem Spoilt.decode_eq (h : kind.Spoilt G c0 c1 err) :
    (kind.payload G).decode c0 c1 = .error err := by
  cases h with
  | c0 h => simp [payload, Payload.groupElement, h.member_eq, bind, Except.bind]
  | c1 h0 h => simp [payload, Payload.groupElement, h0.member_eq, h.member_eq, bind, Except.bind]
  | unequal h => simp [payload, Payload.byteArray, Payload.checkCiphertexts, h, Except.map]
  | tooLong hlen hmax h =>
    simp [payload, Payload.byteArray, Payload.checkCiphertexts, hlen, hlen ▸ h, Kdf.check, hmax,
      Except.map]

/-- Whole ciphertexts pass, and either of them opens. -/
theorem exists_unmask (hkind : kind.IsTotal) (h : kind.Whole G c0 c1) (choice : ChoiceBit) :
    ∃ e0 e1, (kind.payload G).decode c0 c1 = .ok (e0, e1) ∧
      ∀ w beta, ∃ x, (kind.payload G).unmask w beta (choice.select e0 e1) = .ok x ∧
        kind.Fits (choice.select c0 c1) x := by
  cases kind with
  | groupElement =>
    obtain ⟨⟨e0, h0⟩, e1, h1⟩ := h
    refine ⟨e0, e1, ?_, fun w beta => ⟨_, rfl, trivial⟩⟩
    simp [payload, Payload.groupElement, h0.member_eq, h1.member_eq, bind, Except.bind, pure,
      Except.pure]
  | byteArray kdf =>
    obtain ⟨hlen, hmax⟩ := h
    have hcheck := Kdf.check_eq_ok_iff.2 hmax
    have hchoice : (choice.select c0 c1).length = c0.length := by
      cases choice with
      | zero => rfl
      | one => exact hlen.symm
    refine ⟨c0, c1, decode_byteArray hlen hcheck, fun w beta => ?_⟩
    obtain ⟨pad, hpad⟩ := hkind _ hcheck (G.encodeElement (G.pow w beta))
    rw [← hchoice] at hpad
    refine ⟨Bytes.xorPad (choice.select c0 c1) pad, ?_, Bytes.length_xorPad _ _⟩
    -- the pad is taken off as it was put on
    have hmask : (Payload.byteArray G kdf).mask (G.pow w beta) _ = _ := mask_byteArray hpad
    exact hmask

theorem Spoilt.not_whole (hkind : kind.IsTotal) (h : kind.Spoilt G c0 c1 err) :
    ¬ kind.Whole G c0 c1 := by
  intro hwhole
  obtain ⟨e0, e1, hdecode, -⟩ := exists_unmask hkind hwhole .zero
  rw [h.decode_eq] at hdecode
  contradiction

theorem Spoilt.unique {err' : Error} (h : kind.Spoilt G c0 c1 err)
    (h' : kind.Spoilt G c0 c1 err') : err = err' :=
  Except.error.inj (h.decode_eq.symm.trans h'.decode_eq)

/-- Ciphertexts are whole or spoilt. -/
theorem whole_or_spoilt (G : DlogGroup) (kind : PayloadKind) (c0 c1 : Bytes) :
    kind.Whole G c0 c1 ∨ ∃ err, kind.Spoilt G c0 c1 err := by
  cases kind with
  | groupElement =>
    obtain ⟨x, h0⟩ | ⟨c, h0⟩ := DlogGroup.member_cases (G := G) "c0" c0
    · obtain ⟨y, h1⟩ | ⟨c, h1⟩ := DlogGroup.member_cases (G := G) "c1" c1
      · exact .inl ⟨⟨x, h0⟩, y, h1⟩
      · exact .inr ⟨_, .c1 h0 h1⟩
    · exact .inr ⟨_, .c0 h0⟩
  | byteArray kdf =>
    by_cases hlen : c0.length = c1.length
    · cases hcheck : kdf.check c0.length with
      | ok u => exact .inl ⟨hlen, Kdf.check_eq_ok_iff.1 hcheck⟩
      | error err =>
        obtain ⟨max, hmax, hlt, -⟩ := Kdf.exists_of_check_eq_error hcheck
        exact .inr ⟨_, .tooLong hlen hmax hlt⟩
    · exact .inr ⟨_, .unequal hlen⟩

end PayloadKind

/-! ## Replies -/

namespace Transfer

variable {G : DlogGroup} {kind : PayloadKind} {m : SenderMessage} {err : Error}
  {s : ReceiverSession G}

/-- Both key materials are members, and the ciphertexts are as they should be. -/
structure Usable (G : DlogGroup) (kind : PayloadKind) (m : SenderMessage) : Prop where
  w0 : ∃ w, G.Denotes m.w0 w
  w1 : ∃ w, G.Denotes m.w1 w
  ciphertexts : kind.Whole G m.c0 m.c1

/-- The first check that a reply fails. -/
inductive Faulty (G : DlogGroup) (kind : PayloadKind) (m : SenderMessage) : Error → Prop where
  | w0 {c} (h : G.Unfit "w0" m.w0 c) : Faulty G kind m (.cheatAttempt c)
  | w1 {w c} (h0 : G.Denotes m.w0 w) (h : G.Unfit "w1" m.w1 c) :
    Faulty G kind m (.cheatAttempt c)
  | ciphertexts {w w' err} (h0 : G.Denotes m.w0 w) (h1 : G.Denotes m.w1 w')
    (h : kind.Spoilt G m.c0 m.c1 err) : Faulty G kind m err

/-- A faulty reply is refused for the first check that it fails. -/
theorem Faulty.check_eq (h : Faulty G kind m err) (s : ReceiverSession G) :
    s.check (kind.payload G) m = .error err := by
  cases h with
  | w0 h => simp [ReceiverSession.check, h.member_eq, bind, Except.bind]
  | w1 h0 h => simp [ReceiverSession.check, h0.member_eq, h.member_eq, bind, Except.bind]
  | ciphertexts h0 h1 h =>
    simp [ReceiverSession.check, h0.member_eq, h1.member_eq, h.decode_eq, bind, Except.bind]

/-- A usable reply is accepted, and the chosen input is recovered. -/
theorem Usable.exists_output (hkind : kind.IsTotal) (h : Usable G kind m)
    (s : ReceiverSession G) :
    ∃ v x, s.check (kind.payload G) m = .ok v ∧ v.output = .ok x ∧
      kind.Fits (s.choice.select m.c0 m.c1) x := by
  obtain ⟨w0, h0⟩ := h.w0
  obtain ⟨w1, h1⟩ := h.w1
  obtain ⟨e0, e1, hdecode, hunmask⟩ := PayloadKind.exists_unmask hkind h.ciphertexts s.choice
  obtain ⟨x, hx, hfits⟩ := hunmask (s.choice.select w0 w1) s.beta
  refine ⟨⟨s.beta, s.choice.select w0 w1, s.choice.select e0 e1⟩, x, ?_, hx, hfits⟩
  simp [ReceiverSession.check, h0.member_eq, h1.member_eq, hdecode, bind, Except.bind, pure,
    Except.pure]

/-- Every reply is usable or faulty. -/
theorem usable_or_faulty (G : DlogGroup) (kind : PayloadKind) (m : SenderMessage) :
    Usable G kind m ∨ ∃ err, Faulty G kind m err := by
  obtain ⟨w0, h0⟩ | ⟨c, h0⟩ := DlogGroup.member_cases (G := G) "w0" m.w0
  · obtain ⟨w1, h1⟩ | ⟨c, h1⟩ := DlogGroup.member_cases (G := G) "w1" m.w1
    · obtain hwhole | ⟨err, hspoilt⟩ := kind.whole_or_spoilt G m.c0 m.c1
      · exact .inl ⟨⟨w0, h0⟩, ⟨w1, h1⟩, hwhole⟩
      · exact .inr ⟨err, .ciphertexts h0 h1 hspoilt⟩
    · exact .inr ⟨_, .w1 h0 h1⟩
  · exact .inr ⟨_, .w0 h0⟩

theorem Faulty.not_usable (hkind : kind.IsTotal) (h : Faulty G kind m err) :
    ¬ Usable G kind m := by
  rintro ⟨⟨w0, h0⟩, ⟨w1, h1⟩, hwhole⟩
  cases h with
  | w0 h => exact h0.not_unfit h
  | w1 _ h => exact h1.not_unfit h
  | ciphertexts _ _ h => exact h.not_whole hkind hwhole

/-- There is only one first fault. -/
theorem Faulty.unique {err' : Error} (h : Faulty G kind m err) (h' : Faulty G kind m err') :
    err = err' := by
  cases h with
  | w0 h =>
    cases h' with
    | w0 h' => rw [h.unique h']
    | w1 h0 => exact absurd h h0.not_unfit
    | ciphertexts h0 => exact absurd h h0.not_unfit
  | w1 h0 h =>
    cases h' with
    | w0 h' => exact absurd h' h0.not_unfit
    | w1 _ h' => rw [h.unique h']
    | ciphertexts _ h1 => exact absurd h h1.not_unfit
  | ciphertexts h0 h1 h =>
    cases h' with
    | w0 h' => exact absurd h' h0.not_unfit
    | w1 _ h' => exact absurd h' h1.not_unfit
    | ciphertexts _ _ h' => exact h.unique h'

/-- What is wrong with a reply is evidence against the sender. -/
theorem Faulty.isAbort (h : Faulty G kind m err) : err.isAbort = true := by
  cases h with
  | w0 | w1 => rfl
  | ciphertexts h0 h1 h => cases h <;> rfl

/-- Once a reply has passed the check, recovering the input cannot fail. -/
theorem exists_output_of_check (hkind : kind.IsTotal) {v : VerifiedReply G (kind.payload G)}
    (h : s.check (kind.payload G) m = .ok v) : ∃ x, v.output = .ok x := by
  obtain husable | ⟨err, hfaulty⟩ := usable_or_faulty G kind m
  · obtain ⟨v', x, hv', hx, -⟩ := husable.exists_output hkind s
    cases h.symm.trans hv'
    exact ⟨x, hx⟩
  · rw [hfaulty.check_eq] at h
    contradiction

end Transfer

end TwoParty
