import TwoParty.Proofs.Kdf
import TwoParty.Transfer.Payload

/-!
# TwoParty.Proofs.Kdf.Limit

The limit of a derivation, its length check and its outputs go together, for every seed.

* `KeepsLimit` — what passes the check can be derived and has the length that was asked
  for; a shorter output is the front of a longer one; no counter runs over.
* `Payload.Covers` — no byte of a payload is left without a byte of its pad.

Both hold of HKDF and of KDF1 (`keepsLimit_of_standard`).
-/

namespace TwoParty

/-! ## Outputs -/

namespace Kdf

namespace Blocks

variable {B : Blocks}

/-- Fewer blocks are the front of more. -/
theorem chain_isPrefix (B : Blocks) (seed : Bytes) {b c : Nat} (h : b ≤ c) (i : Nat)
    (last : Bytes) : B.chain seed b i last <+: B.chain seed c i last := by
  induction b generalizing c i last with
  | zero => exact List.nil_prefix
  | succ b ih =>
    cases c with
    | zero => exact absurd h (Nat.not_succ_le_zero b)
    | succ c => exact (List.prefix_append_right_inj _).2 (ih (Nat.le_of_succ_le_succ h) _ _)

/-- A shorter output is the front of a longer one. -/
theorem IsFixed.take_output (h : B.IsFixed) (seed : Bytes) {m n : Nat} (hmn : m ≤ n) :
    (B.output seed n).take m = B.output seed m := by
  have hcount : B.count m ≤ B.count n := h.count_le_iff.2 (hmn.trans (h.le_count_mul n))
  obtain ⟨rest, hrest⟩ := B.chain_isPrefix seed hcount 0 []
  have hm : m ≤ (B.chain seed (B.count m) 0 []).length := by
    rw [h.length_chain]
    exact h.le_count_mul m
  rw [output, output, List.take_take, Nat.min_eq_left hmn, ← hrest,
    List.take_append_of_le_length hm]

end Blocks

/-! ## The limit -/

/-- The limit, the check and the outputs of a derivation that is made of these blocks. -/
structure KeepsLimit (k : Kdf) (B : Blocks) : Prop where
  /-- The check compares with the limit. -/
  check_iff : ∃ max, k.maxOutput = some max ∧ ∀ n, k.check n = .ok () ↔ n ≤ max
  /-- A length can be derived if it passes the check, and not otherwise. -/
  derive_iff : ∀ {n}, n ≤ lengthMax → ∀ seed,
    (∃ out, k.derive seed n = .ok out) ↔ k.check n = .ok ()
  length_eq : ∀ {seed n out}, k.derive seed n = .ok out → out.length = n
  derive_take : ∀ {seed m n out}, m ≤ n → k.derive seed n = .ok out →
    k.derive seed m = .ok (out.take m)
  /-- The output is cut from the blocks. -/
  derive_eq : ∀ {n}, k.check n = .ok () → ∀ seed, k.derive seed n = .ok (B.output seed n)
  /-- The number of blocks is a 32-bit word. -/
  count_lt : ∀ {n}, k.check n = .ok () → B.count n < UInt32.size
  /-- No two of them have the same number. -/
  number_injOn : ∀ {n}, k.check n = .ok () → Set.InjOn B.number (Set.Iio (B.count n))
  /-- The length of all of them is a 64-bit word, unless a block alone has more bytes than a
  32-bit word counts. -/
  room : B.size ≤ UInt32.size → ∀ {n}, k.check n = .ok () → B.count n * B.size ≤ lengthMax

variable {k : Kdf} {B : Blocks}

/-- A length can be derived if there are enough blocks. -/
theorem IsMadeOf.derive_eq_ok_iff (h : k.IsMadeOf B) {seed : Bytes} {n : Nat} {out : Bytes} :
    k.derive seed n = .ok out ↔ B.count n ≤ B.limit ∧ out = B.output seed n := by
  rcases Nat.lt_or_ge B.limit (B.count n) with hlt | hle
  · obtain ⟨err, herr⟩ := h.derive_of_lt seed hlt
    simp [herr, Nat.not_le.2 hlt]
  · simp [h.derive_of_le seed hle, hle, eq_comm]

/-- The check lets a length pass if there are enough blocks. -/
theorem IsMadeOf.check_eq_ok_iff (h : k.IsMadeOf B) {n : Nat} (hn : n ≤ lengthMax) :
    k.check n = .ok () ↔ B.count n ≤ B.limit := by
  rw [Kdf.check_eq_ok_iff, h.isFixed.count_le_iff]
  simp [h.maxOutput_eq, hn]

/-- A derivation made of blocks keeps its limit. -/
theorem IsMadeOf.keepsLimit (h : k.IsMadeOf B) : k.KeepsLimit B where
  check_iff := by
    refine ⟨_, h.maxOutput_eq, fun n => ?_⟩
    simp [Kdf.check_eq_ok_iff, h.maxOutput_eq]
  derive_iff {n} hn seed := by
    rw [h.check_eq_ok_iff hn]
    simp [h.derive_eq_ok_iff]
  length_eq {seed n out} hout := by
    obtain ⟨-, rfl⟩ := h.derive_eq_ok_iff.1 hout
    exact h.isFixed.length_output seed n
  derive_take {seed m n out} hmn hout := by
    obtain ⟨hcount, rfl⟩ := h.derive_eq_ok_iff.1 hout
    refine h.derive_eq_ok_iff.2 ⟨?_, h.isFixed.take_output seed hmn⟩
    exact h.isFixed.count_le_iff.2 (hmn.trans (h.isFixed.count_le_iff.1 hcount))
  derive_eq hcheck seed := h.derive_of_le seed (h.count_le hcheck)
  count_lt hcheck := (h.count_le hcheck).trans_lt h.isFixed.limit_lt
  number_injOn hcheck :=
    h.isFixed.number_injOn.mono fun _ hi => hi.trans_le (h.count_le hcheck)
  room hsize n hcheck := by
    have hcount : B.count n ≤ UInt32.size - 1 :=
      Nat.le_sub_one_of_lt ((h.count_le hcheck).trans_lt h.isFixed.limit_lt)
    exact (Nat.mul_le_mul hcount hsize).trans (by decide)

end Kdf

/-! ## Payloads -/

/-- A pad that is long enough reaches every byte. -/
theorem Bytes.xorPad_eq_zipWith {data pad : Bytes} (h : data.length ≤ pad.length) :
    xorPad data pad = List.zipWith (· ^^^ ·) data pad := by
  induction data generalizing pad with
  | nil => simp [xorPad]
  | cons d data ih =>
    cases pad with
    | nil => simp at h
    | cons p pad => simp [xorPad, ih (Nat.le_of_succ_le_succ h)]

namespace Payload

/-- What is masked or unmasked is joined, byte by byte, with a pad of its own length. -/
structure Covers (G : DlogGroup) (kdf : Kdf) : Prop where
  mask : ∀ {key : G.Element} {x c : Bytes}, (byteArray G kdf).mask key x = .ok c →
    ∃ pad, kdf.derive (G.encodeElement key) x.length = .ok pad ∧ pad.length = x.length ∧
      c = List.zipWith (· ^^^ ·) x pad
  unmask : ∀ {w : G.Element} {beta : G.Exponent} {c x : Bytes},
    (byteArray G kdf).unmask w beta c = .ok x →
    ∃ pad, kdf.derive (G.encodeElement (G.pow w beta)) c.length = .ok pad ∧
      pad.length = c.length ∧ x = List.zipWith (· ^^^ ·) c pad

/-- A derivation that gives the length asked for covers what it masks. -/
theorem covers_of_length_eq (G : DlogGroup) {kdf : Kdf}
    (h : ∀ {seed n out}, kdf.derive seed n = .ok out → out.length = n) : Covers G kdf := by
  have hmask : ∀ {key : G.Element} {x c : Bytes}, (byteArray G kdf).mask key x = .ok c →
      ∃ pad, kdf.derive (G.encodeElement key) x.length = .ok pad ∧ pad.length = x.length ∧
        c = List.zipWith (· ^^^ ·) x pad := by
    intro key x c hc
    simp only [byteArray, pad, bind, Except.bind] at hc
    cases hpad : kdf.derive (G.encodeElement key) x.length with
    | error err => simp [hpad] at hc
    | ok pad =>
      rw [hpad] at hc
      cases hc
      exact ⟨pad, rfl, h hpad, Bytes.xorPad_eq_zipWith (h hpad).ge⟩
  -- a mask comes off as it was put on
  exact ⟨hmask, fun hx => hmask hx⟩

end Payload

/-! ## The standard derivations -/

namespace Kdf

/-- HKDF, and KDF1 over any digest, with the blocks that they are made of. -/
inductive Standard : Kdf → Blocks → Prop where
  | hkdf (info : Bytes) : Standard (hkdf info) (hkdfBlocks info)
  | kdf1 {d : Digest} (h : d.IsFixed) : Standard (kdf1 d) (kdf1Blocks d)

/-- The two derivations are made of their blocks. -/
theorem Standard.isMadeOf {k : Kdf} {B : Blocks} (h : Standard k B) : k.IsMadeOf B := by
  cases h with
  | hkdf info => exact isMadeOf_hkdf info
  | kdf1 h => exact isMadeOf_kdf1 h

/-- The standard derivations keep their limits, and payloads are covered. -/
theorem keepsLimit_of_standard {k : Kdf} {B : Blocks} (h : Standard k B) :
    k.KeepsLimit B ∧ ∀ G, Payload.Covers G k :=
  have hlimit := h.isMadeOf.keepsLimit
  ⟨hlimit, fun G => Payload.covers_of_length_eq G hlimit.length_eq⟩

/-- HKDF derives 8160 bytes and no more, and KDF1 with SHA-256 a megabyte. -/
theorem keepsLimit_of_standard_small :
    (∀ seed, ∃ out, (hkdf []).derive seed 8160 = .ok out ∧ out.length = 8160) ∧
    (∀ seed out, (hkdf []).derive seed 8161 ≠ .ok out) ∧
    ∀ seed, ∃ out, (kdf1 sha256).derive seed 1048576 = .ok out ∧
      (kdf1 sha256).derive seed 33 = .ok (out.take 33) := by
  obtain ⟨hhkdf, -⟩ := keepsLimit_of_standard (Standard.hkdf [])
  obtain ⟨hkdf1, -⟩ := keepsLimit_of_standard (Standard.kdf1 isFixed_sha256)
  have hlength : 8160 ≤ lengthMax ∧ 8161 ≤ lengthMax ∧ 1048576 ≤ lengthMax := by decide
  refine ⟨fun seed => ?_, fun seed out hout => ?_, fun seed => ?_⟩
  · obtain ⟨out, hout⟩ := (hhkdf.derive_iff hlength.1 seed).2 rfl
    exact ⟨out, hout, hhkdf.length_eq hout⟩
  · have hcheck := (hhkdf.derive_iff hlength.2.1 seed).1 ⟨out, hout⟩
    exact absurd (check_eq_ok_iff.1 hcheck 8160 rfl) (by decide)
  · obtain ⟨out, hout⟩ := (hkdf1.derive_iff hlength.2.2 seed).2 rfl
    exact ⟨out, hout, hkdf1.derive_take (by decide) hout⟩

end Kdf

end TwoParty
