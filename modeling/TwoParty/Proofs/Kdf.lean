import Mathlib.Data.Set.Function
import Mathlib.Order.Interval.Set.Defs
import TwoParty.Bytes.Range
import TwoParty.Kdf

/-!
# TwoParty.Proofs.Kdf

What the protocols ask of a key derivation: that it keeps what its length check
promises.  `IsTotal` asks for a pad, `IsExact` also for its length.

HKDF and KDF1 both cut their output from a chain of numbered blocks (`Blocks`).  That is
shown of each of them once (`isMadeOf_hkdf`, `isMadeOf_kdf1`), and the rest follows from it.
-/

namespace TwoParty

namespace Kdf

/-- Whatever length passes the check can be derived. -/
def IsTotal (k : Kdf) : Prop :=
  ∀ length, k.check length = .ok () → ∀ seed, ∃ pad, k.derive seed length = .ok pad

/-- Whatever length passes the check is the length of what is derived. -/
def IsExact (k : Kdf) : Prop :=
  ∀ length, k.check length = .ok () →
    ∀ seed, ∃ pad, k.derive seed length = .ok pad ∧ pad.length = length

/-- A derivation with exact lengths is total. -/
theorem IsExact.isTotal {k : Kdf} (h : k.IsExact) : k.IsTotal := by
  intro length hcheck seed
  obtain ⟨pad, hpad, -⟩ := h length hcheck seed
  exact ⟨pad, hpad⟩

/-! ## The length check -/

/-- A length passes unless it exceeds the limit. -/
theorem check_eq_ok_iff {k : Kdf} {length : Nat} :
    k.check length = .ok () ↔ ∀ max, k.maxOutput = some max → length ≤ max := by
  cases h : k.maxOutput with
  | none => simp [check, h]
  | some max => simp [check, h]

/-- A length that does not pass exceeds the limit, and the error says so. -/
theorem exists_of_check_eq_error {k : Kdf} {length : Nat} {err : Error}
    (h : k.check length = .error err) :
    ∃ max, k.maxOutput = some max ∧ max < length ∧ err = .invalidInput (.kdfLimit max length) := by
  cases hmax : k.maxOutput with
  | none => simp [check, hmax] at h
  | some max =>
    simp only [check, hmax] at h
    split at h
    · next hlt => exact ⟨max, rfl, hlt, (Except.error.inj h).symm⟩
    · contradiction

/-! ## Numbered blocks -/

/-- How a derivation makes the blocks of its output. -/
structure Blocks where
  size : Nat
  /-- How many blocks there can be. -/
  limit : Nat
  /-- How the numbers of the blocks are written, from the first block on. -/
  number : Nat → Bytes
  /-- A block from the seed, the block before it and its number. -/
  step : (seed last number : Bytes) → Bytes

namespace Blocks

variable {B : Blocks}

/-- The number of blocks that cover a length. -/
def count (B : Blocks) (length : Nat) : Nat := (length + B.size - 1) / B.size

/-- So many blocks, from block `i` on. -/
def chain (B : Blocks) (seed : Bytes) : (blocks i : Nat) → (last : Bytes) → Bytes
  | 0, _, _ => []
  | blocks + 1, i, last =>
    let next := B.step seed last (B.number i)
    next ++ B.chain seed blocks (i + 1) next

/-- As many blocks as are needed, cut to a length. -/
def output (B : Blocks) (seed : Bytes) (length : Nat) : Bytes :=
  (B.chain seed (B.count length) 0 []).take length

/-- Blocks have their size.  A 32-bit counter reaches all that there can be, and these have
different numbers. -/
structure IsFixed (B : Blocks) : Prop where
  size_pos : 0 < B.size
  length_step : ∀ seed last n, (B.step seed last n).length = B.size
  limit_lt : B.limit < UInt32.size
  number_injOn : Set.InjOn B.number (Set.Iio B.limit)

/-- So many blocks are enough for a length exactly if they hold it. -/
theorem IsFixed.count_le_iff (h : B.IsFixed) {length blocks : Nat} :
    B.count length ≤ blocks ↔ length ≤ blocks * B.size := by
  have hpos := h.size_pos
  rw [count, ← Nat.lt_succ_iff, Nat.div_lt_iff_lt_mul hpos, Nat.succ_mul]
  omega

theorem IsFixed.le_count_mul (h : B.IsFixed) (length : Nat) : length ≤ B.count length * B.size :=
  h.count_le_iff.1 (Nat.le_refl _)

/-- Blocks in a row hold as many bytes as all of them. -/
theorem IsFixed.length_chain (h : B.IsFixed) (seed : Bytes) (blocks i : Nat) (last : Bytes) :
    (B.chain seed blocks i last).length = blocks * B.size := by
  induction blocks generalizing i last with
  | zero => simp [chain]
  | succ blocks ih =>
    rw [chain, List.length_append, h.length_step, ih, Nat.succ_mul, Nat.add_comm]

/-- The output has the length that was asked for. -/
theorem IsFixed.length_output (h : B.IsFixed) (seed : Bytes) (length : Nat) :
    (B.output seed length).length = length := by
  rw [output, List.length_take, h.length_chain, Nat.min_eq_left (h.le_count_mul length)]

end Blocks

/-- The output is made of such blocks, and the limit is what all of them hold, as far as a
length can be that great. -/
structure IsMadeOf (k : Kdf) (B : Blocks) : Prop where
  isFixed : B.IsFixed
  maxOutput_eq : k.maxOutput = some (min (B.limit * B.size) lengthMax)
  derive_of_le : ∀ seed {length}, B.count length ≤ B.limit →
    k.derive seed length = .ok (B.output seed length)
  derive_of_lt : ∀ seed {length}, B.limit < B.count length →
    ∃ err, k.derive seed length = .error err

/-- Whatever passes the check needs no more blocks than there can be. -/
theorem IsMadeOf.count_le {k : Kdf} {B : Blocks} (h : k.IsMadeOf B) {length : Nat}
    (hcheck : k.check length = .ok ()) : B.count length ≤ B.limit := by
  have hmax := check_eq_ok_iff.1 hcheck _ h.maxOutput_eq
  exact h.isFixed.count_le_iff.2 (hmax.trans (Nat.min_le_left _ _))

/-- A derivation made of blocks is exact. -/
theorem IsMadeOf.isExact {k : Kdf} {B : Blocks} (h : k.IsMadeOf B) : k.IsExact :=
  fun length hcheck seed =>
    ⟨_, h.derive_of_le seed (h.count_le hcheck), h.isFixed.length_output seed length⟩

/-! ## HKDF -/

/-- The blocks of HKDF are numbered from one, in one byte. -/
def hkdfBlocks (info : Bytes) : Blocks where
  size := 32
  limit := 255
  number i := [UInt8.ofNat (i + 1)]
  step seed last number :=
    hmac sha256 (hmac sha256 (List.replicate 32 0) seed) (last ++ info ++ number)

/-- Blocks of HKDF: 32 bytes each, 255 of them, with numbers of one byte. -/
theorem isFixed_hkdfBlocks (info : Bytes) : (hkdfBlocks info).IsFixed where
  size_pos := Nat.zero_lt_succ 31
  length_step _ _ _ := Sha256.length_digest _
  limit_lt := show 255 < UInt32.size by decide
  number_injOn := by
    intro i hi j hj heq
    have hmod : (i + 1) % 256 = (j + 1) % 256 := by
      simpa using congrArg UInt8.toNat (List.head_eq_of_cons_eq heq)
    have hi' : i < 255 := hi
    have hj' : j < 255 := hj
    omega

/-- The expansion loop chains the blocks. -/
theorem expand_eq_chain (info seed : Bytes) (blocks i : Nat) (last : Bytes) :
    expand sha256 (hmac sha256 (List.replicate 32 0) seed) info blocks (i + 1) last =
      (hkdfBlocks info).chain seed blocks i last := by
  induction blocks generalizing i last with
  | zero => rfl
  | succ blocks ih =>
    rw [expand, Blocks.chain, ih]
    rfl

/-- HKDF is made of its blocks, whatever the info. -/
theorem isMadeOf_hkdf (info : Bytes) : (hkdf info).IsMadeOf (hkdfBlocks info) where
  isFixed := isFixed_hkdfBlocks info
  maxOutput_eq := congrArg some (Nat.min_eq_left (by decide)).symm
  derive_of_le seed {length} hcount := by
    have hmax : ¬ hkdfMax < length :=
      Nat.not_lt.2 ((isFixed_hkdfBlocks info).count_le_iff.1 hcount)
    simp only [hkdf, if_neg hmax, expand_eq_chain]
    rfl
  derive_of_lt seed {length} hcount := by
    have hmax : hkdfMax < length := Nat.not_le.1 fun hle =>
      Nat.not_le.2 hcount ((isFixed_hkdfBlocks info).count_le_iff.2 hle)
    exact ⟨_, if_pos hmax⟩

theorem isExact_hkdf (info : Bytes) : (hkdf info).IsExact := (isMadeOf_hkdf info).isExact

/-! ## KDF1 -/

/-- Every digest has the length that is said, and it is not empty. -/
structure Digest.IsFixed (d : Digest) : Prop where
  size_pos : 0 < d.size
  length_hash : ∀ m, (d.hash m).length = d.size

/-- SHA-256 has digests of one size. -/
theorem isFixed_sha256 : sha256.IsFixed := ⟨by decide, Sha256.length_digest⟩

theorem isFixed_sha512 : sha512.IsFixed := ⟨by decide, Sha512.length_digest⟩

/-- The blocks of KDF1 are numbered from zero, in four bytes. -/
def kdf1Blocks (d : Digest) : Blocks where
  size := d.size
  limit := counterLimit
  number := Bytes.word32BE
  step seed _ number := d.hash (seed ++ number)

/-- Over digests of one size the blocks of KDF1 have it too. -/
theorem Digest.IsFixed.blocks {d : Digest} (h : d.IsFixed) : (kdf1Blocks d).IsFixed where
  size_pos := h.size_pos
  length_step _ _ _ := h.length_hash _
  limit_lt := show counterLimit < UInt32.size by decide
  number_injOn := by
    have hread : ∀ i ∈ Set.Iio counterLimit, Bytes.natBE (Bytes.word32BE i) = i := fun i hi =>
      Bytes.natBE_word32BE (lt_trans hi (by decide))
    intro i hi j hj heq
    rw [← hread i hi, ← hread j hj]
    exact congrArg Bytes.natBE heq

/-- The counter loop makes blocks that do not look at the one before. -/
theorem counterBlocks_eq_chain (d : Digest) (seed : Bytes) (blocks i : Nat) (last : Bytes) :
    counterBlocks d seed blocks i = (kdf1Blocks d).chain seed blocks i last := by
  induction blocks generalizing i last with
  | zero => rfl
  | succ blocks ih =>
    rw [counterBlocks, Blocks.chain, ih]
    rfl

/-- KDF1 is made of its blocks over any digest of one size. -/
theorem isMadeOf_kdf1 {d : Digest} (h : d.IsFixed) : (kdf1 d).IsMadeOf (kdf1Blocks d) where
  isFixed := h.blocks
  maxOutput_eq := rfl
  derive_of_le seed {length} hcount := by
    simp only [kdf1, counterBlocks_eq_chain d seed _ _ []]
    exact if_neg (Nat.not_lt.2 hcount)
  derive_of_lt seed {length} hcount := ⟨_, if_pos hcount⟩

/-- The counter reaches as far as the limit promises. -/
theorem isExact_kdf1 {d : Digest} (h : d.IsFixed) : (kdf1 d).IsExact := (isMadeOf_kdf1 h).isExact

end Kdf

end TwoParty
