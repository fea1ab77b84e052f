import Mathlib.Data.Nat.Digits.Defs
import TwoParty.Group.Choice
import TwoParty.Proofs.Group.SafePrime

/-!
# TwoParty.Proofs.Group.ExponentCodec

The encodings of exponents in the three groups, which differ in their width and in which
byte comes first.

An `ExponentFormat` names these two and the number that an exponent stands for; `Describes`
is what has to be shown of one group.  That exponents and encodings match one to one follows
for all of them at once (`hasCanonicalExponents_of_accepted`).
-/

namespace TwoParty

/-! ## Numbers in either byte order -/

/-- Which byte of a number comes first. -/
inductive ByteOrder where
  | mostSignificantFirst
  | leastSignificantFirst

namespace ByteOrder

/-- The number whose digits to the base 256 are the bytes of a string. -/
def read : ByteOrder → Bytes → Nat
  | .mostSignificantFirst, bs => Nat.ofDigits 256 (bs.reverse.map UInt8.toNat)
  | .leastSignificantFirst, bs => Nat.ofDigits 256 (bs.map UInt8.toNat)

def write : ByteOrder → (width n : Nat) → Bytes
  | .mostSignificantFirst => Bytes.ofNatBE
  | .leastSignificantFirst => Bytes.ofNatLE

/-- The bytes of a string are the digits of its number to the base 256. -/
theorem natLE_eq_ofDigits (bs : Bytes) :
    Bytes.natLE bs = Nat.ofDigits 256 (bs.map UInt8.toNat) := by
  induction bs with
  | nil => rfl
  | cons b bs ih => simp [Bytes.natLE, Nat.ofDigits_cons, ih]

/-- With the least significant byte first, the digits spell what the codec reads. -/
theorem read_leastSignificantFirst (bs : Bytes) :
    read .leastSignificantFirst bs = Bytes.natLE bs :=
  (natLE_eq_ofDigits bs).symm

/-- So they do with the most significant byte first. -/
theorem read_mostSignificantFirst (bs : Bytes) :
    read .mostSignificantFirst bs = Bytes.natBE bs :=
  (natLE_eq_ofDigits bs.reverse).symm

theorem length_write (o : ByteOrder) (width n : Nat) : (o.write width n).length = width := by
  cases o with
  | mostSignificantFirst => exact Bytes.length_ofNatBE width n
  | leastSignificantFirst => exact Bytes.length_ofNatLE width n

/-- A number that fits its width reads back. -/
theorem read_write (o : ByteOrder) {width n : Nat} (h : n < 256 ^ width) :
    o.read (o.write width n) = n := by
  cases o with
  | mostSignificantFirst =>
    rw [read_mostSignificantFirst, write, Bytes.natBE_ofNatBE, Nat.mod_eq_of_lt h]
  | leastSignificantFirst =>
    rw [read_leastSignificantFirst, write, Bytes.natLE_ofNatLE, Nat.mod_eq_of_lt h]

/-- The number that a string spells is written as that string. -/
theorem write_read (o : ByteOrder) (bs : Bytes) : o.write bs.length (o.read bs) = bs := by
  cases o with
  | mostSignificantFirst => rw [read_mostSignificantFirst, write, Bytes.ofNatBE_natBE]
  | leastSignificantFirst => rw [read_leastSignificantFirst, write, Bytes.ofNatLE_natLE]

end ByteOrder

/-! ## The format of a group's exponents -/

/-- How a group writes its exponents. -/
structure ExponentFormat (G : DlogGroup) where
  width : Nat
  byteOrder : ByteOrder
  /-- The number that an exponent stands for. -/
  number : G.Exponent → Nat

namespace ExponentFormat

variable {G : DlogGroup}

/-- The codec of the group keeps to the format. -/
structure Describes (F : ExponentFormat G) : Prop where
  order_le : G.order ≤ 256 ^ F.width
  exists_number_eq : ∀ {n}, n < G.order → ∃ e, F.number e = n
  number_injective : Function.Injective F.number
  encode_eq : ∀ {e}, F.number e < G.order →
    G.encodeExponent e = F.byteOrder.write F.width (F.number e)
  decode_eq_ok_iff : ∀ {bs e}, G.decodeExponent bs = .ok e ↔
    bs.length = F.width ∧ F.byteOrder.read bs = F.number e ∧ F.number e < G.order

variable {F : ExponentFormat G} {bs : Bytes} {e : G.Exponent}

namespace Describes

/-- An exponent is decoded from strings of the width that spell its number, if that is below the
order. -/
theorem exponent_eq_ok_iff (h : F.Describes) : G.exponent bs = .ok e ↔
    bs.length = F.width ∧ F.byteOrder.read bs = F.number e ∧ F.number e < G.order := by
  rw [← h.decode_eq_ok_iff, DlogGroup.exponent]
  cases G.decodeExponent bs <;> simp [Except.mapError]

/-- Exponents below the order have encodings of the width. -/
theorem length_encode (h : F.Describes) (he : F.number e < G.order) :
    (G.encodeExponent e).length = F.width := by
  rw [h.encode_eq he, ByteOrder.length_write]

/-- The encoding of an exponent below the order spells its number. -/
theorem read_encode (h : F.Describes) (he : F.number e < G.order) :
    F.byteOrder.read (G.encodeExponent e) = F.number e := by
  rw [h.encode_eq he, ByteOrder.read_write _ (he.trans_le h.order_le)]

theorem exponent_encode (h : F.Describes) (he : F.number e < G.order) :
    G.exponent (G.encodeExponent e) = .ok e :=
  h.exponent_eq_ok_iff.2 ⟨h.length_encode he, h.read_encode he, he⟩

/-- Strings are accepted for their width and the number that they spell. -/
theorem exists_exponent_eq_ok_iff (h : F.Describes) :
    (∃ e, G.exponent bs = .ok e) ↔ bs.length = F.width ∧ F.byteOrder.read bs < G.order := by
  constructor
  · intro hok
    obtain ⟨e, he⟩ := hok
    obtain ⟨hlength, hread, hlt⟩ := h.exponent_eq_ok_iff.1 he
    exact ⟨hlength, hread ▸ hlt⟩
  · intro hbs
    obtain ⟨hlength, hlt⟩ := hbs
    obtain ⟨e, he⟩ := h.exists_number_eq hlt
    exact ⟨e, h.exponent_eq_ok_iff.2 ⟨hlength, he.symm, he ▸ hlt⟩⟩

/-- Every number below the order is that of one exponent. -/
theorem existsUnique_number_eq (h : F.Describes) {n : Nat} (hn : n < G.order) :
    ∃! e, F.number e = n := by
  obtain ⟨e, rfl⟩ := h.exists_number_eq hn
  exact ⟨e, rfl, fun e' he' => h.number_injective he'⟩

/-- A string that is decoded is the encoding of what it decodes to. -/
theorem encode_of_exponent (h : F.Describes) (he : G.exponent bs = .ok e) :
    G.encodeExponent e = bs := by
  obtain ⟨hlength, hread, hlt⟩ := h.exponent_eq_ok_iff.1 he
  rw [h.encode_eq hlt, ← hread, ← hlength, ByteOrder.write_read]

end Describes

end ExponentFormat

/-! ## The three groups -/

namespace GroupChoice

def exponentFormat : (c : GroupChoice) → ExponentFormat c.group
  | .secp256k1 => ⟨32, .mostSignificantFirst, fun e : Secp256k1.Scalar => e.val⟩
  | .ristretto255 => ⟨32, .leastSignificantFirst, fun e : Ristretto.Scalar => e.val⟩
  | .safePrime s => ⟨s.exponentLength, .mostSignificantFirst, fun n : Nat => n⟩

/-- Parameters, where a group has any, pass their check. -/
def Accepted : GroupChoice → Prop
  | .secp256k1 => True
  | .ristretto255 => True
  | .safePrime s => s.Accepted

/-- A decoder that looks at the width and then at the bound takes what stands for the number
of the string. -/
theorem decode_eq_ok_iff {α : Type} {length width n order : Nat} (number : α → Nat)
    (hinj : Function.Injective number) (make : n < order → α) (hmake : ∀ h, number (make h) = n)
    {wrongWidth tooLarge : Malformed} {e : α} :
    (if length ≠ width then .error wrongWidth
      else if h : n < order then .ok (make h) else .error tooLarge : Except Malformed α) = .ok e ↔
    length = width ∧ n = number e ∧ number e < order := by
  by_cases hlength : length = width
  · by_cases hn : n < order
    · have hmake_eq : make hn = e ↔ n = number e := by rw [← hinj.eq_iff, hmake]
      rw [if_neg (not_not.2 hlength), dif_pos hn, Except.ok.injEq, hmake_eq]
      exact ⟨fun he => ⟨hlength, he, he ▸ hn⟩, fun he => he.2.1⟩
    · rw [if_neg (not_not.2 hlength), dif_neg hn]
      exact ⟨fun he => by contradiction, fun he => absurd (he.2.1 ▸ he.2.2) hn⟩
  · rw [if_pos hlength]
    exact ⟨fun he => by contradiction, fun he => absurd he.1 hlength⟩

/-- Scalars of secp256k1 are written in 32 bytes, the most significant one first. -/
theorem describes_secp256k1 : (exponentFormat .secp256k1).Describes where
  order_le := by decide
  exists_number_eq {n} hn := ⟨⟨n, hn⟩, rfl⟩
  number_injective := Fin.val_injective
  encode_eq _ := rfl
  decode_eq_ok_iff {bs e} := by
    rw [exponentFormat, ByteOrder.read_mostSignificantFirst]
    exact decode_eq_ok_iff _ Fin.val_injective (fun h => ⟨Bytes.natBE bs, h⟩) fun _ => rfl

/-- Scalars of ristretto255 are written in 32 bytes, the least significant one first. -/
theorem describes_ristretto255 : (exponentFormat .ristretto255).Describes where
  order_le := by decide
  exists_number_eq {n} hn := ⟨⟨n, hn⟩, rfl⟩
  number_injective := Fin.val_injective
  encode_eq _ := rfl
  decode_eq_ok_iff {bs e} := by
    rw [exponentFormat, ByteOrder.read_leastSignificantFirst]
    exact decode_eq_ok_iff _ Fin.val_injective (fun h => ⟨Bytes.natLE bs, h⟩) fun _ => rfl

/-- Exponents modulo `q` are written in the bytes that `q` takes, the most significant one first.
-/
theorem describes_safePrime (s : SafePrime) : (exponentFormat (.safePrime s)).Describes where
  order_le := (Bytes.lt_pow_byteLength s.q).le
  exists_number_eq {n} _ := ⟨(n : Nat), rfl⟩
  number_injective _ _ h := h
  encode_eq {e} he := by
    -- no number below the order is wider than the order
    have hwidth : Bytes.byteLength (id (α := Nat) e) ≤ s.exponentLength :=
      Bytes.byteLength_mono he.le
    show Bytes.padBE s.exponentLength (id (α := Nat) e) = Bytes.ofNatBE s.exponentLength _
    rw [Bytes.padBE, Nat.max_eq_left hwidth]
    rfl
  decode_eq_ok_iff {bs e} := by
    rw [exponentFormat, ByteOrder.read_mostSignificantFirst]
    exact decode_eq_ok_iff _ (fun _ _ h => h) (fun _ => Bytes.natBE bs) fun _ => rfl

/-- All three groups keep to their formats. -/
theorem describes (c : GroupChoice) : c.exponentFormat.Describes := by
  cases c with
  | secp256k1 => exact describes_secp256k1
  | ristretto255 => exact describes_ristretto255
  | safePrime s => exact describes_safePrime s

/-! ## Where exponents come from -/

/-- The sampler of a group, which gives up after a number of draws. -/
def draw : (c : GroupChoice) → (limit : Nat) → ByteSource →
    Option (c.group.Exponent × ByteSource)
  | .secp256k1, limit => ByteSource.draw 32 Secp256k1.scalarOfDraw limit
  | .ristretto255, limit => ByteSource.draw 64 Ristretto.scalarOfDraw limit
  | .safePrime s, limit => ByteSource.draw (4 * s.sampleWords) s.exponentOfWords limit

/-- The group gives up late. -/
theorem draw_drawLimit (c : GroupChoice) : c.draw ByteSource.drawLimit = c.group.sample := by
  cases c <;> simp only [draw, group, Secp256k1.group, Ristretto.group, SafePrime.group]

/-- What the operations of a group give, whatever they are applied to. -/
inductive Produced (c : GroupChoice) : c.group.Exponent → Prop where
  | drawn {limit t u e} (h : c.draw limit t = some (e, u)) : Produced c e
  | neg (a) : Produced c (c.group.neg a)
  | add (a b) : Produced c (c.group.add a b)
  | times (a b) : Produced c (c.group.times a b)
  | ofUniform (bs) : Produced c (c.group.exponentOfUniform bs)

variable {c : GroupChoice}

/-- Whatever an honest party computes or draws is below the order. -/
theorem Produced.number_lt (h : c.Accepted) {e : c.group.Exponent} (he : c.Produced e) :
    c.exponentFormat.number e < c.group.order := by
  cases c with
  | secp256k1 => exact Fin.isLt (n := Secp256k1.order) e
  | ristretto255 => exact Fin.isLt (n := Ristretto.order) e
  | safePrime s =>
    have hmod : ∀ n : Nat, n % s.q < s.q := fun n =>
      Nat.mod_lt n ((Nat.zero_lt_succ _).trans (SafePrime.two_lt_q h))
    cases he with
    | drawn ht => exact (SafePrime.draw_range ht).2
    | neg a => exact hmod _
    | add a b => exact hmod _
    | times a b => exact hmod _
    | ofUniform bs => exact hmod _

/-! ## One encoding for each exponent -/

/-- The exponents in range and the accepted strings match one to one, and nothing but
exponents in range is ever produced. -/
structure HasCanonicalExponents (c : GroupChoice) : Prop where
  existsUnique_number_eq : ∀ {n}, n < c.group.order → ∃! e, c.exponentFormat.number e = n
  length_encode : ∀ {e}, c.exponentFormat.number e < c.group.order →
    (c.group.encodeExponent e).length = c.exponentFormat.width
  read_encode : ∀ {e}, c.exponentFormat.number e < c.group.order →
    c.exponentFormat.byteOrder.read (c.group.encodeExponent e) = c.exponentFormat.number e
  exponent_encode : ∀ {e}, c.exponentFormat.number e < c.group.order →
    c.group.exponent (c.group.encodeExponent e) = .ok e
  exists_exponent_eq_ok_iff : ∀ {bs}, (∃ e, c.group.exponent bs = .ok e) ↔
    bs.length = c.exponentFormat.width ∧ c.exponentFormat.byteOrder.read bs < c.group.order
  number_of_exponent : ∀ {bs e}, c.group.exponent bs = .ok e →
    c.exponentFormat.number e = c.exponentFormat.byteOrder.read bs
  encode_of_exponent : ∀ {bs e}, c.group.exponent bs = .ok e → c.group.encodeExponent e = bs
  number_lt_of_produced : ∀ {e}, c.Produced e → c.exponentFormat.number e < c.group.order
  exponent_encode_of_produced : ∀ {e}, c.Produced e →
    c.group.exponent (c.group.encodeExponent e) = .ok e

/-- Every group that a session can be set up over writes its exponents in one way only. -/
theorem hasCanonicalExponents_of_accepted (h : c.Accepted) : c.HasCanonicalExponents where
  existsUnique_number_eq hn := c.describes.existsUnique_number_eq hn
  length_encode he := c.describes.length_encode he
  read_encode he := c.describes.read_encode he
  exponent_encode he := c.describes.exponent_encode he
  exists_exponent_eq_ok_iff := c.describes.exists_exponent_eq_ok_iff
  number_of_exponent he := (c.describes.exponent_eq_ok_iff.1 he).2.1.symm
  encode_of_exponent he := c.describes.encode_of_exponent he
  number_lt_of_produced he := he.number_lt h
  exponent_encode_of_produced he := c.describes.exponent_encode (he.number_lt h)

/-- With order 11, the byte 10 is an exponent and the byte 11 is none. -/
theorem hasCanonicalExponents_of_accepted_small :
    let c := GroupChoice.safePrime SafePrime.small
    c.Accepted ∧ (∃ e, c.group.exponent [10] = .ok e ∧ c.group.encodeExponent e = [10]) ∧
    ¬ ∃ e, c.group.exponent [11] = .ok e :=
  have haccepted : (safePrime SafePrime.small).Accepted := SafePrime.small_accepted
  have hsmall := hasCanonicalExponents_of_accepted haccepted
  have hten : ∃ e, (safePrime SafePrime.small).group.exponent [10] = .ok e :=
    hsmall.exists_exponent_eq_ok_iff.2 (by decide)
  ⟨haccepted, hten.imp fun _ he => ⟨he, hsmall.encode_of_exponent he⟩,
    fun he => absurd (hsmall.exists_exponent_eq_ok_iff.1 he) (by decide)⟩

end GroupChoice

end TwoParty
