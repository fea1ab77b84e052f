import TwoParty.Party
import TwoParty.Proofs.Wire.Messages

/-!
# TwoParty.Proofs.Wire.RoundTrip

The wire format, message type by message type: each message is an object with named
members, its text is the compact text of that object in small letters, and every text of
the object reads as the message, with the members in any order and the letters of the
digits in either case (`RoundTrips`).

A string with other letters holds the same bytes (`Record.holds_of_lower`), so reading a
restyled object is a case of reading an object whose members hold the values of a record.
-/

namespace TwoParty

/-! ## Letters in either case -/

def isUpper (b : UInt8) : Bool := 0x41 ≤ b && b ≤ 0x5a

/-- The small form of a capital letter, and any other byte as it is. -/
def lowerByte (b : UInt8) : UInt8 := if isUpper b then b + 0x20 else b

def IsSmall (bs : Bytes) : Prop := ∀ b ∈ bs, isUpper b = false

@[simp] theorem isSmall_nil : IsSmall [] := by simp [IsSmall]

@[simp] theorem isSmall_cons {b : UInt8} {bs : Bytes} :
    IsSmall (b :: bs) ↔ isUpper b = false ∧ IsSmall bs := by simp [IsSmall]

@[simp] theorem isSmall_append {bs cs : Bytes} :
    IsSmall (bs ++ cs) ↔ IsSmall bs ∧ IsSmall cs := by simp [IsSmall, or_imp, forall_and]

/-- A property of bytes is one of the numbers below 256. -/
theorem forall_byte {P : UInt8 → Prop} (h : ∀ n < 256, P (UInt8.ofNat n)) (b : UInt8) : P b := by
  have hb := h b.toNat b.toNat_lt
  rwa [UInt8.ofNat_toNat] at hb

namespace Hex

/-- The value of a hex digit does not depend on its case. -/
theorem value?_lowerByte (b : UInt8) : value? (lowerByte b) = value? b :=
  forall_byte (P := fun b => value? (lowerByte b) = value? b) (by decide +kernel) b

theorem isUpper_digit : ∀ n < 16, isUpper (digit n) = false := by decide

/-- Hex text is written in small letters. -/
theorem isSmall_encode (bs : Bytes) : IsSmall (encode bs) := by
  induction bs with
  | nil => simp [encode]
  | cons b bs ih =>
    have hb : b.toNat < 256 := b.toNat_lt
    have hhigh := isUpper_digit (b.toNat / 16) (by omega)
    have hlow := isUpper_digit (b.toNat % 16) (by omega)
    simp [encode, hhigh, hlow, ih]

/-- Decoding takes digits in either case. -/
theorem decodeFrom_map_lowerByte {position : Nat} {text bs : Bytes} :
    decodeFrom position (text.map lowerByte) = .ok bs ↔ decodeFrom position text = .ok bs := by
  fun_induction decodeFrom position text generalizing bs with
  | case1 => rfl
  | case2 => simp [decodeFrom]
  | case3 position high low rest hi lo hhigh hlow ih =>
    simp [decodeFrom, value?_lowerByte, hhigh, hlow, Json.map_eq_ok_iff, ih]
  | case4 position high low rest hi hhigh hlow =>
    simp [decodeFrom, value?_lowerByte, hhigh, hlow]
  | case5 position high low rest hhigh =>
    simp [decodeFrom, value?_lowerByte, hhigh]

/-- Digits in either case spell the same bytes. -/
theorem decode_map_lowerByte {text bs : Bytes} :
    decode (text.map lowerByte) = .ok bs ↔ decode text = .ok bs := by
  rw [decode, decode, List.length_map]
  split
  · simp
  · exact decodeFrom_map_lowerByte

end Hex

namespace Json

/-- A string in small letters, and any other value as it is. -/
def lower : Json → Json
  | .string text => .string (text.map lowerByte)
  | v => v

/-- Whether a byte needs an escape does not depend on its case. -/
theorem isPlain_lowerByte (b : UInt8) : isPlain (lowerByte b) = isPlain b :=
  forall_byte (P := fun b => isPlain (lowerByte b) = isPlain b) (by decide +kernel) b

theorem isPlainValue_lower (v : Json) : v.lower.isPlainValue = v.isPlainValue := by
  cases v with
  | string text => simp [lower, isPlainValue, Function.comp_def, isPlain_lowerByte]
  | _ => rfl

theorem isUpper_of_isDigit {b : UInt8} : isDigit b = true → isUpper b = false :=
  forall_byte (P := fun b => isDigit b = true → isUpper b = false) (by decide +kernel) b

theorem isSmall_digitBytes (n : Nat) : IsSmall (digitBytes n) := by
  intro b hb
  obtain ⟨c, hc, rfl⟩ := List.mem_map.1 hb
  have hdigit := Nat.isDigit_of_mem_toDigits (by decide) (by decide) hc
  exact isUpper_of_isDigit (isDigit_toUInt8 hdigit)

/-- A member whose text has no capital letters. -/
def IsSmallMember (m : Bytes × Json) : Prop := IsSmall (printString m.1) ∧ IsSmall (print m.2)

theorem isSmall_printRest {ms : List (Bytes × Json)} (h : ∀ m ∈ ms, IsSmallMember m) :
    IsSmall (printRest ms) := by
  induction ms with
  | nil => simp [printRest]
  | cons m ms ih =>
    rw [List.forall_mem_cons] at h
    have hcomma : isUpper 0x2c = false := rfl
    have hcolon : isUpper 0x3a = false := rfl
    simp [printRest, hcomma, hcolon, h.1.1, h.1.2, ih h.2]

/-- The text of an object has no capital letters if its members have none. -/
theorem isSmall_print_object {ms : List (Bytes × Json)} (h : ∀ m ∈ ms, IsSmallMember m) :
    IsSmall (print (.object ms)) := by
  have hopen : isUpper 0x7b = false := rfl
  have hcolon : isUpper 0x3a = false := rfl
  have hclose : isUpper 0x7d = false := rfl
  cases ms with
  | nil => simp [print, printMembers, hopen, hclose]
  | cons m ms =>
    rw [List.forall_mem_cons] at h
    rw [print, printMembers_cons]
    simp [hopen, hcolon, hclose, h.1.1, h.1.2, isSmall_printRest h.2]

end Json

/-- The members of an object in some order, with the letters of their strings in either
case. -/
def Restyled (ms ms' : List (Bytes × Json)) : Prop :=
  (ms'.map fun m => (m.1, m.2.lower)).Perm ms

namespace Restyled

variable {ms ms' : List (Bytes × Json)}

theorem mem (h : Restyled ms ms') {m : Bytes × Json} (hm : m ∈ ms') : (m.1, m.2.lower) ∈ ms :=
  h.subset (List.mem_map_of_mem (f := fun m => (m.1, m.2.lower)) hm)

/-- The keys are those of the original members, in some order. -/
theorem keys (h : Restyled ms ms') : (ms'.map Prod.fst).Perm (ms.map Prod.fst) := by
  have hkeys := h.map Prod.fst
  rwa [List.map_map] at hkeys

/-- Other letters need no escapes either. -/
theorem isPlainMember (h : Restyled ms ms') (hms : ∀ m ∈ ms, Json.IsPlainMember m) :
    ∀ m ∈ ms', Json.IsPlainMember m := by
  intro m hm
  obtain ⟨hkey, hvalue⟩ := hms _ (h.mem hm)
  exact ⟨hkey, (Json.isPlainValue_lower m.2).symm.trans hvalue⟩

end Restyled

namespace Wire

/-- The value of a field does not depend on the case of its digits. -/
theorem ofJson_of_lower {k : FieldKind} {json : Json} {v : k.Value}
    (h : k.ofJson json.lower = .ok v) : k.ofJson json = .ok v := by
  cases json with
  | string text =>
    cases k with
    | hex =>
      have hdecode : Hex.decode (text.map lowerByte) = .ok v := by
        rw [Json.lower, FieldKind.ofJson, hexValue] at h
        split at h
        · next heq =>
          cases h
          exact heq
        · cases h
      rw [FieldKind.ofJson, hexValue, Hex.decode_map_lowerByte.1 hdecode]
    | id => cases h
  | _ => exact h

def SmallNames (fs : List Field) : Prop := ∀ f ∈ fs, IsSmall f.key

instance (fs : List Field) : Decidable (SmallNames fs) :=
  decidable_of_iff ((fs.all fun f => f.key.all (isUpper · = false)) = true)
    (by simp [SmallNames, IsSmall])

namespace Record

variable {fs : List Field} {r : Record fs}

/-- A member in other letters holds the same value. -/
theorem holds_of_lower {m : Bytes × Json} (hm : (m.1, m.2.lower) ∈ r.json) : r.Holds m := by
  obtain ⟨f, v, hr, heq⟩ := has_of_mem_json hm
  obtain ⟨hkey, hvalue⟩ := Prod.mk.inj heq
  exact ⟨f, v, hr, hkey, ofJson_of_lower (hvalue ▸ ofJson_toJson f.kind v)⟩

/-- The members of a record have no capital letters if the names of its fields have none. -/
theorem isSmallMember_of_mem_json (hplain : PlainNames fs) (hsmall : SmallNames fs)
    {m : Bytes × Json} (hm : m ∈ r.json) : Json.IsSmallMember m := by
  obtain ⟨f, v, hr, rfl⟩ := has_of_mem_json hm
  have hquote : isUpper 0x22 = false := rfl
  constructor
  · have hkey := hsmall f hr.mem
    simp [Json.printString_plain (hplain f hr.mem), hquote, hkey]
  · obtain ⟨name, kind⟩ := f
    cases kind with
    | hex =>
      have hdigits := Hex.isSmall_encode v
      simp [FieldKind.toJson, Json.print, Json.printString_plain (Json.isPlain_encode v), hquote,
        hdigits]
    | id =>
      have hdigits := Json.isSmall_digitBytes (UInt64.toNat v)
      rwa [← Json.ofText_digitText] at hdigits

end Record

end Wire

/-! ## Sending and receiving -/

namespace MemoryChannel

theorem setInbox_setInbox (c : MemoryChannel) (s : Side) (i j : Inbox) :
    (c.setInbox s i).setInbox s j = c.setInbox s j := by cases s <;> rfl

theorem setInbox_eq_self {c : MemoryChannel} {s : Side} {i : Inbox} (h : c.inbox s = i) :
    c.setInbox s i = c := by
  subst h
  cases s <;> rfl

end MemoryChannel

section
variable {α : Type} [Message α] [LawfulMessage α] {G : DlogGroup} {σ : Type}

/-- A message that is sent stands last in the inbox of the peer, as its text. -/
theorem run_sendMessage (step : String) (a : α) (d : Party.Desk σ) {queue : List Bytes}
    (h : d.channel.inbox d.side.other = .unread queue) :
    (Channel.sendMessage step a : ExceptT Error (Party G σ) Unit).run.run d =
      (.finished (.ok ()), ⟨d.store, d.random,
        d.channel.setInbox d.side.other (.unread (queue ++ [LawfulMessage.text a])), d.side⟩) := by
  have hsend : d.channel.send d.side (LawfulMessage.text a) = (.ok (),
      d.channel.setInbox d.side.other (.unread (queue ++ [LawfulMessage.text a]))) := by
    simp [MemoryChannel.send, h]
  rw [Channel.sendMessage, LawfulMessage.write_eq]
  change Party.run (.send _ _) d = _
  rw [Party.run, hsend]
  rfl

/-- The text of a message that stands first in the inbox is received as the message. -/
theorem run_receiveMessage (step : String) (a : α) (d : Party.Desk σ) {queue : List Bytes}
    (h : d.channel.inbox d.side = .unread (LawfulMessage.text a :: queue)) :
    (Channel.receiveMessage step : ExceptT Error (Party G σ) α).run.run d =
      (.finished (.ok a), ⟨d.store, d.random, d.channel.setInbox d.side (.unread queue),
        d.side⟩) := by
  have hreceive : d.channel.receive d.side = (.message (LawfulMessage.text a),
      d.channel.setInbox d.side (.unread queue)) := by
    simp [MemoryChannel.receive, h]
  change Party.run (.receive _) d = _
  rw [Party.run, hreceive]
  change Party.run (.done (Channel.readMessage step (LawfulMessage.text a))) _ = _
  rw [Channel.readMessage_of_read step (LawfulMessage.read_text a)]
  rfl

end

/-! ## Round trips -/

/-- Messages travel as the objects with these members. -/
structure RoundTrips (α : Type) [Message α] (members : α → List (Bytes × Json)) : Prop where
  /-- A message is written as the compact text of its object. -/
  write_eq : ∀ a, Message.write a = .ok (Json.print (.object (members a)))
  /-- Whatever channel it is sent over, this text is what is sent, and the message is what
  is made of it. -/
  travels : ∀ {m : Type → Type} [Monad m] [MonadChannel m] (step : String) (a : α),
    (Channel.sendMessage step a : ExceptT Error m Unit) =
        Channel.sendBytes step (Json.print (.object (members a))) ∧
      Channel.readMessage step (Json.print (.object (members a))) = .ok a
  /-- Over a memory channel with nothing on the way, one end receives what the other
  sends. -/
  receives : ∀ {G : DlogGroup} {σ τ : Type} (step step' : String) (a : α) (one : Party.Desk σ)
    (two : Party.Desk τ), one.channel.inbox one.side.other = .unread [] →
    two.side = one.side.other → ∃ sent : MemoryChannel,
      (Channel.sendMessage step a : ExceptT Error (Party G σ) Unit).run.run one =
        (.finished (.ok ()), { one with channel := sent }) ∧
      (Channel.receiveMessage step' : ExceptT Error (Party G τ) α).run.run
          { two with channel := sent } =
        (.finished (.ok a), { two with channel := one.channel })
  /-- Every text of the object reads as the message, with the members in any order and the
  letters of the digits in either case. -/
  read_eq : ∀ (a : α) {ms : List (Bytes × Json)} {s : Bytes}, Restyled (members a) ms →
    Json.parse s = .ok (.object ms) → Message.read s = .ok a
  /-- Each order and each case has such a text. -/
  parse_eq : ∀ (a : α) {ms : List (Bytes × Json)}, Restyled (members a) ms →
    Json.parse (Json.print (.object ms)) = .ok (.object ms)
  /-- Whatever reads as a message, the message is written in small letters and with its
  members in order, and reads back. -/
  rewrite : ∀ {s : Bytes} {a : α}, Message.read s = .ok a → ∃ text,
    Message.write a = .ok text ∧ text = Json.print (.object (members a)) ∧ IsSmall text ∧
      Message.read text = .ok a

/-- What a type of messages has to provide. -/
theorem RoundTrips.of_object {α : Type} [Message α] [LawfulMessage α]
    {members : α → List (Bytes × Json)}
    (htext : ∀ a, LawfulMessage.text a = Json.print (.object (members a)))
    (hplain : ∀ a, ∀ m ∈ members a, Json.IsPlainMember m)
    (hsmall : ∀ a, ∀ m ∈ members a, Json.IsSmallMember m)
    (hread : ∀ (a : α) {ms : List (Bytes × Json)} {s : Bytes}, Restyled (members a) ms →
      Json.IsObject s ms → Message.read s = .ok a) : RoundTrips α members where
  write_eq a := htext a ▸ LawfulMessage.write_eq a
  travels step a := by
    rw [← htext]
    refine ⟨?_, Channel.readMessage_of_read step (LawfulMessage.read_text a)⟩
    rw [Channel.sendMessage, LawfulMessage.write_eq]
  receives {G σ τ} step step' a one two hinbox hside := by
    refine ⟨_, run_sendMessage step a one hinbox, ?_⟩
    have hreceive := @run_receiveMessage α _ _ G τ step' a ⟨two.store, two.random,
      one.channel.setInbox one.side.other (.unread [LawfulMessage.text a]), one.side.other⟩ []
      (MemoryChannel.inbox_setInbox _ _ _)
    -- The receive empties the inbox that the send had filled.
    rw [MemoryChannel.setInbox_setInbox, MemoryChannel.setInbox_eq_self hinbox] at hreceive
    rwa [List.nil_append, hside]
  read_eq a ms s hms hs := by
    refine hread a hms (Json.isObject_of_parse hs fun m hm => ?_)
    exact Json.isScalar_of_isPlainValue (hms.isPlainMember (hplain a) m hm).2
  parse_eq a ms hms := Json.parse_print (hms.isPlainMember (hplain a))
  rewrite {s a} _ := ⟨_, LawfulMessage.write_eq a, htext a,
    htext a ▸ Json.isSmall_print_object (hsmall a), LawfulMessage.read_text a⟩

/-- Plain records without capital letters in their names round-trip. -/
theorem roundTrips_plain (α : Type) [PlainRecord α] [LawfulPlainRecord α]
    (hsmall : Wire.SmallNames (PlainRecord.fields α)) :
    RoundTrips α (PlainRecord.json (α := α)) := by
  refine .of_object writePlain_eq_print (fun a m hm => ?_) (fun a m hm => ?_) ?_
  · exact Wire.Record.isPlainMember_of_mem_json LawfulPlainRecord.plainNames hm
  · exact Wire.Record.isSmallMember_of_mem_json LawfulPlainRecord.plainNames hsmall hm
  · intro a ms s hms hs
    refine PlainRecord.read_of_isObject hs (fun m hm => Wire.Record.holds_of_lower (hms.mem hm)) ?_
    exact (Wire.Record.map_fst_json (PlainRecord.toRecord a)) ▸ hms.keys

/-- So do records with an embedded part. -/
theorem roundTrips_embedding (α : Type) [EmbeddingRecord α] [LawfulEmbeddingRecord α]
    (hown : Wire.SmallNames (EmbeddingRecord.own α))
    (hinner : Wire.SmallNames (EmbeddingRecord.inner α)) :
    RoundTrips α (EmbeddingRecord.json (α := α)) := by
  refine .of_object writeEmbedding_eq_print (fun a m hm => ?_) (fun a m hm => ?_) ?_
  · obtain hm | hm := List.mem_append.1 hm
    · exact Wire.Record.isPlainMember_of_mem_json LawfulEmbeddingRecord.ownNames hm
    · exact Wire.Record.isPlainMember_of_mem_json LawfulEmbeddingRecord.innerNames hm
  · obtain hm | hm := List.mem_append.1 hm
    · exact Wire.Record.isSmallMember_of_mem_json LawfulEmbeddingRecord.ownNames hown hm
    · exact Wire.Record.isSmallMember_of_mem_json LawfulEmbeddingRecord.innerNames hinner hm
  · intro a ms s hms hs
    refine EmbeddingRecord.read_of_isObject hs (fun m hm => ?_) ?_
    · obtain hm | hm := List.mem_append.1 (hms.mem hm)
      · exact .inl (Wire.Record.holds_of_lower hm)
      · exact .inr (Wire.Record.holds_of_lower hm)
    · have hkeys := hms.keys
      rwa [EmbeddingRecord.json, List.map_append, Wire.Record.map_fst_json,
        Wire.Record.map_fst_json] at hkeys

/-! ## The messages of the protocols -/

def hexMember (name : String) (bs : Bytes) : Bytes × Json :=
  (Bytes.ofText name, .string (Hex.encode bs))

def idMember (name : String) (id : CommitmentId) : Bytes × Json :=
  (Bytes.ofText name, .number (.nat id.toNat))

/-- The eight kinds of messages, with the members of their objects. -/
theorem roundTrips_messages :
    RoundTrips ReceiverMessage (fun m =>
      [hexMember "a" m.a, hexMember "b" m.b, hexMember "z0" m.z0, hexMember "z1" m.z1]) ∧
    RoundTrips SenderMessage (fun m =>
      [hexMember "w0" m.w0, hexMember "w1" m.w1, hexMember "c0" m.c0, hexMember "c1" m.c1]) ∧
    RoundTrips DlogProof (fun p => [hexMember "t" p.t, hexMember "response" p.response]) ∧
    RoundTrips OpeningProof (fun p =>
      [hexMember "t" p.t, hexMember "response_r" p.responseR,
        hexMember "response_x" p.responseX]) ∧
    RoundTrips Pedersen.SetupMessage (fun m => [hexMember "h" m.h]) ∧
    RoundTrips Pedersen.CommitMessage (fun m =>
      [idMember "id" m.id, hexMember "commitment" m.commitment]) ∧
    RoundTrips Pedersen.KnowledgeMessage (fun m =>
      [idMember "id" m.id, hexMember "t" m.proof.t, hexMember "response_r" m.proof.responseR,
        hexMember "response_x" m.proof.responseX]) ∧
    RoundTrips Pedersen.DecommitMessage (fun m =>
      [idMember "id" m.id, hexMember "value" m.value, hexMember "t" m.proof.t,
        hexMember "response" m.proof.response]) :=
  ⟨roundTrips_plain ReceiverMessage (by decide), roundTrips_plain SenderMessage (by decide),
    roundTrips_plain DlogProof (by decide), roundTrips_plain OpeningProof (by decide),
    roundTrips_plain Pedersen.SetupMessage (by decide),
    roundTrips_plain Pedersen.CommitMessage (by decide),
    roundTrips_embedding Pedersen.KnowledgeMessage (by decide) (by decide),
    roundTrips_embedding Pedersen.DecommitMessage (by decide) (by decide)⟩

/-- Another order, blanks, and digits in either case. -/
example : Message.read (Bytes.ofText "\x7b \"response\": \"0A\", \"t\":\"Ff\" \x7d") =
    .ok (⟨[0xff], [0x0a]⟩ : DlogProof) := by cbv

end TwoParty
