import TwoParty.Proofs.Json.Flat
import TwoParty.Wire.Record

/-!
# TwoParty.Proofs.Wire.Plain

Plain records read back.

A record is an object with the values of its fields (`Record.json`), and its text is the
compact text of this object (`object_members`).  The reader takes the members one by one
into slots.  All values come from one record, so the state of the reader is told by the
keys it has seen (`Slots.filled`), and neither the order of the members nor the spelling of
the values matters: `readPlain_of_isObject` holds for every text of an object whose members
hold the values of a record.  `read_writePlain` is the round trip of the message types.
-/

namespace TwoParty

namespace Wire

open Json (isPlain)

def Field.key (f : Field) : Bytes := Bytes.ofText f.name

/-! ## Slots that hold values of one record -/

/-- The record has this value in this field. -/
inductive Record.Has : {fs : List Field} → Record fs → (f : Field) → f.kind.Value → Prop
  | head {f : Field} {fs : List Field} (v : f.kind.Value) (rest : Record fs) :
    Has (.cons v rest) f v
  | tail {f g : Field} {fs : List Field} {v : f.kind.Value} (w : g.kind.Value)
    {rest : Record fs} : Has rest f v → Has (.cons w rest) f v

theorem Record.Has.mem {fs : List Field} {r : Record fs} {f : Field} {v : f.kind.Value}
    (h : r.Has f v) : f ∈ fs := by
  induction h with
  | head v rest => exact List.mem_cons_self
  | tail w h ih => exact List.mem_cons_of_mem _ ih

namespace Slots

/-- The values of a record under the keys seen so far. -/
def filled (seen : Bytes → Bool) : {fs : List Field} → Record fs → Slots fs
  | _, .nil => .nil
  | _, .cons (f := f) v rest => .cons (if seen f.key then some v else none) (filled seen rest)

theorem filled_none {fs : List Field} (r : Record fs) : filled (fun _ => false) r = empty fs := by
  induction r with
  | nil => rfl
  | cons v rest ih => simp [filled, empty, ih]

/-- Only the record's own keys matter. -/
theorem filled_congr {seen seen' : Bytes → Bool} {fs : List Field} (r : Record fs)
    (h : ∀ f ∈ fs, seen f.key = seen' f.key) : filled seen r = filled seen' r := by
  induction r with
  | nil => rfl
  | cons v rest ih =>
    rw [filled, filled, h _ List.mem_cons_self, ih fun f hf => h f (List.mem_cons_of_mem _ hf)]

/-- Once all keys were seen the slots are complete, and give the record back. -/
theorem complete_filled {seen : Bytes → Bool} {fs : List Field} (r : Record fs)
    (h : ∀ f ∈ fs, seen f.key = true) : (filled seen r).complete = .ok r := by
  induction r with
  | nil => rfl
  | cons v rest ih =>
    rw [filled, if_pos (h _ List.mem_cons_self), complete,
      ih fun f hf => h f (List.mem_cons_of_mem _ hf)]
    rfl

/-- A key that was not seen yet gets its value. -/
theorem fill_filled {β : Type} {fs : List Field} {r : Record fs} {f : Field} {v : f.kind.Value}
    {seen : Bytes → Bool} {read : (k : FieldKind) → Except Json.Error (k.Value × β)} {b : β}
    (h : r.Has f v) (hnodup : (fs.map Field.key).Nodup) (hseen : seen f.key = false)
    (hread : read f.kind = .ok (v, b)) :
    fill f.key read (filled seen r) =
      .ok (some (filled (fun key => key = f.key || seen key) r, b)) := by
  -- The slot of the field is the first one or a later one; the others are not touched.
  induction h with
  | @head f fs v rest =>
    have hrest : filled (fun key => key = f.key || seen key) rest = filled seen rest := by
      refine filled_congr rest fun g hg => ?_
      have hne : g.key ≠ f.key := fun he =>
        (List.nodup_cons.1 hnodup).1 (he ▸ List.mem_map_of_mem hg)
      simp [hne]
    have hkey : f.key = Bytes.ofText f.name := rfl
    rw [filled, hseen, fill, if_pos hkey, hread, filled, hrest]
    simp [Except.map]
  | @tail f g fs v w rest h ih =>
    obtain ⟨hg, hnd⟩ := List.nodup_cons.1 hnodup
    have hne : f.key ≠ g.key := fun he => hg (he ▸ List.mem_map_of_mem h.mem)
    have hne' : f.key ≠ Bytes.ofText g.name := hne
    rw [filled, fill, if_neg hne', ih hnd hseen hread, filled]
    simp [Except.map, hne.symm]

/-- A key of no field is left to others. -/
theorem fill_of_notMem {β : Type} {fs : List Field} (slots : Slots fs) {key : Bytes}
    {read : (k : FieldKind) → Except Json.Error (k.Value × β)} (h : key ∉ fs.map Field.key) :
    fill key read slots = .ok none := by
  induction slots with
  | nil => rfl
  | @cons f fs slot rest ih =>
    rw [List.map_cons, List.mem_cons, not_or] at h
    obtain ⟨hf, hfs⟩ := h
    have hf' : key ≠ Bytes.ofText f.name := hf
    rw [fill, if_neg hf', ih hfs]
    rfl

end Slots

/-! ## Values -/

/-- The JSON value of a field. -/
def FieldKind.toJson : (k : FieldKind) → k.Value → Json
  | .hex, bs => .string (Hex.encode bs)
  | .id, n => .number (.nat n.toNat)

/-- A value is read back from its JSON value. -/
theorem ofJson_toJson (k : FieldKind) (v : k.Value) : k.ofJson (k.toJson v) = .ok v := by
  cases k with
  | hex => simp [FieldKind.toJson, FieldKind.ofJson, hexValue, Hex.decode_encode]
  | id =>
    have hn : UInt64.ofNat (UInt64.toNat v) = v := UInt64.ofNat_toNat
    rw [FieldKind.toJson, FieldKind.ofJson, idValue, hn]

/-- The values of fields need no escapes. -/
theorem isPlainValue_toJson (k : FieldKind) (v : k.Value) : (k.toJson v).isPlainValue = true := by
  cases k with
  | hex => simpa [FieldKind.toJson, Json.isPlainValue] using Json.isPlain_encode v
  | id => simpa [FieldKind.toJson, Json.isPlainValue] using UInt64.toNat_lt v

/-- A field is written as its JSON value is printed. -/
theorem print_toJson (k : FieldKind) (v : k.Value) : Json.print (k.toJson v) = k.print v := by
  cases k with
  | hex => rw [FieldKind.toJson, Json.print, Json.printString_plain (Json.isPlain_encode v)]; rfl
  | id => rfl

/-- A value is the same whether it is read off the text or passes through JSON. -/
theorem read_of_spells {k : FieldKind} {s rest : Bytes} {json : Json} {v : k.Value}
    (h : Json.Spells s json rest) (hv : k.ofJson json = .ok v) : k.read s = .ok (v, rest) := by
  cases h with
  | string hs h =>
    cases k with
    | hex =>
      rw [FieldKind.ofJson] at hv
      simp [FieldKind.read, hs, h, hv, bind, Except.bind, pure, Except.pure]
    | id => cases hv
  | negative hs h =>
    cases k with
    | hex => cases hv
    | id =>
      rw [FieldKind.ofJson] at hv
      simp [FieldKind.read, hs, h, hv, bind, Except.bind, pure, Except.pure]
  | positive hs hb h =>
    cases k with
    | hex => cases hv
    | id =>
      rw [FieldKind.ofJson] at hv
      simp [FieldKind.read, hs, Json.ne_of_isDigit hb 0x2d rfl, hb, h, hv, bind,
        Except.bind, pure, Except.pure]

/-! ## Members -/

/-- The member holds the value that the record has in the field of that name. -/
def Record.Holds {fs : List Field} (r : Record fs) (m : Bytes × Json) : Prop :=
  ∃ f v, r.Has f v ∧ m.1 = f.key ∧ f.kind.ofJson m.2 = .ok v

namespace Record

variable {fs : List Field} {r : Record fs}

/-- A member that holds a value stands under the key of a field. -/
theorem Holds.mem {m : Bytes × Json} (h : r.Holds m) : m.1 ∈ fs.map Field.key := by
  obtain ⟨f, v, hr, hkey, -⟩ := h
  exact hkey ▸ List.mem_map_of_mem hr.mem

/-- What follows the key of a member fills the slot of its field. -/
theorem Holds.fill {β : Type} {m : Bytes × Json} {seen : Bytes → Bool}
    {read : (k : FieldKind) → Except Json.Error (k.Value × β)} {b : β} (h : r.Holds m)
    (hfs : (fs.map Field.key).Nodup) (hseen : seen m.1 = false)
    (hread : ∀ {k : FieldKind} {v : k.Value}, k.ofJson m.2 = .ok v → read k = .ok (v, b)) :
    Slots.fill m.1 read (Slots.filled seen r) =
      .ok (some (Slots.filled (fun key => key = m.1 || seen key) r, b)) := by
  obtain ⟨f, v, hr, hkey, hv⟩ := h
  rw [hkey] at hseen ⊢
  exact Slots.fill_filled hr hfs hseen (hread hv)

end Record

/-- The keys seen after a member are its own key and those seen before. -/
theorem seen_cons (m : Bytes × Json) (ms : List (Bytes × Json)) (seen : Bytes → Bool) :
    (fun key => decide (key ∈ ms.map Prod.fst) || (decide (key = m.1) || seen key)) =
      fun key => decide (key ∈ (m :: ms).map Prod.fst) || seen key := by
  funext key
  simp only [List.map_cons, List.mem_cons]
  by_cases h : key = m.1 <;> simp [h]

/-- A key that does not come again was not seen so far. -/
theorem not_seen_cons {m : Bytes × Json} {ms : List (Bytes × Json)} {seen : Bytes → Bool}
    (hm : m.1 ∉ ms.map Prod.fst) (hseen : ∀ n ∈ ms, seen n.1 = false) :
    ∀ n ∈ ms, (decide (n.1 = m.1) || seen n.1) = false := by
  intro n hn
  have hne : n.1 ≠ m.1 := fun heq => hm (heq ▸ List.mem_map_of_mem hn)
  simp [hne, hseen n hn]

/-! ## Objects -/

/-- Members are read into their slots, in whatever order they stand. -/
theorem readMembers_of_members {fs : List Field} {r : Record fs}
    (hfs : (fs.map Field.key).Nodup) {first : Bool} {s rest : Bytes} {ms : List (Bytes × Json)}
    (h : Json.Members first s ms rest) {seen : Bytes → Bool} {fuel : Nat}
    (hms : ∀ m ∈ ms, r.Holds m) (hnodup : (ms.map Prod.fst).Nodup)
    (hseen : ∀ m ∈ ms, seen m.1 = false) (hfuel : ms.length < fuel) :
    readMembers fuel first (Slots.filled seen r) s =
      .ok (Slots.filled (fun key => key ∈ ms.map Prod.fst || seen key) r, rest) := by
  -- One member after another, with what was seen so far as the state of the reader.
  induction h generalizing seen fuel with
  | nil hkey =>
    obtain ⟨fuel, rfl⟩ := Nat.exists_eq_succ_of_ne_zero (Nat.ne_of_gt hfuel)
    simp [readMembers, hkey]
  | @cons first s key after tail v mid ms rest hkey hcolon hvalue h ih =>
    obtain ⟨fuel, rfl⟩ := Nat.exists_eq_succ_of_ne_zero (Nat.ne_of_gt (Nat.zero_lt_of_lt hfuel))
    rw [List.forall_mem_cons] at hms hseen
    obtain ⟨hm, hnodup⟩ := List.nodup_cons.1 hnodup
    have hread : ∀ {k : FieldKind} {x : k.Value}, k.ofJson v = .ok x →
        Json.colon after >>= k.read = .ok (x, mid) := by
      intro k x hx
      rw [hcolon]
      exact read_of_spells hvalue hx
    have hfill := hms.1.fill hfs hseen.1 hread
    have hrest := @ih (fun k => k = key || seen k) fuel hms.2 hnodup (not_seen_cons hm hseen.2)
      (Nat.lt_of_succ_lt_succ hfuel)
    rw [readMembers, hkey]
    simp only [hfill, hrest, seen_cons (key, v)]

/-- An object whose members hold the values of a record, in any order and spelling, reads
as the record. -/
theorem readPlain_of_isObject (name : String) {fs : List Field} {r : Record fs}
    (hfs : (fs.map Field.key).Nodup) {s : Bytes} {ms : List (Bytes × Json)}
    (h : Json.IsObject s ms) (hms : ∀ m ∈ ms, r.Holds m) (hnodup : (ms.map Prod.fst).Nodup)
    (hall : ∀ f ∈ fs, f.key ∈ ms.map Prod.fst) : readPlain name fs s = .ok r := by
  obtain ⟨tail, rest, hs, hmembers, hend⟩ := h
  have hlength := hmembers.length_lt
  have hfuel : ms.length < tail.length + 1 := by omega
  have hread := @readMembers_of_members fs r hfs true tail rest ms hmembers (fun _ => false) _ hms
    hnodup (fun _ _ => rfl) hfuel
  have hcomplete := @Slots.complete_filled (fun key => decide (key ∈ ms.map Prod.fst)) fs r
    fun f hf => decide_eq_true (hall f hf)
  rw [Slots.filled_none] at hread
  simp [readPlain, hs, hread, hcomplete, Json.finish, hend, bind, Except.bind]

/-! ## Printed records -/

def Record.json : {fs : List Field} → Record fs → List (Bytes × Json)
  | _, .nil => []
  | _, .cons (f := f) v rest => (f.key, f.kind.toJson v) :: json rest

/-- Names that are printed as they are. -/
def PlainNames (fs : List Field) : Prop := ∀ f ∈ fs, ∀ b ∈ f.key, isPlain b = true

instance (fs : List Field) : Decidable (PlainNames fs) :=
  decidable_of_iff ((fs.all fun f => f.key.all isPlain) = true) (by simp [PlainNames])

namespace Record

variable {fs : List Field}

/-- The keys of the object are those of the fields, in their order. -/
theorem map_fst_json (r : Record fs) : r.json.map Prod.fst = fs.map Field.key := by
  induction r with
  | nil => rfl
  | cons v rest ih => rw [json, List.map_cons, List.map_cons, ih]

theorem has_of_mem_json {r : Record fs} {m : Bytes × Json} (hm : m ∈ r.json) :
    ∃ f v, r.Has f v ∧ m = (f.key, f.kind.toJson v) := by
  induction r with
  | nil => simp [json] at hm
  | cons v rest ih =>
    rw [json, List.mem_cons] at hm
    cases hm with
    | inl heq => exact ⟨_, v, .head v rest, heq⟩
    | inr hm =>
      obtain ⟨f, w, hw, heq⟩ := ih hm
      exact ⟨f, w, hw.tail v, heq⟩

/-- Every member of the object holds a value of the record. -/
theorem holds_of_mem_json {r : Record fs} {m : Bytes × Json} (hm : m ∈ r.json) : r.Holds m := by
  obtain ⟨f, v, hr, rfl⟩ := has_of_mem_json hm
  exact ⟨f, v, hr, rfl, ofJson_toJson f.kind v⟩

/-- The members of the object need no escapes if the names of the fields need none. -/
theorem isPlainMember_of_mem_json {r : Record fs} (hfs : PlainNames fs) {m : Bytes × Json}
    (hm : m ∈ r.json) : Json.IsPlainMember m := by
  obtain ⟨f, v, hr, rfl⟩ := has_of_mem_json hm
  exact ⟨hfs f hr.mem, isPlainValue_toJson f.kind v⟩

end Record

/-- The members of a record are those of its object, printed. -/
theorem members_eq {fs : List Field} (r : Record fs) :
    members r = r.json.map fun m => Json.printString m.1 ++ 0x3a :: Json.print m.2 := by
  induction r with
  | nil => rfl
  | cons v rest ih =>
    rw [members, Record.json, List.map_cons, ih, print_toJson]
    rfl

/-- An object of printed members is the compact text of the object. -/
theorem object_eq_print (ms : List (Bytes × Json)) :
    object (ms.map fun m => Json.printString m.1 ++ 0x3a :: Json.print m.2) =
      Json.print (.object ms) := by
  have hrest : ∀ (ms : List (Bytes × Json)) (first : Bytes),
      ((first :: ms.map fun m => Json.printString m.1 ++ 0x3a :: Json.print m.2).intersperse
        [0x2c]).flatten = first ++ Json.printRest ms := by
    intro ms
    induction ms with
    | nil => simp [Json.printRest]
    | cons m ms ih => simp [List.intersperse_cons_cons, ih, Json.printRest]
  cases ms with
  | nil => rfl
  | cons m ms =>
    rw [object, List.map_cons, hrest, Json.print, Json.printMembers_cons]
    simp

/-- The text of a record is the compact text of its object. -/
theorem object_members {fs : List Field} (r : Record fs) :
    object (members r) = Json.print (.object r.json) := by
  rw [members_eq, object_eq_print]

end Wire

/-! ## Messages -/

open Wire

/-- Plain records whose names need no escapes and differ, and whose values are told
by their fields. -/
class LawfulPlainRecord (α : Type) [PlainRecord α] : Prop where
  plainNames : PlainNames (PlainRecord.fields α)
  nodup : ((PlainRecord.fields α).map Field.key).Nodup
  ofRecord_toRecord : ∀ a : α, PlainRecord.ofRecord (PlainRecord.toRecord a) = a

section
variable {α : Type} [PlainRecord α]

/-- The object that a message is written as. -/
def PlainRecord.json (a : α) : List (Bytes × Json) := (toRecord a).json

/-- A plain record is written as the compact text of its object. -/
theorem writePlain_eq_print (a : α) : writePlain a = Json.print (.object (PlainRecord.json a)) :=
  object_members (PlainRecord.toRecord a)

variable [LawfulPlainRecord α]

/-- Every text of an object whose members hold the values of a message reads as the
message. -/
theorem PlainRecord.read_of_isObject {a : α} {s : Bytes} {ms : List (Bytes × Json)}
    (h : Json.IsObject s ms) (hms : ∀ m ∈ ms, (PlainRecord.toRecord a).Holds m)
    (hkeys : (ms.map Prod.fst).Perm ((PlainRecord.fields α).map Field.key)) :
    Message.read s = .ok a := by
  have hread := readPlain_of_isObject (PlainRecord.name α) LawfulPlainRecord.nodup h hms
    (hkeys.nodup_iff.2 LawfulPlainRecord.nodup)
    fun f hf => hkeys.mem_iff.2 (List.mem_map_of_mem hf)
  change (readPlain _ _ s).map PlainRecord.ofRecord = _
  rw [hread, Except.map, LawfulPlainRecord.ofRecord_toRecord]

/-- Reading what was written gives the message back. -/
theorem read_writePlain (a : α) : Message.read (writePlain a) = .ok a := by
  rw [writePlain_eq_print]
  refine PlainRecord.read_of_isObject (Json.isObject_print fun m hm => ?_) (fun m hm => ?_) ?_
  · exact Record.isPlainMember_of_mem_json LawfulPlainRecord.plainNames hm
  · exact Record.holds_of_mem_json hm
  · rw [PlainRecord.json, Record.map_fst_json]

end

end TwoParty
