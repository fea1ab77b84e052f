import TwoParty.Proofs.Wire.Plain

/-!
# TwoParty.Proofs.Wire.Embedding

Records with an embedded part read back.

Own members go into slots as in a plain record; every other member is read as a JSON
value first, and the embedded fields are picked from these at the end of the object.  Own
and embedded members may be mixed in any order (`readEmbedding_of_isObject`), and
`read_writeEmbedding` is the round trip of the message types.
-/

namespace TwoParty

namespace Wire

/-! ## Picking -/

/-- Picking fills the slots of the members. -/
theorem pick_filled {fs : List Field} {r : Record fs} (hfs : (fs.map Field.key).Nodup)
    {ms : List (Bytes × Json)} {seen : Bytes → Bool} (hms : ∀ m ∈ ms, r.Holds m)
    (hnodup : (ms.map Prod.fst).Nodup) (hseen : ∀ m ∈ ms, seen m.1 = false) :
    pick (Slots.filled seen r) ms =
      .ok (Slots.filled (fun key => key ∈ ms.map Prod.fst || seen key) r) := by
  induction ms generalizing seen with
  | nil => simp [pick]
  | cons m ms ih =>
    rw [List.forall_mem_cons] at hms hseen
    obtain ⟨hm, hnodup⟩ := List.nodup_cons.1 hnodup
    have hread : ∀ {k : FieldKind} {v : k.Value}, k.ofJson m.2 = .ok v →
        (k.ofJson m.2).map (·, ()) = .ok (v, ()) := by
      intro k v hv
      rw [hv]
      rfl
    have hfill := hms.1.fill hfs hseen.1 hread
    have hrest := @ih (fun key => key = m.1 || seen key) hms.2 hnodup
      (not_seen_cons hm hseen.2)
    rw [pick]
    simp only [hfill, hrest, seen_cons m]

/-! ## Objects -/

/-- The members that are not of these fields. -/
def foreign (fs : List Field) (ms : List (Bytes × Json)) : List (Bytes × Json) :=
  ms.filter fun m => m.1 ∉ fs.map Field.key

/-- Own members are read into their slots and the others are kept, in whatever order
they stand. -/
theorem gatherMembers_of_members {fs : List Field} {r : Record fs}
    (hfs : (fs.map Field.key).Nodup) {first : Bool} {s rest : Bytes} {ms : List (Bytes × Json)}
    (h : Json.Members first s ms rest) {seen : Bytes → Bool} {fuel : Nat}
    {others : List (Bytes × Json)} (hms : ∀ m ∈ ms, m.1 ∈ fs.map Field.key → r.Holds m)
    (hnodup : (ms.map Prod.fst).Nodup) (hseen : ∀ m ∈ ms, seen m.1 = false)
    (hfuel : ms.length < fuel) :
    gatherMembers fuel first (Slots.filled seen r) others s =
      .ok (Slots.filled (fun key => key ∈ ms.map Prod.fst || seen key) r,
        others.reverse ++ foreign fs ms, rest) := by
  induction h generalizing seen fuel others with
  | nil hkey =>
    obtain ⟨fuel, rfl⟩ := Nat.exists_eq_succ_of_ne_zero (Nat.ne_of_gt hfuel)
    simp [gatherMembers, hkey, foreign]
  | @cons first s key after tail v mid ms rest hkey hcolon hvalue h ih =>
    obtain ⟨fuel, rfl⟩ := Nat.exists_eq_succ_of_ne_zero (Nat.ne_of_gt (Nat.zero_lt_of_lt hfuel))
    rw [List.forall_mem_cons] at hms hseen
    obtain ⟨hm, hnodup⟩ := List.nodup_cons.1 hnodup
    have hless : ms.length < fuel := Nat.lt_of_succ_lt_succ hfuel
    rw [gatherMembers, hkey]
    by_cases hown : key ∈ fs.map Field.key
    · have hread : ∀ {k : FieldKind} {x : k.Value}, k.ofJson v = .ok x →
          Json.colon after >>= k.read = .ok (x, mid) := by
        intro k x hx
        rw [hcolon]
        exact read_of_spells hvalue hx
      have hfill := (hms.1 hown).fill hfs hseen.1 hread
      have hrest := @ih (fun k => k = key || seen k) fuel others hms.2 hnodup
        (not_seen_cons hm hseen.2) hless
      have hforeign : foreign fs ((key, v) :: ms) = foreign fs ms :=
        List.filter_cons_of_neg (by simpa using hown)
      simp only [hfill, hrest, seen_cons (key, v), hforeign]
    · have hfill := @Slots.fill_of_notMem Bytes fs (Slots.filled seen r) key
        (fun k => Json.colon after >>= k.read) hown
      have hvalue : Json.colon after >>= Json.readValue (Json.depthLimit - 1) = .ok (v, mid) := by
        rw [hcolon]
        exact hvalue.readValueLoop (2 * tail.length + 1) (Json.depthLimit - 1)
      have hrest := @ih seen fuel ((key, v) :: others) hms.2 hnodup hseen.2 hless
      have hforeign : foreign fs ((key, v) :: ms) = (key, v) :: foreign fs ms :=
        List.filter_cons_of_pos (by simpa using hown)
      -- the key of a kept member tells nothing about the slots
      have hslots : Slots.filled (fun k => k ∈ ((key, v) :: ms).map Prod.fst || seen k) r =
          Slots.filled (fun k => k ∈ ms.map Prod.fst || seen k) r := by
        refine Slots.filled_congr r fun f hf => ?_
        have hne : f.key ≠ key := fun heq => hown (heq ▸ List.mem_map_of_mem hf)
        simp only [List.map_cons, List.mem_cons, hne, false_or]
      simp only [hfill, hvalue, hrest, hforeign, hslots, List.reverse_cons, List.append_assoc,
        List.singleton_append]

/-- An object whose members hold the values of two records, in any order and spelling,
reads as the records. -/
theorem readEmbedding_of_isObject (name : String) {own inner : List Field} {r : Record own}
    {part : Record inner} (hfs : (own.map Field.key ++ inner.map Field.key).Nodup) {s : Bytes}
    {ms : List (Bytes × Json)} (h : Json.IsObject s ms)
    (hms : ∀ m ∈ ms, r.Holds m ∨ part.Holds m) (hnodup : (ms.map Prod.fst).Nodup)
    (hall : ∀ key ∈ own.map Field.key ++ inner.map Field.key, key ∈ ms.map Prod.fst) :
    readEmbedding name own inner s = .ok (r, part) := by
  obtain ⟨hown, hinner, hapart⟩ := List.nodup_append.1 hfs
  obtain ⟨tail, rest, hs, hmembers, hend⟩ := h
  have hlength := hmembers.length_lt
  have hfuel : ms.length < tail.length + 1 := by omega
  -- Every member belongs to one of the two records, for their keys differ.
  have hr : ∀ m ∈ ms, m.1 ∈ own.map Field.key → r.Holds m := by
    intro m hm hkey
    obtain hr | hpart := hms m hm
    · exact hr
    · exact absurd rfl (hapart m.1 hkey m.1 hpart.mem)
  have hpart : ∀ m ∈ foreign own ms, part.Holds m := by
    intro m hm
    obtain ⟨hmem, hkey⟩ := List.mem_filter.1 hm
    obtain hr | hpart := hms m hmem
    · exact absurd hr.mem (by simpa using hkey)
    · exact hpart
  -- First the own members are taken; then the embedded record picks from the others.
  have hgather := @gatherMembers_of_members own r hown true tail rest ms hmembers (fun _ => false)
    _ [] hr hnodup (fun _ _ => rfl) hfuel
  have hcomplete := @Slots.complete_filled (fun key => decide (key ∈ ms.map Prod.fst)) own r
    fun f hf => decide_eq_true (hall f.key (List.mem_append_left _ (List.mem_map_of_mem hf)))
  have hpick := @pick_filled inner part hinner (foreign own ms) (fun _ => false) hpart
    (hnodup.sublist ((List.filter_sublist).map Prod.fst)) (fun _ _ => rfl)
  have hcompletePart := @Slots.complete_filled
    (fun key => decide (key ∈ (foreign own ms).map Prod.fst)) inner part fun f hf => by
      have hkey : f.key ∈ inner.map Field.key := List.mem_map_of_mem hf
      obtain ⟨m, hm, heq⟩ := List.mem_map.1 (hall f.key (List.mem_append_right _ hkey))
      have hforeign : m.1 ∉ own.map Field.key := fun hmem => hapart m.1 hmem f.key hkey heq
      exact decide_eq_true
        (List.mem_map.2 ⟨m, List.mem_filter.2 ⟨hm, decide_eq_true hforeign⟩, heq⟩)
  rw [Slots.filled_none] at hgather hpick
  simp [readEmbedding, hs, hgather, hcomplete, hpick, hcompletePart, Json.finish, hend, bind,
    Except.bind]

end Wire

/-! ## Messages -/

open Wire

/-- Records with an embedded part whose names need no escapes and differ, the embedded
ones from the own ones too, and whose values are told by their fields. -/
class LawfulEmbeddingRecord (α : Type) [EmbeddingRecord α] : Prop where
  ownNames : PlainNames (EmbeddingRecord.own α)
  innerNames : PlainNames (EmbeddingRecord.inner α)
  nodup : ((EmbeddingRecord.own α).map Field.key ++
    (EmbeddingRecord.inner α).map Field.key).Nodup
  ofRecords_toRecords : ∀ a : α, EmbeddingRecord.ofRecords (EmbeddingRecord.toRecords a).1
    (EmbeddingRecord.toRecords a).2 = a

section
variable {α : Type} [EmbeddingRecord α]

/-- The object that a message is written as. -/
def EmbeddingRecord.json (a : α) : List (Bytes × Json) :=
  (toRecords a).1.json ++ (toRecords a).2.json

/-- A record with an embedded part is written as the compact text of one object. -/
theorem writeEmbedding_eq_print (a : α) :
    writeEmbedding a = Json.print (.object (EmbeddingRecord.json a)) := by
  rw [writeEmbedding, members_eq, members_eq, ← List.map_append, object_eq_print,
    EmbeddingRecord.json]

variable [LawfulEmbeddingRecord α]

/-- Every text of an object whose members hold the values of a message reads as the
message. -/
theorem EmbeddingRecord.read_of_isObject {a : α} {s : Bytes} {ms : List (Bytes × Json)}
    (h : Json.IsObject s ms)
    (hms : ∀ m ∈ ms, (EmbeddingRecord.toRecords a).1.Holds m ∨
      (EmbeddingRecord.toRecords a).2.Holds m)
    (hkeys : (ms.map Prod.fst).Perm ((EmbeddingRecord.own α).map Field.key ++
      (EmbeddingRecord.inner α).map Field.key)) : Message.read s = .ok a := by
  have hread := readEmbedding_of_isObject (EmbeddingRecord.name α) LawfulEmbeddingRecord.nodup h
    hms (hkeys.nodup_iff.2 LawfulEmbeddingRecord.nodup) fun key hkey => hkeys.mem_iff.2 hkey
  change (readEmbedding _ _ _ s).map _ = _
  rw [hread, Except.map, LawfulEmbeddingRecord.ofRecords_toRecords]

/-- Reading what was written gives the message back. -/
theorem read_writeEmbedding (a : α) : Message.read (writeEmbedding a) = .ok a := by
  rw [writeEmbedding_eq_print]
  refine EmbeddingRecord.read_of_isObject (Json.isObject_print fun m hm => ?_) (fun m hm => ?_) ?_
  · obtain hm | hm := List.mem_append.1 hm
    · exact Record.isPlainMember_of_mem_json LawfulEmbeddingRecord.ownNames hm
    · exact Record.isPlainMember_of_mem_json LawfulEmbeddingRecord.innerNames hm
  · obtain hm | hm := List.mem_append.1 hm
    · exact .inl (Record.holds_of_mem_json hm)
    · exact .inr (Record.holds_of_mem_json hm)
  · rw [EmbeddingRecord.json, List.map_append, Record.map_fst_json, Record.map_fst_json]

end

end TwoParty
