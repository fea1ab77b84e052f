import TwoParty.Wire.Message

/-!
# TwoParty.Wire.Record

Messages that are records: a type states its name, its fields and how its values
map to the values of the fields, and gets its written form from these.
-/

namespace TwoParty

/-- Types written as plain records. -/
class PlainRecord (α : Type) where
  name : String
  fields : List Wire.Field
  toRecord : α → Wire.Record fields
  ofRecord : Wire.Record fields → α

/-- Types written as records with an embedded part. -/
class EmbeddingRecord (α : Type) where
  name : String
  own : List Wire.Field
  inner : List Wire.Field
  toRecords : α → Wire.Record own × Wire.Record inner
  ofRecords : Wire.Record own → Wire.Record inner → α

namespace Wire

/-- The text of a plain record. -/
def writePlain {α : Type} [PlainRecord α] (a : α) : Bytes :=
  object (members (PlainRecord.toRecord a))

/-- The text of a record with an embedded part: its own fields come first. -/
def writeEmbedding {α : Type} [EmbeddingRecord α] (a : α) : Bytes :=
  object (members (EmbeddingRecord.toRecords a).1 ++ members (EmbeddingRecord.toRecords a).2)

instance {α : Type} [PlainRecord α] : Message α where
  write a := .ok (writePlain a)
  read s := (readPlain (PlainRecord.name α) (PlainRecord.fields α) s).map PlainRecord.ofRecord

instance {α : Type} [EmbeddingRecord α] : Message α where
  write a := .ok (writeEmbedding a)
  read s := (readEmbedding (EmbeddingRecord.name α) (EmbeddingRecord.own α)
    (EmbeddingRecord.inner α) s).map fun r => EmbeddingRecord.ofRecords r.1 r.2

/-- A byte string field. -/
abbrev hexField (name : String) : Field := ⟨name, .hex⟩

/-- A commitment number field. -/
abbrev idField (name : String) : Field := ⟨name, .id⟩

end Wire

end TwoParty
