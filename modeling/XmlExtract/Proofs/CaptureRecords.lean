import Mathlib.Data.List.Dedup
import XmlExtract.Capture
import XmlExtract.Proofs.KeyedFolds
import XmlExtract.Proofs.Utf8Order

/-!
# What a capture reports of its records

A capture is built by recording texts and attributes one after the other.  What it says in the
end can be read off the list of records (`reports_ofRecords`): the chunks are the texts in
their order; a position has the attributes that were recorded for it first, and among these a
name has the value that came last; and positions and names are listed in the order of their
UTF-8 forms.  What is recorded later adds to this and changes nothing in it.
-/

namespace XmlExtract

namespace Keyed

variable {α β : Type}

theorem lookup_map_snd (change : α → β) (pairs : List (String × α)) (key : String) :
    (pairs.map fun pair => (pair.1, change pair.2)).lookup key =
      (pairs.lookup key).map change := by
  induction pairs with
  | nil => rfl
  | cons pair later ih =>
      rw [List.map_cons, List.lookup_cons, List.lookup_cons, ih]
      cases key == pair.1 <;> rfl

theorem mem_keys_insertAllNew {pairs : List (String × α)} {key : String} :
    key ∈ (insertAllNew pairs ∅).keys ↔ key ∈ pairs.map Prod.fst := by
  have nothing : (∅ : Keyed α).find? key = none := rfl
  rw [mem_keys_iff, find?_insertAllNew, nothing, Option.none_or, ← Option.isSome_iff_exists,
    List.lookup_isSome_iff, List.mem_map]
  constructor
  · rintro ⟨pair, member, same⟩
    exact ⟨pair, member, (beq_iff_eq.mp same).symm⟩
  · rintro ⟨pair, member, rfl⟩
    exact ⟨pair, member, beq_self_eq_true _⟩

/-- Keys ascend by the bytes of their UTF-8 forms. -/
theorem ascending_encodeString (collection : Keyed α) :
    collection.keys.Pairwise fun key later => Utf8.encodeString key < Utf8.encodeString later := by
  rw [keys, List.pairwise_map]
  exact collection.ascending.imp Utf8.encodeString_lt_iff.mpr

end Keyed

namespace Capture

/-- Something that is recorded: a text, or the attributes of an element. -/
inductive Record where
  | text (position content : String)
  | attributes (position : String) (pairs : List (String × String))
  deriving Repr, DecidableEq

namespace Record

def chunk? : Record → Option Chunk
  | text position content => some ⟨position, content⟩
  | attributes _ _ => none

def entry? : Record → Option (String × List (String × String))
  | text _ _ => none
  | attributes position pairs => some (position, pairs)

/-- The texts among the records. -/
def chunks (records : List Record) : List Chunk := records.filterMap chunk?

/-- The attributes among the records, each with the position that they are recorded for. -/
def entries (records : List Record) : List (String × List (String × String)) :=
  records.filterMap entry?

theorem chunks_append (records later : List Record) :
    chunks (records ++ later) = chunks records ++ chunks later :=
  List.filterMap_append

theorem entries_append (records later : List Record) :
    entries (records ++ later) = entries records ++ entries later :=
  List.filterMap_append

end Record

/-- The capture after one more record. -/
def take (capture : Capture) : Record → Capture
  | .text position content => capture.addText position content
  | .attributes position pairs => capture.addAttributes position pairs

/-- The capture of some records. -/
def ofRecords (records : List Record) : Capture := records.foldl take empty

/-! ### One record -/

theorem chunks_take (capture : Capture) (record : Record) :
    (capture.take record).chunks.toList =
      capture.chunks.toList ++ Record.chunks [record] := by
  cases record with
  | text position content => exact Array.toList_push
  | attributes position pairs => exact (List.append_nil _).symm

theorem attributes_take (capture : Capture) (record : Record) :
    (capture.take record).attributes =
      Keyed.insertAllNew
        ((Record.entries [record]).map fun entry => (entry.1, Keyed.ofList entry.2))
        capture.attributes := by
  cases record <;> rfl

/-! ### All records -/

theorem chunks_foldl_take (capture : Capture) (records : List Record) :
    (records.foldl take capture).chunks.toList =
      capture.chunks.toList ++ Record.chunks records := by
  induction records generalizing capture with
  | nil => exact (List.append_nil _).symm
  | cons record later ih =>
      rw [List.foldl_cons, ih, chunks_take, List.append_assoc]
      rw [← Record.chunks_append, List.singleton_append]

theorem attributes_foldl_take (capture : Capture) (records : List Record) :
    (records.foldl take capture).attributes =
      Keyed.insertAllNew
        ((Record.entries records).map fun entry => (entry.1, Keyed.ofList entry.2))
        capture.attributes := by
  induction records generalizing capture with
  | nil => rfl
  | cons record later ih =>
      have entries : Record.entries (record :: later) =
          Record.entries [record] ++ Record.entries later := Record.entries_append [record] later
      rw [List.foldl_cons, ih, attributes_take, entries, List.map_append]
      exact (List.foldl_append ..).symm

theorem chunks_ofRecords (records : List Record) :
    (ofRecords records).chunks.toList = Record.chunks records :=
  chunks_foldl_take empty records

/-- A position has the attributes that were recorded for it first. -/
theorem attributesAt?_ofRecords (records : List Record) (position : String) :
    (ofRecords records).attributesAt? position =
      ((Record.entries records).lookup position).map Keyed.ofList := by
  have nothing : (empty.attributes).find? position = none := rfl
  rw [attributesAt?, ofRecords, attributes_foldl_take, Keyed.find?_insertAllNew, nothing,
    Option.none_or, Keyed.lookup_map_snd]

theorem mem_keys_ofRecords {records : List Record} {position : String} :
    position ∈ (ofRecords records).attributes.keys ↔
      position ∈ (Record.entries records).map Prod.fst := by
  rw [ofRecords, attributes_foldl_take]
  refine Keyed.mem_keys_insertAllNew.trans ?_
  rw [List.map_map]
  rfl

theorem size_attributes_ofRecords (records : List Record) :
    (ofRecords records).attributes.size = ((Record.entries records).map Prod.fst).dedup.length := by
  have sameKeys : (ofRecords records).attributes.keys.Perm
      ((Record.entries records).map Prod.fst).dedup := by
    rw [List.perm_ext_iff_of_nodup (Keyed.nodup_keys _) (List.nodup_dedup _)]
    intro position
    rw [mem_keys_ofRecords, List.mem_dedup]
  rw [← Keyed.length_keys, sameKeys.length_eq]

theorem attributeValue?_ofRecords (records : List Record) (position name : String) :
    (ofRecords records).attributeValue? position name =
      ((Record.entries records).lookup position).bind fun pairs => pairs.reverse.lookup name := by
  rw [attributeValue?, attributesAt?_ofRecords]
  cases (Record.entries records).lookup position with
  | none => rfl
  | some pairs => exact Keyed.find?_ofList pairs name

theorem contains_ofRecords {records : List Record} {position : String} :
    (ofRecords records).attributes.contains position = true ↔
      position ∈ (Record.entries records).map Prod.fst := by
  rw [Keyed.contains, Option.isSome_iff_exists, ← Keyed.mem_keys_iff, mem_keys_ofRecords]

/-! ### Later records -/

theorem chunks_ofRecords_prefix (records later : List Record) :
    (ofRecords records).chunks.toList <+: (ofRecords (records ++ later)).chunks.toList := by
  rw [chunks_ofRecords, chunks_ofRecords, Record.chunks_append]
  exact List.prefix_append _ _

/-- An entry stays as it is. -/
theorem mem_entries_ofRecords_append {records : List Record} {entry : String × Attributes}
    (member : entry ∈ (ofRecords records).attributes.entries) (later : List Record) :
    entry ∈ (ofRecords (records ++ later)).attributes.entries := by
  rw [← Keyed.find?_eq_some_iff] at member ⊢
  have found := (attributesAt?_ofRecords records entry.1).symm.trans member
  obtain ⟨pairs, first, made⟩ := Option.map_eq_some_iff.mp found
  refine (attributesAt?_ofRecords (records ++ later) entry.1).trans ?_
  rw [Record.entries_append, List.lookup_append, first, Option.some_or, Option.map_some, made]

/-! ### The whole report -/

/-- The capture answers every question as the records have it. -/
structure Reports (records : List Record) (capture : Capture) : Prop where
  chunks : capture.chunks.toList = Record.chunks records
  chunkCount : capture.chunks.size = (Record.chunks records).length
  chunksAt : ∀ position, capture.chunksAt position =
    (Record.chunks records).filter (·.position == position)
  positions : ∀ position, position ∈ capture.attributes.keys ↔
    position ∈ (Record.entries records).map Prod.fst
  ascending : capture.attributes.keys.Pairwise fun position later =>
    Utf8.encodeString position < Utf8.encodeString later
  attributeCount : capture.attributes.size =
    ((Record.entries records).map Prod.fst).dedup.length
  contains : ∀ position, capture.attributes.contains position = true ↔
    position ∈ (Record.entries records).map Prod.fst
  /-- No attributes are reported for a position for which none have been recorded. -/
  missing : ∀ position, (Record.entries records).lookup position = none →
    capture.attributesAt? position = none
  /-- The first record for a position counts, and in it the last value of a name. -/
  found : ∀ position pairs, (Record.entries records).lookup position = some pairs →
    ∃ attributes, capture.attributesAt? position = some attributes ∧
      (attributes.keys.Pairwise fun name later =>
        Utf8.encodeString name < Utf8.encodeString later) ∧
      ∀ name, attributes.find? name = pairs.reverse.lookup name
  value : ∀ position name, capture.attributeValue? position name =
    ((Record.entries records).lookup position).bind fun pairs => pairs.reverse.lookup name

/-- The capture of some records reports these, and with later records it goes on to report
them: chunks are added at the end only, and no entry changes or disappears. -/
theorem reports_ofRecords (records later : List Record) :
    Reports records (ofRecords records) ∧
      (ofRecords records).chunks.toList <+: (ofRecords (records ++ later)).chunks.toList ∧
      ∀ entry ∈ (ofRecords records).attributes.entries,
        entry ∈ (ofRecords (records ++ later)).attributes.entries := by
  have chunks := chunks_ofRecords records
  refine ⟨?_, chunks_ofRecords_prefix records later,
    fun entry member => mem_entries_ofRecords_append member later⟩
  constructor
  · exact chunks
  · rw [← chunks, Array.length_toList]
  · intro position
    rw [chunksAt, chunks]
  · exact fun position => mem_keys_ofRecords
  · exact Keyed.ascending_encodeString _
  · exact size_attributes_ofRecords records
  · exact fun position => contains_ofRecords
  · intro position absent
    rw [attributesAt?_ofRecords, absent, Option.map_none]
  · intro position pairs first
    refine ⟨Keyed.ofList pairs, ?_, Keyed.ascending_encodeString _, Keyed.find?_ofList pairs⟩
    rw [attributesAt?_ofRecords, first, Option.map_some]
  · exact attributeValue?_ofRecords records

/-- The first record for `/a[1]` and the last value of `k` in it, before `/é[1]`. -/
example :
    (ofRecords [.attributes "/é[1]" [], .attributes "/a[1]" [("k", "1"), ("k", "2")],
      .text "/a[1]" "x", .attributes "/a[1]" [("k", "3")]]).attributes.entries =
        [("/a[1]", Keyed.ofList [("k", "2")]), ("/é[1]", Keyed.ofList [])] := by
  decide +kernel

end Capture

end XmlExtract
