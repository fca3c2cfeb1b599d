import Mathlib.Data.List.Perm.Basic
import XmlExtract.Keyed

/-!
# Filling a keyed collection from a list

Two ways to put a list of pairs into a keyed collection occur side by side: within
the attributes of one element the last value of a repeated name stays, and among
the elements the first entry of a repeated position stays.  Both are look-ups in
the list: from its end in the first case (`find?_ofList`), and from its beginning in
the second (`find?_insertAllNew`).
-/

namespace XmlExtract

namespace Keyed

variable {α : Type}

/-- Give each key of the pairs its value, unless the key has one already. -/
def insertAllNew (pairs : List (String × α)) (collection : Keyed α) : Keyed α :=
  pairs.foldl (fun held pair => held.insertIfNew pair.1 pair.2) collection

theorem find?_insert (key other : String) (value : α) (collection : Keyed α) :
    (collection.insert key value).find? other =
      if other = key then some value else collection.find? other :=
  find?_alter key other _ collection

theorem find?_insertIfNew (key other : String) (value : α) (collection : Keyed α) :
    (collection.insertIfNew key value).find? other =
      (collection.find? other).or (if other = key then some value else none) := by
  rw [insertIfNew, find?_alter]
  by_cases same : other = key
  · subst same
    cases collection.find? other <;> simp
  · simp [same]

/-- The first value of a key stays. -/
theorem find?_insertAllNew (pairs : List (String × α)) (collection : Keyed α)
    (key : String) :
    (insertAllNew pairs collection).find? key =
      (collection.find? key).or (pairs.lookup key) := by
  induction pairs generalizing collection with
  | nil => simp [insertAllNew]
  | cons pair pairs ih =>
      have later : (insertAllNew (pair :: pairs) collection).find? key =
          ((collection.insertIfNew pair.1 pair.2).find? key).or (pairs.lookup key) :=
        ih _
      rw [later, find?_insertIfNew, Option.or_assoc, List.lookup_cons]
      by_cases same : key = pair.1
      · simp [same]
      · simp [same, beq_eq_false_iff_ne.mpr same]

theorem find?_foldl_insert (pairs : List (String × α)) (collection : Keyed α)
    (key : String) :
    (pairs.foldl (fun held pair => held.insert pair.1 pair.2) collection).find? key =
      (pairs.reverse.lookup key).or (collection.find? key) := by
  induction pairs generalizing collection with
  | nil => simp
  | cons pair pairs ih =>
      rw [List.foldl_cons, ih, find?_insert, List.reverse_cons, List.lookup_append,
        Option.or_assoc, List.lookup_cons]
      by_cases same : key = pair.1
      · simp [same]
      · simp [same, beq_eq_false_iff_ne.mpr same]

/-- The last value of a key stays. -/
theorem find?_ofList (pairs : List (String × α)) (key : String) :
    (ofList pairs).find? key = pairs.reverse.lookup key := by
  rw [ofList, find?_foldl_insert, find?_empty, Option.or_none]

theorem nodup_keys (collection : Keyed α) : collection.keys.Nodup := by
  rw [keys, List.Nodup, List.pairwise_map]
  refine collection.ascending.imp fun {first second} below same => ?_
  rw [same] at below
  exact String.lt_irrefl _ below

theorem mem_keys_iff {collection : Keyed α} {key : String} :
    key ∈ collection.keys ↔ ∃ value, collection.find? key = some value := by
  simp only [keys, List.mem_map, Prod.exists, exists_and_right, exists_eq_right,
    find?_eq_some_iff]

theorem length_keys (collection : Keyed α) : collection.keys.length = collection.size :=
  List.length_map _

/-- Every pair keeps its own entry if no key is repeated. -/
theorem keys_insertAllNew_perm {pairs : List (String × α)}
    (distinct : (pairs.map Prod.fst).Nodup) :
    (insertAllNew pairs ∅).keys.Perm (pairs.map Prod.fst) := by
  rw [List.perm_ext_iff_of_nodup (nodup_keys _) distinct]
  intro key
  have nothing : (∅ : Keyed α).find? key = none := rfl
  simp only [mem_keys_iff, find?_insertAllNew, nothing, Option.none_or]
  constructor
  · rintro ⟨value, found⟩
    obtain ⟨before, later, rfl, -⟩ := List.lookup_eq_some_iff.mp found
    simp
  · intro member
    obtain ⟨pair, inside, rfl⟩ := List.mem_map.mp member
    exact Option.isSome_iff_exists.mp (List.lookup_isSome_iff.mpr ⟨pair, inside, by simp⟩)

theorem lookup_of_mem {pairs : List (String × α)} (distinct : (pairs.map Prod.fst).Nodup)
    {pair : String × α} (member : pair ∈ pairs) : pairs.lookup pair.1 = some pair.2 := by
  induction pairs with
  | nil => simp at member
  | cons first rest ih =>
      obtain ⟨firstNew, restDistinct⟩ := List.nodup_cons.mp distinct
      rw [List.lookup_cons]
      rcases List.mem_cons.mp member with rfl | inside
      · simp
      · have different : pair.1 ≠ first.1 := by
          intro same
          exact firstNew (List.mem_map.mpr ⟨pair, inside, same⟩)
        rw [beq_eq_false_iff_ne.mpr different]
        exact ih restDistinct inside

end Keyed

end XmlExtract
