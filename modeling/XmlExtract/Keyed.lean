/-!
# Keyed collections

A `Keyed α` holds at most one value for each key and lists its entries in
ascending order of the keys.  Strings compare by code points, which is the order
of their UTF-8 bytes.  The order leaves no freedom of arrangement: lists of entries in
this order are equal if they have the same members (`Keyed.entries_eq_of_mem_iff`).

The one way to change a collection is `Keyed.alter`; `find?_alter` says what it
does to every look-up.
-/

namespace XmlExtract

/-- Values by key, in ascending order of the keys. -/
structure Keyed (α : Type) where
  entries : List (String × α)
  ascending : entries.Pairwise fun first second => first.1 < second.1
  deriving DecidableEq

namespace Keyed

variable {α : Type}

/-- The collection without entries. -/
def empty : Keyed α := ⟨[], .nil⟩

instance : EmptyCollection (Keyed α) := ⟨empty⟩

instance : Inhabited (Keyed α) := ⟨empty⟩

instance [Repr α] : Repr (Keyed α) := ⟨fun collection => reprPrec collection.entries⟩

/-! ### Sorted association lists -/

/-- Put `update` of the present value at `key`, keeping ascending order. -/
def alterEntries (key : String) (update : Option α → α) :
    List (String × α) → List (String × α)
  | [] => [(key, update none)]
  | (present, value) :: rest =>
      if key < present then
        (key, update none) :: (present, value) :: rest
      else if key = present then
        (present, update (some value)) :: rest
      else
        (present, value) :: alterEntries key update rest

/-- The value that stands beside `key`. -/
def lookupEntries (key : String) : List (String × α) → Option α
  | [] => none
  | (present, value) :: rest =>
      if key = present then some value else lookupEntries key rest

theorem mem_alterEntries {key : String} {update : Option α → α}
    {entry : String × α} {entries : List (String × α)}
    (member : entry ∈ alterEntries key update entries) :
    entry.1 = key ∨ entry ∈ entries := by
  induction entries with
  | nil => simp_all [alterEntries]
  | cons first rest ih =>
      obtain ⟨present, value⟩ := first
      unfold alterEntries at member
      split at member
      · simp only [List.mem_cons] at member
        rcases member with rfl | rfl | inside <;> simp_all
      · split at member
        · simp only [List.mem_cons] at member
          rcases member with rfl | inside <;> simp_all
        · simp only [List.mem_cons] at member
          rcases member with rfl | inside
          · simp
          · rcases ih inside with same | old <;> simp_all

theorem ascending_alterEntries (key : String) (update : Option α → α)
    {entries : List (String × α)}
    (ascending : entries.Pairwise fun first second => first.1 < second.1) :
    (alterEntries key update entries).Pairwise
      fun first second => first.1 < second.1 := by
  induction entries with
  | nil => simp [alterEntries]
  | cons first rest ih =>
      obtain ⟨present, value⟩ := first
      obtain ⟨below, restAscending⟩ := List.pairwise_cons.1 ascending
      unfold alterEntries
      split
      · rename_i smaller
        refine List.pairwise_cons.2 ⟨fun entry member => ?_, ascending⟩
        rcases List.mem_cons.1 member with rfl | inside
        · exact smaller
        · exact String.lt_trans smaller (below entry inside)
      · rename_i notSmaller
        split
        · exact List.pairwise_cons.2 ⟨below, restAscending⟩
        · rename_i different
          refine List.pairwise_cons.2 ⟨fun entry member => ?_, ih restAscending⟩
          rcases mem_alterEntries member with same | inside
          · have atMost : present ≤ key := String.not_lt.1 notSmaller
            show present < entry.1
            rw [same]
            exact Std.lt_of_le_of_ne atMost (fun equal => different equal.symm)
          · exact below entry inside

/-! ### Operations -/

/-- Give `key` the value that `update` makes of its present value. -/
def alter (key : String) (update : Option α → α) (collection : Keyed α) : Keyed α :=
  ⟨alterEntries key update collection.entries,
    ascending_alterEntries key update collection.ascending⟩

/-- Give `key` this value; a later value replaces an earlier one. -/
def insert (key : String) (value : α) (collection : Keyed α) : Keyed α :=
  collection.alter key fun _ => value

/-- Give `key` this value unless it has one already. -/
def insertIfNew (key : String) (value : α) (collection : Keyed α) : Keyed α :=
  collection.alter key fun present => present.getD value

/-- The value at `key`. -/
def find? (key : String) (collection : Keyed α) : Option α :=
  lookupEntries key collection.entries

/-- Whether `key` has a value. -/
def contains (key : String) (collection : Keyed α) : Bool :=
  (collection.find? key).isSome

/-- The keys in ascending order. -/
def keys (collection : Keyed α) : List String :=
  collection.entries.map (·.1)

/-- The number of entries. -/
def size (collection : Keyed α) : Nat :=
  collection.entries.length

/-- Whether there are no entries. -/
def isEmpty (collection : Keyed α) : Bool :=
  collection.entries.isEmpty

/-- Insert the pairs from left to right, so that the last value of a repeated
key stays. -/
def ofList (pairs : List (String × α)) : Keyed α :=
  pairs.foldl (fun collection pair => collection.insert pair.1 pair.2) empty

/-! ### Look-ups -/

theorem lookupEntries_eq_none {key : String} {entries : List (String × α)}
    (absent : ∀ entry ∈ entries, key ≠ entry.1) : lookupEntries key entries = none := by
  induction entries with
  | nil => rfl
  | cons first rest ih =>
      simp only [List.forall_mem_cons] at absent
      simp [lookupEntries, absent.1, ih absent.2]

theorem lookupEntries_alterEntries (key other : String) (update : Option α → α)
    {entries : List (String × α)}
    (ascending : entries.Pairwise fun first second => first.1 < second.1) :
    lookupEntries other (alterEntries key update entries) =
      if other = key then some (update (lookupEntries key entries))
      else lookupEntries other entries := by
  induction entries with
  | nil => simp [alterEntries, lookupEntries]
  | cons first rest ih =>
      obtain ⟨present, value⟩ := first
      obtain ⟨below, restAscending⟩ := List.pairwise_cons.1 ascending
      unfold alterEntries
      split
      · rename_i smaller
        have absent : lookupEntries key ((present, value) :: rest) = none := by
          apply lookupEntries_eq_none
          rintro entry member rfl
          rcases List.mem_cons.1 member with rfl | inside
          · exact String.lt_irrefl _ smaller
          · exact String.lt_irrefl _ (String.lt_trans smaller (below entry inside))
        rw [absent]
        rfl
      · split
        · rename_i equal
          subst equal
          by_cases same : other = key <;> simp [lookupEntries, same]
        · rename_i different
          simp only [lookupEntries, ih restAscending]
          by_cases same : other = key
          · simp [same, different]
          · simp [same]

@[simp]
theorem find?_empty (key : String) : (empty : Keyed α).find? key = none :=
  rfl

theorem find?_alter (key other : String) (update : Option α → α)
    (collection : Keyed α) :
    (collection.alter key update).find? other =
      if other = key then some (update (collection.find? key))
      else collection.find? other :=
  lookupEntries_alterEntries key other update collection.ascending

theorem lookupEntries_eq_some_iff {key : String} {value : α}
    {entries : List (String × α)}
    (ascending : entries.Pairwise fun first second => first.1 < second.1) :
    lookupEntries key entries = some value ↔ (key, value) ∈ entries := by
  induction entries with
  | nil => simp [lookupEntries]
  | cons first rest ih =>
      obtain ⟨present, held⟩ := first
      obtain ⟨below, restAscending⟩ := List.pairwise_cons.1 ascending
      by_cases same : key = present
      · subst same
        have absent : (key, value) ∉ rest := fun member =>
          String.lt_irrefl _ (below (key, value) member)
        simp [lookupEntries, absent, eq_comm]
      · simp [lookupEntries, same, ih restAscending]

/-- A key has a value exactly when the pair of the two is an entry. -/
theorem find?_eq_some_iff {key : String} {value : α} {collection : Keyed α} :
    collection.find? key = some value ↔ (key, value) ∈ collection.entries :=
  lookupEntries_eq_some_iff collection.ascending

theorem entries_eq_of_mem_iff {first second : List (String × α)}
    (firstAscending : first.Pairwise fun one other => one.1 < other.1)
    (secondAscending : second.Pairwise fun one other => one.1 < other.1)
    (same : ∀ entry, entry ∈ first ↔ entry ∈ second) : first = second := by
  induction first generalizing second with
  | nil =>
      cases second with
      | nil => rfl
      | cons head tail => simpa using same head
  | cons head tail ih =>
      cases second with
      | nil => simpa using same head
      | cons other others =>
          obtain ⟨headBelow, tailAscending⟩ := List.pairwise_cons.1 firstAscending
          obtain ⟨otherBelow, othersAscending⟩ := List.pairwise_cons.1 secondAscending
          have headsEqual : head = other := by
            rcases List.mem_cons.1 ((same head).1 List.mem_cons_self) with equal | inside
            · exact equal
            · rcases List.mem_cons.1 ((same other).2 List.mem_cons_self) with equal | here
              · exact equal.symm
              · exact absurd (String.lt_trans (headBelow _ here) (otherBelow _ inside))
                  (String.lt_irrefl _)
          subst headsEqual
          congr 1
          refine ih tailAscending othersAscending fun entry => ⟨fun member => ?_, fun member => ?_⟩
          · rcases List.mem_cons.1 ((same entry).1 (List.mem_cons_of_mem _ member))
              with rfl | inside
            · exact absurd (headBelow _ member) (String.lt_irrefl _)
            · exact inside
          · rcases List.mem_cons.1 ((same entry).2 (List.mem_cons_of_mem _ member))
              with rfl | inside
            · exact absurd (otherBelow _ member) (String.lt_irrefl _)
            · exact inside

end Keyed

end XmlExtract
