import Mathlib.Data.List.Induction
import XmlExtract.Path.RecentPatterns

/-!
# What a cache of patterns remembers

A cache answers every request as if it parsed the expression each time, and what it holds can
be read off the calls alone: of the expressions that have been asked for with success since
the cache was last cleared, each taken once and where it was asked for last, it holds as many
of the latest ones as it has room for (`remembers_latest`).  One call keeps this up
(`Remembers.afterCall`), where the requests are listed with the latest one first, so that a new
one is put in front of the list and, in the cache, in front of the entries.
-/

namespace XmlExtract

namespace RecentPatterns

/-! ### Lists in which items are taken once -/

section Distinct

variable {α : Type} [DecidableEq α]

theorem eraseDups_filter (accepts : α → Bool) (items : List α) :
    (items.filter accepts).eraseDups = items.eraseDups.filter accepts := by
  match items with
  | [] => rfl
  | item :: later =>
      have shorter := List.length_filter_le (fun other => !other == item) later
      have others := eraseDups_filter accepts (later.filter fun other => !other == item)
      rw [List.eraseDups_cons, List.filter_cons, List.filter_cons, ← others, List.filter_filter]
      cases accepted : accepts item with
      | true =>
          simp only [if_true]
          rw [List.eraseDups_cons, List.filter_filter]
          simp only [Bool.and_comm]
      | false =>
          simp only [Bool.false_eq_true, if_false]
          congr 1
          apply List.filter_congr
          intro other member
          by_cases same : other = item <;> simp [same, accepted]
termination_by items.length

theorem nodup_eraseDups (items : List α) : items.eraseDups.Nodup := by
  match items with
  | [] => exact List.nodup_nil
  | item :: later =>
      have shorter := List.length_filter_le (fun other => !other == item) later
      rw [List.eraseDups_cons, List.nodup_cons, List.mem_eraseDups]
      exact ⟨by simp, nodup_eraseDups _⟩
termination_by items.length

theorem filter_ne_eq_erase {items : List α} (distinct : items.Nodup) (item : α) :
    items.filter (· ≠ item) = items.erase item := by
  rw [distinct.erase_eq_filter]
  apply List.filter_congr
  intro other _
  rw [Bool.eq_iff_iff, bne_iff_ne, decide_eq_true_eq]

theorem eraseDups_cons_eq_erase (item : α) (later : List α) :
    (item :: later).eraseDups = item :: later.eraseDups.erase item := by
  rw [List.eraseDups_cons, eraseDups_filter, (nodup_eraseDups later).erase_eq_filter]
  rfl

/-- One item more than are wanted is enough to have those that are left without some item. -/
theorem take_erase_take (items : List α) (item : α) (count : Nat) :
    ((items.take (count + 1)).erase item).take count = (items.erase item).take count := by
  induction items generalizing count with
  | nil => rfl
  | cons first later ih =>
      rw [List.take_succ_cons, List.erase_cons, List.erase_cons]
      split
      · rw [List.take_take, Nat.min_self]
      · cases count with
        | zero => rfl
        | succ count => rw [List.take_succ_cons, List.take_succ_cons, ih]

/-- An item is among the first ones exactly when it comes behind fewer other ones. -/
theorem mem_take_eraseDups_iff {items : List α} {item : α} {count : Nat} :
    item ∈ items.eraseDups.take count ↔
      ∃ before after, items = before ++ item :: after ∧ item ∉ before ∧
        before.eraseDups.length < count := by
  have listed (before after : List α) (new : item ∉ before) :
      (before ++ item :: after).eraseDups = before.eraseDups ++
        item :: ((after.removeAll before).filter fun other => !other == item).eraseDups := by
    rw [List.eraseDups_append, List.removeAll, List.filter_cons, if_pos (by simpa using new),
      List.eraseDups_cons, List.removeAll]
  constructor
  · intro member
    have inside := List.mem_eraseDups.mp (List.mem_of_mem_take member)
    obtain ⟨before, after, rfl, new⟩ := List.eq_append_cons_of_mem inside
    refine ⟨before, after, rfl, new, ?_⟩
    by_contra beyond
    rw [listed before after new, List.take_append_of_le_length (Nat.not_lt.mp beyond)] at member
    exact new (List.mem_eraseDups.mp (List.mem_of_mem_take member))
  · rintro ⟨before, after, rfl, new, few⟩
    obtain ⟨room, enough⟩ := Nat.exists_eq_add_of_lt few
    have left : count - before.eraseDups.length = room + 1 := by omega
    rw [listed before after new, List.take_append, List.mem_append, left, List.take_succ_cons]
    exact Or.inr List.mem_cons_self

end Distinct

/-! ### Calls -/

/-- A call of a cache. -/
inductive Call where
  | fetch (expression : String)
  | clear
  deriving Repr, DecidableEq

namespace Call

/-- The expression that a call asks for. -/
def expression? : Call → Option String
  | fetch expression => some expression
  | clear => none

/-- The expressions that have been asked for since the cache was last cleared, the latest
first. -/
def sinceClear (calls : List Call) : List String :=
  (calls.reverse.takeWhile (·.expression?.isSome)).filterMap expression?

/-- Whether an expression has a pattern. -/
def parses (expression : String) : Bool := (Pattern.parse expression).toOption.isSome

/-- The expressions that have been asked for with success since the cache was last cleared,
the latest first. -/
def successes (calls : List Call) : List String := (sinceClear calls).filter parses

theorem successes_clear (calls : List Call) : successes (calls ++ [clear]) = [] := by
  simp [successes, sinceClear, expression?]

theorem successes_fetch (calls : List Call) (expression : String) :
    successes (calls ++ [fetch expression]) =
      if parses expression then expression :: successes calls else successes calls := by
  simp [successes, sinceClear, expression?, List.filter_cons]

theorem parses_of_ok {expression : String} {pattern : Pattern}
    (parsed : Pattern.parse expression = .ok pattern) : parses expression = true := by
  simp [parses, parsed, Except.toOption]

theorem not_parses_of_error {expression : String} {error : Error}
    (failed : Pattern.parse expression = .error error) : parses expression = false := by
  simp [parses, failed, Except.toOption]

end Call

/-- The cache after a call. -/
def afterCall (cache : RecentPatterns) : Call → RecentPatterns
  | .fetch expression => (cache.fetch expression).2
  | .clear => cache.clear

/-- The cache after some calls. -/
def afterCalls (cache : RecentPatterns) (calls : List Call) : RecentPatterns :=
  calls.foldl afterCall cache

/-- The expressions that are held, the one asked for last in front. -/
def held (cache : RecentPatterns) : List String := cache.entries.map Prod.fst

/-! ### One call -/

/-- The cache has some room, and holds as many of the latest of these requests as fit in, each
with its pattern. -/
structure Remembers (room : Nat) (requests : List String) (cache : RecentPatterns) :
    Prop where
  positive : 0 < room
  capacity : cache.capacity = room
  held : cache.held = requests.eraseDups.take room
  parsed : ∀ entry ∈ cache.entries, Pattern.parse entry.1 = .ok entry.2

variable {room : Nat} {requests : List String} {cache : RecentPatterns} {expression : String}
  {pattern : Pattern}

theorem remembers_ofCapacity (capacity : Nat) :
    Remembers (max capacity 1) [] (ofCapacity capacity) where
  positive := Nat.le_max_right capacity 1
  capacity := rfl
  held := List.take_nil.symm
  parsed := by simp [ofCapacity]

theorem Remembers.clear (remembers : Remembers room requests cache) :
    Remembers room [] cache.clear where
  positive := remembers.positive
  capacity := remembers.capacity
  held := List.take_nil.symm
  parsed := by simp [RecentPatterns.clear]

theorem Remembers.nodup_held (remembers : Remembers room requests cache) :
    cache.held.Nodup := by
  rw [remembers.held]
  exact (nodup_eraseDups requests).sublist (List.take_sublist _ _)

theorem Remembers.held_place (remembers : Remembers room requests cache)
    (expression : String) (pattern : Pattern) :
    (cache.place expression pattern).held =
      (expression :: cache.held.erase expression).take room := by
  have others : (cache.entries.filter (·.1 ≠ expression)).map Prod.fst =
      cache.held.filter (· ≠ expression) := by
    rw [RecentPatterns.held, List.filter_map]
    rfl
  rw [RecentPatterns.held, RecentPatterns.place, List.map_take, List.map_cons, others,
    filter_ne_eq_erase remembers.nodup_held, remembers.capacity]

theorem Remembers.place (remembers : Remembers room requests cache)
    (parsed : Pattern.parse expression = .ok pattern) :
    Remembers room (expression :: requests) (cache.place expression pattern) where
  positive := remembers.positive
  capacity := remembers.capacity
  held := by
    obtain ⟨count, rfl⟩ := Nat.exists_eq_add_one_of_ne_zero
      (Nat.pos_iff_ne_zero.mp remembers.positive)
    rw [remembers.held_place, remembers.held, eraseDups_cons_eq_erase, List.take_succ_cons,
      List.take_succ_cons, take_erase_take]
  parsed := by
    intro entry member
    rcases List.mem_cons.mp (List.mem_of_mem_take member) with rfl | old
    · exact parsed
    · exact remembers.parsed entry (List.mem_filter.mp old).1

/-- A request is answered as parsing answers it, and it changes the cache if it succeeds. -/
theorem Remembers.fetch_eq (remembers : Remembers room requests cache) (expression : String) :
    cache.fetch expression =
      match Pattern.parse expression with
      | .ok pattern => (.ok pattern, cache.place expression pattern)
      | .error error => (.error error, cache) := by
  unfold fetch
  cases found : cache.entries.lookup expression with
  | none => rfl
  | some pattern =>
      obtain ⟨before, after, joined, -⟩ := List.lookup_eq_some_iff.mp found
      have parsed := remembers.parsed (expression, pattern) (by simp [joined])
      simp only [parsed]

theorem Remembers.afterCall {calls : List Call}
    (remembers : Remembers room (Call.successes calls) cache) (call : Call) :
    Remembers room (Call.successes (calls ++ [call])) (cache.afterCall call) := by
  cases call with
  | clear =>
      rw [Call.successes_clear]
      exact remembers.clear
  | fetch expression =>
      rw [Call.successes_fetch, RecentPatterns.afterCall, remembers.fetch_eq]
      cases parsed : Pattern.parse expression with
      | ok pattern =>
          rw [Call.parses_of_ok parsed, if_pos rfl]
          exact remembers.place parsed
      | error error =>
          rw [Call.not_parses_of_error parsed, if_neg Bool.false_ne_true]
          exact remembers

/-! ### Hits and misses -/

theorem Remembers.length_held_le (remembers : Remembers room requests cache) :
    cache.held.length ≤ room := by
  rw [remembers.held]
  exact List.length_take_le room _

/-- A request for an expression that is held brings it to the front, and nothing is forgotten. -/
theorem Remembers.held_fetch_of_mem (remembers : Remembers room requests cache)
    (member : expression ∈ cache.held) :
    (cache.fetch expression).2.held = expression :: cache.held.erase expression := by
  obtain ⟨entry, inside, rfl⟩ := List.mem_map.mp member
  have parsed := remembers.parsed entry inside
  have moved := (List.perm_cons_erase member).length_eq
  rw [remembers.fetch_eq, parsed, remembers.held_place]
  exact List.take_of_length_le (moved ▸ remembers.length_held_le)

/-- An expression that is not held comes to the front.  If there is no room left for it, the one
that was asked for least recently is forgotten. -/
theorem Remembers.held_fetch_of_not_mem (remembers : Remembers room requests cache)
    (absent : expression ∉ cache.held) (parsed : Pattern.parse expression = .ok pattern) :
    (cache.fetch expression).2.held =
      expression :: if cache.held.length < room then cache.held else cache.held.dropLast := by
  obtain ⟨count, rfl⟩ := Nat.exists_eq_add_one_of_ne_zero
    (Nat.pos_iff_ne_zero.mp remembers.positive)
  have within := remembers.length_held_le
  rw [remembers.fetch_eq, parsed, remembers.held_place, List.erase_of_not_mem absent,
    List.take_succ_cons]
  congr 1
  split
  · exact List.take_of_length_le (by omega)
  · rw [List.dropLast_eq_take]
    congr 1
    omega

/-! ### All calls -/

theorem remembers_afterCalls (capacity : Nat) (calls : List Call) :
    Remembers (max capacity 1) (Call.successes calls)
      ((ofCapacity capacity).afterCalls calls) := by
  induction calls using List.reverseRecOn with
  | nil => exact remembers_ofCapacity capacity
  | append_singleton calls call ih =>
      rw [afterCalls, List.foldl_append]
      exact ih.afterCall call

/-- Let some calls have been made.  Then every request is answered as parsing answers it.  The
cache holds, each with its pattern and the latest in front, the expressions that have been asked
for with success since it was last cleared, or as many of the latest ones as it has room for: an
expression is held as long as fewer others than that have been asked for since.  A request that
fails changes nothing.  One for an expression that is held brings it to the front, and one for
a new expression puts it there; only if there is no room left for that, the one that was asked
for least recently is forgotten. -/
theorem remembers_latest (capacity : Nat) (calls : List Call) :
    let cache := (ofCapacity capacity).afterCalls calls
    let room := max capacity 1
    let requests := Call.successes calls
    (∀ expression, (cache.fetch expression).1 = Pattern.parse expression) ∧
      cache.held = requests.eraseDups.take room ∧
      cache.size = min room requests.eraseDups.length ∧
      (∀ entry ∈ cache.entries, Pattern.parse entry.1 = .ok entry.2) ∧
      (∀ expression, expression ∈ cache.held ↔
        ∃ since earlier, requests = since ++ expression :: earlier ∧ expression ∉ since ∧
          since.eraseDups.length < room) ∧
      (∀ expression error, Pattern.parse expression = .error error →
        (cache.fetch expression).2 = cache) ∧
      (∀ expression ∈ cache.held,
        (cache.fetch expression).2.held = expression :: cache.held.erase expression) ∧
      ∀ expression pattern, expression ∉ cache.held → Pattern.parse expression = .ok pattern →
        (cache.fetch expression).2.held = expression ::
          if cache.held.length < room then cache.held else cache.held.dropLast := by
  intro cache room requests
  have remembers : Remembers room requests cache := remembers_afterCalls capacity calls
  refine ⟨?_, remembers.held, ?_, remembers.parsed, ?_, ?_,
    fun _ => remembers.held_fetch_of_mem, fun _ _ => remembers.held_fetch_of_not_mem⟩
  · intro expression
    rw [remembers.fetch_eq]
    cases Pattern.parse expression <;> rfl
  · have sizes : cache.size = cache.held.length := (List.length_map _).symm
    rw [sizes, remembers.held, List.length_take]
  · intro expression
    rw [remembers.held]
    exact mem_take_eraseDups_iff
  · intro expression error failed
    rw [remembers.fetch_eq, failed]

/-- Asking again for `/a` keeps it in the cache, and `/b` has to give way. -/
example :
    ((ofCapacity 2).afterCalls [.fetch "/a", .fetch "/b", .fetch "/a", .fetch "/c[0]",
      .fetch "/c"]).held = ["/c", "/a"] := by
  decide +kernel

end RecentPatterns

end XmlExtract
