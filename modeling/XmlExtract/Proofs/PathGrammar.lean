import XmlExtract.Path.Expression

/-!
# The grammar of path expressions

    expression ::= "/"? (step ("/" step)*)?
    step       ::= name ("[" "+"? digit+ "]")?

A name is not empty and has no slash and no bracket.  What stands in the brackets is at
least one and below `2 ^ 64`.  The reader of expressions takes the texts of this grammar and
no others, and finds in them the steps that the grammar finds
(`Pattern.parse_eq_ok_iff`, `Position.parse_eq_ok_iff`).

The relations below are stated for texts put together from their parts, without a search.
The reader looks for the slashes first, then for the first opening bracket of a step, and
then for a closing bracket at its end.  Each of these finds the cut of the grammar because
the part in front of the cut cannot contain the character that is looked for.
-/

namespace XmlExtract

namespace PathGrammar

/-- One or more digits and the number that they write. -/
structure Digits (text : List Char) (number : Nat) : Prop where
  nonempty : text ≠ []
  decimal : ∀ digit ∈ text, digit.isDigit = true
  worth : Nat.ofDigitChars 10 text 0 = number

inductive Numeral : List Char → Nat → Prop
  | unsigned {text number} : Digits text number → Numeral text number
  | signed {text number} : Digits text number → Numeral ('+' :: text) number

/-- What may stand between brackets. -/
structure Index (text : List Char) (number : Nat) : Prop where
  numeral : Numeral text number
  positive : 1 ≤ number
  bounded : number ≤ 0xFFFFFFFFFFFFFFFF

structure Name (text : List Char) : Prop where
  nonempty : text ≠ []
  slashless : '/' ∉ text
  opens : '[' ∉ text
  closes : ']' ∉ text

inductive Item : List Char → Step → Prop
  | every {name} : Name name.toList → Item name.toList ⟨name, none⟩
  | only {name inner index} : Name name.toList → Index inner index →
      Item (name.toList ++ '[' :: (inner ++ [']'])) ⟨name, some index⟩

/-- One or more steps with slashes between them. -/
inductive Series : List Char → List Step → Prop
  | last {text step} : Item text step → Series text [step]
  | next {text step rest steps} : Item text step → Series rest steps →
      Series (text ++ '/' :: rest) (step :: steps)

inductive Body : List Char → List Step → Prop
  | empty : Body [] []
  | series {text steps} : Series text steps → Body text steps

/-- A body, which a slash may precede. -/
inductive Expression : List Char → List Step → Prop
  | bare {text steps} : Body text steps → Expression text steps
  | slashed {text steps} : Body text steps → Expression ('/' :: text) steps

end PathGrammar

open PathGrammar

/-! ### Digits -/

namespace Decimal

theorem digitValue?_of_isDigit {character : Char} (digit : character.isDigit = true) :
    digitValue? character = some (character.toNat - '0'.toNat) := by
  rw [Char.isDigit_iff_toNat] at digit
  rw [digitValue?, if_pos]
  simpa [Char.le_def, UInt32.le_iff_toNat_le] using digit

theorem isDigit_of_digitValue? {character : Char} {value : Nat}
    (found : digitValue? character = some value) : character.isDigit = true := by
  unfold digitValue? at found
  split at found
  · rename_i inside
    rw [Char.isDigit_iff_toNat]
    simpa [Char.le_def, UInt32.le_iff_toNat_le] using inside
  · contradiction

theorem readAfter_eq_ofDigitChars (value : Nat) {digits : List Char}
    (decimal : ∀ digit ∈ digits, digit.isDigit = true) :
    readAfter value digits = some (Nat.ofDigitChars 10 digits value) := by
  induction digits generalizing value with
  | nil => simp [readAfter]
  | cons digit rest ih =>
      rw [List.forall_mem_cons] at decimal
      rw [readAfter, digitValue?_of_isDigit decimal.1]
      simp only
      rw [ih _ decimal.2, Nat.ofDigitChars_cons]

theorem isDigit_of_readAfter {value number : Nat} {digits : List Char}
    (found : readAfter value digits = some number) :
    ∀ digit ∈ digits, digit.isDigit = true := by
  induction digits generalizing value with
  | nil => simp
  | cons digit rest ih =>
      rw [readAfter] at found
      cases first : digitValue? digit with
      | none => simp [first] at found
      | some worth =>
          simp only [first] at found
          rw [List.forall_mem_cons]
          exact ⟨isDigit_of_digitValue? first, ih found⟩

theorem read?_eq_some_iff {digits : List Char} {number : Nat} :
    read? digits = some number ↔ Digits digits number := by
  constructor
  · intro found
    unfold read? at found
    split at found
    · contradiction
    · rename_i nonempty
      have decimal := isDigit_of_readAfter found
      rw [readAfter_eq_ofDigitChars 0 decimal] at found
      exact ⟨by simpa using nonempty, decimal, Option.some.inj found⟩
  · rintro ⟨nonempty, decimal, worth⟩
    rw [read?, if_neg (by simpa using nonempty), readAfter_eq_ofDigitChars 0 decimal, worth]

end Decimal

/-! ### One step -/

namespace Step

/-- A plus sign is no digit, so that no text has both forms of a numeral. -/
theorem readNumber?_eq_some_iff {inner : List Char} {number : Nat} :
    readNumber? inner = some number ↔ Numeral inner number ∧ number < indexBound := by
  unfold readNumber?
  simp only [Option.filter_eq_some_iff, Decimal.read?_eq_some_iff, decide_eq_true_eq]
  refine and_congr_left fun _ => ?_
  split
  · constructor
    · exact Numeral.signed
    · rintro (unsigned | signed)
      · exact absurd (unsigned.decimal '+' List.mem_cons_self) (by decide)
      · exact signed
  · rename_i bare
    constructor
    · exact Numeral.unsigned
    · rintro (unsigned | signed)
      · exact unsigned
      · exact absurd rfl (bare _)

theorem readIndex_eq_ok_iff {source bracketed : List Char} {index : Nat} :
    readIndex source bracketed = .ok index ↔
      ∃ inner, bracketed = inner ++ [']'] ∧ Index inner index := by
  constructor
  · intro done
    unfold readIndex at done
    split at done
    · rename_i closed
      obtain ⟨inner, rfl⟩ := List.getLast?_eq_some_iff.mp closed
      rw [List.dropLast_concat] at done
      refine ⟨inner, rfl, ?_⟩
      split at done
      · contradiction
      · contradiction
      · rename_i value positive found
        cases done
        obtain ⟨numeral, bounded⟩ := readNumber?_eq_some_iff.mp found
        exact ⟨numeral, Nat.pos_of_ne_zero positive, Nat.le_sub_one_of_lt bounded⟩
    · contradiction
  · rintro ⟨inner, rfl, numeral, positive, bounded⟩
    have found : readNumber? inner = some index :=
      readNumber?_eq_some_iff.mpr ⟨numeral, Nat.lt_of_le_sub_one (by decide) bounded⟩
    rw [readIndex, if_pos List.getLast?_concat, List.dropLast_concat, found]
    cases index with
    | zero => contradiction
    | succ before => rfl

theorem named_eq_ok_iff {source name : List Char} {index : Option Nat} {step : Step} :
    named source name index = .ok step ↔
      name ≠ [] ∧ ']' ∉ name ∧ ⟨String.ofList name, index⟩ = step := by
  unfold named
  by_cases empty : name = []
  · simp [empty]
  · by_cases closed : ']' ∈ name
    · simp [empty, closed]
    · simp [empty, closed]

/-! The text of a step is cut at its first opening bracket. -/

section Cut

variable {name : List Char} (opens : '[' ∉ name)

include opens

theorem ne_of_mem_name : ∀ character ∈ name, decide (character ≠ '[') = true := by
  intro character member
  rw [decide_eq_true_iff]
  rintro rfl
  exact opens member

theorem read_bare (nonempty : name ≠ []) : read name = named name name none := by
  have uncut : name.dropWhile (· ≠ '[') = [] := by
    have passed : (name ++ []).dropWhile (· ≠ '[') = [] :=
      List.dropWhile_append_of_pos (ne_of_mem_name opens)
    rwa [List.append_nil] at passed
  rw [read, if_neg (by simpa using nonempty), uncut]

theorem read_bracketed (bracketed : List Char) :
    read (name ++ '[' :: bracketed) =
      readIndex (name ++ '[' :: bracketed) bracketed >>= fun index =>
        named (name ++ '[' :: bracketed) name (some index) := by
  have taken : (name ++ '[' :: bracketed).takeWhile (· ≠ '[') = name := by
    rw [List.takeWhile_append_of_pos (ne_of_mem_name opens)]
    simp
  have dropped : (name ++ '[' :: bracketed).dropWhile (· ≠ '[') = '[' :: bracketed := by
    rw [List.dropWhile_append_of_pos (ne_of_mem_name opens)]
    simp
  rw [read, if_neg (by simp), dropped]
  simp only [taken]

end Cut

theorem read_of_item {source : List Char} {step : Step} (item : Item source step) :
    read source = .ok step := by
  cases item with
  | every name =>
      rw [read_bare name.opens name.nonempty]
      exact named_eq_ok_iff.mpr ⟨name.nonempty, name.closes, by rw [String.ofList_toList]⟩
  | only name index =>
      rw [read_bracketed name.opens, readIndex_eq_ok_iff.mpr ⟨_, rfl, index⟩]
      exact named_eq_ok_iff.mpr ⟨name.nonempty, name.closes, by rw [String.ofList_toList]⟩

theorem item_of_read {source : List Char} {step : Step} (slashless : '/' ∉ source)
    (done : read source = .ok step) : Item source step := by
  have text (characters : List Char) : ∃ name : String, name.toList = characters :=
    ⟨String.ofList characters, String.toList_ofList⟩
  by_cases bracket : '[' ∈ source
  · obtain ⟨front, bracketed, rfl, opens⟩ := List.eq_append_cons_of_mem bracket
    obtain ⟨name, rfl⟩ := text front
    rw [read_bracketed opens] at done
    cases position : readIndex (name.toList ++ '[' :: bracketed) bracketed with
    | error flaw => simp [position, bind, Except.bind] at done
    | ok index =>
        simp only [position, bind, Except.bind] at done
        obtain ⟨inner, rfl, counted⟩ := readIndex_eq_ok_iff.mp position
        obtain ⟨nonempty, closes, rfl⟩ := named_eq_ok_iff.mp done
        rw [String.ofList_toList]
        exact .only ⟨nonempty, fun member => slashless (List.mem_append_left _ member), opens,
          closes⟩ counted
  · obtain ⟨name, rfl⟩ := text source
    have nonempty : name.toList ≠ [] := by
      intro empty
      rw [empty] at done
      contradiction
    rw [read_bare bracket nonempty] at done
    obtain ⟨-, closes, rfl⟩ := named_eq_ok_iff.mp done
    rw [String.ofList_toList]
    exact .every ⟨nonempty, slashless, bracket, closes⟩

end Step

/-! ### A series of steps -/

namespace PathGrammar

theorem Digits.not_mem {text : List Char} {number : Nat} (digits : Digits text number)
    {character : Char} (other : character.isDigit = false) : character ∉ text := by
  intro member
  have digit := digits.decimal character member
  rw [other] at digit
  exact Bool.false_ne_true digit

theorem Numeral.slashless {text : List Char} {number : Nat} (numeral : Numeral text number) :
    '/' ∉ text := by
  cases numeral with
  | unsigned digits => exact digits.not_mem (by decide)
  | signed digits => simpa using digits.not_mem (by decide)

theorem Item.slashless {text : List Char} {step : Step} (item : Item text step) :
    '/' ∉ text := by
  cases item with
  | every name => exact name.slashless
  | only name index => simp [name.slashless, index.numeral.slashless]

theorem Item.nonempty {text : List Char} {step : Step} (item : Item text step) :
    text ≠ [] := by
  cases item with
  | every name => exact name.nonempty
  | only => simp

theorem Series.nonempty {text : List Char} {steps : List Step} (series : Series text steps) :
    text ≠ [] := by
  cases series with
  | last item => exact item.nonempty
  | next => simp

theorem Series.unslashed {text : List Char} {steps : List Step} (series : Series text steps)
    (rest : List Char) : text ≠ '/' :: rest := by
  have front {piece : List Char} {step : Step} (item : Item piece step) (later : List Char) :
      piece ++ later ≠ '/' :: rest := by
    cases piece with
    | nil => exact absurd rfl item.nonempty
    | cons character piece =>
        rintro ⟨⟩
        exact item.slashless List.mem_cons_self
  cases series with
  | last item => simpa using front item []
  | next item series => exact front item _

theorem Series.exists_item {text : List Char} {steps : List Step} (series : Series text steps)
    {step : Step} (member : step ∈ steps) : ∃ piece, Item piece step := by
  induction series with
  | last item =>
      rw [List.mem_singleton] at member
      exact ⟨_, member ▸ item⟩
  | next item series ih =>
      rcases List.mem_cons.mp member with rfl | later
      · exact ⟨_, item⟩
      · exact ih later

theorem Body.exists_item {text : List Char} {steps : List Step} (body : Body text steps)
    {step : Step} (member : step ∈ steps) : ∃ piece, Item piece step := by
  cases body with
  | empty => contradiction
  | series series => exact series.exists_item member

theorem Expression.exists_item {text : List Char} {steps : List Step}
    (expression : Expression text steps) {step : Step} (member : step ∈ steps) :
    ∃ piece, Item piece step := by
  cases expression with
  | bare body => exact body.exists_item member
  | slashed body => exact body.exists_item member

theorem Body.unslashed {text : List Char} {steps : List Step} (body : Body text steps)
    (rest : List Char) : text ≠ '/' :: rest := by
  cases body with
  | empty => simp
  | series series => exact series.unslashed rest

end PathGrammar

theorem mapM_cons_eq_ok_iff {α β ε : Type} {read : α → Except ε β} {source : α}
    {sources : List α} {results : List β} :
    (source :: sources).mapM read = .ok results ↔
      ∃ result later, read source = .ok result ∧ sources.mapM read = .ok later ∧
        result :: later = results := by
  rw [List.mapM_cons]
  cases read source with
  | error error => simp [bind, Except.bind]
  | ok result => cases sources.mapM read <;> simp [bind, Except.bind, pure, Except.pure]

namespace Step

theorem mapM_read_splitOn_of_series {body : List Char} {steps : List Step}
    (series : Series body steps) : (body.splitOn '/').mapM read = .ok steps := by
  induction series with
  | last item =>
      rw [List.splitOn_eq_singleton item.slashless, mapM_cons_eq_ok_iff]
      exact ⟨_, [], read_of_item item, rfl, rfl⟩
  | next item series ih =>
      rw [List.splitOn_append_cons_self_of_not_mem item.slashless, mapM_cons_eq_ok_iff]
      exact ⟨_, _, read_of_item item, ih, rfl⟩

theorem series_of_mapM_read_splitOn {body : List Char} {steps : List Step}
    (done : (body.splitOn '/').mapM read = .ok steps) : Series body steps := by
  -- Each step that was read accounts for the text up to one slash.
  induction steps generalizing body with
  | nil =>
      cases cut : body.splitOn '/' with
      | nil => simp at cut
      | cons piece pieces =>
          rw [cut, mapM_cons_eq_ok_iff] at done
          obtain ⟨step, later, -, -, impossible⟩ := done
          contradiction
  | cons step steps ih =>
      by_cases slash : '/' ∈ body
      · -- The first slash is cut at, so that there is none in the first text.
        obtain ⟨text, rest, rfl, slashless⟩ := List.eq_append_cons_of_mem slash
        rw [List.splitOn_append_cons_self_of_not_mem slashless, mapM_cons_eq_ok_iff] at done
        obtain ⟨first, later, readFirst, readLater, same⟩ := done
        cases same
        exact .next (item_of_read slashless readFirst) (ih readLater)
      · rw [List.splitOn_eq_singleton slash, mapM_cons_eq_ok_iff] at done
        obtain ⟨first, later, readFirst, nothing, same⟩ := done
        cases nothing
        cases same
        exact .last (item_of_read slash readFirst)

/-- What is left after the slash in front is read as a body. -/
theorem readBody_eq_ok_iff {body : List Char} {steps : List Step} :
    (if body.isEmpty then .ok [] else (body.splitOn '/').mapM read) =
      (.ok steps : Except PathFlaw _) ↔ Body body steps := by
  cases body with
  | nil =>
      constructor
      · intro done
        cases done
        exact .empty
      · rintro (_ | series)
        · rfl
        · exact absurd rfl series.nonempty
  | cons character rest =>
      rw [if_neg (by simp)]
      constructor
      · intro done
        exact .series (series_of_mapM_read_splitOn done)
      · intro written
        cases written with
        | series series => exact mapM_read_splitOn_of_series series

theorem readAll_eq_ok_iff {expression : List Char} {steps : List Step} :
    readAll expression = .ok steps ↔ Expression expression steps := by
  unfold readAll
  simp only [readBody_eq_ok_iff]
  split
  · rename_i body
    constructor
    · exact Expression.slashed
    · rintro (bare | slashed)
      · -- A step has no slash and is not empty, so that no body begins with a slash.
        exact absurd rfl (bare.unslashed body)
      · exact slashed
  · rename_i unslashed
    constructor
    · exact Expression.bare
    · rintro (bare | slashed)
      · exact bare
      · exact absurd rfl (unslashed _)

theorem toPlace_eq_ok_iff {step : Step} {place : Place} :
    step.toPlace = .ok place ↔ step = place.toStep := by
  obtain ⟨name, index⟩ := step
  obtain ⟨otherName, number⟩ := place
  cases index <;> simp [toPlace, Place.toStep]

theorem exists_places {steps : List Step} (indexed : ∀ step ∈ steps, step.index.isSome) :
    ∃ places : List Place, steps = places.map Place.toStep := by
  induction steps with
  | nil => exact ⟨[], rfl⟩
  | cons step steps ih =>
      rw [List.forall_mem_cons] at indexed
      obtain ⟨places, rfl⟩ := ih indexed.2
      obtain ⟨index, found⟩ := Option.isSome_iff_exists.mp indexed.1
      exact ⟨⟨step.name, index⟩ :: places, by simp [Place.toStep, ← found]⟩

theorem mapM_toPlace_eq_ok_iff {steps : List Step} {places : List Place} :
    steps.mapM toPlace = .ok places ↔ steps = places.map Place.toStep := by
  induction steps generalizing places with
  | nil => simp [pure, Except.pure, eq_comm]
  | cons step steps ih =>
      simp only [mapM_cons_eq_ok_iff, toPlace_eq_ok_iff, ih]
      cases places <;> simp

end Step

theorem Pattern.parse_eq_ok_iff {expression : String} {pattern : Pattern} :
    parse expression = .ok pattern ↔ Expression expression.toList pattern.steps := by
  rw [← Step.readAll_eq_ok_iff]
  unfold parse
  cases Step.readAll expression.toList with
  | error flaw => simp
  | ok steps =>
      obtain ⟨wanted⟩ := pattern
      simp

theorem Position.parse_eq_ok_iff {expression : String} {position : Position} :
    parse expression = .ok position ↔
      Expression expression.toList (position.places.map Place.toStep) := by
  rw [← Step.readAll_eq_ok_iff]
  unfold parse
  cases Step.readAll expression.toList with
  | error flaw => simp [bind, Except.bind]
  | ok steps =>
      obtain ⟨places⟩ := position
      rw [Except.ok.injEq, ← Step.mapM_toPlace_eq_ok_iff]
      simp only [bind, Except.bind]
      cases steps.mapM Step.toPlace <;> simp

/-- The readers of patterns and positions take exactly the texts of the grammar, and find in
them the steps that the grammar finds.  A position is the pattern that has an index in every
step. -/
theorem Step.parses_exactly_grammar (expression : String) :
    ((∃ pattern, Pattern.parse expression = .ok pattern) ↔
      ∃ steps, Expression expression.toList steps) ∧
    (∀ pattern, Pattern.parse expression = .ok pattern ↔
      Expression expression.toList pattern.steps) ∧
    ((∃ position, Position.parse expression = .ok position) ↔
      ∃ steps, Expression expression.toList steps ∧ ∀ step ∈ steps, step.index.isSome) ∧
    ∀ position, Position.parse expression = .ok position ↔
      Expression expression.toList (position.places.map Place.toStep) := by
  refine ⟨?_, fun _ => Pattern.parse_eq_ok_iff, ?_, fun _ => Position.parse_eq_ok_iff⟩
  · simp only [Pattern.parse_eq_ok_iff]
    constructor
    · rintro ⟨pattern, written⟩
      exact ⟨pattern.steps, written⟩
    · rintro ⟨steps, written⟩
      exact ⟨⟨steps⟩, written⟩
  · simp only [Position.parse_eq_ok_iff]
    constructor
    · rintro ⟨position, written⟩
      refine ⟨_, written, ?_⟩
      simp [Place.toStep]
    · rintro ⟨steps, written, indexed⟩
      obtain ⟨places, rfl⟩ := Step.exists_places indexed
      exact ⟨⟨places⟩, written⟩

example : Position.parse "a[+02]/b[1]" = .ok ⟨[⟨"a", 2⟩, ⟨"b", 1⟩]⟩ := by rfl

end XmlExtract
