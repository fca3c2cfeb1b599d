import XmlExtract.Proofs.EarlyStop
import XmlExtract.Proofs.ElementTree

/-!
# What document order rules out

A position is past a pattern if no element that starts after the one at the position can be
compatible with the pattern, in whatever document that element stands.  This is exactly what the
walk down the position finds out (`past_iff_nothing_follows`).

Past a pattern, all positions that agree with it are spent, and an element that starts has a
position that is not (`pairwise_started`).  For the other direction there is a document to be
built for each way in which the walk can end.  Either a place on the way leaves room for a later
sibling that the step beside it admits (`Step.exists_later`), or all steps are pinned to the
position and there is room below it.
-/

namespace XmlExtract

/-- The element at the first position starts before the one at the second. -/
def ElementTree.Precedes (tree : ElementTree) (first second : Position) : Prop :=
  [first, second].Sublist (tree.elements.map (·.position))

/-! ### Nothing follows a position that is past the pattern -/

theorem Trail.pairwise_started {trail : Trail} (sound : trail.Sound) (pattern : Pattern)
    (events : List Event) :
    (trail.started events).Pairwise fun first second =>
      first.position.past pattern = true →
        (∀ root ∈ second.position.places.head?, first.position.places.head? = some root) →
          ¬ pattern.Agrees second.position := by
  induction events generalizing trail with
  | nil => exact List.Pairwise.nil
  | cons event later ih =>
      rw [started, List.pairwise_append]
      refine ⟨?_, ih (sound.follow event), ?_⟩
      · cases event <;> simp [startedBy]
      · intro first now second afterwards past sameRoot agrees
        have unspent := not_spent_of_mem_started (sound.follow event) afterwards
        cases event with
        | elementStart name attributes =>
            obtain rfl := List.mem_singleton.mp now
            exact unspent (spent_of_past (sound.enter name) past sameRoot agrees)
        | documentStart | elementEnd name | text content | documentEnd => simp [startedBy] at now

namespace Content

/-- The elements of some content stand under the places above it. -/
theorem prefix_of_mem_elements {content : Content} {above : List Place} {earlier : List String}
    {element : StartedElement} (member : element ∈ content.elements above earlier) :
    above <+: element.position.places := by
  induction content generalizing above earlier with
  | nothing => simp [elements] at member
  | text chunk rest ih => exact ih member
  | element name attributes inner rest innerIh restIh =>
      simp only [elements, List.mem_cons, List.mem_append] at member
      rcases member with rfl | below | beside
      · exact List.prefix_append _ _
      · exact (List.prefix_append _ _).trans (innerIh below)
      · exact restIh beside

end Content

namespace ElementTree

variable {tree : ElementTree} {first second : Position}

theorem head?_of_mem_elements {element : StartedElement} (member : element ∈ tree.elements) :
    element.position.places.head? = some tree.root := by
  rcases List.mem_cons.mp member with rfl | below
  · rfl
  · obtain ⟨places, joined⟩ := Content.prefix_of_mem_elements below
    rw [← joined]
    rfl

theorem started_content (tree : ElementTree) :
    Trail.fresh.started tree.content.events = tree.elements :=
  (Trail.meets_events Trail.sound_fresh Trail.hasCounted_fresh tree.content).1.trans
    tree.elements_content

theorem Precedes.not_agrees (precedes : tree.Precedes first second) {pattern : Pattern}
    (past : first.past pattern = true) : ¬ pattern.Agrees second := by
  have ordered := Trail.pairwise_started Trail.sound_fresh pattern tree.content.events
  rw [started_content] at ordered
  have root (position : Position) (member : position ∈ [first, second]) :
      position.places.head? = some tree.root := by
    obtain ⟨element, inside, rfl⟩ := List.mem_map.mp (precedes.subset member)
    exact head?_of_mem_elements inside
  have positions : (tree.elements.map (·.position)).Pairwise fun first second =>
      first.past pattern = true →
        (∀ root ∈ second.places.head?, first.places.head? = some root) →
          ¬ pattern.Agrees second :=
    List.pairwise_map.mpr ordered
  have pair := List.pairwise_pair.mp (positions.sublist precedes)
  apply pair past
  rw [root first (by simp), root second (by simp)]
  exact fun place same => same

end ElementTree

/-! ### Something may follow any other position -/

/-- A step that is neither gone past at a place nor pinned to it admits a later place: one of
another name, or a sibling with a larger index. -/
theorem Step.exists_later {step : Step} {place : Place}
    (indexed : ∀ index ∈ step.index, 1 ≤ index)
    (reachable : step.name = place.name → ∀ bound ∈ step.index, place.index ≤ bound)
    (loose : ¬ step.Pins false place) :
    ∃ target, step.Admits target ∧ 1 ≤ target.index ∧
      (target.name = place.name → place.index < target.index) := by
  cases index : step.index with
  | none =>
      refine ⟨⟨step.name, place.index + 1⟩, ⟨rfl, ?_⟩, ?_, ?_⟩
      · simp [index]
      · exact Nat.le_add_left 1 _
      · exact fun _ => Nat.lt_succ_self _
  | some bound =>
      refine ⟨⟨step.name, bound⟩, ⟨rfl, ?_⟩, indexed bound index, ?_⟩
      · simp [index]
      · intro named
        have atMost := reachable named bound index
        have different : bound ≠ place.index := by
          rintro rfl
          exact loose ⟨named, Or.inl index⟩
        exact Nat.lt_of_le_of_ne atMost (Ne.symm different)

namespace Content

/-- Some elements of one name side by side, without anything in them. -/
def row (name : String) : Nat → Content → Content
  | 0, rest => rest
  | count + 1, rest => .element name [] .nothing (row name count rest)

/-- The element at a place, after the siblings that make it the one with this index. -/
def upTo (place : Place) (inner rest : Content) : Content :=
  row place.name (place.index - 1) (.element place.name [] inner rest)

/-- The position around some content, and those of the elements of the content. -/
def positions (content : Content) (above : List Place) : List Position :=
  ⟨above⟩ :: (content.elements above []).map (·.position)

theorem exists_elements_row (name : String) (count : Nat) (rest : Content) (above : List Place)
    (earlier : List String) :
    ∃ front, (row name count rest).elements above earlier =
        front ++ rest.elements above (List.replicate count name ++ earlier) ∧
      (0 < count → ⟨⟨above ++ [⟨name, earlier.count name + count⟩]⟩, []⟩ ∈ front) := by
  induction count generalizing earlier with
  | zero => exact ⟨[], rfl, by simp⟩
  | succ count ih =>
      obtain ⟨front, joined, last⟩ := ih (name :: earlier)
      refine ⟨⟨⟨above ++ [place earlier name]⟩, []⟩ :: front, ?_, fun _ => ?_⟩
      · rw [row, elements, joined, List.replicate_succ', List.append_assoc]
        rfl
      · rw [List.mem_cons]
        rcases Nat.eq_zero_or_pos count with rfl | some
        · left
          rw [place, Nat.add_comm]
        · right
          have member := last some
          rwa [List.count_cons_self, Nat.add_assoc, Nat.add_comm 1] at member

theorem exists_elements_upTo {place : Place} (counted : 1 ≤ place.index) (inner rest : Content)
    (above : List Place) :
    ∃ front, (upTo place inner rest).elements above [] =
      front ++ ⟨⟨above ++ [place]⟩, []⟩ :: (inner.elements (above ++ [place]) [] ++
        rest.elements above (List.replicate place.index place.name)) := by
  obtain ⟨front, joined, -⟩ := exists_elements_row place.name (place.index - 1)
    (.element place.name [] inner rest) above []
  refine ⟨front, ?_⟩
  have index : 1 + (place.index - 1) = place.index := by omega
  have same : Content.place (List.replicate (place.index - 1) place.name) place.name = place := by
    rw [Content.place, List.count_replicate_self, index]
  have siblings : place.name :: List.replicate (place.index - 1) place.name =
      List.replicate place.index place.name := by
    rw [← List.replicate_succ, Nat.add_comm, index]
  rw [upTo, joined, List.append_nil, elements, same, siblings]

/-- What follows in the element at a place follows in what leads up to it. -/
theorem sublist_positions_upTo {place : Place} (counted : 1 ≤ place.index) (inner rest : Content)
    (above : List Place) :
    (inner.positions (above ++ [place]) ++
      (rest.elements above (List.replicate place.index place.name)).map (·.position)).Sublist
        ((upTo place inner rest).positions above) := by
  obtain ⟨front, joined⟩ := exists_elements_upTo counted inner rest above
  rw [positions, positions, joined]
  simp only [List.map_append, List.map_cons, List.cons_append]
  exact (List.sublist_append_right _ _).cons _

/-- Behind the element at a place there can be one at any place that is later. -/
theorem exists_beside {place target : Place} (counted : 1 ≤ target.index)
    (later : target.name = place.name → place.index < target.index) (above : List Place) :
    ∃ rest : Content, (⟨above ++ [target]⟩ : Position) ∈
      (rest.elements above (List.replicate place.index place.name)).map (·.position) := by
  obtain ⟨before, some, reaches⟩ : ∃ before, before < target.index ∧
      (List.replicate place.index place.name).count target.name = before := by
    refine ⟨_, ?_, rfl⟩
    rw [List.count_replicate]
    split
    · rename_i named
      exact later (beq_iff_eq.mp named).symm
    · exact counted
  obtain ⟨front, joined, last⟩ := exists_elements_row target.name (target.index - before) .nothing
    above (List.replicate place.index place.name)
  have member := last (Nat.sub_pos_of_lt some)
  rw [reaches, Nat.add_sub_cancel' (Nat.le_of_lt some)] at member
  refine ⟨row target.name (target.index - before) .nothing, ?_⟩
  rw [joined, List.map_append]
  exact List.mem_append_left _ (List.mem_map_of_mem (f := (·.position)) member)

/-- Under the places `above` there can be content in which an element that agrees with the steps
follows the element at the places `opened` further down. -/
def Followable (steps : List Step) (above opened : List Place) : Prop :=
  ∃ (content : Content) (places : List Place),
    [⟨above ++ opened⟩, ⟨above ++ places⟩].Sublist (content.positions above) ∧
      ∀ shared ∈ places.zip steps, shared.2.Admits shared.1

variable {steps : List Step} {above deeper : List Place} {step : Step} {place : Place}

theorem followable_of_target {target : Place} (counted : 1 ≤ target.index)
    (admits : ∀ shared ∈ [target].zip steps, shared.2.Admits shared.1) :
    Followable steps above [] := by
  obtain ⟨front, joined, last⟩ := exists_elements_row target.name target.index .nothing above []
  have member := last counted
  rw [List.count_nil, Nat.zero_add] at member
  refine ⟨row target.name target.index .nothing, [target], ?_, admits⟩
  rw [List.append_nil, positions, joined, List.map_append]
  apply List.Sublist.cons_cons
  rw [List.singleton_sublist]
  exact List.mem_append_left _ (List.mem_map_of_mem (f := (·.position)) member)

/-- An element without children can have any child. -/
theorem followable_nil (indexed : ∀ step ∈ steps, ∀ index ∈ step.index, 1 ≤ index) :
    Followable steps above [] := by
  cases steps with
  | nil =>
      have counted : 1 ≤ (⟨"x", 1⟩ : Place).index := Nat.le_refl 1
      exact followable_of_target counted (by simp)
  | cons step deeper =>
      have stepIndexed := indexed step List.mem_cons_self
      have loose : ¬ step.Pins false ⟨step.name, 0⟩ := by
        rintro ⟨-, pinned | ⟨root, -⟩⟩
        · exact absurd (stepIndexed 0 pinned) (by decide)
        · contradiction
      obtain ⟨target, admits, counted, -⟩ :=
        Step.exists_later stepIndexed (fun _ _ _ => Nat.zero_le _) loose
      exact followable_of_target counted (by simpa using admits)

/-- What follows in an element follows in what stands around the element. -/
theorem Followable.descend (follows : Followable steps (above ++ [place]) deeper)
    (counted : 1 ≤ place.index) {stepsAround : List Step}
    (admits : ∀ places, (∀ shared ∈ places.zip steps, shared.2.Admits shared.1) →
      ∀ shared ∈ (place :: places).zip stepsAround, shared.2.Admits shared.1) :
    Followable stepsAround above (place :: deeper) := by
  obtain ⟨content, places, sublist, agrees⟩ := follows
  simp only [List.append_assoc, List.singleton_append] at sublist
  refine ⟨upTo place content .nothing, place :: places, ?_, admits places agrees⟩
  apply List.Sublist.trans _ (sublist_positions_upTo counted content .nothing above)
  exact sublist.trans (List.sublist_append_left _ _)

/-- A place that is neither gone past nor pinned leaves room for something behind it. -/
theorem Followable.beside (inner : Followable [] (above ++ [place]) deeper)
    (counted : 1 ≤ place.index) (indexed : ∀ index ∈ step.index, 1 ≤ index)
    (reachable : step.name = place.name → ∀ bound ∈ step.index, place.index ≤ bound)
    (loose : ¬ step.Pins false place) : Followable (step :: steps) above (place :: deeper) := by
  obtain ⟨target, admits, some, later⟩ := Step.exists_later indexed reachable loose
  obtain ⟨rest, behind⟩ := exists_beside some later above
  obtain ⟨content, places, sublist, -⟩ := inner
  have inside := sublist.subset List.mem_cons_self
  rw [List.append_assoc, List.singleton_append] at inside
  refine ⟨upTo place content rest, [target], ?_, by simpa using admits⟩
  have both := (List.singleton_sublist.mpr inside).append (List.singleton_sublist.mpr behind)
  exact both.trans (sublist_positions_upTo counted content rest above)

theorem followable_of_not_past (opened : List Place) (steps : List Step)
    (counted : ∀ place ∈ opened, 1 ≤ place.index)
    (indexed : ∀ step ∈ steps, ∀ index ∈ step.index, 1 ≤ index)
    (notPast : ¬ Position.Past false (opened.zip steps)) (above : List Place) :
    Followable steps above opened := by
  induction opened generalizing steps above with
  | nil => exact followable_nil indexed
  | cons place deeper ih =>
      rw [List.forall_mem_cons] at counted
      obtain ⟨here, countedDeeper⟩ := counted
      have inner : Followable [] (above ++ [place]) deeper := by
        apply ih [] countedDeeper (by simp)
        rw [List.zip_nil_right]
        rintro ⟨⟩
      cases steps with
      | nil => exact inner.descend here fun places _ => by simp
      | cons step stepsBelow =>
          rw [List.forall_mem_cons] at indexed
          by_cases pins : step.Pins false place
          · have below := ih stepsBelow countedDeeper indexed.2
              (fun past => notPast (.further pins past)) (above ++ [place])
            refine below.descend here fun places agrees => ?_
            rw [List.zip_cons_cons, List.forall_mem_cons]
            exact ⟨pins.admits, agrees⟩
          · refine inner.beside here indexed.1 (fun named bound bounded => ?_) pins
            exact Nat.le_of_not_lt fun larger => notPast (.here named bounded larger)

end Content

/-! ### All documents -/

section Documents

variable {pattern : Pattern} {root : Place} {opened : List Place}

/-- The root is what the first step is pinned to. -/
theorem Step.pins_root {step : Step} (single : root.index = 1) (named : step.name = root.name)
    (index : step.index = none ∨ step.index = some 1) : step.Pins true root := by
  refine ⟨named, ?_⟩
  rw [single]
  exact index.symm.imp_right fun every => ⟨rfl, every⟩

theorem ElementTree.exists_precedes_agrees (single : root.index = 1)
    (counted : ∀ place ∈ opened, 1 ≤ place.index)
    (indexed : ∀ step ∈ pattern.steps, ∀ index ∈ step.index, 1 ≤ index)
    (begins : ∀ step ∈ pattern.steps.head?, step.Pins true root)
    (notPast : ¬ Position.Past true ((root :: opened).zip pattern.steps)) :
    ∃ (tree : ElementTree) (other : Position),
      tree.Precedes ⟨root :: opened⟩ other ∧ pattern.Agrees other := by
  obtain ⟨steps⟩ := pattern
  have notPastBelow : ¬ Position.Past false (opened.zip steps.tail) := by
    cases steps with
    | nil =>
        rw [List.tail_nil, List.zip_nil_right]
        rintro ⟨⟩
    | cons step deeper => exact fun past => notPast (.further (begins step rfl) past)
  obtain ⟨content, places, follows, admits⟩ :=
    Content.followable_of_not_past opened steps.tail counted
      (fun step member => indexed step (List.mem_of_mem_tail member)) notPastBelow [root]
  refine ⟨⟨[], root.name, [], content, []⟩, ⟨root :: places⟩, ?_, ?_⟩
  · have rootPlace : Content.place [] root.name = root := by
      obtain ⟨name, index⟩ := root
      exact congrArg (Place.mk name) single.symm
    rw [Precedes, elements, ElementTree.root, rootPlace]
    exact follows
  · cases steps with
    | nil => simp [Pattern.Agrees]
    | cons step deeper =>
        rw [Pattern.Agrees, List.zip_cons_cons, List.forall_mem_cons]
        exact ⟨(begins step rfl).admits, admits⟩

/-- A position is past a pattern exactly if no element after the one at the position is compatible
with the pattern, in any document that has an element there. -/
theorem Position.past_iff_nothing_follows (single : root.index = 1)
    (counted : ∀ place ∈ opened, 1 ≤ place.index)
    (indexed : ∀ step ∈ pattern.steps, ∀ index ∈ step.index, 1 ≤ index)
    (begins : ∀ step ∈ pattern.steps.head?,
      step.name = root.name ∧ (step.index = none ∨ step.index = some 1)) :
    (⟨root :: opened⟩ : Position).past pattern = true ↔
      ∀ (tree : ElementTree) (other : Position), tree.Precedes ⟨root :: opened⟩ other →
        other.compatible pattern = false := by
  constructor
  · intro past tree other precedes
    rw [← Bool.not_eq_true, compatible_iff]
    exact precedes.not_agrees past
  · intro nothing
    by_contra notPast
    rw [past_iff] at notPast
    have pinned : ∀ step ∈ pattern.steps.head?, step.Pins true root := by
      intro step first
      obtain ⟨named, index⟩ := begins step first
      exact Step.pins_root single named index
    obtain ⟨tree, other, precedes, agrees⟩ :=
      ElementTree.exists_precedes_agrees single counted indexed pinned notPast
    rw [← compatible_iff, nothing tree other precedes] at agrees
    contradiction

end Documents

/-- The second `c` of the second `b` is past a pattern that asks for the first one, and the first
`b` is not. -/
theorem Position.nothing_follows_secondC :
    let pattern : Pattern := ⟨[.every "a", .only "b" 2, .only "c" 1]⟩
    (∀ (tree : ElementTree) (other : Position),
        tree.Precedes ⟨[⟨"a", 1⟩, ⟨"b", 2⟩, ⟨"c", 2⟩]⟩ other → other.compatible pattern = false) ∧
      ¬ ∀ (tree : ElementTree) (other : Position),
        tree.Precedes ⟨[⟨"a", 1⟩, ⟨"b", 1⟩, ⟨"c", 2⟩]⟩ other →
          other.compatible pattern = false := by
  intro pattern
  have indexed : ∀ step ∈ pattern.steps, ∀ index ∈ step.index, 1 ≤ index := by decide
  have begins : ∀ step ∈ pattern.steps.head?,
      step.name = "a" ∧ (step.index = none ∨ step.index = some 1) := by decide
  constructor
  · exact (past_iff_nothing_follows rfl (by decide) indexed begins).mp (by decide)
  · rw [← past_iff_nothing_follows rfl (by decide) indexed begins]
    decide

end XmlExtract
