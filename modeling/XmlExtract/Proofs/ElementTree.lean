import XmlExtract.Proofs.RunCapture
import XmlExtract.Proofs.WrittenPosition

/-!
# Trees and trails

The elements of a document and their positions can be said without a trail, by
recursion on the tree that the document is: the index of an element is one more than
the number of its earlier siblings of the same name, and the position is the list of
indexed names from the root downwards.  This file shows that a trail which follows the
events of a tree meets the elements and texts of the tree (`Trail.meets_events`).

The events of an element take the trail back to the place where it was (`Resumes`),
with one more child counted (`HasCounted.close`).
-/

namespace XmlExtract

/-- What stands between the tags of an element: chunks of text and elements. -/
inductive Content where
  | nothing
  | text (chunk : String) (rest : Content)
  | element (name : String) (attributes : List (String × String)) (inner rest : Content)
  deriving Repr, DecidableEq

namespace Content

def events : Content → List Event
  | nothing => []
  | text chunk rest => .text chunk :: rest.events
  | element name attributes inner rest =>
      .elementStart name attributes :: (inner.events ++ .elementEnd name :: rest.events)

def names : Content → List String
  | nothing => []
  | text _ rest => rest.names
  | element name _ inner rest => name :: (inner.names ++ rest.names)

/-- The names of the outermost elements of some content. -/
def siblings : Content → List String
  | nothing => []
  | text _ rest => rest.siblings
  | element name _ _ rest => name :: rest.siblings

/-- The place of an element after earlier siblings with these names. -/
def place (earlier : List String) (name : String) : Place :=
  ⟨name, 1 + earlier.count name⟩

/-- The elements of some content that stands under the places `above`, after elements
called `earlier`. -/
def elements (above : List Place) (earlier : List String) :
    Content → List StartedElement
  | nothing => []
  | text _ rest => rest.elements above earlier
  | element name attributes inner rest =>
      let path := above ++ [place earlier name]
      ⟨⟨path⟩, attributes⟩ :: (inner.elements path [] ++ rest.elements above (name :: earlier))

/-- The chunks of text of some content, with the positions around them. -/
def texts (above : List Place) (earlier : List String) : Content → List StandingText
  | nothing => []
  | text chunk rest => ⟨⟨above⟩, chunk⟩ :: rest.texts above earlier
  | element name _ inner rest =>
      inner.texts (above ++ [place earlier name]) [] ++ rest.texts above (name :: earlier)

end Content

namespace Trail

variable {trail after : Trail}

/-- A trail is back in the place of another one: the same elements are open, and the
tallies outside of the innermost one are the same. -/
structure Resumes (trail after : Trail) : Prop where
  opened : after.opened = trail.opened
  outside : after.tallies.drop 1 = trail.tallies.drop 1

theorem Resumes.refl (trail : Trail) : Resumes trail trail where
  opened := rfl
  outside := rfl

theorem Resumes.trans {middle : Trail} (first : Resumes trail middle)
    (second : Resumes middle after) : Resumes trail after where
  opened := second.opened.trans first.opened
  outside := second.outside.trans first.outside

theorem Resumes.position_eq (resumes : Resumes trail after) :
    after.position = trail.position := by
  rw [position, position, resumes.opened]

theorem Resumes.depth_eq (resumes : Resumes trail after) : after.depth = trail.depth := by
  rw [depth, depth, resumes.opened]

theorem Resumes.countAt_eq (resumes : Resumes trail after) {depth : Nat}
    (outside : depth < trail.depth) (name : String) :
    after.countAt depth name = trail.countAt depth name := by
  have split : trail.depth - depth = 1 + (trail.depth - depth - 1) := by omega
  rw [countAt, countAt, resumes.depth_eq, split, ← List.drop_drop, ← List.drop_drop,
    resumes.outside]

theorem exists_leave_of_resumes {inner : Trail} {name : String}
    (resumes : Resumes (trail.enter name) inner) :
    ∃ closed outer, inner.leave? = some (closed, outer) ∧ Resumes trail outer := by
  cases left : inner.leave? with
  | none =>
      rw [leave?_eq_none_iff, resumes.depth_eq, depth_enter] at left
      contradiction
  | some answer =>
      obtain ⟨closed, outer⟩ := answer
      refine ⟨closed, outer, rfl, ?_, ?_⟩
      · have places := position_leave left
        rw [resumes.position_eq, position_enter] at places
        have same := List.append_inj_left' places rfl
        simpa [position, eq_comm] using same
      · rw [tallies_leave left, resumes.outside, List.drop_drop]
        exact drop_tallies_enter trail name 0

/-- Where an element ends, the trail is back in the place where the element started. -/
theorem Resumes.close {inner : Trail} {name : String}
    (resumes : Resumes (trail.enter name) inner) (tag : String) :
    Resumes trail (inner.follow (.elementEnd tag)) := by
  obtain ⟨closed, outer, left, back⟩ := exists_leave_of_resumes resumes
  unfold follow
  rw [left]
  exact back

/-- An element that has ended has been counted. -/
theorem childCount_close {inner : Trail} {name : String} (sound : trail.Sound)
    (resumes : Resumes (trail.enter name) inner) (tag other : String) :
    (inner.follow (.elementEnd tag)).childCount other =
      if other = name then trail.childCount name + 1 else trail.childCount other := by
  obtain ⟨closed, outer, left, back⟩ := exists_leave_of_resumes resumes
  have inside : outer.depth < (trail.enter name).depth := by
    rw [back.depth_eq, depth_enter]
    exact Nat.lt_succ_self _
  unfold follow
  rw [left]
  simp only
  rw [← countAt_depth, countAt_leave left (Nat.le_refl _), resumes.countAt_eq inside,
    back.depth_eq]
  exact countAt_enter_depth sound name other

def through (trail : Trail) (content : Content) : Trail := content.events.foldl follow trail

theorem through_element (trail : Trail) (name : String)
    (attributes : List (String × String)) (inner rest : Content) :
    trail.through (.element name attributes inner rest) =
      (((trail.enter name).through inner).follow (.elementEnd name)).through rest := by
  rw [through, Content.events, List.foldl_cons, List.foldl_append]
  rfl

theorem resumes_through (trail : Trail) (content : Content) :
    Resumes trail (trail.through content) := by
  induction content generalizing trail with
  | nothing => exact Resumes.refl trail
  | text chunk rest ih => exact ih trail
  | element name attributes inner rest innerIh restIh =>
      rw [through_element]
      exact ((innerIh (trail.enter name)).close name).trans (restIh _)

theorem Sound.through (sound : trail.Sound) (content : Content) :
    (trail.through content).Sound := by
  unfold Trail.through
  induction content.events generalizing trail with
  | nil => exact sound
  | cons event later ih => exact ih (sound.follow event)

/-- The innermost open element has had children called `names`. -/
def HasCounted (trail : Trail) (names : List String) : Prop :=
  ∀ name, trail.childCount name = names.count name

theorem hasCounted_fresh : fresh.HasCounted [] := fun _ => rfl

theorem hasCounted_enter (trail : Trail) (name : String) :
    (trail.enter name).HasCounted [] :=
  childCount_enter trail name

theorem HasCounted.close {inner : Trail} {name : String} {earlier : List String}
    (sound : trail.Sound) (counted : trail.HasCounted earlier)
    (resumes : Resumes (trail.enter name) inner) (tag : String) :
    (inner.follow (.elementEnd tag)).HasCounted (name :: earlier) := by
  intro other
  rw [childCount_close sound resumes, List.count_cons, counted, counted]
  by_cases same : other = name
  · simp [same]
  · simp [same, beq_eq_false_iff_ne.mpr (Ne.symm same)]

theorem position_enter_eq {earlier : List String} (counted : trail.HasCounted earlier)
    (name : String) :
    (trail.enter name).position =
      ⟨trail.position.places ++ [Content.place earlier name]⟩ := by
  have places := position_enter trail name
  rw [counted name, Nat.add_comm] at places
  exact congrArg Position.mk places

/-- The elements and texts that the trail meets in some content are those of the
content. -/
theorem meets_events {earlier : List String} (sound : trail.Sound)
    (counted : trail.HasCounted earlier) (content : Content) :
    trail.started content.events = content.elements trail.position.places earlier ∧
      trail.texts content.events = content.texts trail.position.places earlier := by
  induction content generalizing trail earlier with
  | nothing => exact ⟨rfl, rfl⟩
  | text chunk rest ih =>
      obtain ⟨elements, texts⟩ := ih sound counted
      exact ⟨elements, congrArg _ texts⟩
  | element name attributes inner rest innerIh restIh =>
      -- The later siblings are met by the trail that the element leaves behind: it is
      -- back in its place, with one more child counted.
      have entered := position_enter_eq counted name
      have resumes := resumes_through (trail.enter name) inner
      have closedSound := ((sound.enter name).through inner).follow (.elementEnd name)
      have closedCounted := counted.close sound resumes name
      have innerMet := innerIh (sound.enter name) (hasCounted_enter trail name)
      have restMet := restIh closedSound closedCounted
      rw [(resumes.close name).position_eq] at restMet
      rw [entered] at innerMet
      simp only [Content.events, started, startedBy, started_append, texts, textBy,
        texts_append, Content.elements, Content.texts, List.singleton_append,
        List.nil_append, follow, entered]
      constructor
      · exact congrArg _ (congrArg₂ _ innerMet.1 restMet.1)
      · exact congrArg₂ _ innerMet.2 restMet.2

end Trail

namespace Content

/-- The names on the way to an element are names of the content. -/
theorem slashless_of_mem_elements {content : Content} {above : List Place}
    {earlier : List String} (outside : ∀ place ∈ above, place.Slashless)
    (slashless : ∀ name ∈ content.names, '/' ∉ name.toList) {element : StartedElement}
    (member : element ∈ content.elements above earlier) : element.position.Slashless := by
  induction content generalizing above earlier with
  | nothing => simp [elements] at member
  | text chunk rest ih => exact ih outside slashless member
  | element name attributes inner rest innerIh restIh =>
      simp only [names, List.forall_mem_cons, List.forall_mem_append] at slashless
      obtain ⟨nameSlashless, innerSlashless, restSlashless⟩ := slashless
      have inside : ∀ inner ∈ above ++ [place earlier name], inner.Slashless := by
        rw [List.forall_mem_append]
        refine ⟨outside, ?_⟩
        simpa [place, Place.Slashless] using nameSlashless
      simp only [elements, List.mem_cons, List.mem_append] at member
      rcases member with rfl | below | beside
      · exact inside
      · exact innerIh inside innerSlashless below
      · exact restIh outside restSlashless beside

theorem documentEnd_not_mem_events (content : Content) :
    Event.documentEnd ∉ content.events := by
  induction content with
  | nothing => simp [events]
  | text chunk rest ih => simp [events, ih]
  | element name attributes inner rest innerIh restIh => simp [events, innerIh, restIh]

/-- A text stands no higher than the content that it belongs to. -/
theorem length_le_of_mem_texts {content : Content} {above : List Place}
    {earlier : List String} {text : StandingText}
    (member : text ∈ content.texts above earlier) : above.length ≤ text.position.depth := by
  induction content generalizing above earlier with
  | nothing => simp [texts] at member
  | text chunk rest ih =>
      rcases List.mem_cons.mp member with rfl | later
      · exact Nat.le_refl _
      · exact ih later
  | element name attributes inner rest innerIh restIh =>
      rcases List.mem_append.mp member with below | beside
      · have deeper := innerIh below
        rw [List.length_append, List.length_singleton] at deeper
        omega
      · exact restIh beside

end Content

/-- A document as a tree: one element, and chunks of text around it. -/
structure ElementTree where
  leading : List String
  name : String
  attributes : List (String × String)
  inner : Content
  trailing : List String
  deriving Repr, DecidableEq

namespace ElementTree

variable {tree : ElementTree}

def events (tree : ElementTree) : List Event :=
  .documentStart ::
    (tree.leading.map .text ++ .elementStart tree.name tree.attributes ::
      (tree.inner.events ++ .elementEnd tree.name ::
        (tree.trailing.map .text ++ [.documentEnd])))

def root (tree : ElementTree) : Place := Content.place [] tree.name

/-- The elements of a tree in the order in which they start. -/
def elements (tree : ElementTree) : List StartedElement :=
  ⟨⟨[tree.root]⟩, tree.attributes⟩ :: tree.inner.elements [tree.root] []

/-- The chunks of text inside of the root, in order. -/
def texts (tree : ElementTree) : List StandingText := tree.inner.texts [tree.root] []

def Slashless (tree : ElementTree) : Prop :=
  ∀ name ∈ tree.name :: tree.inner.names, '/' ∉ name.toList

instance (tree : ElementTree) : Decidable tree.Slashless :=
  inferInstanceAs (Decidable (∀ name ∈ _, _))

/-- A tree as content, with the texts around the root. -/
def content (tree : ElementTree) : Content :=
  tree.leading.foldr .text
    (.element tree.name tree.attributes tree.inner (tree.trailing.foldr .text .nothing))

theorem events_foldr_text (chunks : List String) (rest : Content) :
    (chunks.foldr Content.text rest).events = chunks.map .text ++ rest.events := by
  induction chunks with
  | nil => rfl
  | cons chunk chunks ih => exact congrArg _ ih

theorem elements_foldr_text (chunks : List String) (rest : Content) (above : List Place)
    (earlier : List String) :
    (chunks.foldr Content.text rest).elements above earlier = rest.elements above earlier := by
  induction chunks with
  | nil => rfl
  | cons chunk chunks ih => exact ih

theorem texts_foldr_text (chunks : List String) (rest : Content) (above : List Place)
    (earlier : List String) :
    (chunks.foldr Content.text rest).texts above earlier =
      chunks.map (⟨⟨above⟩, ·⟩) ++ rest.texts above earlier := by
  induction chunks with
  | nil => rfl
  | cons chunk chunks ih => exact congrArg _ ih

theorem events_eq (tree : ElementTree) :
    tree.events = (.documentStart :: tree.content.events) ++ [.documentEnd] := by
  simp [events, content, events_foldr_text, Content.events]

theorem elements_content (tree : ElementTree) : tree.content.elements [] [] = tree.elements := by
  simp [content, elements_foldr_text, Content.elements, elements, root]

/-- The texts around the root stand in no element. -/
theorem texts_content (tree : ElementTree) :
    tree.content.texts [] [] =
      tree.leading.map (⟨.root, ·⟩) ++ tree.texts ++ tree.trailing.map (⟨.root, ·⟩) := by
  simp [content, texts_foldr_text, Content.texts, texts, root, Position.root]

theorem slashless_elements (slashless : tree.Slashless) {element : StartedElement}
    (member : element ∈ tree.elements) : element.position.Slashless := by
  rw [Slashless, List.forall_mem_cons] at slashless
  have rootSlashless : ∀ place ∈ [tree.root], place.Slashless := by
    simpa [root, Content.place, Place.Slashless] using slashless.1
  rcases List.mem_cons.mp member with rfl | below
  · exact rootSlashless
  · exact Content.slashless_of_mem_elements rootSlashless slashless.2 below

end ElementTree

end XmlExtract
