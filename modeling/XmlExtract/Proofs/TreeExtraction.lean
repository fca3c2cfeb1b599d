import XmlExtract.Proofs.CapturedEntries
import XmlExtract.Proofs.EarlyStop
import XmlExtract.Proofs.ElementTree

/-!
# Extraction from a tree

A run over the events of a tree refuses none of them (`admits_tree`), and what it
leaves is what the pattern asks of the tree (`ElementTree.Captures`).  A run that may
stop early leaves the same, because stopping early changes no run that ends well.
-/

namespace XmlExtract

namespace ElementTree

/-- What a pattern asks of a tree: the chunks of text of the elements at its positions,
in order, and one entry for each element at a position that agrees with it, which maps
the name of an attribute to the last value of that name. -/
structure Captures (tree : ElementTree) (pattern : Pattern) (capture : Capture) : Prop where
  chunks : capture.chunks.toList =
    (tree.texts.filter fun text => decide (pattern.Matches text.position)).map
      StandingText.chunk
  keys : capture.attributes.keys.Perm
    ((tree.elements.filter fun element => decide (pattern.Agrees element.position)).map
      (·.position.render))
  values : ∀ element ∈ tree.elements, pattern.Agrees element.position →
    ∃ held, capture.attributes.find? element.position.render = some held ∧
      ∀ name, held.find? name = element.attributes.reverse.lookup name

end ElementTree

namespace Extraction

variable {extraction : Extraction} {tree : ElementTree}

/-- Inside of an element nothing of a tree is refused. -/
theorem admits_events (content : Content) (inside : extraction.trail.depth ≠ 0) :
    extraction.Admits content.events := by
  induction content generalizing extraction with
  | nothing => trivial
  | text chunk rest ih =>
      have still : (extraction.advance (.text chunk)).trail.depth ≠ 0 := inside
      exact ⟨rfl, ih still⟩
  | element name attributes inner rest innerIh restIh =>
      rw [Content.events, Admits, admits_append, Admits]
      have deeper : (extraction.advance (.elementStart name attributes)).trail.depth ≠ 0 := by
        rw [trail_advance, Trail.follow, Trail.depth_enter]
        exact Nat.succ_ne_zero _
      have resumes := Trail.resumes_through (extraction.trail.enter name) inner
      have walked : (inner.events.foldl advance
          (extraction.advance (.elementStart name attributes))).trail =
          (extraction.trail.enter name).through inner :=
        trail_foldl_advance _ _
      refine ⟨?_, innerIh deeper, ?_, restIh ?_⟩
      · simp [refusal?, inside]
      · simp [refusal?, walked, resumes.depth_eq]
      · rw [trail_advance, walked, (resumes.close name).depth_eq]
        exact inside

theorem admits_of_admits_text {later : List Event} (admits : extraction.Admits later)
    (chunks : List String) : extraction.Admits (chunks.map .text ++ later) := by
  induction chunks with
  | nil => exact admits
  | cons chunk chunks ih =>
      have same : (extraction.advance (.text chunk)).hadRoot = extraction.hadRoot := by
        simp [advance, Event.isStart]
      exact ⟨rfl, ih.congr rfl same⟩

theorem admits_documentEnd (outside : extraction.trail.depth = 0)
    (rooted : extraction.hadRoot = true) : extraction.Admits [.documentEnd] := by
  refine ⟨?_, trivial⟩
  have nowhere : extraction.trail.position.last? = none := by
    rw [← Trail.length_places] at outside
    simp [Position.last?, List.eq_nil_of_length_eq_zero outside]
  simp [refusal?, nowhere, rooted]

theorem admits_tree (tree : ElementTree) (outside : extraction.trail.depth = 0)
    (rootless : extraction.hadRoot = false) : extraction.Admits tree.events := by
  have rootAdmits : extraction.Admits
      (.elementStart tree.name tree.attributes :: (tree.inner.events ++
        .elementEnd tree.name :: (tree.trailing.map .text ++ [.documentEnd]))) := by
    have walked : (tree.inner.events.foldl advance
        (extraction.advance (.elementStart tree.name tree.attributes))).trail =
        (extraction.trail.enter tree.name).through tree.inner :=
      trail_foldl_advance _ _
    have resumes := Trail.resumes_through (extraction.trail.enter tree.name) tree.inner
    rw [Admits, admits_append, Admits]
    refine ⟨?_, admits_events _ ?_, ?_, admits_of_admits_text (admits_documentEnd ?_ ?_) _⟩
    · simp [refusal?, rootless]
    · rw [trail_advance, Trail.follow, Trail.depth_enter]
      exact Nat.succ_ne_zero _
    · simp [refusal?, walked, resumes.depth_eq]
    · rw [trail_advance, walked, (resumes.close tree.name).depth_eq]
      exact outside
    · simp [advance, hadRoot_foldl_advance, Event.isStart]
  have same : (extraction.advance .documentStart).hadRoot = extraction.hadRoot := by
    simp [advance, Event.isStart]
  exact ⟨rfl, (admits_of_admits_text rootAdmits tree.leading).congr rfl same⟩

theorem filter_keeps_texts (tree : ElementTree) (blanks : extraction.skipsBlanks = false) :
    (tree.content.texts [] []).filter extraction.keeps =
      tree.texts.filter fun text => decide (extraction.pattern.Matches text.position) := by
  have around (chunks : List String) :
      (chunks.map (StandingText.mk .root)).filter extraction.keeps = [] := by
    simp [keeps, Position.root, Position.depth]
  rw [ElementTree.texts_content, List.filter_append, List.filter_append, around, around,
    List.nil_append, List.append_nil]
  apply List.filter_congr
  intro text member
  have inside : text.position.depth ≠ 0 := by
    have deeper := Content.length_le_of_mem_texts member
    rw [List.length_singleton] at deeper
    omega
  simp [keeps, inside, blanks]

/-- The events of a tree leave what the pattern asks of the tree. -/
theorem captures_foldl_advance (pattern : Pattern) (settings : Settings)
    (blanks : settings.skipsBlanks = false) (slashless : tree.Slashless) :
    tree.Captures pattern
      ((.documentStart :: tree.content.events).foldl advance (start pattern settings)).capture := by
  have sound := Trail.sound_fresh
  have met := Trail.meets_events sound Trail.hasCounted_fresh tree.content
  have startedEq : (start pattern settings).trail.started
      (.documentStart :: tree.content.events) = tree.elements :=
    met.1.trans tree.elements_content
  have distinct : ((tree.elements.filter (start pattern settings).records).map
      (·.position)).Nodup := by
    have all := Trail.nodup_position_started sound (.documentStart :: tree.content.events)
    rw [show Trail.fresh = (start pattern settings).trail from rfl, startedEq] at all
    exact all.sublist (List.filter_sublist.map _)
  have filteredSlashless : ∀ element ∈ tree.elements.filter (start pattern settings).records,
      element.position.Slashless :=
    fun element member => tree.slashless_elements slashless (List.mem_filter.mp member).1
  have attributes := attributes_foldl_advance (start pattern settings)
    (.documentStart :: tree.content.events)
  rw [startedEq] at attributes
  constructor
  · rw [chunks_foldl_advance]
    have textsEq : (start pattern settings).trail.texts
        (.documentStart :: tree.content.events) = tree.content.texts [] [] := met.2
    rw [textsEq, filter_keeps_texts tree blanks]
    rfl
  · rw [attributes]
    exact StartedElement.keys_perm distinct filteredSlashless
  · intro element member agrees
    refine ⟨Keyed.ofList element.attributes, ?_, Keyed.find?_ofList element.attributes⟩
    rw [attributes]
    apply StartedElement.find?_entry distinct filteredSlashless
    exact List.mem_filter.mpr ⟨member, decide_eq_true agrees⟩

/-- A run over the events of a tree ends well and captures what the pattern asks of the
tree, whether or not it may stop early. -/
theorem run_tree (tree : ElementTree) (slashless : tree.Slashless) (pattern : Pattern)
    (settings : Settings) (blanks : settings.skipsBlanks = false) (stop : StopRequest)
    (unheeded : stop.heeded = false) (replies : List Reply)
    (answers : replies.map (·.answer) = tree.events.map .ok) :
    ∃ capture, ((start pattern settings).run stop replies).outcome = .ok capture ∧
      tree.Captures pattern capture := by
  have reading : tree.Captures pattern _ :=
    captures_foldl_advance pattern { settings with stopsEarly := false } blanks slashless
  refine ⟨_, ?_, reading⟩
  have admits : ((start pattern settings).withEarlyStop false).Admits tree.events :=
    admits_tree tree rfl rfl
  rw [ElementTree.events_eq] at answers admits
  have unfinished : Event.documentEnd ∉ .documentStart :: tree.content.events := by
    simp [Content.documentEnd_not_mem_events]
  have full := outcome_of_admits rfl unfinished admits unheeded 0 answers
  cases early : settings.stopsEarly with
  | false =>
      have same : start pattern settings = (start pattern settings).withEarlyStop false := by
        rw [withEarlyStop, ← early]
        rfl
      rw [run, same]
      exact full
  | true =>
      have same : start pattern settings = (start pattern settings).withEarlyStop true := by
        rw [withEarlyStop, ← early]
        rfl
      rw [run, same]
      -- The run that may not stop early ends well, so the other one ends like it.
      have sound : (start pattern settings).trail.Sound := Trail.sound_fresh
      rcases outcome_withEarlyStop sound stop 0 replies with
        equal | ⟨capture, error, -, failed⟩
      · exact equal.trans full
      · rw [full] at failed
        contradiction

/-- A root with two children of the same name, and text around everything. -/
def twins : ElementTree where
  leading := ["before"]
  name := "r"
  attributes := []
  inner :=
    .element "a" [("k", "1")] (.text "one" .nothing)
      (.text "between" (.element "a" [("k", "2"), ("k", "3")] (.text "two" .nothing) .nothing))
  trailing := ["after"]

theorem run_twins :
    let pattern : Pattern := ⟨[.every "r", .only "a" 2]⟩
    let replies := twins.events.map fun event => (⟨0, .ok event, false⟩ : Reply)
    ∃ capture, ((start pattern .standard).run .ignored replies).outcome = .ok capture ∧
      capture.chunks.toList = [⟨"/r[1]/a[2]", "two"⟩] ∧
      capture.attributes.keys.Perm ["/r[1]", "/r[1]/a[2]"] := by
  intro pattern replies
  obtain ⟨capture, outcome, captures⟩ :=
    run_tree twins (by decide) pattern .standard rfl .ignored rfl replies rfl
  refine ⟨capture, outcome, ?_, ?_⟩
  · rw [captures.chunks]
    decide
  · have keys := captures.keys
    have written :
        (twins.elements.filter fun element => decide (pattern.Agrees element.position)).map
          (·.position.render) = ["/r[1]", "/r[1]/a[2]"] := by
      decide
    rwa [written] at keys

end Extraction

end XmlExtract
