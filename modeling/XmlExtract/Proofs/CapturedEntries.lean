import XmlExtract.Document
import XmlExtract.Proofs.RunCapture
import XmlExtract.Proofs.WrittenPosition

/-!
# Entries of captured elements

Attributes are kept under written positions, and the first entry of a written
position stays.  The trail gives no position twice, so every element has its own
entry if different positions are written differently.  They are if no name has a
slash (`StartedElement.keys_perm`).  A reader of markup does not look into names,
however: `ownEntries_iff` says for which documents the entries can be relied upon.
-/

namespace XmlExtract

namespace StartedElement

variable {elements : List StartedElement}

theorem nodup_written (distinct : (elements.map (·.position)).Nodup)
    (slashless : ∀ element ∈ elements, element.position.Slashless) :
    ((elements.map entry).map Prod.fst).Nodup := by
  rw [List.map_map]
  rw [List.Nodup, List.pairwise_map] at distinct ⊢
  refine distinct.imp_of_mem fun {first second} firstMember secondMember different same => ?_
  apply different
  exact Position.render_injective (slashless first firstMember)
    (slashless second secondMember) same

/-- Elements at different positions without slashes have one entry each. -/
theorem keys_perm (distinct : (elements.map (·.position)).Nodup)
    (slashless : ∀ element ∈ elements, element.position.Slashless) :
    (Keyed.insertAllNew (elements.map entry) ∅).keys.Perm
      (elements.map (·.position.render)) := by
  have written := Keyed.keys_insertAllNew_perm (nodup_written distinct slashless)
  rwa [List.map_map] at written

theorem find?_entry (distinct : (elements.map (·.position)).Nodup)
    (slashless : ∀ element ∈ elements, element.position.Slashless)
    {element : StartedElement} (member : element ∈ elements) :
    (Keyed.insertAllNew (elements.map entry) ∅).find? element.position.render =
      some (Keyed.ofList element.attributes) := by
  have nothing : (∅ : Keyed Attributes).find? element.position.render = none := rfl
  rw [Keyed.find?_insertAllNew, nothing, Option.none_or]
  exact Keyed.lookup_of_mem (nodup_written distinct slashless) (List.mem_map_of_mem member)

end StartedElement

namespace Document

/-- The elements that a query finds at positions which agree with its pattern, in the
order in which they start. -/
def elements (document : Document) (pattern : Pattern) (settings : Settings) :
    List StartedElement :=
  (Trail.fresh.started
      (Reply.events (document.input.replies settings document.transcoded))).filter
    fun element => decide (pattern.Agrees element.position)

/-- Every element has an entry of its own, under a key that is read back as its
position. -/
structure OwnEntries (elements : List StartedElement) (entries : Keyed Attributes) :
    Prop where
  count : entries.size = elements.length
  own : ∀ element ∈ elements,
    entries.find? element.position.render = some (Keyed.ofList element.attributes)
  named : ∀ element ∈ elements,
    Position.parse element.position.render = .ok element.position

theorem nodup_position_elements (document : Document) (pattern : Pattern)
    (settings : Settings) :
    ((document.elements pattern settings).map (·.position)).Nodup := by
  have all := Trail.nodup_position_started Trail.sound_fresh
    (Reply.events (document.input.replies settings document.transcoded))
  exact all.sublist (List.filter_sublist.map _)

/-- The attributes that a query captures are the entries of its elements. -/
theorem attributes_capture {document : Document} {pattern : Pattern} {settings : Settings}
    {capture : Capture} (full : settings.stopsEarly = false)
    (done : document.capture pattern settings = .ok capture) :
    capture.attributes =
      Keyed.insertAllNew
        ((document.elements pattern settings).map StartedElement.entry) ∅ := by
  have readsOn : (Extraction.start pattern settings).stopsEarly = false := full
  have result := Extraction.capture_of_outcome readsOn done
  rw [result, Extraction.attributes_foldl_advance]
  rfl

/-- A query that reads a document to its end gives every element an entry of its own
under a key that names it exactly when the names on the way to its elements are not
empty and have neither slashes nor brackets. -/
theorem ownEntries_iff {document : Document} {pattern : Pattern} {settings : Settings}
    {capture : Capture} (full : settings.stopsEarly = false)
    (done : document.capture pattern settings = .ok capture) :
    OwnEntries (document.elements pattern settings) capture.attributes ↔
      ∀ element ∈ document.elements pattern settings, element.position.Writable := by
  constructor
  · intro entries element member
    exact Position.writable_of_parse (entries.named element member)
  · intro writable
    have distinct := nodup_position_elements document pattern settings
    have slashless : ∀ element ∈ document.elements pattern settings,
        element.position.Slashless :=
      fun element member => (writable element member).slashless
    rw [attributes_capture full done]
    exact
      { count := by
          rw [← Keyed.length_keys, (StartedElement.keys_perm distinct slashless).length_eq,
            List.length_map]
        own := fun element member => StartedElement.find?_entry distinct slashless member
        named := fun element member => (writable element member).parse_render }

/-- Settings of a caller who reads documents to their end. -/
def toTheEnd : Settings := { Settings.standard with stopsEarly := false }

def plainNames : List UInt8 :=
  "<r><a k='1'/><b k='3'/></r>".toUTF8.toList

theorem ownEntries_plainNames :
    ∃ document capture, ofBytes plainNames = .ok document ∧
      document.capture .root toTheEnd = .ok capture ∧
      OwnEntries (document.elements .root toTheEnd) capture.attributes := by
  have ready : ofBytes plainNames = .ok ⟨Input.ofBytes plainNames, false⟩ := by
    decide +kernel
  have succeeds :
      ((capture ⟨Input.ofBytes plainNames, false⟩ .root toTheEnd).toOption).isSome =
        true := by
    decide +kernel
  cases done : capture ⟨Input.ofBytes plainNames, false⟩ .root toTheEnd with
  | error error => simp [done, Except.toOption] at succeeds
  | ok capture =>
      refine ⟨_, capture, ready, done, (ownEntries_iff rfl done).mpr ?_⟩
      decide +kernel

/-- A document with a child whose name has brackets and a slash, and a grandchild at
the position that is written like the position of that child. -/
def bracketedName : List UInt8 :=
  "<r><a[1]/b k='1'/><a><b k='2'/></a></r>".toUTF8.toList

/-- Four elements start, and three entries are left. -/
theorem lost_entry_bracketedName :
    ∃ document capture, ofBytes bracketedName = .ok document ∧
      document.capture .root toTheEnd = .ok capture ∧
      ¬ OwnEntries (document.elements .root toTheEnd) capture.attributes := by
  have ready : ofBytes bracketedName = .ok ⟨Input.ofBytes bracketedName, false⟩ := by
    decide +kernel
  have entries :
      ((capture ⟨Input.ofBytes bracketedName, false⟩ .root toTheEnd).toOption).map
        (·.attributes.size) = some 3 := by
    decide +kernel
  cases done : capture ⟨Input.ofBytes bracketedName, false⟩ .root toTheEnd with
  | error error => simp [done, Except.toOption] at entries
  | ok capture =>
      refine ⟨_, capture, ready, done, fun own => ?_⟩
      have four :
          (elements ⟨Input.ofBytes bracketedName, false⟩ .root toTheEnd).length = 4 := by
        decide +kernel
      have three : capture.attributes.size = 3 := by
        simpa [done, Except.toOption] using entries
      have count := own.count
      rw [three, four] at count
      contradiction

end Document

end XmlExtract
