import XmlExtract.Proofs.CapturedEntries
import XmlExtract.Proofs.EarlyStop
import XmlExtract.Proofs.WritableTrail

/-!
# Coarser patterns

A pattern becomes coarser when some of its last steps are dropped and some of its steps
lose their index.  What agrees with a pattern agrees with a coarser one, so a coarser
pattern only adds to a capture: the capture of the finer pattern is what is left of the
other one when its written positions are read back and looked at again
(`captures_of_coarser`).

The finer run may stop early where the coarser one reads on.  Both come to the same verdict
if neither stops early, and stopping early keeps a capture.
-/

namespace XmlExtract

/-! ### Coarser steps -/

/-- Some steps are coarser than others: they are the first of these, and some of them have
lost their index. -/
inductive Step.Coarser : List Step → List Step → Prop
  | dropped (fine : List Step) : Coarser [] fine
  | kept (step : Step) {coarse fine : List Step} (deeper : Coarser coarse fine) :
      Coarser (step :: coarse) (step :: fine)
  | widened (step : Step) {coarse fine : List Step} (deeper : Coarser coarse fine) :
      Coarser (.every step.name :: coarse) (step :: fine)

namespace Pattern

def Coarser (coarse fine : Pattern) : Prop := Step.Coarser coarse.steps fine.steps

variable {coarse fine : Pattern} {position : Position}

theorem coarser_root (fine : Pattern) : root.Coarser fine := .dropped _

/-- What agrees with a pattern agrees with a coarser one. -/
theorem Coarser.agrees (coarser : coarse.Coarser fine) (agrees : fine.Agrees position) :
    coarse.Agrees position := by
  obtain ⟨places⟩ := position
  obtain ⟨coarseSteps⟩ := coarse
  obtain ⟨fineSteps⟩ := fine
  unfold Coarser at coarser
  unfold Agrees at agrees ⊢
  dsimp only at coarser agrees ⊢
  induction coarser generalizing places with
  | dropped fine => simp
  | kept step deeper ih =>
      cases places with
      | nil => simp
      | cons place places =>
          rw [List.zip_cons_cons, List.forall_mem_cons] at agrees ⊢
          exact ⟨agrees.1, ih places agrees.2⟩
  | widened step deeper ih =>
      cases places with
      | nil => simp
      | cons place places =>
          rw [List.zip_cons_cons, List.forall_mem_cons] at agrees ⊢
          refine ⟨⟨agrees.1.1, ?_⟩, ih places agrees.2⟩
          intro index pinned
          contradiction

/-- What matches a pattern matches a coarser one of the same length. -/
theorem Coarser.matches (coarser : coarse.Coarser fine) (sameLength : coarse.length = fine.length)
    (fits : fine.Matches position) : coarse.Matches position := by
  rw [matches_iff] at fits ⊢
  exact ⟨fits.1.trans sameLength.symm, coarser.agrees fits.2⟩

end Pattern

/-! ### Looking again at written positions -/

namespace Capture

/-- Whether the text is that of a position which agrees with the pattern. -/
def reaches (pattern : Pattern) (key : String) : Bool :=
  match Position.parse key with
  | .ok position => position.compatible pattern
  | .error _ => false

variable {position : Position}

theorem reaches_render (writable : position.Writable) (pattern : Pattern) :
    reaches pattern position.render = decide (pattern.Agrees position) := by
  rw [reaches, writable.parse_render, Bool.eq_iff_iff, decide_eq_true_iff,
    ← Position.compatible_iff]

theorem selects_render (writable : position.Writable) (pattern : Pattern) :
    selects pattern position.render = decide (pattern.Matches position) := by
  rw [selects, writable.parse_render, Bool.eq_iff_iff, decide_eq_true_iff,
    ← Position.exact_iff]

/-- A position that matches a pattern agrees with it. -/
theorem reaches_of_selects {pattern : Pattern} {key : String}
    (selected : selects pattern key = true) : reaches pattern key = true := by
  unfold selects at selected
  unfold reaches
  cases parsed : Position.parse key with
  | error error => simp [parsed] at selected
  | ok position =>
      simp only [parsed, Position.exact, Bool.and_eq_true] at selected ⊢
      exact selected.2

/-- What matches a pattern among all entries is found among those that agree with it. -/
theorem attributesMatching_eq_of_filter {narrow whole : Capture} {pattern : Pattern}
    (pinned : pattern.isEmpty = false)
    (filtered : narrow.attributes.entries =
      whole.attributes.entries.filter fun entry => reaches pattern entry.1) :
    narrow.attributesMatching pattern = whole.attributesMatching pattern := by
  rw [attributesMatching, attributesMatching, pinned, filtered, List.filter_filter]
  simp only [Bool.false_eq_true, if_false]
  refine List.filter_congr fun entry _ => ?_
  cases selected : selects pattern entry.1 with
  | false => rfl
  | true => rw [reaches_of_selects selected, Bool.and_self]

end Capture

/-! ### Entries -/

namespace StartedElement

/-- Elements at different positions without slashes leave their entries and no others. -/
theorem mem_entries_iff {elements : List StartedElement}
    (distinct : (elements.map (·.position)).Nodup)
    (slashless : ∀ element ∈ elements, element.position.Slashless) (pair : String × Attributes) :
    pair ∈ (Keyed.insertAllNew (elements.map entry) ∅).entries ↔
      ∃ element ∈ elements, element.entry = pair := by
  obtain ⟨key, attributes⟩ := pair
  rw [← Keyed.find?_eq_some_iff]
  constructor
  · intro found
    have held := Keyed.mem_keys_iff.mpr ⟨attributes, found⟩
    rw [(keys_perm distinct slashless).mem_iff, List.mem_map] at held
    obtain ⟨element, member, rfl⟩ := held
    rw [find?_entry distinct slashless member, Option.some.injEq] at found
    exact ⟨element, member, by rw [entry, found]⟩
  · rintro ⟨element, member, same⟩
    obtain ⟨rfl, rfl⟩ := Prod.mk.inj same
    exact find?_entry distinct slashless member

end StartedElement

namespace Extraction

/-! ### What the same events leave of two patterns -/

variable {events : List Event} {coarse fine : Pattern}

/-- The entries that events leave are those of the elements that agree with the pattern. -/
theorem mem_entries_iff (readable : Readable events) (pattern : Pattern)
    (settings : Settings) (pair : String × Attributes) :
    pair ∈ (events.foldl advance (start pattern settings)).capture.attributes.entries ↔
      ∃ element ∈ Trail.fresh.started events,
        pattern.Agrees element.position ∧ element.entry = pair := by
  have distinct := Trail.nodup_position_started Trail.sound_fresh events
  have fewer : ((Trail.fresh.started events).filter (start pattern settings).records).Sublist
      (Trail.fresh.started events) := List.filter_sublist
  rw [attributes_foldl_advance]
  refine (StartedElement.mem_entries_iff (distinct.sublist (fewer.map _)) ?_ pair).trans ?_
  · intro element member
    exact (readable.writable_started (fewer.subset member)).slashless
  · simp only [List.mem_filter, records, start, decide_eq_true_eq, and_assoc]

/-- The entries for a pattern are those for a coarser one at the positions that agree with
the pattern. -/
theorem entries_eq_filter (readable : Readable events) (coarser : coarse.Coarser fine)
    (settings otherSettings : Settings) :
    (events.foldl advance (start fine settings)).capture.attributes.entries =
      (events.foldl advance (start coarse otherSettings)).capture.attributes.entries.filter
        fun entry => Capture.reaches fine entry.1 := by
  refine Keyed.entries_eq_of_mem_iff (Keyed.ascending _) ((Keyed.ascending _).filter _)
    fun pair => ?_
  rw [List.mem_filter, mem_entries_iff readable, mem_entries_iff readable]
  constructor
  · rintro ⟨element, member, agrees, rfl⟩
    refine ⟨⟨element, member, coarser.agrees agrees, rfl⟩, ?_⟩
    have written := Capture.reaches_render (readable.writable_started member) fine
    exact written.trans (decide_eq_true agrees)
  · rintro ⟨⟨element, member, -, rfl⟩, reached⟩
    have written := Capture.reaches_render (readable.writable_started member) fine
    exact ⟨element, member, of_decide_eq_true (written.symm.trans reached), rfl⟩

/-- The chunks for a pattern are those for a coarser one of the same length at the positions
that match the pattern. -/
theorem chunks_eq_filter (readable : Readable events) (coarser : coarse.Coarser fine)
    (sameLength : coarse.length = fine.length) {settings otherSettings : Settings}
    (sameBlanks : settings.skipsBlanks = otherSettings.skipsBlanks) :
    (events.foldl advance (start fine settings)).capture.chunks.toList =
      (events.foldl advance (start coarse otherSettings)).capture.chunks.toList.filter
        fun chunk => Capture.selects fine chunk.position := by
  rw [chunks_foldl_advance, chunks_foldl_advance]
  have nothing : Capture.empty.chunks.toList = [] := rfl
  simp only [start, nothing, List.nil_append, List.filter_map, List.filter_filter]
  congr 1
  refine List.filter_congr fun text member => ?_
  have written : Capture.selects fine text.chunk.position = decide (fine.Matches text.position) :=
    Capture.selects_render (readable.writable_texts member) fine
  simp only [Function.comp, keeps, written, sameBlanks]
  by_cases fits : fine.Matches text.position
  · simp [fits, coarser.matches sameLength fits]
  · simp [fits]

/-! ### Two runs -/

/-- If a run of one pattern ends well that never stops early, then a run of any other pattern
ends well too, with what the events leave of it, whether or not it may stop early. -/
theorem outcome_of_other {pattern : Pattern} {settings : Settings} {stop : StopRequest}
    {replies : List Reply} {capture : Capture}
    (done : ((start pattern { settings with stopsEarly := false }).run stop replies).outcome =
      .ok capture) (other : Pattern) (stopsEarly : Bool) :
    ((start other { settings with stopsEarly := stopsEarly }).run stop replies).outcome =
      .ok ((Reply.events replies).foldl advance
        (start other { settings with stopsEarly := false })).capture := by
  have level : Level (start pattern { settings with stopsEarly := false })
      (start other { settings with stopsEarly := false }) := level_start rfl rfl pattern other
  have pairs : List.Forall₂ (Reply.Paired Event.Alike) replies replies :=
    List.forall₂_same.mpr fun reply _ => Reply.paired_refl Event.alike_refl reply
  obtain ⟨otherCapture, otherDone, -⟩ :=
    (Level.keeps.agree_runFrom level stop 0 pairs).exists_ok done
  have left := capture_of_outcome rfl otherDone
  subst left
  cases stopsEarly with
  | false => exact otherDone
  | true =>
      have sound : (start other settings).trail.Sound := Trail.sound_fresh
      rcases outcome_withEarlyStop sound stop 0 replies with
        same | ⟨early, error, -, failed⟩
      · exact same.trans otherDone
      · exact absurd (otherDone.symm.trans failed) (by simp)

/-- If a run of a coarser pattern ends well that never stops early, then the run that stops
early for the finer pattern ends well, and it captures what is left of the coarser capture
when its written positions are looked at again. -/
theorem captures_of_coarser (coarser : coarse.Coarser fine) (settings : Settings)
    (stop : StopRequest) {replies : List Reply} (readable : Readable (Reply.events replies))
    {wide : Capture}
    (done : ((start coarse { settings with stopsEarly := false }).run stop replies).outcome =
      .ok wide) :
    ∃ narrow,
      ((start fine { settings with stopsEarly := true }).run stop replies).outcome =
          .ok narrow ∧
        narrow.attributes.entries =
          wide.attributes.entries.filter (fun entry => Capture.reaches fine entry.1) ∧
        (coarse.length = fine.length →
          narrow.chunks.toList =
            wide.chunks.toList.filter fun chunk => Capture.selects fine chunk.position) ∧
        ∀ stopsEarly whole,
          ((start .root { settings with stopsEarly := stopsEarly }).run stop replies).outcome =
              .ok whole →
            fine.isEmpty = false →
              narrow.attributesMatching fine = whole.attributesMatching fine := by
  have left := capture_of_outcome rfl done
  refine ⟨_, outcome_of_other done fine true, ?_, ?_, ?_⟩
  · rw [left]
    exact entries_eq_filter readable coarser _ _
  · intro sameLength
    rw [left]
    exact chunks_eq_filter readable coarser sameLength rfl
  · intro stopsEarly whole rootDone pinned
    rw [outcome_of_other done .root stopsEarly, Except.ok.injEq] at rootDone
    subst rootDone
    exact Capture.attributesMatching_eq_of_filter pinned
      (entries_eq_filter readable (Pattern.coarser_root fine) _ _)

/-- A root with two children of the same name, each with an attribute and a text. -/
def siblings : List Reply :=
  [⟨0, .ok .documentStart, false⟩, ⟨0, .ok (.elementStart "r" []), false⟩,
    ⟨3, .ok (.elementStart "a" [("k", "1")]), false⟩, ⟨12, .ok (.text "one"), false⟩,
    ⟨15, .ok (.elementEnd "a"), false⟩, ⟨19, .ok (.elementStart "a" [("k", "2")]), false⟩,
    ⟨28, .ok (.text "two"), false⟩, ⟨31, .ok (.elementEnd "a"), false⟩,
    ⟨35, .ok (.elementEnd "r"), false⟩, ⟨39, .ok .documentEnd, false⟩]

/-- The second child pinned, and every child. -/
theorem captures_siblings :
    ∃ wide narrow,
      ((start ⟨[.every "r", .every "a"]⟩ { Settings.standard with stopsEarly := false }).run
          .ignored siblings).outcome = .ok wide ∧
        ((start ⟨[.every "r", .only "a" 1]⟩ { Settings.standard with stopsEarly := true }).run
            .ignored siblings).outcome = .ok narrow ∧
          narrow.chunks.toList = [⟨"/r[1]/a[1]", "one"⟩] ∧
          wide.chunks.toList = [⟨"/r[1]/a[1]", "one"⟩, ⟨"/r[1]/a[2]", "two"⟩] := by
  have readable : Readable (Reply.events siblings) := by
    refine .of_starts_lt ?_ (by decide)
    intro name attributes member
    simp [siblings, Reply.events] at member
    rcases member with ⟨rfl, -⟩ | ⟨rfl, -⟩ | ⟨rfl, -⟩ <;> decide
  have coarser : Pattern.Coarser ⟨[.every "r", .every "a"]⟩ ⟨[.every "r", .only "a" 1]⟩ :=
    .kept (.every "r") (.widened (.only "a" 1) (.dropped []))
  have chunks :
      ((((start ⟨[.every "r", .every "a"]⟩ { Settings.standard with stopsEarly := false }).run
        .ignored siblings).outcome.toOption).map (·.chunks.toList)) =
        some [⟨"/r[1]/a[1]", "one"⟩, ⟨"/r[1]/a[2]", "two"⟩] := by
    decide +kernel
  cases done : ((start ⟨[.every "r", .every "a"]⟩
      { Settings.standard with stopsEarly := false }).run .ignored siblings).outcome with
  | error error => simp [done, Except.toOption] at chunks
  | ok wide =>
      simp only [done, Except.toOption, Option.map_some, Option.some.injEq] at chunks
      obtain ⟨narrow, narrowDone, -, narrowChunks, -⟩ :=
        captures_of_coarser coarser .standard .ignored readable done
      refine ⟨wide, narrow, rfl, narrowDone, ?_, chunks⟩
      rw [narrowChunks rfl, chunks]
      decide +kernel

end Extraction

end XmlExtract
