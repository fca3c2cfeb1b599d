import XmlExtract.Proofs.RenamedReading
import XmlExtract.Proofs.TrimmedOutcome

/-!
# The names of end tags

What closes an element is decided by which elements are open.  The name of an end tag is compared
with that of the innermost open element if the settings say so, and it is shown in messages; it
plays no other part.  So a reader that does not check names replies what one that does replies, up
to the failure of a check (`Reading.upToFailure_replies`), and whatever is accepted with the check
is accepted without it.  Without the check two documents that differ in nothing but the names in
their end tags have the same outcome, unless it quotes such a name (`Query.outcome_unchecked`).
-/

namespace XmlExtract

open Utf16 (ByteOrder)

/-! ### With and without the check -/

/-- Replies that are the same up to a failure in the first ones. -/
inductive Reply.UpToFailure : List Reply → List Reply → Prop
  | nil : UpToFailure [] []
  | same (reply : Reply) {later others : List Reply} (rest : UpToFailure later others) :
      UpToFailure (reply :: later) (reply :: others)
  | failure {reply : Reply} {error : Error} (answer : reply.answer = .error error)
      (later others : List Reply) : UpToFailure (reply :: later) others

namespace Reply.UpToFailure

theorem refl (replies : List Reply) : UpToFailure replies replies := by
  induction replies with
  | nil => exact .nil
  | cons reply later ih => exact .same reply ih

theorem append {replies others : List Reply} (front : List Reply)
    (rest : UpToFailure replies others) : UpToFailure (front ++ replies) (front ++ others) := by
  induction front with
  | nil => exact rest
  | cons reply later ih => exact .same reply ih

end Reply.UpToFailure

namespace Reading

theorem close_unchecked {rules : ReadingRules} {reading closed : Reading} {name : List UInt8}
    (closes : reading.close { rules with checksEndNames := true } name = .ok closed) :
    reading.close { rules with checksEndNames := false } name = .ok closed := by
  unfold close at closes ⊢
  cases opened : reading.opened with
  | nil => simp [opened] at closes
  | cons expected outer =>
      simp only [opened] at closes
      split at closes
      · contradiction
      · exact closes

/-- A token that stands the check comes to the same without it. -/
theorem take_unchecked {rules : ReadingRules} {reading : Reading} {piece : Piece} {token : Token}
    {answer : List (Nat × Event) × Reading}
    (taken : reading.take { rules with checksEndNames := true } piece token = .ok answer) :
    reading.take { rules with checksEndNames := false } piece token = .ok answer := by
  cases token with
  | endTag content =>
      simp only [take] at taken ⊢
      cases closes : reading.close { rules with checksEndNames := true } (endName content) with
      | error cause => simp [closes] at taken
      | ok closed =>
          rw [closes] at taken
          rw [close_unchecked closes]
          exact taken
  | text | reference | startTag | cdata | declaration | passedOver => exact taken

theorem upToFailure_replies (rules : ReadingRules) (input : Input) (reading : Reading)
    (pieces : List Piece) :
    Reply.UpToFailure (replies { rules with checksEndNames := true } input reading pieces)
      (replies { rules with checksEndNames := false } input reading pieces) := by
  induction pieces generalizing reading with
  | nil => exact .nil
  | cons piece later ih =>
      unfold replies
      cases content : piece.content with
      | error error => exact .refl _
      | ok found =>
          cases found with
          | none => exact .refl _
          | some token =>
              dsimp only
              cases taken : reading.take { rules with checksEndNames := true } piece token with
              | error error => exact .failure rfl _ _
              | ok answer =>
                  rw [take_unchecked taken]
                  exact .append _ (ih answer.2)

end Reading

theorem Input.upToFailure_replies (input : Input) (settings : Settings) (knownUtf8 : Bool) :
    Reply.UpToFailure (input.replies { settings with checksEndNames := true } knownUtf8)
      (input.replies { settings with checksEndNames := false } knownUtf8) :=
  .same _ (Reading.upToFailure_replies (.ofSettings settings knownUtf8) _ _ _)

namespace Extraction

variable {extraction : Extraction} {stop otherStop : StopRequest}

/-- A run that ends well has met no failure. -/
theorem outcome_of_upToFailure {replies others : List Reply}
    (told : Reply.UpToFailure replies others) {position : Nat} {capture : Capture}
    (ended : (extraction.runFrom stop position replies).outcome = .ok capture) :
    (extraction.runFrom stop position others).outcome = .ok capture := by
  induction told generalizing extraction stop position with
  | nil => exact ended
  | @failure reply error answer later others =>
      rw [outcome_runFrom_cons] at ended
      cases heard : extraction.hear stop reply with
      | error error => simp [heard] at ended
      | ok event =>
          obtain ⟨-, told, -⟩ := hear_eq_ok_iff.mp heard
          rw [answer] at told
          contradiction
  | same reply rest ih =>
      rw [outcome_runFrom_cons] at ended ⊢
      cases heard : extraction.hear stop reply with
      | error error => simp [heard] at ended
      | ok event =>
          simp only [heard] at ended ⊢
          cases progress : extraction.progressAfter event with
          | finish => rwa [progress] at ended
          | proceed =>
              simp only [progress] at ended ⊢
              exact ih ended

/-! ### Other names -/

/-- What is heard of two renamed documents. -/
theorem hear_renamed {reply other : Reply} (renamed : reply.Renamed other)
    (unheeded : stop.heeded = false) (otherUnheeded : otherStop.heeded = false) :
    SameButQuotes Event.SameButEnds (extraction.hear stop reply)
      (extraction.hear otherStop other) := by
  obtain ⟨position, answers⟩ := renamed
  rw [hear_of_unheeded unheeded, hear_of_unheeded otherUnheeded, position]
  generalize reply.answer = answer at answers ⊢
  generalize other.answer = otherAnswer at answers ⊢
  cases answers with
  | failed error => exact .failed error
  | quoted position quotes otherQuotes => exact .quoted position quotes otherQuotes
  | done events =>
      cases events with
      | same event => exact sameButQuotes_refl .same _
      | elementEnd name otherName =>
          simp only [refusal?]
          split_ifs
          · exact .quoted reply.position rfl rfl
          · exact .done (.elementEnd name otherName)

/-- Runs over the replies for two renamed documents. -/
theorem renamed_runFrom {replies others : List Reply}
    (told : List.Forall₂ Reply.Renamed replies others) (unheeded : stop.heeded = false)
    (otherUnheeded : otherStop.heeded = false) (position : Nat) :
    SameButQuotes Eq (extraction.runFrom stop position replies).outcome
      (extraction.runFrom otherStop position others).outcome := by
  induction told generalizing extraction stop otherStop position with
  | nil =>
      rw [outcome_runFrom_nil, outcome_runFrom_nil, hear_of_unheeded unheeded,
        hear_of_unheeded otherUnheeded]
      exact sameButQuotes_refl Eq.refl _
  | @cons reply other replies others renamed later ih =>
      rw [outcome_runFrom_cons, outcome_runFrom_cons]
      have heard : SameButQuotes Event.SameButEnds (extraction.hear stop reply)
          (extraction.hear otherStop other) := hear_renamed renamed unheeded otherUnheeded
      generalize extraction.hear stop reply = hearing at heard ⊢
      generalize extraction.hear otherStop other = otherHearing at heard ⊢
      cases heard with
      | failed error => exact .failed error
      | quoted position quotes otherQuotes => exact .quoted position quotes otherQuotes
      | @done event otherEvent events =>
          -- A name leaves no trace in the extraction, so both runs go on in one state.
          have advanced := keeps_eq_sameButEnds.advance (Eq.refl extraction) events
          have captured := congrArg capture advanced
          simp only [keeps_eq_sameButEnds.progress (Eq.refl extraction) events]
          cases extraction.progressAfter event with
          | finish => exact .done captured
          | proceed =>
              dsimp only
              rw [renamed.position, ← advanced]
              apply ih
              · exact unheeded
              · exact otherUnheeded

end Extraction

/-! ### Queries -/

namespace Query

variable {world : World} {pattern : Pattern} {settings : Settings}

/-- What is accepted with the check is accepted without it. -/
theorem outcome_of_checked {source : Source} {capture : Capture}
    (ended : outcome world ⟨source, pattern, { settings with checksEndNames := true }⟩ =
      .ok capture) :
    outcome world ⟨source, pattern, { settings with checksEndNames := false }⟩ = .ok capture := by
  have opens : source.supply world { settings with checksEndNames := false } =
      source.supply world { settings with checksEndNames := true } := by
    cases source <;> rfl
  simp only [outcome, run] at ended ⊢
  rw [opens]
  cases supplied : source.supply world { settings with checksEndNames := true } with
  | error error => simp [supplied] at ended
  | ok supply =>
      simp only [supplied] at ended ⊢
      cases made : Document.ofInput supply.impatient.input with
      | error error => simp [made] at ended
      | ok document =>
          simp only [made] at ended ⊢
          have told := Input.upToFailure_replies document.input settings document.transcoded
          exact Extraction.outcome_of_upToFailure told ended

theorem sameButQuotes_of_renamed {bytes other : List UInt8} (renamed : RenamedEnds bytes other)
    (unchecked : settings.checksEndNames = false) {knownUtf8 : Bool}
    (utf8 : knownUtf8 = true ∨ (Reading.detect bytes).1 = .utf8 ∧
      ∀ charset ∈ declaredCharsets settings bytes, charset = .utf8) :
    SameButQuotes Eq
      ((Extraction.start pattern settings).run .ignored
        ((Input.ofBytes bytes).replies settings knownUtf8)).outcome
      ((Extraction.start pattern settings).run .ignored
        ((Input.ofBytes other).replies settings knownUtf8)).outcome :=
  Extraction.renamed_runFrom (Input.renamed_replies renamed unchecked utf8) rfl rfl 0

/-- The names of end tags decide nothing but whether they pass the check and how a message reads.
Whatever the query answers with the check, it answers without it.  Without the check the query has
the same outcome for two documents that differ in nothing but these names, or both outcomes blame
the same position and quote the name of an end tag.  Documents are in UTF-8 and declare no known
encoding other than that, or they are in UTF-16. -/
theorem outcome_unchecked (world : World) (pattern : Pattern) (settings : Settings) :
    let checked (source : Source) :=
      outcome world ⟨source, pattern, { settings with checksEndNames := true }⟩
    let unchecked (source : Source) :=
      outcome world ⟨source, pattern, { settings with checksEndNames := false }⟩
    (∀ source capture, checked source = .ok capture → unchecked source = .ok capture) ∧
      (∀ bytes other, RenamedEnds bytes other → Layout.detect bytes = .ascii →
        (∀ charset ∈ declaredCharsets settings bytes, charset = .utf8) →
        SameButQuotes Eq (unchecked (.bytes bytes)) (unchecked (.bytes other))) ∧
      ∀ order bytes other utf8 utf8Other,
        Layout.detect bytes = .utf16 order → Layout.detect other = .utf16 order →
        Layout.utf16ToUtf8 order bytes = .ok utf8 →
        Layout.utf16ToUtf8 order other = .ok utf8Other → RenamedEnds utf8 utf8Other →
        SameButQuotes Eq (unchecked (.bytes bytes)) (unchecked (.bytes other)) := by
  intro checked unchecked
  refine ⟨fun source capture => outcome_of_checked, ?_, ?_⟩
  · intro bytes other renamed ascii declared
    have otherAscii : Layout.detect other = .ascii := renamed.layout_eq.trans ascii
    simp only [unchecked, outcome, run_of_ascii ascii, run_of_ascii otherAscii]
    exact sameButQuotes_of_renamed renamed rfl (.inr ⟨detect_fst_of_ascii ascii, declared⟩)
  · intro order bytes other utf8 utf8Other layout layoutOther transcoded transcodedOther renamed
    simp only [unchecked, outcome, run_bytes, Document.ofBytes, layout, layoutOther,
      Layout.transcode, transcoded, transcodedOther]
    exact sameButQuotes_of_renamed renamed rfl (.inl rfl)

/-- `<a>x</é>` and `<a>x</ü>` have the outcome of `<a>x</a>` if names are not checked, also in
UTF-16, and are refused otherwise. -/
theorem outcome_unchecked_accents :
    let outcomeOf := fun checks bytes => outcome World.bare
      ⟨.bytes bytes, ⟨[.every "a"]⟩, { Settings.standard with checksEndNames := checks }⟩
    let capture : Capture := ⟨#[⟨"/a[1]", "x"⟩], Keyed.ofList [("/a[1]", Keyed.ofList [])]⟩
    let utf16 := fun text : String => ByteOrder.big.mark ++ Utf16.encode .big text.toList
    outcomeOf true (Utf8.encodeString "<a>x</ü>") =
        .error (.malformed 4 (.mismatchedEndTag "a" "ü")) ∧
      outcomeOf false (Utf8.encodeString "<a>x</a>") = .ok capture ∧
      outcomeOf false (Utf8.encodeString "<a>x</ü>") = .ok capture ∧
      outcomeOf false (utf16 "<a>x</ü>") = .ok capture := by
  intro outcomeOf capture utf16
  obtain ⟨passes, sameUtf8, sameUtf16⟩ :=
    outcome_unchecked World.bare ⟨[.every "a"]⟩ .standard
  have endTags : RenamedEnds (endTagBytes ['é'] [Byte.greater] ++ [])
      (endTagBytes ['ü'] [Byte.greater] ++ []) :=
    .endTag (by decide +kernel) (by decide +kernel) rfl (by decide +kernel) (.same [])
  have bytes : Utf8.encodeString "<a>x</é>" =
      Byte.less :: ([0x61, Byte.greater] ++ 0x78 :: (endTagBytes ['é'] [Byte.greater] ++ [])) := by
    decide +kernel
  have otherBytes : Utf8.encodeString "<a>x</ü>" =
      Byte.less :: ([0x61, Byte.greater] ++ 0x78 :: (endTagBytes ['ü'] [Byte.greater] ++ [])) := by
    decide +kernel
  have renamed : RenamedEnds (Utf8.encodeString "<a>x</é>") (Utf8.encodeString "<a>x</ü>") := by
    rw [bytes, otherBytes]
    exact .markup rfl (by decide +kernel) (.text rfl endTags)
  have ended : outcomeOf false (Utf8.encodeString "<a>x</é>") = .ok capture := by decide +kernel
  have endedUtf16 : outcomeOf false (utf16 "<a>x</é>") = .ok capture := by decide +kernel
  have checked : outcomeOf true (Utf8.encodeString "<a>x</a>") = .ok capture := by decide +kernel
  have alike := sameUtf8 _ _ renamed (by decide +kernel) (by decide +kernel)
  have alikeUtf16 := sameUtf16 .big _ _ _ _ rfl rfl (Layout.utf16ToUtf8_marked .big _)
    (Layout.utf16ToUtf8_marked .big _) renamed
  exact ⟨by decide +kernel, passes _ _ checked, alike.eq_ok ended, alikeUtf16.eq_ok endedUtf16⟩

end Query

end XmlExtract
