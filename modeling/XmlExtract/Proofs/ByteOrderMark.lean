import XmlExtract.Proofs.UnreadRest

/-!
# Positions behind a byte order mark

The reader of a document that begins with a byte order mark in UTF-8 drops the mark, and
counts positions from the byte behind it.  Apart from that the mark tells it nothing that it
does not take for granted: a declaration is heeded behind the mark as it is without one.  So
the mark has no influence on an outcome at all (`Query.outcome_marked`), and what is short of
the truth by the length of the mark is every position that an error blames.
-/

namespace XmlExtract

open Reading (utf8Mark)

namespace Error

/-- The error for a document in which `count` more bytes come first. -/
def moved (count : Nat) : Error → Error
  | malformed position cause => malformed (position + count) cause
  | invalid position cause => invalid (position + count) cause
  | error => error

theorem moved_ne {error : Error} {count : Nat} (blames : error.blamesDocument = true)
    (positive : 0 < count) : error.moved count ≠ error := by
  cases error with
  | malformed position cause | invalid position cause =>
      simp only [moved, ne_eq, malformed.injEq, invalid.injEq, and_true]
      omega
  | unavailable | io | badExpression | cancelled | brokenDown => contradiction

end Error

namespace Query

/-- The reader of the marked document starts in UTF-8 and at position zero, as it does without
a mark. -/
theorem memoryReplies_marked {bytes : List UInt8} (ascii : Layout.detect bytes = .ascii)
    (unmarked : ¬ utf8Mark <+: bytes) (settings : Settings) :
    memoryReplies settings (utf8Mark ++ bytes) = memoryReplies settings bytes := by
  have mark : Reading.detect (utf8Mark ++ bytes) = (.utf8, 3) :=
    Reading.detect_of_marked (List.prefix_append utf8Mark bytes)
  rw [memoryReplies_eq, memoryReplies_eq, mark, Reading.detect_of_unmarked ascii unmarked]
  rfl

/-- A byte order mark in front of a document changes nothing in the outcome of a query.  So
the positions in errors are those of the input as it was given, mark included, exactly when
there is no error. -/
theorem outcome_marked (world : World) (pattern : Pattern) (settings : Settings)
    (bytes : List UInt8) (ascii : Layout.detect bytes = .ascii)
    (unmarked : ¬ utf8Mark <+: bytes) :
    let marked := outcome world ⟨.bytes (utf8Mark ++ bytes), pattern, settings⟩
    let bare := outcome world ⟨.bytes bytes, pattern, settings⟩
    marked = bare ∧
      (marked = bare.mapError (Error.moved utf8Mark.length) ↔
        ∃ capture, bare = .ok capture) := by
  intro marked bare
  have markedAscii : Layout.detect (utf8Mark ++ bytes) = .ascii := rfl
  have same : marked = bare := by
    simp only [marked, bare, outcome, run_of_ascii ascii, run_of_ascii markedAscii,
      memoryReplies_marked ascii unmarked]
  refine ⟨same, ?_⟩
  rw [same]
  cases found : bare with
  | ok capture => exact ⟨fun _ => ⟨capture, rfl⟩, fun _ => rfl⟩
  | error error =>
      have blames := blamesDocument_of_bytes found
      constructor
      · intro moved
        have fixed : error = error.moved utf8Mark.length := Except.error.inj moved
        exact absurd fixed.symm (Error.moved_ne blames (by decide))
      · rintro ⟨capture, impossible⟩
        contradiction

/-- A document that declares a single-byte encoding, with a letter in it. -/
def declaresLatin : List UInt8 :=
  Utf8.encodeString "<?xml version='1.0' encoding='latin1'?><a>" ++ [0xE9] ++
    Utf8.encodeString "</a>"

/-- The declaration counts behind the mark, and the letter is the one that it tells. -/
theorem outcome_marked_declaresLatin :
    ∃ capture, outcome World.bare ⟨.bytes (utf8Mark ++ declaresLatin), ⟨[.every "a"]⟩,
        .standard⟩ = .ok capture ∧
      capture.texts = ["é"] := by
  have bare : outcome World.bare ⟨.bytes declaresLatin, ⟨[.every "a"]⟩, .standard⟩ =
      .ok ⟨#[⟨"/a[1]", "é"⟩], Keyed.ofList [("/a[1]", Keyed.ofList [])]⟩ := by
    decide +kernel
  have marked := (outcome_marked World.bare ⟨[.every "a"]⟩ .standard declaresLatin
    (by decide +kernel) (by decide +kernel)).1
  exact ⟨_, marked.trans bare, rfl⟩

/-- The end tag `</a>` behind a mark begins at byte 3, and byte 0 is blamed. -/
theorem outcome_marked_endTag :
    let outcomeOf := fun bytes => outcome World.bare ⟨.bytes bytes, .root, .standard⟩
    outcomeOf (utf8Mark ++ Utf8.encodeString "</a>") =
        .error (.malformed 0 (.unmatchedEndTag "a")) ∧
      outcomeOf (utf8Mark ++ Utf8.encodeString "</a>") ≠
        (outcomeOf (Utf8.encodeString "</a>")).mapError (Error.moved 3) := by
  decide +kernel

end Query

end XmlExtract
