import XmlExtract.Proofs.BufferedToken

/-!
# Tokens and what follows them

A token is read alike whatever follows it.  Only two constructs depend on more: a run of
text that goes on to the last byte, and a construct that does not end (`local_read`).
-/

namespace XmlExtract

/-- What stops a search early does so whatever follows. -/
theorem span_append {α : Type} {accepts : α → Bool} {bytes : List α}
    (stops : bytes.dropWhile accepts ≠ []) (more : List α) :
    (bytes ++ more).takeWhile accepts = bytes.takeWhile accepts ∧
      (bytes ++ more).dropWhile accepts = bytes.dropWhile accepts ++ more := by
  induction bytes with
  | nil => contradiction
  | cons byte later ih =>
      cases accepted : accepts byte with
      | true =>
          simp only [List.dropWhile_cons, accepted, if_true] at stops
          obtain ⟨taken, dropped⟩ := ih stops
          simp [accepted, taken, dropped]
      | false => simp [accepted]

theorem scan_append {σ : Type} {step : σ → UInt8 → Option σ} {state : σ}
    {bytes content rest : List UInt8} (found : scan step state bytes = some (content, rest))
    (more : List UInt8) : scan step state (bytes ++ more) = some (content, rest ++ more) := by
  have closes : bytes.foldlM step state = none := by
    cases taken : bytes.foldlM step state with
    | none => rfl
    | some last =>
        have open? : scan step state (bytes ++ []) = none := scanAfter_append [] taken
        rw [List.append_nil, found] at open?
        contradiction
  rw [scan] at found ⊢
  rw [Buffered.scanAfter_append_of_closes closes, found]
  rfl

namespace Lexeme

/-! ### Reading with more bytes behind -/

/-- A lexeme, when more bytes follow those that it was read from. -/
def extend (lexeme : Lexeme) (more : List UInt8) : Lexeme :=
  { lexeme with rest := lexeme.rest ++ more }

/-- A reader does not look beyond the construct that it reads from these bytes, unless it is
a run of text or a construct without an end that takes all of them. -/
structure Local (reader : List UInt8 → Lexeme) (bytes : List UInt8) : Prop where
  extend : (reader bytes).asksBeyond = false →
    ∀ more, reader (bytes ++ more) = (reader bytes).extend more
  text : (reader bytes).asksBeyond = true →
    ∀ token, (reader bytes).token = .ok token → ∃ raw, token = .text raw

theorem asksBeyond_cutShort (cause : Malformation) (size : Nat) :
    (cutShort cause size).asksBeyond = true := rfl

theorem local_enclosed {σ : Type} (step : σ → UInt8 → Option σ) (state : σ)
    (cause : Malformation) (opening : Nat) (meaning : List UInt8 → Except Malformation Token)
    (bytes : List UInt8) : Local (enclosed step state cause opening meaning) bytes := by
  unfold enclosed
  cases found : scan step state bytes with
  | none =>
      constructor
      · intro complete
        simp [found, asksBeyond_cutShort] at complete
      · intro beyond token read
        simp [found, cutShort] at read
  | some parts =>
      obtain ⟨content, rest⟩ := parts
      constructor
      · intro complete more
        simp only [found, scan_append found more]
        rfl
      · intro beyond
        simp [found, asksBeyond] at beyond

theorem local_readText (bytes : List UInt8) : Local readText bytes := by
  constructor
  · intro complete more
    have stops : bytes.dropWhile isTextByte ≠ [] := by
      intro empty
      simp [readText, asksBeyond, empty] at complete
    obtain ⟨taken, dropped⟩ := span_append stops more
    simp only [readText, taken, dropped]
    rfl
  · intro beyond token read
    exact ⟨_, (Except.ok.inj read).symm⟩

theorem local_readReference (bytes : List UInt8) : Local readReference bytes := by
  cases remaining : bytes.dropWhile isReferenceByte with
  | nil =>
      constructor
      · intro complete
        simp [readReference, remaining, asksBeyond_cutShort] at complete
      · intro beyond token read
        simp [readReference, remaining, cutShort] at read
  | cons byte rest =>
      have stops : bytes.dropWhile isReferenceByte ≠ [] := by simp [remaining]
      constructor
      · intro complete more
        obtain ⟨taken, dropped⟩ := span_append stops more
        rw [remaining, List.cons_append] at dropped
        simp only [readReference, taken, dropped, remaining]
        split <;> rfl
      · intro beyond
        simp only [readReference, remaining] at beyond
        split at beyond <;> simp [asksBeyond, closed] at beyond

/-- A reader that hands over to another one is as local as that one. -/
theorem Local.handOver {reader other : List UInt8 → Lexeme} {bytes rest : List UInt8}
    (isLocal : Local other rest)
    (same : ∀ more, reader (bytes ++ more) = other (rest ++ more)) : Local reader bytes := by
  have here := same []
  rw [List.append_nil, List.append_nil] at here
  constructor
  · intro complete more
    rw [here] at complete ⊢
    rw [same, isLocal.extend complete]
  · rw [here]
    exact isLocal.text

theorem local_readExclamation (bytes : List UInt8) : Local readExclamation bytes := by
  match bytes with
  | [] =>
      constructor
      · intro complete
        contradiction
      · intro beyond token read
        simp [readExclamation, cutShort] at read
  | byte :: rest =>
      by_cases cdata : byte = Byte.openBracket
      · apply (local_enclosed Scanner.cdata 0 .unclosedCData 2 cdataMeaning
          (byte :: rest)).handOver
        intro more
        rw [← readCData_eq]
        simp [readExclamation, cdata]
      by_cases comment : byte = Byte.hyphen
      · apply (local_enclosed Scanner.comment (1, 0) .unclosedComment 2 commentMeaning
          (byte :: rest)).handOver
        intro more
        rw [← readComment_eq, comment]
        rfl
      by_cases doctype : upperByte byte = 0x44
      · apply (local_enclosed Scanner.doctype 0 .unclosedDoctype 2 doctypeMeaning
          (byte :: rest)).handOver
        intro more
        rw [← readDoctype_eq]
        simp [readExclamation, cdata, comment, doctype]
      · constructor
        · intro complete more
          simp [readExclamation, cdata, comment, doctype, extend]
        · intro beyond
          simp [readExclamation, cdata, comment, doctype, asksBeyond] at beyond

theorem local_readMarkup (bytes : List UInt8) : Local readMarkup bytes := by
  match bytes with
  | [] =>
      constructor
      · intro complete
        contradiction
      · intro beyond token read
        simp [readMarkup, cutShort] at read
  | byte :: rest =>
      by_cases exclamation : byte = Byte.exclamation
      · apply (local_readExclamation rest).handOver
        intro more
        simp [readMarkup, exclamation]
      by_cases question : byte = Byte.question
      · apply (local_enclosed Scanner.instruction true .unclosedInstruction 2
          instructionMeaning rest).handOver
        intro more
        rw [← readInstruction_eq, question]
        rfl
      · apply (local_enclosed Scanner.tag none .unclosedTag 1 tagMeaning
          (byte :: rest)).handOver
        intro more
        rw [← readTag_eq]
        simp [readMarkup, exclamation, question]

theorem local_read (bytes : List UInt8) : Local read bytes := by
  match bytes with
  | [] =>
      constructor
      · intro complete
        contradiction
      · intro beyond token read
        exact ⟨_, (Except.ok.inj read).symm⟩
  | byte :: rest =>
      by_cases less : byte = Byte.less
      · apply (local_readMarkup rest).handOver
        intro more
        simp [read, less]
      by_cases ampersand : byte = Byte.ampersand
      · apply (local_readReference rest).handOver
        intro more
        rw [ampersand]
        rfl
      · apply (local_readText (byte :: rest)).handOver
        intro more
        simp [read, less, ampersand]

end Lexeme

end XmlExtract
