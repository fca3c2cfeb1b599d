import XmlExtract.Proofs.TextSlices

/-!
# How far a token reaches

A reader of tokens takes some bytes and leaves the others.  What it takes is as long as it says,
and stands in front of what it leaves.  It takes the same again if something else is left, as
long as that begins with the same byte, or is empty like the rest before (`exists_taken_read`).
So a token can be found again in another document, and the offsets of tokens point at them: a
start tag stands between the brackets that open and close it (`read_startTag`).
-/

namespace XmlExtract

namespace Lexeme

variable {bytes : List UInt8}

/-- Behind its opening, a reader takes these bytes, and would take them also if it left others
that begin alike. -/
structure Takes (reader : List UInt8 → Lexeme) (opening : Nat) (bytes taken : List UInt8) :
    Prop where
  joined : bytes = taken ++ (reader bytes).rest
  size : (reader bytes).size = opening + taken.length
  replaced : ∀ other, other.head? = (reader bytes).rest.head? →
    reader (taken ++ other) = { reader bytes with rest := other }

theorem exists_taken_enclosed {σ : Type} (step : σ → UInt8 → Option σ) (state : σ)
    (cause : Malformation) (opening : Nat) (meaning : List UInt8 → Except Malformation Token)
    (bytes : List UInt8) :
    ∃ taken, Takes (enclosed step state cause opening meaning) opening bytes taken := by
  cases found : scan step state bytes with
  | none =>
      have whole : enclosed step state cause opening meaning bytes =
          cutShort cause (bytes.length + opening) := by
        rw [enclosed, found]
      refine ⟨bytes, ?_, ?_, ?_⟩
      · rw [whole, cutShort, List.append_nil]
      · rw [whole, cutShort, Nat.add_comm]
      · intro other alike
        rw [whole, cutShort, List.head?_nil, List.head?_eq_none_iff] at alike
        rw [alike, List.append_nil, whole]
        rfl
  | some parts =>
      obtain ⟨content, rest⟩ := parts
      have whole : enclosed step state cause opening meaning bytes =
          ⟨meaning content, content.length + opening + 1, rest, false⟩ := by
        rw [enclosed, found]
      obtain ⟨last, closing, joined, runs, closes⟩ := scan_closes found
      refine ⟨content ++ [closing], ?_, ?_, ?_⟩
      · rw [whole, List.append_assoc]
        exact joined
      · rw [whole, List.length_append, List.length_singleton]
        dsimp only
        omega
      · intro other _
        have foundAgain : scan step state (content ++ closing :: other) = some (content, other) :=
          scan_closing runs closes
        rw [whole, List.append_assoc, List.singleton_append, enclosed, foundAgain]

/-- What a search takes and leaves, and that it takes the same if it leaves something else that
stops it. -/
theorem span_replaced {accepts : UInt8 → Bool} {other : List UInt8}
    (alike : other.head? = (bytes.dropWhile accepts).head?) :
    (bytes.takeWhile accepts ++ other).takeWhile accepts = bytes.takeWhile accepts ∧
      (bytes.takeWhile accepts ++ other).dropWhile accepts = other := by
  have accepted : ∀ byte ∈ bytes.takeWhile accepts, accepts byte = true :=
    fun byte member => List.mem_takeWhile_imp member
  have stops : other.takeWhile accepts = [] ∧ other.dropWhile accepts = other := by
    cases other with
    | nil => exact ⟨rfl, rfl⟩
    | cons first later =>
        have refused : ¬ accepts first = true := by
          obtain ⟨more, left⟩ := List.head?_eq_some_iff.mp alike.symm
          have nonempty : bytes.dropWhile accepts ≠ [] := by simp [left]
          have head := List.head_dropWhile_not accepts nonempty
          simp only [left, List.head_cons] at head
          simp [head]
        exact ⟨List.takeWhile_cons_of_neg refused, List.dropWhile_cons_of_neg refused⟩
  rw [List.takeWhile_append_of_pos accepted, List.dropWhile_append_of_pos accepted, stops.1,
    stops.2, List.append_nil]
  exact ⟨rfl, rfl⟩

theorem exists_taken_readText (bytes : List UInt8) :
    ∃ taken, Takes readText 0 bytes taken := by
  refine ⟨bytes.takeWhile isTextByte, List.takeWhile_append_dropWhile.symm,
    (Nat.zero_add _).symm, ?_⟩
  intro other alike
  obtain ⟨taken, left⟩ := span_replaced alike
  simp only [readText, taken, left]

theorem exists_taken_readReference (bytes : List UInt8) :
    ∃ taken, Takes readReference 1 bytes taken := by
  let name := bytes.takeWhile isReferenceByte
  have parts : bytes = name ++ bytes.dropWhile isReferenceByte :=
    List.takeWhile_append_dropWhile.symm
  cases stops : bytes.dropWhile isReferenceByte with
  | nil =>
      have whole : readReference bytes = cutShort .unclosedReference (name.length + 1) := by
        simp only [readReference, stops, name]
      refine ⟨name, ?_, ?_, ?_⟩
      · rw [whole, cutShort, List.append_nil]
        rw [stops, List.append_nil] at parts
        exact parts
      · rw [whole, cutShort, Nat.add_comm]
      · intro other alike
        rw [whole, cutShort, List.head?_nil, List.head?_eq_none_iff] at alike
        rw [stops, List.append_nil] at parts
        rw [alike, List.append_nil, ← parts, whole]
        rfl
  | cons byte rest =>
      rw [stops] at parts
      have again (other : List UInt8) (alike : other.head? = some byte) :
          (name ++ other).takeWhile isReferenceByte = name ∧
            (name ++ other).dropWhile isReferenceByte = other := by
        apply span_replaced
        rw [alike, stops, List.head?_cons]
      by_cases semicolon : byte = Byte.semicolon
      · subst semicolon
        have whole : readReference bytes = closed (.reference name) (name.length + 2) rest := by
          simp [readReference, stops, name]
        refine ⟨name ++ [Byte.semicolon], ?_, ?_, ?_⟩
        · rw [whole, List.append_assoc]
          exact parts
        · rw [whole, List.length_append, List.length_singleton]
          simp only [closed]
          omega
        · intro other _
          obtain ⟨taken, left⟩ := again (Byte.semicolon :: other) rfl
          rw [whole, List.append_assoc, List.singleton_append]
          simp [readReference, taken, left, closed]
      · have whole : readReference bytes =
            ⟨.error .unclosedReference, name.length + 1, byte :: rest, true⟩ := by
          simp [readReference, stops, semicolon, name]
        refine ⟨name, ?_, ?_, ?_⟩
        · rw [whole]
          exact parts
        · rw [whole, Nat.add_comm]
        · intro other alike
          rw [whole, List.head?_cons] at alike
          obtain ⟨taken, left⟩ := again other alike
          obtain ⟨later, rfl⟩ := List.head?_eq_some_iff.mp alike
          rw [whole]
          simp [readReference, taken, left, semicolon]

/-- A reader that hands over to another one, behind some bytes or none, takes these and what
the other one takes. -/
theorem Takes.handOver {reader other : List UInt8 → Lexeme} {opening : Nat}
    (front : List UInt8) {taken : List UInt8}
    (takes : Takes other (opening + front.length) bytes taken)
    (same : ∀ more, more.head? = bytes.head? → reader (front ++ more) = other more) :
    Takes reader opening (front ++ bytes) (front ++ taken) where
  joined := by
    rw [same bytes rfl, List.append_assoc, ← takes.joined]
  size := by
    rw [same bytes rfl, takes.size, List.length_append, Nat.add_assoc]
  replaced := by
    intro rest alike
    rw [same bytes rfl] at alike ⊢
    have begins : (taken ++ rest).head? = bytes.head? := by
      rw [takes.joined, List.head?_append, List.head?_append, alike]
    rw [List.append_assoc, same _ begins, takes.replaced rest alike]

theorem exists_taken_readExclamation (bytes : List UInt8) :
    ∃ taken, Takes readExclamation 2 bytes taken := by
  cases bytes with
  | nil =>
      refine ⟨[], rfl, rfl, ?_⟩
      intro other alike
      obtain rfl := List.head?_eq_none_iff.mp alike
      rfl
  | cons byte rest =>
      -- The next byte decides, and it is there also if something else is left.
      have by_head {other : List UInt8 → Lexeme}
          (takes : ∃ taken, Takes other 2 (byte :: rest) taken)
          (same : ∀ later, readExclamation (byte :: later) = other (byte :: later)) :
          ∃ taken, Takes readExclamation 2 (byte :: rest) taken := by
        obtain ⟨taken, takes⟩ := takes
        refine ⟨taken, Takes.handOver [] takes ?_⟩
        intro more alike
        obtain ⟨later, rfl⟩ := List.head?_eq_some_iff.mp alike
        exact same later
      by_cases cdata : byte = Byte.openBracket
      · apply by_head (exists_taken_enclosed Scanner.cdata 0 .unclosedCData 2 cdataMeaning _)
        intro later
        rw [← readCData_eq]
        simp [readExclamation, cdata]
      by_cases comment : byte = Byte.hyphen
      · apply by_head (exists_taken_enclosed Scanner.comment (1, 0) .unclosedComment 2
          commentMeaning _)
        intro later
        rw [← readComment_eq, comment]
        rfl
      by_cases doctype : upperByte byte = 0x44
      · apply by_head (exists_taken_enclosed Scanner.doctype 0 .unclosedDoctype 2
          doctypeMeaning _)
        intro later
        rw [← readDoctype_eq]
        simp [readExclamation, cdata, comment, doctype]
      · have unknown (later : List UInt8) : readExclamation (byte :: later) =
            ⟨.error .unknownMarkup, 2, byte :: later, true⟩ := by
          simp [readExclamation, cdata, comment, doctype]
        refine ⟨[], ?_, ?_, ?_⟩
        · rw [unknown, List.nil_append]
        · rw [unknown, List.length_nil]
        · intro other alike
          rw [unknown, List.head?_cons] at alike
          obtain ⟨later, rfl⟩ := List.head?_eq_some_iff.mp alike
          rw [List.nil_append, unknown, unknown]

theorem exists_taken_readMarkup (bytes : List UInt8) :
    ∃ taken, Takes readMarkup 1 bytes taken := by
  cases bytes with
  | nil =>
      refine ⟨[], rfl, rfl, ?_⟩
      intro other alike
      obtain rfl := List.head?_eq_none_iff.mp alike
      rfl
  | cons byte rest =>
      by_cases exclamation : byte = Byte.exclamation
      · obtain ⟨taken, takes⟩ := exists_taken_readExclamation rest
        refine ⟨[byte] ++ taken, Takes.handOver [byte] takes ?_⟩
        intro more _
        simp [readMarkup, exclamation]
      by_cases question : byte = Byte.question
      · obtain ⟨taken, takes⟩ := exists_taken_enclosed Scanner.instruction true
          .unclosedInstruction 2 instructionMeaning rest
        refine ⟨[byte] ++ taken, Takes.handOver [byte] takes ?_⟩
        intro more _
        rw [← readInstruction_eq, question]
        rfl
      · obtain ⟨taken, takes⟩ := exists_taken_enclosed Scanner.tag none .unclosedTag 1
          tagMeaning (byte :: rest)
        refine ⟨taken, Takes.handOver [] takes ?_⟩
        intro more alike
        obtain ⟨later, rfl⟩ := List.head?_eq_some_iff.mp alike
        rw [← readTag_eq]
        simp [readMarkup, exclamation, question]

/-- Every token takes some of the bytes and leaves the others, and it would be read again in
front of others that begin alike. -/
theorem exists_taken_read (bytes : List UInt8) : ∃ taken, Takes read 0 bytes taken := by
  cases bytes with
  | nil =>
      refine ⟨[], rfl, rfl, ?_⟩
      intro other alike
      obtain rfl := List.head?_eq_none_iff.mp alike
      rfl
  | cons byte rest =>
      by_cases less : byte = Byte.less
      · obtain ⟨taken, takes⟩ := exists_taken_readMarkup rest
        refine ⟨[byte] ++ taken, Takes.handOver [byte] takes ?_⟩
        intro more _
        simp [read, less]
      by_cases ampersand : byte = Byte.ampersand
      · obtain ⟨taken, takes⟩ := exists_taken_readReference rest
        refine ⟨[byte] ++ taken, Takes.handOver [byte] takes ?_⟩
        intro more _
        rw [ampersand]
        rfl
      · obtain ⟨taken, takes⟩ := exists_taken_readText (byte :: rest)
        refine ⟨taken, Takes.handOver [] takes ?_⟩
        intro more alike
        obtain ⟨later, rfl⟩ := List.head?_eq_some_iff.mp alike
        simp [read, less, ampersand]

/-! ### Start tags -/

/-- What stands behind the content of a start tag. -/
def closingOf (isEmpty : Bool) : List UInt8 :=
  if isEmpty then [Byte.slash, Byte.greater] else [Byte.greater]

theorem ofStartTag_eq {content inner : List UInt8} {isEmpty : Bool}
    (means : ofStartTag content = .startTag inner isEmpty) :
    content ++ [Byte.greater] = inner ++ closingOf isEmpty := by
  unfold ofStartTag at means
  split at means
  · rename_i slash
    obtain ⟨front, rfl⟩ := List.getLast?_eq_some_iff.mp slash
    rw [List.dropLast_concat] at means
    obtain ⟨rfl, rfl⟩ := Token.startTag.inj means
    rw [List.append_assoc]
    rfl
  · obtain ⟨rfl, rfl⟩ := Token.startTag.inj means
    rfl

theorem readTag_startTag {content : List UInt8} {isEmpty : Bool}
    (found : (readTag bytes).token = .ok (.startTag content isEmpty)) :
    bytes = content ++ closingOf isEmpty ++ (readTag bytes).rest := by
  rw [readTag_eq, enclosed] at found ⊢
  cases scanned : scan Scanner.tag none bytes with
  | none => simp [scanned, cutShort] at found
  | some parts =>
      obtain ⟨inside, rest⟩ := parts
      obtain ⟨last, closing, joined, -, closes⟩ := scan_closes scanned
      obtain rfl := Scanner.tag_closes last closing closes
      simp only [scanned] at found ⊢
      have means : ofStartTag inside = .startTag content isEmpty := by
        cases inside with
        | nil => exact Except.ok.inj found
        | cons byte name =>
            have chosen := Except.ok.inj found
            split at chosen
            · contradiction
            · exact chosen
      rw [← ofStartTag_eq means, List.append_assoc]
      exact joined

theorem readExclamation_ne_startTag (content : List UInt8) (isEmpty : Bool) :
    (readExclamation bytes).token ≠ .ok (.startTag content isEmpty) := by
  unfold readExclamation readCData readComment readDoctype
  grind [closed, wrong, cutShort]

theorem readInstruction_ne_startTag (content : List UInt8) (isEmpty : Bool) :
    (readInstruction bytes).token ≠ .ok (.startTag content isEmpty) := by
  unfold readInstruction ofInstruction
  grind [closed, wrong, cutShort]

/-- A start tag stands between its brackets. -/
theorem read_startTag {content : List UInt8} {isEmpty : Bool}
    (found : (read bytes).token = .ok (.startTag content isEmpty)) :
    bytes = Byte.less :: (content ++ closingOf isEmpty) ++ (read bytes).rest := by
  cases bytes with
  | nil => simp [read, readText] at found
  | cons byte rest =>
      by_cases less : byte = Byte.less
      · subst less
        cases rest with
        | nil => simp [read, readMarkup, cutShort] at found
        | cons next later =>
            by_cases exclamation : next = Byte.exclamation
            · subst exclamation
              exact absurd found (readExclamation_ne_startTag content isEmpty)
            by_cases question : next = Byte.question
            · subst question
              exact absurd found (readInstruction_ne_startTag content isEmpty)
            have whole : read (Byte.less :: next :: later) = readTag (next :: later) := by
              simp [read, readMarkup, exclamation, question]
            rw [whole] at found ⊢
            rw [List.cons_append, ← readTag_startTag found]
      by_cases ampersand : byte = Byte.ampersand
      · subst ampersand
        have whole : read (Byte.ampersand :: rest) = readReference rest := rfl
        rw [whole] at found
        unfold readReference at found
        grind [closed, cutShort]
      · simp [read, less, ampersand, readText] at found

end Lexeme

end XmlExtract
