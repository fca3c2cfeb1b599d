import Mathlib.Data.Option.Basic
import XmlExtract.Proofs.Respelling

/-!
# Respelled tokens

A scanner looks for ASCII characters, and the most that it keeps of others is how many bytes
they have.  So it closes respelled bytes where it closes the bytes themselves
(`Scanner.Tracks.scan_apply`), and respelled bytes make the same tokens, respelled
(`Lexeme.respells_read`).

Only the scanner of a comment counts bytes.  It asks for five of them before the end, and they
are there in both spellings if any character in the comment is no ASCII character.
-/

namespace XmlExtract

open Respelling (stopsAtAscii_above isBlankByte_above ne_mark_of_above
  beq_mark_above)

/-- A token whose content is respelled. -/
def Token.respell (spelling : Respelling) : Token → Token
  | .text raw => .text (spelling.apply raw)
  | .reference name => .reference (spelling.apply name)
  | .startTag content isEmpty => .startTag (spelling.apply content) isEmpty
  | .endTag content => .endTag (spelling.apply content)
  | .cdata raw => .cdata (spelling.apply raw)
  | .declaration content => .declaration (spelling.apply content)
  | .passedOver => .passedOver

/-! ### Scanners -/

namespace Scanner

section

variable {σ : Type} {step : σ → UInt8 → Option σ} {alike : σ → σ → Prop} {state other : σ}

/-- A scanner that, from states that are alike, closes both of two spellings or neither, and
comes to states that are alike again. -/
structure Tracks (step : σ → UInt8 → Option σ) (alike : σ → σ → Prop) : Prop where
  ascii : ∀ {state other : σ} {byte : UInt8}, alike state other → byte < 0x80 →
    Option.Rel alike (step state byte) (step other byte)
  above : ∀ {state other : σ} {byte : UInt8} {units : List UInt8}, alike state other →
    0x80 ≤ byte → units ≠ [] → (∀ unit ∈ units, 0x80 ≤ unit) →
    ∃ next nextOther, step state byte = some next ∧
      units.foldlM step other = some nextOther ∧ alike next nextOther

theorem Tracks.scanAfter_apply (tracks : Tracks step alike) (spelling : Respelling)
    (related : alike state other) (before bytes : List UInt8) :
    scanAfter step other (spelling.apply before.reverse).reverse (spelling.apply bytes) =
      (scanAfter step state before bytes).map fun found =>
        (spelling.apply found.1, spelling.apply found.2) := by
  -- What was taken stands reversed in both runs, the respelling of it unit by unit.
  induction bytes generalizing state other before with
  | nil => rfl
  | cons byte later ih =>
      have onward (next nextOther : σ) (relatedNext : alike next nextOther) :=
        ih relatedNext (byte :: before)
      rw [List.reverse_cons, Respelling.apply_append, List.reverse_append] at onward
      by_cases ascii : byte < 0x80
      · rw [spelling.apply_ascii_cons ascii, scanAfter, scanAfter]
        have steps := tracks.ascii related ascii
        generalize step state byte = next at steps ⊢
        generalize step other byte = nextOther at steps ⊢
        cases steps with
        | none => simp
        | some relatedNext =>
            rw [spelling.apply_ascii_cons ascii] at onward
            exact onward _ _ relatedNext
      · obtain ⟨next, nextOther, taken, takenOther, relatedNext⟩ :=
          tracks.above related (UInt8.not_lt.mp ascii) (spelling.spell_ne_nil byte)
            (spelling.spell_above byte (UInt8.not_lt.mp ascii))
        rw [Respelling.apply_cons, scanAfter_append _ takenOther, scanAfter, taken]
        simpa [Respelling.apply_cons] using onward _ _ relatedNext

/-- Respelled bytes are closed where the bytes are. -/
theorem Tracks.scan_apply (tracks : Tracks step alike) (spelling : Respelling)
    (related : alike state other) (bytes : List UInt8) :
    scan step other (spelling.apply bytes) =
      (scan step state bytes).map fun found =>
        (spelling.apply found.1, spelling.apply found.2) :=
  tracks.scanAfter_apply spelling related [] bytes

/-- A scanner that any number of bytes above ASCII brings to the same state. -/
theorem tracks_of_settles {sound : σ → Prop}
    (keeps : ∀ state byte next, sound state → byte < 0x80 → step state byte = some next →
      sound next)
    (settles : ∀ state, sound state → ∃ next, sound next ∧
      ∀ unit, 0x80 ≤ unit → step state unit = some next ∧ step next unit = some next) :
    Tracks step fun state other => state = other ∧ sound state where
  ascii := by
    rintro state other byte ⟨rfl, isSound⟩ ascii
    cases taken : step state byte with
    | none => exact .none
    | some next => exact .some ⟨rfl, keeps state byte next isSound ascii taken⟩
  above := by
    rintro state other byte units ⟨rfl, isSound⟩ above nonempty unitsAbove
    obtain ⟨next, nextSound, steps⟩ := settles state isSound
    refine ⟨next, next, (steps byte above).1, ?_, rfl, nextSound⟩
    obtain ⟨unit, more, rfl⟩ := List.exists_cons_of_ne_nil nonempty
    rw [List.forall_mem_cons] at unitsAbove
    rw [List.foldlM_cons, (steps unit unitsAbove.1).1]
    exact foldlM_stays fun unit member => (steps unit (unitsAbove.2 unit member)).2

theorem tracks_eq_of_settles
    (settles : ∀ state, ∃ next, ∀ unit, 0x80 ≤ unit →
      step state unit = some next ∧ step next unit = some next) : Tracks step Eq := by
  have tracks : Tracks step fun state other => state = other ∧ True :=
    tracks_of_settles (fun _ _ _ _ _ _ => trivial)
      fun state _ => (settles state).imp fun _ steps => ⟨trivial, steps⟩
  simpa only [and_true] using tracks

end

/-- The quotes of a tag are ASCII characters. -/
theorem tracks_tag : Tracks tag fun state other =>
    state = other ∧ ∀ quote ∈ state, quote < 0x80 := by
  apply tracks_of_settles
  · intro state byte next quotes ascii taken
    unfold tag at taken
    grind
  · intro state quotes
    refine ⟨state, quotes, fun unit above => ?_⟩
    have stays : tag state unit = some state := by
      cases state with
      | none =>
          simp [tag, ne_mark_of_above above (show Byte.greater < 0x80 by decide),
            ne_mark_of_above above (show Byte.quote < 0x80 by decide),
            ne_mark_of_above above (show Byte.apostrophe < 0x80 by decide)]
      | some quote => simp [tag, ne_mark_of_above above (quotes quote rfl)]
    exact ⟨stays, stays⟩

theorem tracks_instruction : Tracks instruction Eq := by
  refine tracks_eq_of_settles fun state => ⟨false, fun unit above => ?_⟩
  simp [instruction, ne_mark_of_above above (show Byte.greater < 0x80 by decide),
    ne_mark_of_above above (show Byte.question < 0x80 by decide)]

theorem tracks_cdata : Tracks cdata Eq := by
  refine tracks_eq_of_settles fun state => ⟨0, fun unit above => ?_⟩
  simp [cdata, ne_mark_of_above above (show Byte.greater < 0x80 by decide),
    ne_mark_of_above above (show Byte.closeBracket < 0x80 by decide)]

theorem tracks_doctype : Tracks doctype Eq := by
  refine tracks_eq_of_settles fun state => ⟨state, fun unit above => ?_⟩
  simp [doctype, ne_mark_of_above above (show Byte.greater < 0x80 by decide),
    ne_mark_of_above above (show Byte.less < 0x80 by decide)]

/-- The counts of two spellings, from the first hyphen on.  They differ only if both are so
large that two more hyphens make five bytes. -/
def CountsAlike (state other : Nat × Nat) : Prop :=
  state.2 = other.2 ∧ 2 ≤ state.1 ∧
    (state.1 = other.1 ∨ 3 + state.2 ≤ state.1 ∧ state.1 ≤ other.1)

theorem tracks_comment : Tracks comment CountsAlike where
  ascii := by
    rintro ⟨count, hyphens⟩ ⟨countOther, hyphensOther⟩ byte ⟨rfl, least, counts⟩ ascii
    simp only at least counts
    by_cases closes : byte = Byte.greater ∧ 5 ≤ count ∧ 2 ≤ hyphens
    · have closesOther : 5 ≤ countOther := by omega
      simp [comment, closes, closesOther]
    · have staysOther : ¬ (byte = Byte.greater ∧ 5 ≤ countOther ∧ 2 ≤ hyphens) := by
        rintro ⟨greater, five, enough⟩
        exact closes ⟨greater, by omega, enough⟩
      simp only [comment, Bool.and_eq_true, beq_iff_eq, decide_eq_true_eq, and_assoc, closes,
        staysOther, if_false]
      refine .some ⟨rfl, by omega, ?_⟩
      dsimp only
      split <;> omega
  above := by
    rintro ⟨count, hyphens⟩ ⟨countOther, hyphensOther⟩ byte units ⟨rfl, least, counts⟩ above
      nonempty unitsAbove
    have plain (unit : UInt8) (unitAbove : 0x80 ≤ unit) :
        unit ≠ Byte.greater ∧ unit ≠ Byte.hyphen :=
      ⟨ne_mark_of_above unitAbove (by decide), ne_mark_of_above unitAbove (by decide)⟩
    have takenOther := comment_other nonempty (fun unit member =>
      plain unit (unitsAbove unit member)) (countOther, hyphens)
    have some := List.length_pos_iff.mpr nonempty
    refine ⟨(count + 1, 0), _, by simp [comment, plain byte above], takenOther, rfl, ?_, ?_⟩
    · dsimp only at least ⊢
      omega
    · dsimp only at least counts ⊢
      omega

end Scanner

/-! ### Tokens -/

namespace Lexeme

/-- What is read from respelled bytes: the token and what is left, respelled. -/
structure Respells (spelling : Respelling) (lexeme other : Lexeme) : Prop where
  token : other.token = lexeme.token.map (Token.respell spelling)
  rest : other.rest = spelling.apply lexeme.rest

variable (spelling : Respelling)

theorem respells_readText (bytes : List UInt8) :
    Respells spelling (readText bytes) (readText (spelling.apply bytes)) where
  token := by
    simp only [readText,
      spelling.takeWhile_apply (stopsAtAscii_above stopsAtAscii_isTextByte)]
    rfl
  rest := spelling.dropWhile_apply (stopsAtAscii_above stopsAtAscii_isTextByte) bytes

theorem respells_readReference (bytes : List UInt8) :
    Respells spelling (readReference bytes) (readReference (spelling.apply bytes)) := by
  have stops := stopsAtAscii_isReferenceByte
  unfold readReference
  rw [spelling.takeWhile_apply (stopsAtAscii_above stops)]
  cases found : bytes.dropWhile isReferenceByte with
  | nil =>
      rw [spelling.dropWhile_apply (stopsAtAscii_above stops), found]
      exact ⟨rfl, rfl⟩
  | cons byte rest =>
      have foundOther := spelling.dropWhile_apply_eq_cons stops found
      have applied := spelling.dropWhile_apply (stopsAtAscii_above stops) bytes
      rw [foundOther, found] at applied
      rw [foundOther]
      dsimp only
      split
      · exact ⟨rfl, rfl⟩
      · exact ⟨rfl, applied⟩

/-! ### What the content of a construct means -/

theorem ofStartTag_apply (content : List UInt8) :
    ofStartTag (spelling.apply content) = (ofStartTag content).respell spelling := by
  have asciiSlash : ∀ byte ∈ [Byte.slash], byte < 0x80 := Utf8.ascii_of_all (by decide)
  unfold ofStartTag
  simp only [← List.singleton_suffix_iff_getLast?_eq_some, spelling.isSuffix_apply_iff asciiSlash]
  split
  · rename_i slash
    obtain ⟨front, rfl⟩ := slash
    rw [spelling.apply_append_ascii front asciiSlash, List.dropLast_concat,
      List.dropLast_concat]
    rfl
  · rfl

theorem tagMeaning_apply (content : List UInt8) :
    tagMeaning (spelling.apply content) =
      (tagMeaning content).map (Token.respell spelling) := by
  cases content with
  | nil => rfl
  | cons byte name =>
      obtain ⟨first, later, applied, alike, behind⟩ := spelling.exists_apply_cons byte name
      have sameMark : (first == Byte.slash) = (byte == Byte.slash) :=
        alike (beq_mark_above (by decide))
      have startTag := ofStartTag_apply spelling (byte :: name)
      rw [applied] at startTag ⊢
      simp only [tagMeaning, sameMark]
      split
      · rename_i slash
        rw [(behind (by rw [beq_iff_eq.mp slash]; decide)).2]
        rfl
      · rw [startTag]
        rfl

theorem ofInstruction_apply (content : List UInt8) :
    ofInstruction (spelling.apply content) = (ofInstruction content).respell spelling := by
  have asciiName : ∀ byte ∈ xmlName, byte < 0x80 := Utf8.ascii_of_all (by decide)
  have length : xmlName.length = 3 := by decide
  unfold ofInstruction
  rw [← length]
  simp only [spelling.take_apply_eq_iff asciiName]
  by_cases begins : content.take xmlName.length = xmlName
  · rw [spelling.drop_apply asciiName begins, spelling.all_head?_apply isBlankByte_above]
    split <;> rfl
  · simp [begins, Token.respell]

theorem instructionMeaning_concat (front : List UInt8) (byte : UInt8) :
    instructionMeaning (front ++ [byte]) = .ok (ofInstruction front) := by
  cases front with
  | nil => rfl
  | cons first later =>
      show Except.ok (ofInstruction ((first :: later) ++ [byte]).dropLast) = _
      rw [List.dropLast_concat]

/-- The last byte of a scanned instruction is the question mark that closes it. -/
theorem instructionMeaning_apply {content : List UInt8} {last : Bool} {closing : UInt8}
    (taken : content.foldlM Scanner.instruction true = some last)
    (closes : Scanner.instruction last closing = none) :
    instructionMeaning (spelling.apply content) =
      (instructionMeaning content).map (Token.respell spelling) := by
  rcases List.eq_nil_or_concat' content with rfl | ⟨front, byte, rfl⟩
  · rfl
  · rw [List.foldlM_append] at taken
    obtain ⟨state, -, takenLast⟩ := Option.bind_eq_some_iff.mp taken
    have step : Scanner.instruction state byte = some last := by simpa using takenLast
    have question : byte = Byte.question := by
      unfold Scanner.instruction at step closes
      grind
    subst question
    rw [spelling.apply_append_ascii front (Utf8.ascii_of_all (by decide)),
      instructionMeaning_concat, instructionMeaning_concat, ofInstruction_apply]
    rfl

theorem commentMeaning_apply (content : List UInt8) :
    commentMeaning (spelling.apply content) =
      (commentMeaning content).map (Token.respell spelling) := by
  have asciiHyphens : ∀ byte ∈ [Byte.hyphen, Byte.hyphen], byte < 0x80 :=
    Utf8.ascii_of_all (by decide)
  have begins : (spelling.apply content).take 2 = [Byte.hyphen, Byte.hyphen] ↔
      content.take 2 = [Byte.hyphen, Byte.hyphen] :=
    spelling.take_apply_eq_iff asciiHyphens content
  simp only [commentMeaning, begins]
  split <;> rfl

/-- The last bytes of a scanned section are the brackets that close it. -/
theorem cdataMeaning_apply {content : List UInt8} {brackets : Nat} {closing : UInt8}
    (taken : content.foldlM Scanner.cdata 0 = some brackets)
    (closes : Scanner.cdata brackets closing = none) :
    cdataMeaning (spelling.apply content) =
      (cdataMeaning content).map (Token.respell spelling) := by
  have asciiOpening : ∀ byte ∈ cdataOpening, byte < 0x80 := Utf8.ascii_of_all (by decide)
  have length : cdataOpening.length = 7 := by decide
  unfold cdataMeaning
  rw [← length]
  simp only [spelling.take_apply_eq_iff asciiOpening]
  split
  · rename_i begins
    rw [spelling.drop_apply asciiOpening begins]
    have asciiBrackets : ∀ byte ∈ List.replicate 2 Byte.closeBracket, byte < 0x80 :=
      Utf8.ascii_of_all (by decide)
    -- Either the brackets stand behind the opening, or no more than them does.
    rcases List.suffix_or_suffix_of_suffix (Scanner.cdata_closing taken closes)
      (List.drop_suffix cdataOpening.length content) with ⟨raw, ends⟩ | within
    · rw [← ends, spelling.apply_append_ascii raw asciiBrackets]
      simp [List.replicate, Token.respell, Except.map]
    · have ascii : ∀ byte ∈ content.drop cdataOpening.length, byte < 0x80 :=
        fun byte member => asciiBrackets byte (within.subset member)
      have asciiRaw : ∀ byte ∈ (content.drop cdataOpening.length).dropLast.dropLast,
          byte < 0x80 := fun byte member =>
        ascii byte (List.mem_of_mem_dropLast (List.mem_of_mem_dropLast member))
      simp only [Except.map, Token.respell, spelling.apply_ascii ascii,
        spelling.apply_ascii asciiRaw]
  · rfl

theorem upperByte_of_above {byte : UInt8} (above : 0x80 ≤ byte) : upperByte byte = byte := by
  have noLetter : ¬ byte ≤ 0x7A := by
    rw [UInt8.le_iff_toNat_le] at above ⊢
    simp only [UInt8.reduceToNat] at above ⊢
    omega
  simp [upperByte, noLetter]

theorem ascii_of_doctypeName {word : List UInt8} (named : word.map upperByte = doctypeName) :
    ∀ byte ∈ word, byte < 0x80 := by
  intro byte member
  by_contra notAscii
  have inName := List.mem_map_of_mem (f := upperByte) member
  rw [named, upperByte_of_above (UInt8.not_lt.mp notAscii)] at inName
  have asciiName : ∀ byte ∈ doctypeName, byte < 0x80 := Utf8.ascii_of_all (by decide)
  exact notAscii (asciiName byte inName)

theorem doctypeMeaning_apply (content : List UInt8) :
    doctypeMeaning (spelling.apply content) =
      (doctypeMeaning content).map (Token.respell spelling) := by
  have length (word : List UInt8) (named : word.map upperByte = doctypeName) :
      word.length = 7 := by
    rw [← List.length_map upperByte, named]
    decide
  have begins (word : List UInt8) (named : word.map upperByte = doctypeName) :
      (spelling.apply content).take 7 = word ↔ content.take 7 = word := by
    rw [← length word named]
    exact spelling.take_apply_eq_iff (ascii_of_doctypeName named) content
  unfold doctypeMeaning
  by_cases named : (content.take 7).map upperByte = doctypeName
  · have behind : (spelling.apply content).drop 7 = spelling.apply (content.drop 7) := by
      rw [← length _ named]
      exact spelling.drop_apply (ascii_of_doctypeName named) (by rw [length _ named])
    rw [(begins _ named).mpr rfl, behind, spelling.all_apply isBlankByte_above,
      if_neg (not_not.mpr named)]
    split <;> rfl
  · have namedOther : ((spelling.apply content).take 7).map upperByte ≠ doctypeName :=
      fun namedOther => named (by rw [(begins _ namedOther).mp rfl, namedOther])
    rw [if_pos namedOther, if_pos named]
    rfl

/-! ### Reading a token -/

theorem respells_enclosed {σ : Type} {step : σ → UInt8 → Option σ} {state : σ}
    {cause : Malformation} {opening : Nat} {meaning : List UInt8 → Except Malformation Token}
    {bytes : List UInt8}
    (scanned : scan step state (spelling.apply bytes) =
      (scan step state bytes).map fun found =>
        (spelling.apply found.1, spelling.apply found.2))
    (means : ∀ content last closing, content.foldlM step state = some last →
      step last closing = none → meaning (spelling.apply content) =
        (meaning content).map (Token.respell spelling)) :
    Respells spelling (enclosed step state cause opening meaning bytes)
      (enclosed step state cause opening meaning (spelling.apply bytes)) := by
  unfold enclosed
  rw [scanned]
  cases found : scan step state bytes with
  | none => exact ⟨rfl, rfl⟩
  | some parts =>
      obtain ⟨last, closing, -, taken, closes⟩ := scan_closes found
      exact ⟨means parts.1 last closing taken closes, rfl⟩

theorem respells_readTag (bytes : List UInt8) :
    Respells spelling (readTag bytes) (readTag (spelling.apply bytes)) := by
  rw [readTag_eq, readTag_eq]
  exact respells_enclosed spelling
    (Scanner.tracks_tag.scan_apply spelling ⟨rfl, by simp⟩ bytes)
    fun content _ _ _ _ => tagMeaning_apply spelling content

theorem respells_readInstruction (bytes : List UInt8) :
    Respells spelling (readInstruction bytes) (readInstruction (spelling.apply bytes)) := by
  rw [readInstruction_eq, readInstruction_eq]
  exact respells_enclosed spelling (Scanner.tracks_instruction.scan_apply spelling rfl bytes)
    fun _ _ _ => instructionMeaning_apply spelling

theorem respells_readCData (bytes : List UInt8) :
    Respells spelling (readCData bytes) (readCData (spelling.apply bytes)) := by
  rw [readCData_eq, readCData_eq]
  exact respells_enclosed spelling (Scanner.tracks_cdata.scan_apply spelling rfl bytes)
    fun _ _ _ => cdataMeaning_apply spelling

theorem respells_readDoctype (bytes : List UInt8) :
    Respells spelling (readDoctype bytes) (readDoctype (spelling.apply bytes)) := by
  rw [readDoctype_eq, readDoctype_eq]
  exact respells_enclosed spelling (Scanner.tracks_doctype.scan_apply spelling rfl bytes)
    fun content _ _ _ _ => doctypeMeaning_apply spelling content

/-- A comment is told by its first hyphen. -/
theorem respells_readComment (bytes : List UInt8) :
    Respells spelling (readComment (Byte.hyphen :: bytes))
      (readComment (Byte.hyphen :: spelling.apply bytes)) := by
  have applied := spelling.apply_ascii_cons (show Byte.hyphen < 0x80 by decide) bytes
  have hyphen : spelling.apply [Byte.hyphen].reverse = [Byte.hyphen] :=
    spelling.apply_ascii (Utf8.ascii_of_all (by decide))
  have atHyphen : Scanner.comment (1, 0) Byte.hyphen = some (2, 1) := rfl
  rw [readComment_eq, readComment_eq, ← applied]
  apply respells_enclosed spelling _ fun content _ _ _ _ => commentMeaning_apply spelling content
  rw [applied, scan, scan, scanAfter, scanAfter, atHyphen]
  have related : Scanner.CountsAlike (2, 1) (2, 1) := ⟨rfl, Nat.le_refl 2, Or.inl rfl⟩
  have behind := Scanner.tracks_comment.scanAfter_apply spelling related [Byte.hyphen] bytes
  rw [hyphen] at behind
  exact behind

/-- The byte behind `<!` tells what follows, if it is an ASCII character. -/
theorem respells_readExclamation (bytes : List UInt8) :
    Respells spelling (readExclamation bytes) (readExclamation (spelling.apply bytes)) := by
  have unfolded (byte : UInt8) (rest : List UInt8) : readExclamation (byte :: rest) =
      if byte == Byte.openBracket then readCData (byte :: rest)
      else if byte == Byte.hyphen then readComment (byte :: rest)
      else if upperByte byte == 0x44 then readDoctype (byte :: rest)
      else ⟨.error .unknownMarkup, 2, byte :: rest, true⟩ := rfl
  cases bytes with
  | nil => exact ⟨rfl, rfl⟩
  | cons byte rest =>
      obtain ⟨first, later, applied, alike, -⟩ := spelling.exists_apply_cons byte rest
      have cdata : (first == Byte.openBracket) = (byte == Byte.openBracket) :=
        alike (beq_mark_above (by decide))
      have comment : (first == Byte.hyphen) = (byte == Byte.hyphen) :=
        alike (beq_mark_above (by decide))
      have doctype : (upperByte first == 0x44) = (upperByte byte == 0x44) := by
        have noLetter (other : UInt8) (above : 0x80 ≤ other) :
            (upperByte other == 0x44) = false := by
          rw [upperByte_of_above above]
          exact beq_mark_above (by decide) other above
        exact alike noLetter
      rw [applied, unfolded, unfolded, cdata, comment, doctype, ← applied]
      split
      · exact respells_readCData spelling (byte :: rest)
      · split
        · rename_i hyphen
          rw [beq_iff_eq.mp hyphen, spelling.apply_ascii_cons (by decide)]
          exact respells_readComment spelling rest
        · split
          · exact respells_readDoctype spelling (byte :: rest)
          · exact ⟨rfl, rfl⟩

theorem respells_readMarkup (bytes : List UInt8) :
    Respells spelling (readMarkup bytes) (readMarkup (spelling.apply bytes)) := by
  cases bytes with
  | nil => exact ⟨rfl, rfl⟩
  | cons byte rest =>
      obtain ⟨first, later, applied, alike, behind⟩ := spelling.exists_apply_cons byte rest
      have exclamation : (first == Byte.exclamation) = (byte == Byte.exclamation) :=
        alike (beq_mark_above (by decide))
      have question : (first == Byte.question) = (byte == Byte.question) :=
        alike (beq_mark_above (by decide))
      rw [applied, readMarkup, readMarkup, exclamation, question, ← applied]
      split
      · rename_i isExclamation
        rw [(behind (by rw [beq_iff_eq.mp isExclamation]; decide)).2]
        exact respells_readExclamation spelling rest
      · split
        · rename_i isQuestion
          rw [(behind (by rw [beq_iff_eq.mp isQuestion]; decide)).2]
          exact respells_readInstruction spelling rest
        · exact respells_readTag spelling (byte :: rest)

/-- The token that respelled bytes begin with is the token that the bytes begin with. -/
theorem respells_read (bytes : List UInt8) :
    Respells spelling (read bytes) (read (spelling.apply bytes)) := by
  cases bytes with
  | nil => exact respells_readText spelling []
  | cons byte rest =>
      obtain ⟨first, later, applied, alike, behind⟩ := spelling.exists_apply_cons byte rest
      have less : (first == Byte.less) = (byte == Byte.less) :=
        alike (beq_mark_above (by decide))
      have ampersand : (first == Byte.ampersand) = (byte == Byte.ampersand) :=
        alike (beq_mark_above (by decide))
      rw [applied, read, read, less, ampersand, ← applied]
      split
      · rename_i isLess
        rw [(behind (by rw [beq_iff_eq.mp isLess]; decide)).2]
        exact respells_readMarkup spelling rest
      · split
        · rename_i isAmpersand
          rw [(behind (by rw [beq_iff_eq.mp isAmpersand]; decide)).2]
          exact respells_readReference spelling rest
        · exact respells_readText spelling (byte :: rest)

end Lexeme

end XmlExtract
