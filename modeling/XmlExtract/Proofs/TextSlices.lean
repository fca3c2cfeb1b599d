import Mathlib.Data.List.TakeWhile
import XmlExtract.Markup.Reading
import XmlExtract.Proofs.BufferedToken

/-!
# Slices of a text

Markup is found byte by byte, and what is found is decoded.  Every mark that ends a slice is
an ASCII character, and such a byte stands for itself wherever it stands, so the slices of a
text are texts again (`isText_append_cons_iff`).  This goes for the content of every token
(`Lexeme.readsText_read`, `Piece.hasText_cutFrom`), and for the names and values inside of a
tag (`RawAttribute.isText_readFrom`).
-/

namespace XmlExtract

namespace Utf8

/-! ### Cutting at an ASCII byte -/

/-- Bytes that some characters are written as. -/
def IsText (bytes : List UInt8) : Prop := ∃ characters, encode characters = bytes

theorem isText_nil : IsText [] := ⟨[], rfl⟩

theorem isText_encode (characters : List Char) : IsText (encode characters) := ⟨characters, rfl⟩

theorem IsText.append {front back : List UInt8} (first : IsText front) (second : IsText back) :
    IsText (front ++ back) := by
  obtain ⟨characters, rfl⟩ := first
  obtain ⟨later, rfl⟩ := second
  exact ⟨characters ++ later, encode_append _ _⟩

theorem isText_singleton {byte : UInt8} (ascii : byte < 0x80) : IsText [byte] :=
  ⟨_, encode_ofNat_of_ascii ascii⟩

/-- An ASCII byte is a whole character. -/
theorem encodeChar_of_mem {character : Char} {byte : UInt8} (ascii : byte < 0x80)
    (member : byte ∈ String.utf8EncodeChar character) :
    String.utf8EncodeChar character = [byte] := by
  rcases Nat.lt_or_ge character.toNat 0x80 with small | wide
  · rw [encodeChar_of_ascii small] at member ⊢
    rw [List.mem_singleton.mp member]
  · exact absurd ascii (UInt8.not_lt.mpr (le_of_mem_encodeChar wide member))

theorem isText_of_encode_eq {characters : List Char} {front rest : List UInt8} {byte : UInt8}
    (ascii : byte < 0x80) (written : encode characters = front ++ byte :: rest) :
    IsText front ∧ IsText rest := by
  induction characters generalizing front with
  | nil => simp [encode] at written
  | cons character later ih =>
      rw [encode_cons] at written
      rcases List.append_eq_append_iff.mp written with
        ⟨more, rfl, laterWritten⟩ | ⟨inside, whole, cut⟩
      · obtain ⟨moreText, restText⟩ := ih laterWritten
        exact ⟨(encode_singleton character ▸ isText_encode [character]).append moreText, restText⟩
      · cases inside with
        | nil =>
            rw [List.append_nil] at whole
            exact ⟨whole ▸ encode_singleton character ▸ isText_encode [character],
              (@ih [] cut.symm).2⟩
        | cons mark inside =>
            obtain ⟨rfl, rfl⟩ := List.cons.inj cut
            -- The byte stands in the first character, so it is that character.
            have alone := encodeChar_of_mem ascii (by rw [whole]; simp)
            rw [alone, eq_comm, List.append_eq_singleton_iff] at whole
            rcases whole with ⟨rfl, noneInside⟩ | ⟨-, impossible⟩
            · obtain rfl := (List.cons.inj noneInside).2
              exact ⟨isText_nil, isText_encode later⟩
            · contradiction

/-- A text that is cut out around an ASCII byte leaves two texts. -/
theorem isText_append_cons_iff {front rest : List UInt8} {byte : UInt8} (ascii : byte < 0x80) :
    IsText (front ++ byte :: rest) ↔ IsText front ∧ IsText rest := by
  constructor
  · rintro ⟨characters, written⟩
    exact isText_of_encode_eq ascii written
  · rintro ⟨frontText, restText⟩
    have middle := (isText_singleton ascii).append restText
    exact frontText.append middle

theorem isText_cons_iff {byte : UInt8} {rest : List UInt8} (ascii : byte < 0x80) :
    IsText (byte :: rest) ↔ IsText rest := by
  have split : IsText ([] ++ byte :: rest) ↔ IsText [] ∧ IsText rest :=
    isText_append_cons_iff ascii
  rw [List.nil_append] at split
  rw [split]
  exact ⟨And.right, fun restText => ⟨isText_nil, restText⟩⟩

theorem ascii_of_all {bytes : List UInt8} (all : bytes.all (· < 0x80) = true) :
    ∀ byte ∈ bytes, byte < 0x80 := by
  simpa using all

theorem isText_ascii_append_iff {front rest : List UInt8} (ascii : ∀ byte ∈ front, byte < 0x80) :
    IsText (front ++ rest) ↔ IsText rest := by
  induction front with
  | nil => rfl
  | cons byte later ih =>
      rw [List.forall_mem_cons] at ascii
      rw [List.cons_append, isText_cons_iff ascii.1, ih ascii.2]

theorem isText_of_append_ascii {front back : List UInt8} (ascii : ∀ byte ∈ back, byte < 0x80)
    (text : IsText (front ++ back)) : IsText front := by
  cases back with
  | nil => rwa [List.append_nil] at text
  | cons byte later =>
      rw [List.forall_mem_cons] at ascii
      exact ((isText_append_cons_iff ascii.1).mp text).1

/-! ### Searches -/

/-- A search that only an ASCII byte ends. -/
def StopsAtAscii (accepts : UInt8 → Bool) : Prop := ∀ byte, accepts byte = false → byte < 0x80

variable {accepts : UInt8 → Bool} {bytes : List UInt8}

theorem StopsAtAscii.isText_takeWhile_of_cons (stops : StopsAtAscii accepts)
    (front : List UInt8) {rest : List UInt8} {byte : UInt8} (text : IsText (front ++ bytes))
    (found : bytes.dropWhile accepts = byte :: rest) :
    byte < 0x80 ∧ IsText (front ++ bytes.takeWhile accepts) ∧ IsText rest := by
  have rejected : accepts byte = false := by
    have head := List.head?_dropWhile_not accepts bytes
    rw [found] at head
    simpa using head
  have ascii := stops byte rejected
  rw [← List.takeWhile_append_dropWhile (p := accepts) (l := bytes), found,
    ← List.append_assoc] at text
  exact ⟨ascii, (isText_append_cons_iff ascii).mp text⟩

theorem StopsAtAscii.isText_takeWhile (stops : StopsAtAscii accepts) (text : IsText bytes) :
    IsText (bytes.takeWhile accepts) := by
  cases found : bytes.dropWhile accepts with
  | nil =>
      have parts := List.takeWhile_append_dropWhile (p := accepts) (l := bytes)
      rw [found, List.append_nil] at parts
      rwa [parts]
  | cons byte rest => exact (stops.isText_takeWhile_of_cons [] text found).2.1

theorem StopsAtAscii.isText_dropWhile (stops : StopsAtAscii accepts) (text : IsText bytes) :
    IsText (bytes.dropWhile accepts) := by
  cases found : bytes.dropWhile accepts with
  | nil => exact isText_nil
  | cons byte rest =>
      obtain ⟨ascii, -, restText⟩ := stops.isText_takeWhile_of_cons [] text found
      exact (isText_cons_iff ascii).mpr restText

end Utf8

open Utf8 (IsText StopsAtAscii)

theorem lt_of_isBlankByte {byte : UInt8} (blank : isBlankByte byte = true) : byte < 0x80 := by
  simp only [isBlankByte, Bool.or_eq_true, beq_iff_eq] at blank
  rcases blank with ((rfl | rfl) | rfl) | rfl <;> decide

theorem isText_dropWhile_isBlankByte {bytes : List UInt8} (text : IsText bytes) :
    IsText (bytes.dropWhile isBlankByte) := by
  rw [← List.takeWhile_append_dropWhile (p := isBlankByte) (l := bytes),
    Utf8.isText_ascii_append_iff] at text
  · exact text
  · intro byte member
    exact lt_of_isBlankByte (List.mem_takeWhile_imp member)

theorem Piece.isText_trimEnd {bytes : List UInt8} (text : IsText bytes) :
    IsText (Piece.trimEnd bytes) := by
  have parts := List.takeWhile_append_dropWhile (p := isBlankByte) (l := bytes.reverse)
  rw [← List.reverse_inj, List.reverse_append, List.reverse_reverse] at parts
  rw [← parts] at text
  apply Utf8.isText_of_append_ascii _ text
  intro byte member
  exact lt_of_isBlankByte (List.mem_takeWhile_imp (List.mem_reverse.mp member))

/-! ### Scans -/

theorem scanAfter_closes {σ : Type} {step : σ → UInt8 → Option σ} {state : σ}
    {before bytes content rest : List UInt8}
    (found : scanAfter step state before bytes = some (content, rest)) :
    ∃ taken last closing, content = before.reverse ++ taken ∧ bytes = taken ++ closing :: rest ∧
      taken.foldlM step state = some last ∧ step last closing = none := by
  induction bytes generalizing state before with
  | nil => contradiction
  | cons byte later ih =>
      rw [scanAfter] at found
      cases next : step state byte with
      | none =>
          simp only [next, Option.some.injEq, Prod.mk.injEq] at found
          obtain ⟨rfl, rfl⟩ := found
          exact ⟨[], state, byte, (List.append_nil _).symm, rfl, rfl, next⟩
      | some following =>
          simp only [next] at found
          obtain ⟨taken, last, closing, rfl, rfl, runs, closes⟩ := ih found
          refine ⟨byte :: taken, last, closing, by simp, rfl, ?_, closes⟩
          rw [List.foldlM_cons, next]
          exact runs

/-- What a scan takes brings its scanner to a state in which the next byte closes it. -/
theorem scan_closes {σ : Type} {step : σ → UInt8 → Option σ} {state : σ}
    {bytes content rest : List UInt8} (found : scan step state bytes = some (content, rest)) :
    ∃ last closing, bytes = content ++ closing :: rest ∧
      content.foldlM step state = some last ∧ step last closing = none := by
  obtain ⟨taken, last, closing, rfl, joined, runs, closes⟩ := scanAfter_closes found
  exact ⟨last, closing, joined, runs, closes⟩

namespace Scanner

/-- A scanner that only `>` closes. -/
def ClosesAtGreater {σ : Type} (step : σ → UInt8 → Option σ) : Prop :=
  ∀ state byte, step state byte = none → byte = Byte.greater

theorem tag_closes : ClosesAtGreater tag := by
  intro state byte closes
  unfold tag at closes
  grind

theorem instruction_closes : ClosesAtGreater instruction := by
  intro state byte closes
  unfold instruction at closes
  grind

theorem comment_closes : ClosesAtGreater comment := by
  intro state byte closes
  unfold comment at closes
  grind

theorem cdata_closes : ClosesAtGreater cdata := by
  intro state byte closes
  unfold cdata at closes
  grind

theorem doctype_closes : ClosesAtGreater doctype := by
  intro state byte closes
  unfold doctype at closes
  grind

/-- The brackets that the scanner of a CDATA section has counted stand at the end of what it
has taken. -/
theorem cdata_brackets {bytes : List UInt8} {brackets : Nat}
    (taken : bytes.foldlM cdata 0 = some brackets) :
    List.replicate brackets Byte.closeBracket <:+ bytes := by
  induction bytes using List.reverseRecOn generalizing brackets with
  | nil =>
      obtain rfl : 0 = brackets := by simpa using taken
      exact List.suffix_rfl
  | append_singleton before byte ih =>
      rw [List.foldlM_append] at taken
      obtain ⟨counted, takenBefore, step⟩ := Option.bind_eq_some_iff.mp taken
      have next : cdata counted byte = some brackets := by simpa using step
      unfold cdata at next
      split at next
      · contradiction
      · split at next
        · rename_i bracket
          obtain rfl := Option.some.inj next
          rw [beq_iff_eq.mp bracket, List.replicate_succ']
          exact (List.suffix_append_inj_of_length_eq rfl).mpr ⟨ih takenBefore, rfl⟩
        · obtain rfl := Option.some.inj next
          exact List.nil_suffix

theorem cdata_closing {bytes : List UInt8} {brackets : Nat} {closing : UInt8}
    (taken : bytes.foldlM cdata 0 = some brackets) (closes : cdata brackets closing = none) :
    List.replicate 2 Byte.closeBracket <:+ bytes := by
  obtain ⟨more, rfl⟩ : ∃ more, brackets = more + 2 := by
    apply Nat.exists_eq_add_of_le'
    unfold cdata at closes
    grind
  refine List.IsSuffix.trans ⟨List.replicate more Byte.closeBracket, ?_⟩ (cdata_brackets taken)
  rw [List.replicate_append_replicate]

end Scanner

/-! ### Tokens -/

/-- What a reader decodes of a token is a text. -/
def Token.IsText : Token → Prop
  | .text raw | .reference raw | .startTag raw _ | .endTag raw | .cdata raw => Utf8.IsText raw
  | .declaration _ | .passedOver => True

namespace Lexeme

/-- A reader makes a token of texts of these bytes, and leaves a text. -/
def ReadsText (reader : List UInt8 → Lexeme) (bytes : List UInt8) : Prop :=
  ∀ token, (reader bytes).token = .ok token → token.IsText ∧ IsText (reader bytes).rest

theorem stopsAtAscii_isTextByte : StopsAtAscii isTextByte := by
  intro byte stops
  simp only [isTextByte, Bool.and_eq_false_iff, bne_eq_false_iff_eq] at stops
  rcases stops with rfl | rfl <;> decide

theorem stopsAtAscii_isReferenceByte : StopsAtAscii isReferenceByte := by
  intro byte stops
  simp only [isReferenceByte, Bool.and_eq_false_iff, bne_eq_false_iff_eq] at stops
  rcases stops with (rfl | rfl) | rfl <;> decide

variable {bytes : List UInt8}

theorem readsText_readText (text : IsText bytes) : ReadsText readText bytes := by
  intro token read
  obtain rfl := Except.ok.inj read
  exact ⟨stopsAtAscii_isTextByte.isText_takeWhile text,
    stopsAtAscii_isTextByte.isText_dropWhile text⟩

theorem readsText_readReference (text : IsText bytes) : ReadsText readReference bytes := by
  intro token read
  unfold readReference at read ⊢
  cases found : bytes.dropWhile isReferenceByte with
  | nil => simp [found, cutShort] at read
  | cons byte rest =>
      simp only [found] at read ⊢
      split at read
      · rename_i semicolon
        obtain rfl := Except.ok.inj read
        obtain ⟨-, nameText, restText⟩ :=
          stopsAtAscii_isReferenceByte.isText_takeWhile_of_cons [] text found
        rw [if_pos semicolon]
        exact ⟨nameText, restText⟩
      · contradiction

/-- A construct that ends at `>` reads a text, if its meaning makes a token of texts. -/
theorem readsText_enclosed {σ : Type} {step : σ → UInt8 → Option σ} {state : σ}
    {cause : Malformation} {opening : Nat} {meaning : List UInt8 → Except Malformation Token}
    (closesAt : Scanner.ClosesAtGreater step) (text : IsText bytes)
    (means : ∀ content last closing token, IsText content →
      content.foldlM step state = some last → step last closing = none →
      meaning content = .ok token → token.IsText) :
    ReadsText (enclosed step state cause opening meaning) bytes := by
  intro token read
  unfold enclosed at read ⊢
  cases found : scan step state bytes with
  | none => simp [found, cutShort] at read
  | some parts =>
      obtain ⟨content, rest⟩ := parts
      simp only [found] at read ⊢
      obtain ⟨last, closing, rfl, runs, closes⟩ := scan_closes found
      have greater := closesAt last closing closes
      subst greater
      obtain ⟨contentText, restText⟩ := (Utf8.isText_append_cons_iff (by decide)).mp text
      exact ⟨means content last _ token contentText runs closes read, restText⟩

theorem isText_ofStartTag {content : List UInt8} (text : IsText content) :
    (ofStartTag content).IsText := by
  unfold ofStartTag
  split
  · rename_i slash
    obtain ⟨front, rfl⟩ := List.getLast?_eq_some_iff.mp slash
    rw [List.dropLast_concat]
    exact Utf8.isText_of_append_ascii (Utf8.ascii_of_all (by decide)) text
  · exact text

theorem isText_tagMeaning {content : List UInt8} {token : Token} (text : IsText content)
    (means : tagMeaning content = .ok token) : token.IsText := by
  cases content with
  | nil =>
      obtain rfl := Except.ok.inj means
      exact isText_ofStartTag text
  | cons byte name =>
      obtain rfl := Except.ok.inj means
      split
      · rename_i slash
        rw [beq_iff_eq] at slash
        subst slash
        exact (Utf8.isText_cons_iff (by decide)).mp text
      · exact isText_ofStartTag text

theorem isText_commentMeaning {content : List UInt8} {token : Token}
    (means : commentMeaning content = .ok token) : token.IsText := by
  unfold commentMeaning at means
  split at means
  · obtain rfl := Except.ok.inj means
    trivial
  · contradiction

theorem isText_doctypeMeaning {content : List UInt8} {token : Token}
    (means : doctypeMeaning content = .ok token) : token.IsText := by
  unfold doctypeMeaning at means
  split at means
  · contradiction
  · split at means
    · contradiction
    · obtain rfl := Except.ok.inj means
      trivial

theorem isText_ofInstruction (content : List UInt8) : (ofInstruction content).IsText := by
  unfold ofInstruction
  split <;> trivial

theorem isText_instructionMeaning {content : List UInt8} {token : Token}
    (means : instructionMeaning content = .ok token) : token.IsText := by
  cases content with
  | nil => contradiction
  | cons byte later =>
      obtain rfl := Except.ok.inj means
      exact isText_ofInstruction _

/-- The two brackets at the end of a CDATA section are not part of its text. -/
theorem isText_cdataMeaning {content : List UInt8} {token : Token} (text : IsText content)
    {brackets : Nat} {closing : UInt8} (taken : content.foldlM Scanner.cdata 0 = some brackets)
    (closes : Scanner.cdata brackets closing = none) (means : cdataMeaning content = .ok token) :
    token.IsText := by
  unfold cdataMeaning at means
  split at means
  · rename_i opening
    obtain rfl := Except.ok.inj means
    have inner : IsText (content.drop 7) := by
      rw [← List.take_append_drop 7 content, opening] at text
      exact (Utf8.isText_ascii_append_iff (Utf8.ascii_of_all (by decide))).mp text
    obtain ⟨front, rfl⟩ := Scanner.cdata_closing taken closes
    rcases Nat.lt_or_ge front.length 7 with short | long
    · have empty : ((front ++ List.replicate 2 Byte.closeBracket).drop
          7).dropLast.dropLast = [] := by
        apply List.eq_nil_of_length_eq_zero
        simp only [List.length_dropLast, List.length_drop, List.length_append,
          List.length_replicate]
        omega
      rw [empty]
      exact Utf8.isText_nil
    · rw [List.drop_append_of_le_length long] at inner ⊢
      have raw : (front.drop 7 ++ List.replicate 2 Byte.closeBracket).dropLast.dropLast =
          front.drop 7 := by
        simp [List.replicate]
      rw [raw]
      exact Utf8.isText_of_append_ascii (Utf8.ascii_of_all (by decide)) inner
  · contradiction

/-- A reader that hands over to another one reads a text if that one does. -/
theorem ReadsText.handOver {reader other : List UInt8 → Lexeme} {bytes rest : List UInt8}
    (reads : ReadsText other rest) (same : reader bytes = other rest) :
    ReadsText reader bytes := by
  unfold ReadsText
  rw [same]
  exact reads

theorem readsText_readExclamation (text : IsText bytes) : ReadsText readExclamation bytes := by
  match bytes with
  | [] =>
      intro token read
      contradiction
  | byte :: rest =>
      by_cases cdata : byte = Byte.openBracket
      · have reads : ReadsText (enclosed Scanner.cdata 0 .unclosedCData 2 cdataMeaning)
            (byte :: rest) :=
          readsText_enclosed Scanner.cdata_closes text
            fun _ _ _ _ content taken closes => isText_cdataMeaning content taken closes
        apply reads.handOver
        rw [← readCData_eq]
        simp [readExclamation, cdata]
      by_cases comment : byte = Byte.hyphen
      · apply (readsText_enclosed Scanner.comment_closes text
          fun _ _ _ _ _ _ _ => isText_commentMeaning).handOver
        rw [← readComment_eq, comment]
        rfl
      by_cases doctype : upperByte byte = 0x44
      · apply (readsText_enclosed Scanner.doctype_closes text
          fun _ _ _ _ _ _ _ => isText_doctypeMeaning).handOver
        rw [← readDoctype_eq]
        simp [readExclamation, cdata, comment, doctype]
      · intro token read
        simp [readExclamation, cdata, comment, doctype] at read

theorem readsText_readMarkup (text : IsText bytes) : ReadsText readMarkup bytes := by
  match bytes with
  | [] =>
      intro token read
      contradiction
  | byte :: rest =>
      by_cases exclamation : byte = Byte.exclamation
      · subst exclamation
        exact (readsText_readExclamation ((Utf8.isText_cons_iff (by decide)).mp text)).handOver rfl
      by_cases question : byte = Byte.question
      · subst question
        apply (readsText_enclosed Scanner.instruction_closes
          ((Utf8.isText_cons_iff (by decide)).mp text)
          fun _ _ _ _ _ _ _ => isText_instructionMeaning).handOver
        rw [← readInstruction_eq]
        rfl
      · apply (readsText_enclosed Scanner.tag_closes text
          fun _ _ _ _ content _ _ => isText_tagMeaning content).handOver
        rw [← readTag_eq]
        simp [readMarkup, exclamation, question]

/-- A token that is read from a text is made of texts, and what is left is a text. -/
theorem readsText_read (text : IsText bytes) : ReadsText read bytes := by
  match bytes with
  | [] => exact (readsText_readText text).handOver rfl
  | byte :: rest =>
      by_cases less : byte = Byte.less
      · subst less
        exact (readsText_readMarkup ((Utf8.isText_cons_iff (by decide)).mp text)).handOver rfl
      by_cases ampersand : byte = Byte.ampersand
      · subst ampersand
        exact (readsText_readReference ((Utf8.isText_cons_iff (by decide)).mp text)).handOver rfl
      · apply (readsText_readText text).handOver
        simp [read, less, ampersand]

end Lexeme

/-! ### Inside of a tag -/

namespace RawAttribute

theorem stopsAtAscii_isKeyByte : StopsAtAscii isKeyByte := by
  intro byte stops
  simp only [isKeyByte, Bool.and_eq_false_iff, bne_eq_false_iff_eq, Bool.not_eq_false'] at stops
  rcases stops with rfl | blank
  · decide
  · exact lt_of_isBlankByte blank

theorem stopsAtAscii_quote {quote : UInt8}
    (isQuote : quote = Byte.quote ∨ quote = Byte.apostrophe) : StopsAtAscii (· != quote) := by
  intro byte stops
  rw [bne_eq_false_iff_eq] at stops
  rcases isQuote with rfl | rfl <;> rw [stops] <;> decide

/-- The keys and the values that are read from a text are texts. -/
theorem isText_readFrom {unique : Bool} {total : Nat} {earlier : List (List UInt8 × Nat)}
    {bytes : List UInt8} (text : IsText bytes) :
    ∀ raw ∈ (readFrom unique total earlier bytes).1, IsText raw.key ∧ IsText raw.value := by
  fun_induction readFrom unique total earlier bytes with
  | case1 | case2 | case3 | case4 | case5 | case6 | case7 => simp
  | case8 earlier bytes first afterFirst atKey position key equals afterEquals atEquals isEquals
      unseen quote afterQuote atQuote isQuote closing rest atClosing later ih =>
      rw [Bool.not_eq_true, bne_eq_false_iff_eq] at isEquals
      rw [Bool.not_eq_true, Bool.and_eq_false_iff, bne_eq_false_iff_eq, bne_eq_false_iff_eq]
        at isQuote
      have fromKey : IsText (first :: afterFirst) := atKey ▸ isText_dropWhile_isBlankByte text
      obtain ⟨mark, behindKey, keyEnds⟩ :
          ∃ mark behind, afterFirst.dropWhile isKeyByte = mark :: behind := by
        apply List.exists_cons_of_ne_nil
        intro none
        simp [none] at atEquals
      -- A key has its first byte, whatever it is, and ends at an ASCII byte.
      obtain ⟨ascii, keyText, behindText⟩ :=
        stopsAtAscii_isKeyByte.isText_takeWhile_of_cons [first] fromKey keyEnds
      have fromEquals : IsText (equals :: afterEquals) := by
        rw [← atEquals, keyEnds]
        exact isText_dropWhile_isBlankByte ((Utf8.isText_cons_iff ascii).mpr behindText)
      rw [isEquals, Utf8.isText_cons_iff (by decide)] at fromEquals
      have fromQuote : IsText (quote :: afterQuote) :=
        atQuote ▸ isText_dropWhile_isBlankByte fromEquals
      have asciiQuote : quote < 0x80 := by
        rcases isQuote with rfl | rfl <;> decide
      rw [Utf8.isText_cons_iff asciiQuote] at fromQuote
      obtain ⟨-, valueText, restText⟩ :=
        (stopsAtAscii_quote isQuote).isText_takeWhile_of_cons [] fromQuote atClosing
      exact List.forall_mem_cons.mpr ⟨⟨keyText, valueText⟩, ih restText⟩

end RawAttribute

namespace Reading

theorem stopsAtAscii_isNameByte : StopsAtAscii (!isBlankByte ·) := by
  intro byte stops
  rw [Bool.not_eq_false'] at stops
  exact lt_of_isBlankByte stops

variable {content : List UInt8}

theorem isText_startName (text : IsText content) : IsText (startName content) :=
  stopsAtAscii_isNameByte.isText_takeWhile text

theorem isText_endName (text : IsText content) : IsText (endName content) := by
  unfold endName
  split
  · exact text
  · exact Piece.isText_trimEnd text

theorem drop_startName (content : List UInt8) :
    content.drop (startName content).length = content.dropWhile (!isBlankByte ·) := by
  have parts := List.takeWhile_append_dropWhile (p := (!isBlankByte ·)) (l := content)
  conv => lhs; rw [startName]; arg 2; rw [← parts]
  exact List.drop_left

/-- The attributes of a start tag that is a text have texts as keys and values. -/
theorem isText_readAll (text : IsText content) :
    ∀ raw ∈ (RawAttribute.readAll true (startName content).length content).1,
      IsText raw.key ∧ IsText raw.value := by
  apply RawAttribute.isText_readFrom
  rw [drop_startName]
  exact stopsAtAscii_isNameByte.isText_dropWhile text

end Reading

end XmlExtract
