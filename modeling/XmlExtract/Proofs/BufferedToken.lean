import XmlExtract.Markup.Token
import XmlExtract.Proofs.SpelledScan

/-!
# Tokens from buffers

A reader of a stream holds one buffer at a time.  When a buffer is used up in the middle
of a construct, the reader keeps what it has taken and the state of its scanner, fetches
the next buffer, and goes on.  This file says how a token is read in this way, from a list
of buffers of which the first is the one that the reader holds, and shows that the cuts
between the buffers cannot be seen: the token is that of the joined bytes, and what is left
of the buffers joins to what is left of the bytes (`joined_read`).

All constructs that a scanner ends are read by one function (`enclosed`); they differ in the
scanner, in the cause of failure, and in what their content means.
-/

namespace XmlExtract

/-! ### Constructs with an end -/

namespace Lexeme

/-- Read a construct that a scanner ends, after its opening.  The content tells the token. -/
def enclosed {σ : Type} (step : σ → UInt8 → Option σ) (state : σ) (cause : Malformation)
    (opening : Nat) (meaning : List UInt8 → Except Malformation Token) (bytes : List UInt8) :
    Lexeme :=
  match scan step state bytes with
  | none => cutShort cause (bytes.length + opening)
  | some (content, rest) => ⟨meaning content, content.length + opening + 1, rest, false⟩

def tagMeaning : List UInt8 → Except Malformation Token
  | [] => .ok (ofStartTag [])
  | byte :: name =>
      .ok (if byte == Byte.slash then .endTag name else ofStartTag (byte :: name))

def instructionMeaning : List UInt8 → Except Malformation Token
  | [] => .error .unclosedInstruction
  | byte :: content => .ok (ofInstruction (byte :: content).dropLast)

def commentMeaning (content : List UInt8) : Except Malformation Token :=
  if content.take 2 = [Byte.hyphen, Byte.hyphen] then .ok .passedOver
  else .error .unclosedComment

def cdataMeaning (content : List UInt8) : Except Malformation Token :=
  if content.take 7 = cdataOpening then .ok (.cdata ((content.drop 7).dropLast.dropLast))
  else .error .unclosedCData

def doctypeMeaning (content : List UInt8) : Except Malformation Token :=
  if (content.take 7).map upperByte ≠ doctypeName then .error .unclosedDoctype
  else if (content.drop 7).all isBlankByte then .error .unnamedDoctype
  else .ok .passedOver

theorem readTag_eq (bytes : List UInt8) :
    readTag bytes = enclosed Scanner.tag none .unclosedTag 1 tagMeaning bytes := by
  unfold readTag enclosed
  cases scan Scanner.tag none bytes with
  | none => rfl
  | some found =>
      obtain ⟨_ | ⟨byte, name⟩, rest⟩ := found
      · rfl
      · simp only [tagMeaning]
        split <;> rfl

theorem readInstruction_eq (bytes : List UInt8) :
    readInstruction bytes =
      enclosed Scanner.instruction true .unclosedInstruction 2 instructionMeaning bytes := by
  unfold readInstruction enclosed
  cases scan Scanner.instruction true bytes with
  | none => rfl
  | some found => obtain ⟨_ | ⟨byte, content⟩, rest⟩ := found <;> rfl

theorem readComment_eq (bytes : List UInt8) :
    readComment bytes =
      enclosed Scanner.comment (1, 0) .unclosedComment 2 commentMeaning bytes := by
  unfold readComment enclosed
  cases scan Scanner.comment (1, 0) bytes with
  | none => rfl
  | some found =>
      simp only [commentMeaning]
      split <;> rfl

theorem readCData_eq (bytes : List UInt8) :
    readCData bytes = enclosed Scanner.cdata 0 .unclosedCData 2 cdataMeaning bytes := by
  unfold readCData enclosed
  cases scan Scanner.cdata 0 bytes with
  | none => rfl
  | some found =>
      simp only [cdataMeaning]
      split <;> rfl

theorem readDoctype_eq (bytes : List UInt8) :
    readDoctype bytes = enclosed Scanner.doctype 0 .unclosedDoctype 2 doctypeMeaning bytes := by
  unfold readDoctype enclosed
  cases scan Scanner.doctype 0 bytes with
  | none => rfl
  | some found =>
      simp only [doctypeMeaning]
      split
      · rfl
      · split <;> rfl

end Lexeme

/-! ### Going from buffer to buffer -/

namespace Buffered

variable {σ : Type} {step : σ → UInt8 → Option σ}

/-- The next byte, and the buffers without it. -/
def next? : List (List UInt8) → Option (UInt8 × List (List UInt8))
  | [] => none
  | [] :: later => next? later
  | (byte :: rest) :: later => some (byte, rest :: later)

/-- Take bytes as long as they are accepted. -/
def span (accepts : UInt8 → Bool) : List (List UInt8) → List UInt8 × List (List UInt8)
  | [] => ([], [])
  | buffer :: later =>
      match buffer.dropWhile accepts with
      | [] => (buffer ++ (span accepts later).1, (span accepts later).2)
      | byte :: rest => (buffer.takeWhile accepts, (byte :: rest) :: later)

/-- Run a scanner that has taken `before`, in reverse.  If it does not close in a buffer, it
goes on in the next one in the state to which the buffer has brought it. -/
def scanAfter (step : σ → UInt8 → Option σ) (state : σ) (before : List UInt8) :
    List (List UInt8) → Option (List UInt8 × List (List UInt8))
  | [] => none
  | buffer :: later =>
      match buffer.foldlM step state with
      | some reached => scanAfter step reached (buffer.reverse ++ before) later
      | none =>
          (XmlExtract.scanAfter step state before buffer).map fun found =>
            (found.1, found.2 :: later)

theorem next?_eq_none_iff (buffers : List (List UInt8)) :
    next? buffers = none ↔ buffers.flatten = [] := by
  fun_induction next? buffers with
  | case1 => simp
  | case2 later ih => simpa using ih
  | case3 byte rest later => simp

theorem flatten_of_next? {buffers rest : List (List UInt8)} {byte : UInt8}
    (found : next? buffers = some (byte, rest)) : buffers.flatten = byte :: rest.flatten := by
  fun_induction next? buffers with
  | case1 => contradiction
  | case2 later ih => simpa using ih found
  | case3 first others later =>
      obtain ⟨rfl, rfl⟩ := Prod.mk.inj (Option.some.inj found)
      rfl

theorem span_flatten (accepts : UInt8 → Bool) (buffers : List (List UInt8)) :
    (span accepts buffers).1 = buffers.flatten.takeWhile accepts ∧
      (span accepts buffers).2.flatten = buffers.flatten.dropWhile accepts := by
  induction buffers with
  | nil => exact ⟨rfl, rfl⟩
  | cons buffer later ih =>
      rw [span, List.flatten_cons, List.takeWhile_append, List.dropWhile_append]
      have parts := List.takeWhile_append_dropWhile (p := accepts) (l := buffer)
      cases rest : buffer.dropWhile accepts with
      | nil =>
          rw [rest, List.append_nil] at parts
          simp [parts, ih.1, ih.2]
      | cons byte others =>
          have shorter : (buffer.takeWhile accepts).length ≠ buffer.length := by
            intro same
            have lengths := congrArg List.length parts
            rw [rest, List.length_append, List.length_cons] at lengths
            omega
          simp [shorter]

/-- A scanner that closes in some bytes closes at the same place if more bytes follow. -/
theorem scanAfter_append_of_closes {state : σ} {before bytes : List UInt8}
    (closes : bytes.foldlM step state = none) (more : List UInt8) :
    XmlExtract.scanAfter step state before (bytes ++ more) =
      (XmlExtract.scanAfter step state before bytes).map fun found =>
        (found.1, found.2 ++ more) := by
  induction bytes generalizing state before with
  | nil => simp at closes
  | cons byte rest ih =>
      rw [List.foldlM_cons] at closes
      rw [List.cons_append, XmlExtract.scanAfter, XmlExtract.scanAfter]
      cases next : step state byte with
      | none => rfl
      | some reached =>
          have closesLater : rest.foldlM step reached = none := by
            simpa [next] using closes
          exact ih closesLater

/-- A scanner that carries its state from buffer to buffer finds what it finds in the joined
bytes. -/
theorem scanAfter_flatten (state : σ) (before : List UInt8) (buffers : List (List UInt8)) :
    (scanAfter step state before buffers).map (fun found => (found.1, found.2.flatten)) =
      XmlExtract.scanAfter step state before buffers.flatten := by
  induction buffers generalizing state before with
  | nil => rfl
  | cons buffer later ih =>
      rw [scanAfter, List.flatten_cons]
      cases taken : buffer.foldlM step state with
      | none => simp [scanAfter_append_of_closes taken, Function.comp_def]
      | some reached => rw [XmlExtract.scanAfter_append before taken, ← ih reached]

/-! ### Reading a token -/

/-- What reading one token from buffers comes to. -/
structure Lexeme where
  token : Except Malformation Token
  size : Nat
  /-- The buffers without the bytes that were consumed. -/
  rest : List (List UInt8)
  peeked : Bool
  deriving Repr

namespace Lexeme

/-- The lexeme for a reader that holds all bytes at once. -/
def joined (lexeme : Lexeme) : XmlExtract.Lexeme :=
  ⟨lexeme.token, lexeme.size, lexeme.rest.flatten, lexeme.peeked⟩

/-- A construct that the end of the last buffer cut short. -/
def cutShort (cause : Malformation) (size : Nat) : Lexeme := ⟨.error cause, size, [], true⟩

end Lexeme

open XmlExtract.Lexeme (isTextByte isReferenceByte upperByte tagMeaning instructionMeaning
  commentMeaning cdataMeaning doctypeMeaning)

/-- Read a construct that a scanner ends, after its opening. -/
def enclosed (step : σ → UInt8 → Option σ) (state : σ) (cause : Malformation)
    (opening : Nat) (meaning : List UInt8 → Except Malformation Token)
    (buffers : List (List UInt8)) : Lexeme :=
  match scanAfter step state [] buffers with
  | none => .cutShort cause (buffers.flatten.length + opening)
  | some (content, rest) => ⟨meaning content, content.length + opening + 1, rest, false⟩

/-- Read a run of text. -/
def readText (buffers : List (List UInt8)) : Lexeme :=
  let found := span isTextByte buffers
  ⟨.ok (.text found.1), found.1.length, found.2, true⟩

/-- Read what follows an ampersand. -/
def readReference (buffers : List (List UInt8)) : Lexeme :=
  let found := span isReferenceByte buffers
  match next? found.2 with
  | none => .cutShort .unclosedReference (found.1.length + 1)
  | some (byte, rest) =>
      if byte == Byte.semicolon then
        ⟨.ok (.reference found.1), found.1.length + 2, rest, false⟩
      else
        ⟨.error .unclosedReference, found.1.length + 1, found.2, true⟩

/-- Read what follows `<!`.  The next byte decides what it is. -/
def readExclamation (buffers : List (List UInt8)) : Lexeme :=
  match next? buffers with
  | none => .cutShort .unknownMarkup 2
  | some (byte, _) =>
      if byte == Byte.openBracket then
        enclosed Scanner.cdata 0 .unclosedCData 2 cdataMeaning buffers
      else if byte == Byte.hyphen then
        enclosed Scanner.comment (1, 0) .unclosedComment 2 commentMeaning buffers
      else if upperByte byte == 0x44 then
        enclosed Scanner.doctype 0 .unclosedDoctype 2 doctypeMeaning buffers
      else ⟨.error .unknownMarkup, 2, buffers, true⟩

/-- Read what follows `<`. -/
def readMarkup (buffers : List (List UInt8)) : Lexeme :=
  match next? buffers with
  | none => .cutShort .unclosedTag 1
  | some (byte, rest) =>
      if byte == Byte.exclamation then readExclamation rest
      else if byte == Byte.question then
        enclosed Scanner.instruction true .unclosedInstruction 2 instructionMeaning rest
      else enclosed Scanner.tag none .unclosedTag 1 tagMeaning buffers

/-- Read one token. -/
def read (buffers : List (List UInt8)) : Lexeme :=
  match next? buffers with
  | none => readText []
  | some (byte, rest) =>
      if byte == Byte.less then readMarkup rest
      else if byte == Byte.ampersand then readReference rest
      else readText buffers

/-! ### The cuts cannot be seen -/

theorem joined_enclosed (state : σ) (cause : Malformation) (opening : Nat)
    (meaning : List UInt8 → Except Malformation Token) (buffers : List (List UInt8)) :
    (enclosed step state cause opening meaning buffers).joined =
      XmlExtract.Lexeme.enclosed step state cause opening meaning buffers.flatten := by
  rw [enclosed, XmlExtract.Lexeme.enclosed, scan, ← scanAfter_flatten]
  cases scanAfter step state [] buffers <;> rfl

theorem joined_readText (buffers : List (List UInt8)) :
    (readText buffers).joined = XmlExtract.Lexeme.readText buffers.flatten := by
  obtain ⟨taken, left⟩ := span_flatten isTextByte buffers
  simp only [readText, Lexeme.joined, XmlExtract.Lexeme.readText, taken, left]

theorem joined_readReference (buffers : List (List UInt8)) :
    (readReference buffers).joined = XmlExtract.Lexeme.readReference buffers.flatten := by
  obtain ⟨taken, left⟩ := span_flatten isReferenceByte buffers
  simp only [readReference, XmlExtract.Lexeme.readReference, ← taken, ← left]
  cases found : next? (span isReferenceByte buffers).2 with
  | none =>
      rw [(next?_eq_none_iff _).mp found]
      rfl
  | some next =>
      obtain ⟨byte, rest⟩ := next
      have same := flatten_of_next? found
      rw [same]
      simp only
      split
      · rfl
      · rw [Lexeme.joined, same]

theorem joined_readExclamation (buffers : List (List UInt8)) :
    (readExclamation buffers).joined = XmlExtract.Lexeme.readExclamation buffers.flatten := by
  unfold readExclamation XmlExtract.Lexeme.readExclamation
  rw [XmlExtract.Lexeme.readCData_eq, XmlExtract.Lexeme.readComment_eq,
    XmlExtract.Lexeme.readDoctype_eq, ← joined_enclosed, ← joined_enclosed, ← joined_enclosed]
  cases found : next? buffers with
  | none =>
      rw [(next?_eq_none_iff _).mp found]
      rfl
  | some next =>
      obtain ⟨byte, rest⟩ := next
      rw [flatten_of_next? found, List.head?_cons]
      simp only
      split
      · rfl
      · split
        · rfl
        · split
          · rfl
          · rw [Lexeme.joined, flatten_of_next? found]

theorem joined_readMarkup (buffers : List (List UInt8)) :
    (readMarkup buffers).joined = XmlExtract.Lexeme.readMarkup buffers.flatten := by
  unfold readMarkup XmlExtract.Lexeme.readMarkup
  cases found : next? buffers with
  | none =>
      rw [(next?_eq_none_iff _).mp found]
      rfl
  | some next =>
      obtain ⟨byte, rest⟩ := next
      rw [flatten_of_next? found]
      simp only
      rw [← joined_readExclamation, XmlExtract.Lexeme.readInstruction_eq,
        XmlExtract.Lexeme.readTag_eq, ← flatten_of_next? found, ← joined_enclosed,
        ← joined_enclosed]
      split
      · rfl
      · split <;> rfl

/-- Reading a token from buffers is reading it from the joined bytes. -/
theorem joined_read (buffers : List (List UInt8)) :
    (read buffers).joined = XmlExtract.Lexeme.read buffers.flatten := by
  unfold read XmlExtract.Lexeme.read
  cases found : next? buffers with
  | none =>
      rw [(next?_eq_none_iff _).mp found]
      rfl
  | some next =>
      obtain ⟨byte, rest⟩ := next
      rw [flatten_of_next? found]
      simp only
      rw [← joined_readMarkup, ← joined_readReference, ← flatten_of_next? found,
        ← joined_readText]
      split
      · rfl
      · split <;> rfl

end Buffered

end XmlExtract
