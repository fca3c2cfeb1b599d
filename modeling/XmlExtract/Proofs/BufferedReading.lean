import XmlExtract.Query
import XmlExtract.Proofs.BufferedToken
import XmlExtract.Proofs.FirstBuffer

/-!
# Reading through a buffer

A stream is read buffer by buffer: a chunk fills the buffer as often as it takes, and no
buffer holds bytes of two chunks.  This file runs a query in this way, with every scanner
going on in the next buffer where it was when the last one ended, and shows that it is the
run of the query on the stream (`run_ofChunks`).  The cuts can be seen in nothing but the
first buffer, which tells the layout and shows the byte order mark; a document without
either is read as if it lay in memory (`run_ofChunks_eq_run_bytes`).
-/

namespace XmlExtract

/-! ### Readings of one document -/

namespace Reading

/-- The replies for pieces depend on an input in nothing but when it asks to stop. -/
theorem replies_congr {input other : Input} (same : input.stopAfter = other.stopAfter)
    (rules : ReadingRules) (reading : Reading) (pieces : List Piece) :
    replies rules input reading pieces = replies rules other reading pieces := by
  have raised (reach : Nat) : input.stopRaisedBy reach = other.stopRaisedBy reach := by
    rw [Input.stopRaisedBy, Input.stopRaisedBy, same]
  induction pieces generalizing reading with
  | nil => rfl
  | cons piece later ih => simp only [replies, raised, ih]

theorem isPrefixOf_take_eq_false {mark bytes : List UInt8} (absent : ¬ mark <+: bytes)
    (count : Nat) : mark.isPrefixOf (bytes.take count) = false := by
  rw [Bool.eq_false_iff, Ne, List.isPrefixOf_iff_prefix]
  intro begins
  exact absent (begins.trans (List.take_prefix count bytes))

/-- A document without a byte order mark that is not UTF-16 shows nothing else in its
first bytes. -/
theorem detect_take_of_ascii {bytes : List UInt8} (ascii : Layout.detect bytes = .ascii)
    (unmarked : ¬ [0xEF, 0xBB, 0xBF] <+: bytes) (count : Nat) :
    detect (bytes.take count) = (.utf8, 0) := by
  have absent (mark : List UInt8) (utf16 : ∀ rest, Layout.detect (mark ++ rest) ≠ .ascii) :
      mark.isPrefixOf (bytes.take count) = false := by
    apply isPrefixOf_take_eq_false
    rintro ⟨rest, rfl⟩
    exact utf16 rest ascii
  unfold detect
  rw [absent [0xFE, 0xFF] (by simp [Layout.detect]), absent [0xFF, 0xFE] (by simp [Layout.detect]),
    isPrefixOf_take_eq_false unmarked, absent [0x00, 0x3C, 0x00, 0x3F] (by simp [Layout.detect]),
    absent [0x3C, 0x00, 0x3F, 0x00] (by simp [Layout.detect])]
  rfl

/-- A byte order mark lies in the first buffer. -/
theorem detect_snd_le (buffer : List UInt8) : (detect buffer).2 ≤ buffer.length := by
  unfold detect
  simp only [List.isPrefixOf_iff_prefix]
  split
  · exact List.IsPrefix.length_le ‹_›
  · split
    · exact List.IsPrefix.length_le ‹_›
    · split
      · exact List.IsPrefix.length_le ‹_›
      · split
        · exact Nat.zero_le _
        · split <;> exact Nat.zero_le _

end Reading

namespace Buffered

variable {chunks : List (List UInt8)} {capacity : Nat}

/-! ### Filling the buffer -/

/-- What a chunk fills the buffer with, fill by fill.  Into a buffer without room nothing
is fetched. -/
def cutUp (capacity : Nat) (chunk : List UInt8) : List (List UInt8) :=
  if capacity = 0 ∨ chunk = [] then []
  else chunk.take capacity :: cutUp capacity (chunk.drop capacity)
termination_by chunk.length
decreasing_by
  have holds := List.length_pos_iff.mpr (show chunk ≠ [] by tauto)
  rw [List.length_drop]
  omega

/-- What the chunks of a stream fill the buffer with. -/
def fills (capacity : Nat) (chunks : List (List UInt8)) : List (List UInt8) :=
  chunks.flatMap (cutUp capacity)

theorem flatten_cutUp (room : 0 < capacity) (chunk : List UInt8) :
    (cutUp capacity chunk).flatten = chunk := by
  fun_induction cutUp capacity chunk with
  | case1 chunk nothing =>
      obtain full | empty := nothing
      · omega
      · exact empty.symm
  | case2 chunk some ih => rw [List.flatten_cons, ih, List.take_append_drop]

theorem flatten_fills (room : 0 < capacity) (chunks : List (List UInt8)) :
    (fills capacity chunks).flatten = chunks.flatten := by
  induction chunks with
  | nil => rfl
  | cons chunk later ih =>
      rw [fills, List.flatMap_cons, List.flatten_append, flatten_cutUp room, List.flatten_cons,
        ← ih, fills]

/-- The first buffer ends with the first chunk or when it is full. -/
theorem headD_fills (whole : [] ∉ chunks) (room : 0 < capacity) :
    (fills capacity chunks).headD [] =
      chunks.flatten.take (min capacity (chunks.headD []).length) := by
  match chunks with
  | [] => simp [fills]
  | chunk :: later =>
      have holds : chunk ≠ [] := fun empty => whole (by simp [empty])
      rw [fills, List.flatMap_cons, cutUp, if_neg (by simp [holds]; omega)]
      simp only [List.cons_append, List.headD_cons, List.flatten_cons]
      rw [List.take_append_of_le_length (Nat.min_le_right _ _), ← List.take_take,
        List.take_length]

/-! ### Pieces -/

/-- Skip blanks, if they are to be trimmed. -/
def skip (trim : Bool) (buffers : List (List UInt8)) : List UInt8 × List (List UInt8) :=
  if trim then span isBlankByte buffers else ([], buffers)

theorem skip_flatten (trim : Bool) (buffers : List (List UInt8)) :
    (skip trim buffers).1 =
        (if trim then buffers.flatten.takeWhile isBlankByte else []) ∧
      (skip trim buffers).2.flatten =
        if trim then buffers.flatten.dropWhile isBlankByte else buffers.flatten := by
  cases trim with
  | false => exact ⟨rfl, rfl⟩
  | true => exact span_flatten isBlankByte buffers

theorem length_flatten_skip_le (trim : Bool) (buffers : List (List UInt8)) :
    (skip trim buffers).2.flatten.length ≤ buffers.flatten.length := by
  rw [(skip_flatten trim buffers).2]
  split
  · exact (List.dropWhile_sublist isBlankByte).length_le
  · exact Nat.le_refl _

/-- Reading a token takes at least one byte from the buffers. -/
theorem length_flatten_read_lt {buffers : List (List UInt8)} (more : next? buffers ≠ none) :
    (read buffers).rest.flatten.length < buffers.flatten.length := by
  have taken : (read buffers).rest.flatten = (XmlExtract.Lexeme.read buffers.flatten).rest :=
    congrArg XmlExtract.Lexeme.rest (joined_read buffers)
  rw [taken]
  exact XmlExtract.Lexeme.read_rest_length_lt (mt (next?_eq_none_iff buffers).mpr more)

/-- Cut what the buffers hold into pieces, from offset `start` on. -/
def pieces (trim : Bool) (start : Nat) (buffers : List (List UInt8)) : List Piece :=
  let skipped := skip trim buffers
  if _atEnd : next? skipped.2 = none then
    [Piece.atEnd none start skipped.1.length]
  else
    let lexeme := read skipped.2
    let piece := Piece.ofLexeme trim none start skipped.1.length lexeme.joined
    match piece.content with
    | .ok _ => piece :: pieces trim piece.stop lexeme.rest
    | .error _ => [piece]
termination_by buffers.flatten.length
decreasing_by
  exact Nat.lt_of_lt_of_le (length_flatten_read_lt _atEnd) (length_flatten_skip_le trim buffers)

theorem isEmpty_flatten_iff (buffers : List (List UInt8)) :
    buffers.flatten.isEmpty = true ↔ next? buffers = none := by
  rw [List.isEmpty_iff, next?_eq_none_iff]

/-- One piece of the joined bytes, as the buffers give it. -/
theorem cutFrom_flatten (trim : Bool) (start : Nat) (buffers : List (List UInt8)) :
    Piece.cutFrom trim none start buffers.flatten =
      let skipped := skip trim buffers
      let lexeme := read skipped.2
      let piece := Piece.ofLexeme trim none start skipped.1.length lexeme.joined
      if skipped.2.flatten.isEmpty then
        [Piece.atEnd none start skipped.1.length]
      else
        match piece.content with
        | .ok _ => piece :: Piece.cutFrom trim none piece.stop lexeme.rest.flatten
        | .error _ => [piece] := by
  obtain ⟨blanks, rest⟩ := skip_flatten trim buffers
  rw [Piece.cutFrom]
  simp only [← blanks, ← rest, ← joined_read]
  rfl

/-- The pieces are those of the joined bytes. -/
theorem pieces_eq_cutFrom (trim : Bool) (start : Nat) (buffers : List (List UInt8)) :
    pieces trim start buffers = Piece.cutFrom trim none start buffers.flatten := by
  fun_induction pieces trim start buffers with
  | case1 start buffers skipped atEnd =>
      rw [← isEmpty_flatten_iff] at atEnd
      rw [cutFrom_flatten]
      exact (if_pos atEnd).symm
  | case2 start buffers skipped more lexeme piece token content ih =>
      rw [← isEmpty_flatten_iff] at more
      rw [cutFrom_flatten]
      dsimp only [piece, lexeme, skipped] at more content ih ⊢
      rw [if_neg more, content, ih]
  | case3 start buffers skipped more lexeme piece error content =>
      rw [← isEmpty_flatten_iff] at more
      rw [cutFrom_flatten]
      dsimp only [piece, lexeme, skipped] at more content ⊢
      rw [if_neg more, content]

/-! ### Runs -/

theorem flatten_drop {buffers : List (List UInt8)} {count : Nat}
    (within : count ≤ (buffers.headD []).length) :
    ((buffers.headD []).drop count :: buffers.tail).flatten = buffers.flatten.drop count := by
  match buffers with
  | [] => simp
  | buffer :: later => exact (List.drop_append_of_le_length within).symm

/-- The replies of a reader for buffers.  A byte order mark is looked for in the first one.
Nobody asks to stop while the buffers are fetched. -/
def replies (settings : Settings) (buffers : List (List UInt8)) : List Reply :=
  let first := buffers.headD []
  let (charset, markLength) := Reading.detect first
  ⟨0, .ok .documentStart, false⟩ ::
    Reading.replies (.ofSettings settings false) (Input.ofBytes []) (Reading.start charset)
      (pieces settings.trimsText 0 (first.drop markLength :: buffers.tail))

/-- Run a pattern over buffers.  UTF-16 is fetched to its end and read from memory. -/
def run (pattern : Pattern) (settings : Settings) (stop : StopRequest)
    (buffers : List (List UInt8)) : Run :=
  match Layout.detect (buffers.headD []) with
  | .ascii => (Extraction.start pattern settings).run stop (replies settings buffers)
  | .utf16 order =>
      match Layout.utf16ToUtf8 order buffers.flatten with
      | .error error => ⟨.error error, 0, stop⟩
      | .ok bytes =>
          (Extraction.start pattern settings).run stop
            ((Input.ofBytes bytes).replies settings true)

/-- The replies for buffers are those for the joined bytes, if the first buffer is what the
input shows first. -/
theorem replies_eq {buffers : List (List UInt8)} {window : Nat}
    (first : buffers.headD [] = buffers.flatten.take window) (settings : Settings) :
    replies settings buffers =
      Input.replies ⟨buffers.flatten, window, none, none⟩ settings false := by
  have marked := Reading.detect_snd_le (buffers.headD [])
  unfold replies Input.replies
  rw [Input.firstBuffer_of_sound, ← first]
  simp only
  rw [pieces_eq_cutFrom, flatten_drop marked]
  congr 1
  apply Reading.replies_congr
  rfl

end Buffered

namespace Query

variable {chunks : List (List UInt8)} {query : Query} {world : World}

/-- A run on an input that ends without a failure, and in which nobody asks to stop. -/
theorem run_of_sound {supply : Supply} {bytes : List UInt8} {window : Nat}
    (opened : query.source.supply world query.settings = .ok supply)
    (seen : supply.impatient.input = ⟨bytes, window, none, none⟩) (stop : StopRequest) :
    query.run world stop =
      match Layout.detect (bytes.take window) with
      | .ascii =>
          (Extraction.start query.pattern query.settings).run stop
            (Input.replies ⟨bytes, window, none, none⟩ query.settings false)
      | .utf16 order =>
          match Layout.utf16ToUtf8 order bytes with
          | .error error => ⟨.error error, 0, stop⟩
          | .ok utf8 =>
              (Extraction.start query.pattern query.settings).run stop
                ((Input.ofBytes utf8).replies query.settings true) := by
  have unasked : Document.stopRaised ⟨bytes, window, none, none⟩ = false := by
    unfold Document.stopRaised
    rw [Input.firstBuffer_of_sound]
    simp only
    split <;> rfl
  have same : stop.raiseIf false = stop := by
    rw [StopRequest.raiseIf, Bool.or_false]
  unfold run Document.ofInput
  rw [opened]
  simp only
  rw [seen, unasked, same, Input.firstBuffer_of_sound]
  simp only [bind, Except.bind]
  cases Layout.detect (bytes.take window) with
  | ascii => rfl
  | utf16 order =>
      simp only
      cases Layout.utf16ToUtf8 order bytes <;> rfl

/-- The run of a query on a stream of chunks is the run over what they fill the buffer
with. -/
theorem run_ofChunks (whole : [] ∉ chunks) {settings : Settings}
    (room : 0 < settings.bufferSize) (fits : settings.bufferSize < Source.blockLimit)
    (world : World) (pattern : Pattern) (stop : StopRequest) :
    run world ⟨.stream (Delivery.ofChunks chunks), pattern, settings⟩ stop =
      Buffered.run pattern settings stop (Buffered.fills settings.bufferSize chunks) := by
  have joined := Buffered.flatten_fills room chunks
  have first := Buffered.headD_fills whole room
  have opened : Source.supply world settings (.stream (Delivery.ofChunks chunks)) =
      .ok ⟨Delivery.ofChunks chunks, some settings.bufferSize⟩ := by
    rw [Source.supply, Source.withBuffer, if_pos fits]
  rw [run_of_sound opened (Supply.input_ofChunks whole room), Buffered.run, first,
    Buffered.replies_eq (by rw [joined, first]), joined]

/-- A document without a byte order mark that is not UTF-16 is read alike however much of it
is seen first. -/
theorem replies_of_ascii {bytes : List UInt8} (ascii : Layout.detect bytes = .ascii)
    (unmarked : ¬ [0xEF, 0xBB, 0xBF] <+: bytes) (settings : Settings) (window : Nat) :
    Input.replies ⟨bytes, window, none, none⟩ settings false =
      (Input.ofBytes bytes).replies settings false := by
  unfold Input.replies Input.ofBytes
  simp only [Input.firstBuffer_of_sound, Reading.detect_take_of_ascii ascii unmarked]
  congr 1
  apply Reading.replies_congr
  rfl

/-- The outcome of a query does not depend on how a stream is cut into chunks, nor on the
size of the buffer: it is that for the same bytes in memory.  The run goes from buffer to
buffer, and its scanners carry their states across. -/
theorem run_ofChunks_eq_run_bytes (whole : [] ∉ chunks) {settings : Settings}
    (room : 0 < settings.bufferSize) (fits : settings.bufferSize < Source.blockLimit)
    (ascii : Layout.detect chunks.flatten = .ascii)
    (unmarked : ¬ [0xEF, 0xBB, 0xBF] <+: chunks.flatten)
    (world : World) (pattern : Pattern) (stop : StopRequest) :
    run world ⟨.stream (Delivery.ofChunks chunks), pattern, settings⟩ stop =
        run world ⟨.bytes chunks.flatten, pattern, settings⟩ stop ∧
      Buffered.run pattern settings stop (Buffered.fills settings.bufferSize chunks) =
        run world ⟨.bytes chunks.flatten, pattern, settings⟩ stop := by
  have buffered :
      Buffered.run pattern settings stop (Buffered.fills settings.bufferSize chunks) =
        run world ⟨.bytes chunks.flatten, pattern, settings⟩ stop := by
    have first := Buffered.headD_fills whole room
    have joined := Buffered.flatten_fills room chunks
    rw [run_of_sound rfl (Supply.input_ofBytes _), Buffered.run, first,
      Layout.detect_take_of_ascii ascii, Layout.detect_take_of_ascii ascii,
      Buffered.replies_eq (by rw [joined, first]), joined]
    simp only
    rw [replies_of_ascii ascii unmarked]
    rfl
  exact ⟨(run_ofChunks whole room fits world pattern stop).trans buffered, buffered⟩

/-- `<a><!----->é</a>`, cut inside of the end of the comment and of the letter. -/
def cutInside : List (List UInt8) :=
  [[0x3C, 0x61, 0x3E, 0x3C, 0x21, 0x2D, 0x2D, 0x2D], [0x2D, 0x2D, 0x3E, 0xC3],
    [0xA9, 0x3C, 0x2F, 0x61, 0x3E]]

theorem run_cutInside :
    run World.bare
          ⟨.stream (Delivery.ofChunks cutInside), .root, Settings.standard.withBufferSize 3⟩
          .ignored =
        run World.bare ⟨.bytes cutInside.flatten, .root, Settings.standard.withBufferSize 3⟩
          .ignored ∧
      Buffered.run .root (Settings.standard.withBufferSize 3) .ignored
          (Buffered.fills (Settings.standard.withBufferSize 3).bufferSize cutInside) =
        run World.bare ⟨.bytes cutInside.flatten, .root, Settings.standard.withBufferSize 3⟩
          .ignored :=
  run_ofChunks_eq_run_bytes (by decide) (by decide) (by decide) (by decide) (by decide)
    World.bare .root .ignored

/-- No block of memory is as large as this buffer.  The reader of a stream breaks down, and
the same bytes in memory are read. -/
theorem outcome_hugeBuffer :
    outcome World.bare
        ⟨.stream (Delivery.ofChunks [[0x3C, 0x61, 0x2F, 0x3E]]), .root,
          { Settings.standard with bufferSize := Source.blockLimit }⟩ ≠
      outcome World.bare
        ⟨.bytes [0x3C, 0x61, 0x2F, 0x3E], .root,
          { Settings.standard with bufferSize := Source.blockLimit }⟩ := by
  have stream : outcome World.bare
      ⟨.stream (Delivery.ofChunks [[0x3C, 0x61, 0x2F, 0x3E]]), .root,
        { Settings.standard with bufferSize := Source.blockLimit }⟩ =
      .error (.brokenDown Delivery.breakdownText) := rfl
  have memory : (outcome World.bare
      ⟨.bytes [0x3C, 0x61, 0x2F, 0x3E], .root,
        { Settings.standard with bufferSize := Source.blockLimit }⟩).isOk = true := by
    decide +kernel
  intro same
  rw [← same, stream] at memory
  contradiction

end Query

end XmlExtract
