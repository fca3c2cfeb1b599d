import XmlExtract.Proofs.TokenExtent
import XmlExtract.Proofs.TranscodedReading

/-!
# The offsets of events

Every event is told with the offset at which reading it began.  As pieces follow one another
without a gap (`Piece.stop_add_length`), offsets go up along a run and stay within the bytes
(`Reading.positions_replies`), and what a reader blames in an error is the offset of the reply
with it.  If no text is trimmed, and no byte order mark is dropped, the offset of a start points at
the markup: a bracket, and right behind it the name as it is written (`Input.offsets_of_replies`).
-/

namespace XmlExtract

/-! ### Pieces without gaps -/

namespace Piece

/-- A piece stops where what it leaves begins. -/
theorem stop_add_length (trim : Bool) (fault : Option Error) (start : Nat)
    (bytes : List UInt8) :
    let blanks := if trim then bytes.takeWhile isBlankByte else []
    let rest := if trim then bytes.dropWhile isBlankByte else bytes
    let lexeme := Lexeme.read rest
    (ofLexeme trim fault start blanks.length lexeme).stop + lexeme.rest.length =
      start + bytes.length := by
  intro blanks rest lexeme
  have whole : blanks ++ rest = bytes := by
    cases trim with
    | false => rfl
    | true => exact List.takeWhile_append_dropWhile
  obtain ⟨taken, takes⟩ := Lexeme.exists_taken_read rest
  have size := takes.size
  have parts := congrArg List.length takes.joined
  rw [← whole]
  simp only [ofLexeme, List.length_append] at size parts ⊢
  simp only [lexeme]
  omega

theorem start_le_stop (trim : Bool) (fault : Option Error) (start skipped : Nat)
    (lexeme : Lexeme) : start ≤ (ofLexeme trim fault start skipped lexeme).stop := by
  show start ≤ start + skipped + lexeme.size
  omega

theorem start_le_of_mem_cutFrom {trim : Bool} {fault : Option Error} {start : Nat}
    {bytes : List UInt8} {piece : Piece} (member : piece ∈ cutFrom trim fault start bytes) :
    start ≤ piece.start := by
  fun_induction cutFrom trim fault start bytes with
  | case1 start bytes blanks rest atEnd =>
      rw [List.mem_singleton.mp member]
      exact Nat.le_refl _
  | case2 start bytes blanks rest nonempty lexeme first found content ih =>
      rcases List.mem_cons.mp member with rfl | later
      · exact Nat.le_refl _
      · exact Nat.le_trans (start_le_stop ..) (ih later)
  | case3 start bytes blanks rest nonempty lexeme first error content =>
      rw [List.mem_singleton.mp member]
      exact Nat.le_refl _

theorem filter_start_lt_cutFrom (trim : Bool) (fault : Option Error) {start stop : Nat}
    (bytes : List UInt8) (forward : start ≤ stop) :
    (cutFrom trim fault stop bytes).filter (·.start < start) = [] := by
  rw [List.filter_eq_nil_iff]
  intro piece member
  have behind := Nat.le_trans forward (start_le_of_mem_cutFrom member)
  simpa using behind

end Piece

/-- The position that an error blames, if it blames one. -/
def Error.position? : Error → Option Nat
  | malformed position _ | invalid position _ => some position
  | unavailable _ | io _ | badExpression _ _ | cancelled | brokenDown _ => none

namespace Reading

variable {rules : ReadingRules} {reading after : Reading} {piece : Piece} {token : Token}
  {events : List (Nat × Event)}

/-! ### Offsets of replies -/

/-- The events of a token are told where it starts or where it stops, and in this order. -/
theorem positions_take (taken : reading.take rules piece token = .ok (events, after))
    (forward : piece.start ≤ piece.stop) :
    (events.map (·.1)).Pairwise (· ≤ ·) ∧
      ∀ event ∈ events, piece.start ≤ event.1 ∧ event.1 ≤ piece.stop := by
  cases takes_of_take taken with
  | text raw text | cdata raw text =>
      unfold textEvent
      split <;> simp [forward]
  | reference | opening | closing => simp [forward]
  | emptyElement => simp [forward]
  | declaration | passedOver => simp

/-- The replies for some bytes are told at offsets within them, which go up. -/
theorem positions_replies (rules : ReadingRules) (input : Input) (reading : Reading)
    (trim : Bool) (fault : Option Error) (start : Nat) (bytes : List UInt8) :
    let told := replies rules input reading (Piece.cutFrom trim fault start bytes)
    told.Pairwise (fun earlier later => earlier.position ≤ later.position) ∧
      ∀ reply ∈ told, start ≤ reply.position ∧ reply.position ≤ start + bytes.length := by
  fun_induction Piece.cutFrom trim fault start bytes generalizing reading with
  | case1 start bytes blanks rest atEnd =>
      cases fault <;> simp [replies, Piece.atEnd]
  | case2 start bytes blanks rest nonempty lexeme piece found content ih =>
      have forward : piece.start ≤ piece.stop := Piece.start_le_stop ..
      have within : piece.stop + lexeme.rest.length = start + bytes.length :=
        Piece.stop_add_length trim fault start bytes
      have begins : piece.start = start := rfl
      cases found with
      | none =>
          simp only [replies, content, List.pairwise_singleton, List.mem_singleton, forall_eq,
            true_and]
          omega
      | some token =>
          cases taken : reading.take rules piece token with
          | error error =>
              simp only [replies, content, taken, List.pairwise_singleton, List.mem_singleton,
                forall_eq, true_and]
              omega
          | ok answer =>
              obtain ⟨events, after⟩ := answer
              simp only [replies, content, taken]
              obtain ⟨ordered, inside⟩ := positions_take taken forward
              obtain ⟨orderedLater, behind⟩ := ih after
              have insideReplies : ∀ reply ∈ events.map fun event =>
                  (⟨event.1, .ok event.2, input.stopRaisedBy piece.reach⟩ : Reply),
                  piece.start ≤ reply.position ∧ reply.position ≤ piece.stop := by
                rw [List.forall_mem_map]
                exact inside
              constructor
              · rw [List.pairwise_append]
                refine ⟨?_, orderedLater, ?_⟩
                · rw [List.pairwise_map] at ordered ⊢
                  exact ordered
                · intro earlier memberEarlier later memberLater
                  exact Nat.le_trans (insideReplies earlier memberEarlier).2
                    (behind later memberLater).1
              · intro reply member
                rcases List.mem_append.mp member with front | back
                · have bounds := insideReplies reply front
                  omega
                · have bounds := behind reply back
                  omega
  | case3 start bytes blanks rest nonempty lexeme piece error content =>
      have begins : piece.start = start := rfl
      simp only [replies, content, List.pairwise_singleton, List.mem_singleton, forall_eq,
        true_and]
      omega

/-- The replies for what a piece leaves are told behind the start of the piece. -/
theorem start_lt_position (rules : ReadingRules) (input : Input) (reading : Reading) {start : Nat}
    {bytes : List UInt8} (nonempty : bytes ≠ []) :
    let piece := Piece.ofLexeme false none start 0 (Lexeme.read bytes)
    ∀ reply ∈ replies rules input reading
        (Piece.cutFrom false none piece.stop (Lexeme.read bytes).rest),
      start < reply.position := by
  intro piece reply member
  have shorter := Lexeme.read_rest_length_lt nonempty
  have within : piece.stop + (Lexeme.read bytes).rest.length = start + bytes.length :=
    Piece.stop_add_length false none start bytes
  have behind := (positions_replies rules input reading false none piece.stop
    (Lexeme.read bytes).rest).2 reply member
  omega

/-! ### Offsets in errors -/

theorem position_of_bind {α β : Type} {position : Nat} {result : Except Invalidity α}
    {next : α → Except Error β} {error : Error}
    (failed : (blame position result >>= next) = .error error)
    (later : ∀ value, result = .ok value → next value = .error error →
      error.position? = some position) : error.position? = some position := by
  cases first : result with
  | error cause =>
      rw [first] at failed
      rw [← Except.error.inj failed]
      rfl
  | ok value =>
      rw [first] at failed
      exact later value first failed

theorem exists_readEnd_of_readStart {content : List UInt8} {event : Event}
    (starts : reading.readStart rules content = .ok event) :
    ∃ ending, reading.readEnd rules (startName content) = .ok ending := by
  obtain ⟨name, decoded, -⟩ := exists_of_bind_eq_ok starts
  refine ⟨.elementEnd name, ?_⟩
  rw [readEnd, decoded]
  rfl

/-- A token that cannot be taken is blamed where it starts. -/
theorem position_of_take {error : Error} (failed : reading.take rules piece token = .error error) :
    error.position? = some piece.start := by
  cases token with
  | text raw | cdata raw =>
      apply position_of_bind failed
      intro text decoded ended
      contradiction
  | reference name =>
      apply position_of_bind failed
      intro text decoded ended
      split at ended
      · contradiction
      · rw [← Except.error.inj ended]
        rfl
  | startTag content isEmpty =>
      apply position_of_bind failed
      intro event starts ended
      cases isEmpty with
      | true =>
          obtain ⟨ending, ends⟩ := exists_readEnd_of_readStart starts
          rw [if_pos rfl, ends] at ended
          contradiction
      | false => contradiction
  | endTag content =>
      simp only [take] at failed
      split at failed
      · rw [← Except.error.inj failed]
        rfl
      · apply position_of_bind failed
        intro event decoded ended
        contradiction
  | declaration content | passedOver => contradiction

/-- Errors blame the offset of their reply. -/
theorem position_of_error (rules : ReadingRules) (input : Input) (reading : Reading) (trim : Bool)
    (start : Nat) (bytes : List UInt8) :
    ∀ reply ∈ replies rules input reading (Piece.cutFrom trim none start bytes),
      ∀ error, reply.answer = .error error → error.position? = some reply.position := by
  fun_induction Piece.cutFrom trim none start bytes generalizing reading with
  | case1 start bytes blanks rest atEnd =>
      intro reply member error failed
      rw [List.mem_singleton.mp member] at failed
      contradiction
  | case2 start bytes blanks rest nonempty lexeme piece found content ih =>
      intro reply member error failed
      cases found with
      | none =>
          simp only [replies, content, List.mem_singleton] at member
          rw [member] at failed
          contradiction
      | some token =>
          cases taken : reading.take rules piece token with
          | error cause =>
              simp only [replies, content, taken, List.mem_singleton] at member
              rw [member] at failed ⊢
              rw [← Except.error.inj failed]
              exact position_of_take taken
          | ok answer =>
              simp only [replies, content, taken, List.mem_append, List.mem_map] at member
              rcases member with ⟨event, -, rfl⟩ | later
              · contradiction
              · exact ih answer.2 reply later error failed
  | case3 start bytes blanks rest nonempty lexeme piece cause content =>
      intro reply member error failed
      simp only [replies, content, List.mem_singleton] at member
      rw [member] at failed ⊢
      rw [← Except.error.inj failed]
      rw [Piece.content_ofLexeme] at content
      split at content
      · rw [← Except.error.inj content]
        rfl
      · contradiction

end Reading

/-! ### Markup at an offset -/

/-- At this offset an element begins, with the bracket and behind it the name, up to a blank or to
the end of the tag. -/
def Lexeme.OpensAt (bytes : List UInt8) (offset : Nat) (name : List UInt8) : Prop :=
  ∃ first after, bytes.drop offset = Byte.less :: (name ++ first :: after) ∧
    (∀ byte ∈ name, isBlankByte byte = false) ∧
    (isBlankByte first = true ∨ first = Byte.slash ∨ first = Byte.greater)

theorem Lexeme.opensAt_read {bytes : List UInt8} {content : List UInt8} {isEmpty : Bool}
    (found : (read bytes).token = .ok (.startTag content isEmpty)) (before : List UInt8) :
    OpensAt (before ++ bytes) before.length (Reading.startName content) := by
  have opened := read_startTag found
  have unblank : ∀ byte ∈ Reading.startName content, isBlankByte byte = false := by
    intro byte member
    simpa using List.mem_takeWhile_imp member
  have parts : content = Reading.startName content ++ content.dropWhile (!isBlankByte ·) :=
    List.takeWhile_append_dropWhile.symm
  rw [OpensAt, List.drop_left]
  cases behind : content.dropWhile (!isBlankByte ·) with
  | nil =>
      rw [behind, List.append_nil] at parts
      rw [← parts] at unblank ⊢
      cases isEmpty with
      | true =>
          refine ⟨Byte.slash, Byte.greater :: (read bytes).rest, ?_, unblank, .inr (.inl rfl)⟩
          simpa [closingOf] using opened
      | false =>
          refine ⟨Byte.greater, (read bytes).rest, ?_, unblank, .inr (.inr rfl)⟩
          simpa [closingOf] using opened
  | cons first after =>
      have blank : isBlankByte first = true := by
        have head := List.head?_dropWhile_not (!isBlankByte ·) content
        rw [behind] at head
        simpa using head
      refine ⟨first, after ++ closingOf isEmpty ++ (read bytes).rest, ?_, unblank, .inl blank⟩
      have name : content ++ closingOf isEmpty =
          Reading.startName content ++ first :: (after ++ closingOf isEmpty) := by
        rw [← List.cons_append, ← behind, ← List.append_assoc, ← parts]
      rw [name] at opened
      simpa using opened

namespace Reading

variable {rules : ReadingRules} {reading after : Reading} {piece : Piece} {token : Token}
  {events : List (Nat × Event)}

/-- The encoding that is in force when these pieces have been read too: the first declaration
that names a known encoding settles it. -/
def settledBy (reading : Reading) (pieces : List Piece) : Charset :=
  if reading.declared then reading.charset
  else (pieces.filterMap Piece.declaredCharset?).headD reading.charset

theorem settledBy_nil (reading : Reading) : reading.settledBy [] = reading.charset := by
  unfold settledBy
  split <;> rfl

/-- Taking a token settles what its piece declares. -/
theorem settledBy_take (content : piece.content = .ok (some token))
    (taken : reading.take rules piece token = .ok (events, after)) (later : List Piece) :
    after.settledBy later = reading.settledBy (piece :: later) := by
  have declares (nothing : ∀ content, token ≠ .declaration content)
      (charset : after.charset = reading.charset) (declared : after.declared = reading.declared) :
      after.settledBy later = reading.settledBy (piece :: later) := by
    have silent : piece.declaredCharset? = none := by
      rw [Piece.declaredCharset?, content]
      cases token with
      | declaration declaration => exact absurd rfl (nothing declaration)
      | text | reference | startTag | endTag | cdata | passedOver => rfl
    rw [settledBy, settledBy, charset, declared, List.filterMap_cons_none silent]
  cases takes_of_take taken with
  | text | cdata | reference | opening | emptyElement | passedOver =>
      exact declares (by simp) rfl rfl
  | closing content closed ending closes =>
      have kept : after.declared = reading.declared := by
        unfold close at closes
        grind
      exact declares (by simp) (charset_close closes) kept
  | declaration declaration =>
      have told : piece.declaredCharset? = declaredCharset? declaration := by
        rw [Piece.declaredCharset?, content]
      unfold settledBy declare
      cases settled : reading.declared with
      | true => simp [settled]
      | false =>
          cases known : declaredCharset? declaration with
          | none => simp [settled, told, known]
          | some charset => simp [told, known]

/-- A start is told by a start tag, where it begins, with its name decoded. -/
theorem startTag_of_take (taken : reading.take rules piece token = .ok (events, after))
    {position : Nat} {name : String} {attributes : List (String × String)}
    (member : (position, .elementStart name attributes) ∈ events) :
    position = piece.start ∧ ∃ content isEmpty, token = .startTag content isEmpty ∧
      reading.decode rules (startName content) = .ok name := by
  have named {content : List UInt8} {event : Event}
      (starts : reading.readStart rules content = .ok event)
      (same : event = .elementStart name attributes) :
      reading.decode rules (startName content) = .ok name := by
    obtain ⟨decodedName, decoded, named⟩ := exists_of_bind_eq_ok starts
    obtain ⟨found, -, ended⟩ := exists_of_bind_eq_ok named
    split at ended
    · contradiction
    · rw [← Except.ok.inj ended] at same
      rw [decoded, (Event.elementStart.inj same).1]
  cases takes_of_take taken with
  | text raw text | cdata raw text =>
      unfold textEvent at member
      split at member <;> simp at member
  | reference | declaration | passedOver => simp at member
  | opening content event starts =>
      obtain ⟨rfl, same⟩ := Prod.mk.inj (List.mem_singleton.mp member)
      exact ⟨rfl, content, false, rfl, named starts same.symm⟩
  | emptyElement content event ending starts ends =>
      rcases List.mem_cons.mp member with first | second
      · obtain ⟨rfl, same⟩ := Prod.mk.inj first
        exact ⟨rfl, content, true, rfl, named starts same.symm⟩
      · obtain ⟨decoded, -, ended⟩ := exists_of_bind_eq_ok ends
        have isEnd := (Prod.mk.inj (List.mem_singleton.mp second)).2
        rw [← Except.ok.inj ended] at isEnd
        contradiction
  | closing content closed ending closes ends =>
      obtain ⟨decoded, -, ended⟩ := exists_of_bind_eq_ok ends
      have isEnd := (Prod.mk.inj (List.mem_singleton.mp member)).2
      rw [← Except.ok.inj ended] at isEnd
      contradiction

/-- Starts are told where their markup is, and with the name that is written there. -/
theorem opensAt_replies (rules : ReadingRules) (input : Input) (reading : Reading)
    (start : Nat) (before bytes : List UInt8) (measured : before.length = start) :
    let pieces := Piece.cutFrom false none start bytes
    ∀ reply ∈ replies rules input reading pieces, ∀ name attributes,
      reply.answer = .ok (.elementStart name attributes) →
      ∃ raw, Lexeme.OpensAt (before ++ bytes) reply.position raw ∧
        (Reading.start (reading.settledBy (pieces.filter (·.start < reply.position)))).decode
          rules raw = .ok name := by
  fun_induction Piece.cutFrom false none start bytes generalizing reading before with
  | case1 start bytes blanks rest atEnd =>
      intro pieces reply member name attributes answer
      simp only [pieces, replies, Piece.atEnd, List.mem_singleton] at member
      rw [member] at answer
      simp at answer
  | case2 start bytes blanks rest nonempty lexeme piece found content ih =>
      intro pieces reply member name attributes answer
      obtain ⟨token, read, lexed, rfl, -⟩ := Piece.exists_token content
      obtain rfl : token = read := by
        have untrimmed : piece.content = _ := Piece.content_ofLexeme false start _ lexeme
        simpa [lexed, content] using untrimmed.symm
      cases taken : reading.take rules piece token with
      | error error =>
          simp only [pieces, replies, content, taken, List.mem_singleton] at member
          rw [member] at answer
          simp at answer
      | ok made =>
          obtain ⟨events, after⟩ := made
          simp only [pieces, replies, content, taken, List.mem_append, List.mem_map] at member
          rcases member with ⟨event, told, rfl⟩ | later
          · obtain ⟨position, event⟩ := event
            obtain rfl : event = .elementStart name attributes := Except.ok.inj answer
            obtain ⟨here, inside, isEmpty, rfl, decoded⟩ := startTag_of_take taken told
            have startsHere : position = start := here
            simp only [startsHere]
            refine ⟨startName inside, ?_, ?_⟩
            · rw [← measured]
              exact Lexeme.opensAt_read lexed before
            · have noneBefore : pieces.filter (·.start < start) = [] := by
                have later := Piece.filter_start_lt_cutFrom false none lexeme.rest
                  (Piece.start_le_stop false none start blanks.length lexeme)
                exact (List.filter_cons_of_neg (by simp [piece, Piece.ofLexeme])).trans later
              rw [noneBefore, settledBy_nil]
              exact decoded
          · obtain ⟨consumed, takes⟩ := Lexeme.exists_taken_read rest
            have joined : bytes = consumed ++ lexeme.rest := takes.joined
            have stop : (before ++ consumed).length = piece.stop := by
              have size : lexeme.size = 0 + consumed.length := takes.size
              have whole : piece.stop = start + 0 + lexeme.size := rfl
              rw [List.length_append]
              omega
            have progress : piece.start < reply.position :=
              start_lt_position rules input after (by simpa using nonempty) reply later
            have settled : pieces.filter (·.start < reply.position) = piece ::
                (Piece.cutFrom false none piece.stop lexeme.rest).filter
                  (·.start < reply.position) :=
              List.filter_cons_of_pos (by simpa using progress)
            rw [settled, ← settledBy_take content taken, joined, ← List.append_assoc]
            exact ih after (before ++ consumed) stop reply later name attributes answer
  | case3 start bytes blanks rest nonempty lexeme piece cause content =>
      intro pieces reply member name attributes answer
      simp only [pieces, replies, content, List.mem_singleton] at member
      rw [member] at answer
      simp at answer

end Reading

/-! ### Documents in memory -/

/-- The encoding that is in force at an offset of a document: the one that the first declaration
in front of it names, if it is known, and UTF-8 before that. -/
def Query.charsetAt (bytes : List UInt8) (offset : Nat) : Charset :=
  (((Piece.cutFrom false none 0 bytes).filter (·.start < offset)).filterMap
    Piece.declaredCharset?).headD .utf8

namespace Input

/-- The offsets that are told along a run never decrease, and lie within the document.  An error
blames the offset that is told with it.  A start is told at a bracket, and right behind the bracket
stand the bytes that write the name of the element. -/
theorem offsets_of_replies {bytes : List UInt8} (ascii : Layout.detect bytes = .ascii)
    (unmarked : ¬ Reading.utf8Mark <+: bytes) {settings : Settings}
    (untrimmed : settings.trimsText = false) (knownUtf8 : Bool) :
    let replies := (ofBytes bytes).replies settings knownUtf8
    replies.Pairwise (fun earlier later => earlier.position ≤ later.position) ∧
      ∀ reply ∈ replies, reply.position ≤ bytes.length ∧
        match reply.answer with
        | .error error => error.position? = some reply.position
        | .ok (.elementStart name _) => ∃ raw, Lexeme.OpensAt bytes reply.position raw ∧
            (Reading.start (Query.charsetAt bytes reply.position)).decode
              (.ofSettings settings knownUtf8) raw = .ok name
        | .ok _ => True := by
  intro replies
  have whole : replies = ⟨0, .ok .documentStart, false⟩ ::
      Reading.replies (.ofSettings settings knownUtf8) (ofBytes bytes)
        (Reading.start .utf8) (Piece.cutFrom false none 0 bytes) := by
    simp only [replies, Input.replies, ofBytes, firstBuffer_of_sound, List.take_length,
      Reading.detect_of_unmarked ascii unmarked, untrimmed]
    rfl
  rw [whole]
  generalize rulesEq : ReadingRules.ofSettings settings knownUtf8 = rules
  obtain ⟨ordered, inside⟩ := Reading.positions_replies rules (ofBytes bytes)
    (Reading.start .utf8) false none 0 bytes
  refine ⟨List.pairwise_cons.mpr ⟨fun later member => Nat.zero_le _, ordered⟩, ?_⟩
  rw [List.forall_mem_cons]
  refine ⟨⟨Nat.zero_le _, trivial⟩, fun reply member => ⟨?_, ?_⟩⟩
  · have within := (inside reply member).2
    omega
  · cases answer : reply.answer with
    | error error =>
        exact Reading.position_of_error rules _ _ false 0 bytes reply member error answer
    | ok event =>
        cases event with
        | elementStart name attributes =>
            exact Reading.opensAt_replies rules _ _ 0 [] bytes rfl reply member name attributes
              answer
        | documentStart | elementEnd name | text content | documentEnd => trivial

/-- `<?xml encoding='windows-1251'?>x<ж/>`, in which the name takes one byte. -/
theorem offsets_of_replies_declared :
    let bytes := Utf8.encodeString "<?xml encoding='windows-1251'?>x<" ++
      [0xE6, Byte.slash, Byte.greater]
    Layout.detect bytes = .ascii ∧ ¬ Reading.utf8Mark <+: bytes ∧
      Settings.standard.trimsText = false ∧
      ∃ reply ∈ (ofBytes bytes).replies .standard false,
        reply.answer = .ok (.elementStart "ж" []) ∧ reply.position = 32 ∧
          ∃ raw, Lexeme.OpensAt bytes reply.position raw ∧
            (Reading.start (Query.charsetAt bytes reply.position)).decode
              (.ofSettings .standard false) raw = .ok "ж" := by
  intro bytes
  have ascii : Layout.detect bytes = .ascii := by decide
  have unmarked : ¬ Reading.utf8Mark <+: bytes := by decide
  have untrimmed : Settings.standard.trimsText = false := rfl
  obtain ⟨reply, member, answer, here⟩ :
      ∃ reply ∈ (ofBytes bytes).replies .standard false,
        reply.answer = .ok (.elementStart "ж" []) ∧ reply.position = 32 := by
    decide +kernel
  have located := ((offsets_of_replies ascii unmarked untrimmed false).2 reply member).2
  rw [answer] at located
  exact ⟨ascii, unmarked, untrimmed, reply, member, answer, here, located⟩

end Input

end XmlExtract
