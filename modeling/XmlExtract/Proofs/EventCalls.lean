import XmlExtract.Proofs.InterruptedReads
import XmlExtract.Proofs.TagSequence
import XmlExtract.Proofs.TokenExtent

/-!
# One event for each call

A tokenizer is asked for one event at a time.  A call makes turns until there is something to
tell: a turn hands out an event that is waiting, or reads a token and goes on if the token
makes no event.  This file runs a tokenizer over what is fetched from a stream, turn by turn, and
says what keeps it from going on forever: a turn that reads takes bytes, at least as many as
events come of it (`Tokenizer.outcome_turn`).  So every call returns, and the calls tell the
replies of the input and come to an end (`Tokenizer.tells_iff_and_ends`).
-/

namespace XmlExtract

/-- A tokenizer between two turns. -/
structure Tokenizer where
  rules : ReadingRules
  trimsText : Bool
  reading : Reading
  /-- The events that have been read and not been told, with their positions. -/
  waiting : List (Nat × Event)
  /-- The offset of the next byte. -/
  offset : Nat
  /-- The rest of the buffer, and what it will be filled with.  An interrupted fetch leaves
  nothing in it. -/
  buffers : List (List UInt8)

/-- What a turn comes to. -/
inductive Turn where
  /-- There is nothing to tell. -/
  | again (next : Tokenizer)
  | tells (reply : Reply) (next : Tokenizer)
  /-- There will be nothing more to tell. -/
  | ends (reply : Reply)

open Delivery (ofReads brought)

namespace Tokenizer

/-- Tell the first event that is waiting. -/
def hand (tokenizer : Tokenizer) : Turn :=
  match tokenizer.waiting with
  | [] => .again tokenizer
  | event :: later => .tells ⟨event.1, .ok event.2, false⟩ { tokenizer with waiting := later }

/-- One turn.  It reads only if nothing is waiting. -/
def turn (tokenizer : Tokenizer) : Turn :=
  match tokenizer.waiting with
  | _ :: _ => tokenizer.hand
  | [] =>
      let skipped := Buffered.skip tokenizer.trimsText tokenizer.buffers
      if Buffered.next? skipped.2 = none then
        .ends ⟨tokenizer.offset, .ok .documentEnd, false⟩
      else
        let lexeme := Buffered.read skipped.2
        let piece := Piece.ofLexeme tokenizer.trimsText none tokenizer.offset skipped.1.length
          lexeme.joined
        match piece.content with
        | .error error => .ends ⟨piece.start, .error error, false⟩
        | .ok none => .ends ⟨piece.start, .ok .documentEnd, false⟩
        | .ok (some token) =>
            match tokenizer.reading.take tokenizer.rules piece token with
            | .error error => .ends ⟨piece.start, .error error, false⟩
            | .ok (events, reading) =>
                hand { tokenizer with
                  reading := reading
                  waiting := events
                  offset := piece.stop
                  buffers := lexeme.rest }

/-- A call makes turns until one answers it. -/
inductive Calls : Tokenizer → Nat → Turn → Prop
  | tells {tokenizer next : Tokenizer} {reply : Reply}
      (turned : tokenizer.turn = .tells reply next) : Calls tokenizer 1 (.tells reply next)
  | ends {tokenizer : Tokenizer} {reply : Reply} (turned : tokenizer.turn = .ends reply) :
      Calls tokenizer 1 (.ends reply)
  | again {tokenizer next : Tokenizer} {turns : Nat} {answer : Turn}
      (turned : tokenizer.turn = .again next) (later : Calls next turns answer) :
      Calls tokenizer (turns + 1) answer

/-- What repeated calls tell, up to the last answer. -/
inductive Tells : Tokenizer → List Reply → Prop
  | last {tokenizer : Tokenizer} {turns : Nat} {reply : Reply}
      (call : Calls tokenizer turns (.ends reply)) : Tells tokenizer [reply]
  | more {tokenizer next : Tokenizer} {turns : Nat} {reply : Reply} {later : List Reply}
      (call : Calls tokenizer turns (.tells reply next)) (others : Tells next later) :
      Tells tokenizer (reply :: later)

/-! ### What is left -/

/-- The number of bytes that have not been read. -/
def bytesLeft (tokenizer : Tokenizer) : Nat := tokenizer.buffers.flatten.length

/-- Every event that may still be told stands for at least one of these. -/
def left (tokenizer : Tokenizer) : Nat := tokenizer.waiting.length + tokenizer.bytesLeft

end Tokenizer

namespace Reading

variable {rules : ReadingRules} {reading after : Reading} {piece : Piece} {token : Token}
  {events : List (Nat × Event)}

/-- Only an empty element makes two events. -/
theorem length_events_of_take (taken : reading.take rules piece token = .ok (events, after)) :
    events.length ≤ 1 ∨ ∃ content, token = .startTag content true ∧ events.length = 2 := by
  cases takes_of_take taken with
  | text raw text | cdata raw text =>
      unfold textEvent
      split <;> simp
  | emptyElement content => exact .inr ⟨content, rfl, rfl⟩
  | reference | opening | closing | declaration | passedOver => simp

/-- The end of the document is no event of a token. -/
theorem unfinished_of_take (taken : reading.take rules piece token = .ok (events, after)) :
    ∀ event ∈ events, event.2 ≠ .documentEnd := by
  have tagged {event : Event} {tag : Tag} (tags : event.tags = [tag]) : event ≠ .documentEnd := by
    rintro rfl
    contradiction
  cases takes_of_take taken with
  | text raw text | cdata raw text =>
      unfold textEvent
      split <;> simp
  | reference | declaration | passedOver => simp
  | opening content event starts => simpa using tagged (tags_readStart starts)
  | emptyElement content event ending starts ends =>
      simpa using ⟨tagged (tags_readStart starts), tagged (tags_readEnd ends)⟩
  | closing content closed ending closes ends => simpa using tagged (tags_readEnd ends)

end Reading

/-- A token takes at least as many bytes as events come of it. -/
theorem Piece.length_events_add_le {rules : ReadingRules} {reading after : Reading}
    {trim : Bool} {start skipped : Nat} {bytes : List UInt8} {token : Token}
    {events : List (Nat × Event)} (nonempty : bytes ≠ [])
    (content : (ofLexeme trim none start skipped (Lexeme.read bytes)).content =
      .ok (some token))
    (taken : reading.take rules (ofLexeme trim none start skipped (Lexeme.read bytes)) token =
      .ok (events, after)) :
    events.length + (Lexeme.read bytes).rest.length ≤ bytes.length := by
  rcases Reading.length_events_of_take taken with single | ⟨inside, rfl, double⟩
  · have shorter := Lexeme.read_rest_length_lt nonempty
    omega
  · have lexed : (Lexeme.read bytes).token = .ok (.startTag inside true) := by
      rw [content_ofLexeme] at content
      cases found : (Lexeme.read bytes).token with
      | error cause => simp [found] at content
      | ok lexed =>
          simp only [found, Except.ok.injEq, Option.some.injEq] at content
          cases trim <;> cases lexed <;> simp_all [trimToken]
    have whole := congrArg List.length (Lexeme.read_startTag lexed)
    simp only [Lexeme.closingOf, List.length_append, List.length_cons, if_true] at whole
    omega

namespace Tokenizer

variable {tokenizer next : Tokenizer} {reply : Reply}

/-- Everything that a turn can come to if nothing is waiting. -/
inductive Outcome (tokenizer : Tokenizer) : Turn → Prop
  | atEnd (exhausted : (Buffered.skip tokenizer.trimsText tokenizer.buffers).2.flatten = [])
      (position : Nat) : Outcome tokenizer (.ends ⟨position, .ok .documentEnd, false⟩)
  | fails (position : Nat) (error : Error) :
      Outcome tokenizer (.ends ⟨position, .error error, false⟩)
  | reads (next : Tokenizer) (fewer : next.bytesLeft < tokenizer.bytesLeft)
      (spends : next.left ≤ tokenizer.bytesLeft)
      (unfinished : ∀ event ∈ next.waiting, event.2 ≠ .documentEnd) :
      Outcome tokenizer next.hand

theorem outcome_turn (nothing : tokenizer.waiting = []) : Outcome tokenizer tokenizer.turn := by
  unfold turn
  simp only [nothing]
  split
  · rename_i exhausted
    exact .atEnd ((Buffered.next?_eq_none_iff _).mp exhausted) _
  · rename_i more
    have within := Buffered.length_flatten_skip_le tokenizer.trimsText tokenizer.buffers
    have fewer := Buffered.length_flatten_read_lt more
    have joined := Buffered.joined_read (Buffered.skip tokenizer.trimsText tokenizer.buffers).2
    have rest := congrArg Lexeme.rest joined
    have nonempty := mt (Buffered.next?_eq_none_iff _).mpr more
    generalize Buffered.skip tokenizer.trimsText tokenizer.buffers = skipped at *
    rw [joined]
    split
    · exact .fails _ _
    · rename_i content
      rw [Piece.content_ofLexeme] at content
      split at content <;> simp at content
    · rename_i token content
      split
      · exact .fails _ _
      · rename_i events reading taken
        have spent := Piece.length_events_add_le nonempty content taken
        rw [← rest] at spent
        refine .reads _ ?_ ?_ (Reading.unfinished_of_take taken)
        · exact Nat.lt_of_lt_of_le fewer within
        · exact Nat.le_trans spent within

/-- A turn that goes on has taken bytes, and nothing is waiting behind it. -/
theorem of_turn_again (again : tokenizer.turn = .again next) :
    tokenizer.waiting = [] ∧ next.waiting = [] ∧ next.bytesLeft < tokenizer.bytesLeft := by
  cases waits : tokenizer.waiting with
  | cons event later => simp [turn, hand, waits] at again
  | nil =>
      have outcome := outcome_turn waits
      rw [again] at outcome
      generalize answer : Turn.again next = turned at outcome
      cases outcome with
      | atEnd | fails => contradiction
      | reads read fewer spends unfinished =>
          cases waitsNext : read.waiting with
          | nil =>
              simp only [hand, waitsNext, Turn.again.injEq] at answer
              subst answer
              exact ⟨rfl, waitsNext, fewer⟩
          | cons event later => simp [hand, waitsNext] at answer

theorem left_lt_of_again (again : tokenizer.turn = .again next) : next.left < tokenizer.left := by
  obtain ⟨-, nothing, fewer⟩ := of_turn_again again
  simp only [left, nothing, List.length_nil]
  omega

/-- An event that is told is paid for. -/
theorem left_lt_of_hand (told : tokenizer.hand = .tells reply next) :
    next.left < tokenizer.left := by
  cases waits : tokenizer.waiting with
  | nil => simp [hand, waits] at told
  | cons event later =>
      simp only [hand, waits, Turn.tells.injEq] at told
      obtain ⟨-, rfl⟩ := told
      simp [left, bytesLeft, waits]

theorem left_lt_of_tells (told : tokenizer.turn = .tells reply next) :
    next.left < tokenizer.left := by
  cases waits : tokenizer.waiting with
  | cons event later =>
      have handed : tokenizer.hand = .tells reply next := by
        rw [← told, turn, waits]
      exact left_lt_of_hand handed
  | nil =>
      have outcome := outcome_turn waits
      rw [told] at outcome
      generalize answer : Turn.tells reply next = turned at outcome
      cases outcome with
      | atEnd | fails => contradiction
      | reads read fewer spends unfinished =>
          have spent := left_lt_of_hand answer.symm
          simp only [left, waits, List.length_nil] at spends spent ⊢
          omega

/-! ### Calls return -/

/-- Every call returns, after no more turns than there are bytes left, and one. -/
theorem exists_calls (tokenizer : Tokenizer) :
    ∃ turns answer, tokenizer.Calls turns answer ∧ turns ≤ tokenizer.bytesLeft + 1 := by
  induction bytes : tokenizer.bytesLeft using Nat.strong_induction_on generalizing tokenizer with
  | _ count ih =>
      cases turned : tokenizer.turn with
      | again next =>
          have fewer := (of_turn_again turned).2.2
          obtain ⟨turns, answer, call, within⟩ := ih _ (bytes ▸ fewer) next rfl
          exact ⟨turns + 1, answer, .again turned call, by omega⟩
      | tells reply next => exact ⟨1, _, .tells turned, by omega⟩
      | ends reply => exact ⟨1, _, .ends turned, by omega⟩

theorem Calls.left_lt {turns : Nat} (call : tokenizer.Calls turns (.tells reply next)) :
    next.left < tokenizer.left := by
  generalize answered : Turn.tells reply next = answer at call
  induction call with
  | tells turned =>
      obtain ⟨rfl, rfl⟩ := Turn.tells.inj answered
      exact left_lt_of_tells turned
  | ends turned => contradiction
  | again turned later ih => exact Nat.lt_trans (ih answered) (left_lt_of_again turned)

/-- There is only one answer to a call. -/
theorem Calls.unique {turns others : Nat} {answer other : Turn}
    (call : tokenizer.Calls turns answer) (again : tokenizer.Calls others other) :
    answer = other := by
  induction call generalizing others with
  | tells turned | ends turned => cases again <;> simp_all
  | again turned later ih =>
      cases again with
      | tells turnedOther | ends turnedOther => simp_all
      | again turnedOther laterOther =>
          rw [turned, Turn.again.injEq] at turnedOther
          subst turnedOther
          exact ih laterOther

theorem Tells.unique {told other : List Reply} (tells : tokenizer.Tells told)
    (again : tokenizer.Tells other) : told = other := by
  induction tells generalizing other with
  | last call =>
      cases again with
      | last callOther => rw [Turn.ends.inj (call.unique callOther)]
      | more callOther laterOther => have same := call.unique callOther; contradiction
  | more call later ih =>
      cases again with
      | last callOther => have same := call.unique callOther; contradiction
      | more callOther laterOther =>
          obtain ⟨rfl, rfl⟩ := Turn.tells.inj (call.unique callOther)
          rw [ih laterOther]

theorem Tells.length_le {told : List Reply} (tells : tokenizer.Tells told) :
    told.length ≤ tokenizer.left + 1 := by
  induction tells with
  | last call => simp
  | more call later ih =>
      have spent := call.left_lt
      rw [List.length_cons]
      omega

/-! ### What calls tell -/

/-- The replies that are to be told: what is waiting, and what the buffers hold. -/
def remaining (tokenizer : Tokenizer) : List Reply :=
  (tokenizer.waiting.map fun event => ⟨event.1, .ok event.2, false⟩) ++
    Reading.replies tokenizer.rules (Input.ofBytes []) tokenizer.reading
      (Buffered.pieces tokenizer.trimsText tokenizer.offset tokenizer.buffers)

end Tokenizer

/-- The replies that are to be told after a turn, its own included. -/
def Turn.remaining : Turn → List Reply
  | .again next => next.remaining
  | .tells reply next => reply :: next.remaining
  | .ends reply => [reply]

/-- Whether nothing follows a reply: it tells the end of the document, or a failure. -/
def Reply.isLast (reply : Reply) : Bool :=
  match reply.answer with
  | .ok event => event = .documentEnd
  | .error _ => true

namespace Tokenizer

variable {tokenizer next : Tokenizer} {reply : Reply}

theorem remaining_hand (tokenizer : Tokenizer) :
    tokenizer.hand.remaining = tokenizer.remaining := by
  cases waits : tokenizer.waiting with
  | nil => rw [hand, waits, Turn.remaining]
  | cons event later =>
      rw [hand, waits, Turn.remaining, remaining, remaining, waits, List.map_cons,
        List.cons_append]

/-- A turn tells what was to be told, and keeps the rest. -/
theorem remaining_turn (tokenizer : Tokenizer) :
    tokenizer.turn.remaining = tokenizer.remaining := by
  have unasked (reach : Nat) : (Input.ofBytes []).stopRaisedBy reach = false := rfl
  cases waits : tokenizer.waiting with
  | cons event later =>
      have handed : tokenizer.turn = tokenizer.hand := by
        rw [turn, waits]
      rw [handed]
      exact remaining_hand tokenizer
  | nil =>
      unfold turn remaining
      rw [Buffered.pieces]
      simp only [waits, List.map_nil, List.nil_append]
      split
      · rfl
      · generalize Piece.ofLexeme tokenizer.trimsText none tokenizer.offset _ _ = piece
        cases content : piece.content with
        | error error => simp only [Reading.replies, content, unasked, Turn.remaining]
        | ok found =>
            cases found with
            | none => simp only [Reading.replies, content, unasked, Turn.remaining]
            | some token =>
                simp only [Reading.replies, content, unasked]
                cases taken : tokenizer.reading.take tokenizer.rules piece token with
                | error error => rfl
                | ok answer => exact remaining_hand _

theorem Tells.again {told : List Reply} (turned : tokenizer.turn = .again next)
    (tells : next.Tells told) : tokenizer.Tells told := by
  cases tells with
  | last call => exact .last (.again turned call)
  | more call later => exact .more (.again turned call) later

/-- Calls tell what is to be told. -/
theorem tells_remaining (tokenizer : Tokenizer) : tokenizer.Tells tokenizer.remaining := by
  induction measure : tokenizer.left using Nat.strong_induction_on generalizing tokenizer with
  | _ count ih =>
      have kept := remaining_turn tokenizer
      rw [← kept]
      cases turned : tokenizer.turn with
      | again next =>
          exact .again turned (ih _ (measure ▸ left_lt_of_again turned) next rfl)
      | tells reply next =>
          exact .more (.tells turned) (ih _ (measure ▸ left_lt_of_tells turned) next rfl)
      | ends reply => exact .last (.ends turned)

/-! ### The last answer -/

/-- No event that is waiting is the end of the document. -/
def Unfinished (tokenizer : Tokenizer) : Prop :=
  ∀ event ∈ tokenizer.waiting, event.2 ≠ .documentEnd

end Tokenizer

/-- Whether a turn tells the end of the document, or a failure, exactly if it is the last. -/
def Turn.Closes : Turn → Prop
  | .again next => next.Unfinished
  | .tells reply next => reply.isLast = false ∧ next.Unfinished
  | .ends reply => reply.isLast = true

namespace Tokenizer

variable {tokenizer next : Tokenizer} {reply : Reply}

theorem Unfinished.hand (unfinished : tokenizer.Unfinished) : tokenizer.hand.Closes := by
  cases waits : tokenizer.waiting with
  | nil =>
      rw [Tokenizer.hand, waits]
      exact unfinished
  | cons event later =>
      rw [Unfinished, waits, List.forall_mem_cons] at unfinished
      rw [Tokenizer.hand, waits]
      exact ⟨by simpa [Reply.isLast] using unfinished.1, unfinished.2⟩

theorem Unfinished.turn (unfinished : tokenizer.Unfinished) : tokenizer.turn.Closes := by
  cases waits : tokenizer.waiting with
  | cons event later =>
      have handed : tokenizer.turn = tokenizer.hand := by
        rw [Tokenizer.turn, waits]
      rw [handed]
      exact unfinished.hand
  | nil =>
      have outcome := outcome_turn waits
      generalize tokenizer.turn = turned at outcome
      cases outcome with
      | atEnd | fails => rfl
      | reads next fewer spends unfinishedNext => exact Unfinished.hand unfinishedNext

theorem Calls.closes {turns : Nat} {answer : Turn} (call : tokenizer.Calls turns answer)
    (unfinished : tokenizer.Unfinished) : answer.Closes := by
  induction call with
  | tells turned | ends turned =>
      rw [← turned]
      exact unfinished.turn
  | again turned later ih =>
      have kept := unfinished.turn
      rw [turned] at kept
      exact ih kept

/-- The last reply that calls tell, and no other, is the end of the document or a failure. -/
theorem Tells.closes {told : List Reply} (tells : tokenizer.Tells told)
    (unfinished : tokenizer.Unfinished) :
    ∃ front last, told = front ++ [last] ∧ last.isLast = true ∧
      ∀ reply ∈ front, reply.isLast = false := by
  induction tells with
  | last call => exact ⟨[], _, rfl, call.closes unfinished, List.forall_mem_nil _⟩
  | more call others ih =>
      obtain ⟨notLast, unfinishedNext⟩ := call.closes unfinished
      obtain ⟨front, last, rfl, isLast, others⟩ := ih unfinishedNext
      exact ⟨_ :: front, last, rfl, isLast, List.forall_mem_cons.mpr ⟨notLast, others⟩⟩

/-! ### Streams -/

/-- The tokenizer for what is fetched.  It looks for a byte order mark in the first buffer that
is not empty. -/
def ofFetches (settings : Settings) (knownUtf8 : Bool) (fetches : List (Option (List UInt8))) :
    Tokenizer :=
  let buffers := (fetches.map fun fetch => fetch.getD []).dropWhile List.isEmpty
  let first := buffers.headD []
  let (charset, markLength) := Reading.detect first
  { rules := .ofSettings settings knownUtf8
    trimsText := settings.trimsText
    reading := Reading.start charset
    waiting := [(0, .documentStart)]
    offset := 0
    buffers := first.drop markLength :: buffers.tail }

/-- What is fetched from the reads of a stream into a buffer.  Memory needs none, and what is
read from it is there. -/
def fetched (capacity : Option Nat) (reads : List (Option (List UInt8))) :
    List (Option (List UInt8)) :=
  match capacity with
  | none => reads
  | some capacity => Buffered.fetches capacity reads

theorem flatten_dropWhile_isEmpty (buffers : List (List UInt8)) :
    (buffers.dropWhile List.isEmpty).flatten = buffers.flatten := by
  induction buffers with
  | nil => rfl
  | cons buffer later ih =>
      cases buffer with
      | nil => exact ih
      | cons byte bytes => rfl

theorem flatten_brought (reads : List (Option (List UInt8))) :
    (brought reads).flatten = reads.reduceOption.flatten := by
  rw [brought]
  exact List.flatten_filter_ne_nil

theorem headD_dropWhile_isEmpty (fetches : List (Option (List UInt8))) :
    ((fetches.map fun fetch => fetch.getD []).dropWhile List.isEmpty).headD [] =
      (brought fetches).headD [] := by
  induction fetches with
  | nil => rfl
  | cons fetch later ih =>
      match fetch with
      | none => exact ih
      | some [] =>
          rw [Delivery.brought_empty]
          exact ih
      | some (byte :: bytes) =>
          rw [Delivery.brought_cons]
          rfl

/-- What is to be told of the fetches is told of the input that they make. -/
theorem remaining_ofFetches {fetches : List (Option (List UInt8))} {window : Nat}
    (first : (brought fetches).headD [] = (brought fetches).flatten.take window)
    (settings : Settings) (knownUtf8 : Bool) :
    (ofFetches settings knownUtf8 fetches).remaining =
      Input.replies ⟨(brought fetches).flatten, window, none, none⟩ settings knownUtf8 := by
  have shown := headD_dropWhile_isEmpty fetches
  have joined := flatten_dropWhile_isEmpty (fetches.map fun fetch => fetch.getD [])
  rw [Buffered.flatten_map_getD, ← flatten_brought] at joined
  have marked := Reading.detect_snd_le ((brought fetches).headD [])
  unfold remaining ofFetches Input.replies
  rw [Input.firstBuffer_of_sound, ← first]
  generalize (fetches.map fun fetch => fetch.getD []).dropWhile List.isEmpty = buffers at *
  rw [← shown] at marked ⊢
  simp only
  rw [Buffered.pieces_eq_cutFrom, Buffered.flatten_drop marked, joined,
    List.map_singleton, List.singleton_append]
  congr 1
  apply Reading.replies_congr
  rfl

theorem nil_not_mem_cutUp (capacity : Nat) (chunk : List UInt8) :
    [] ∉ Buffered.cutUp capacity chunk := by
  fun_induction Buffered.cutUp capacity chunk with
  | case1 chunk nothing => exact List.not_mem_nil
  | case2 chunk some ih =>
      rw [not_or] at some
      rw [List.mem_cons, not_or]
      refine ⟨?_, ih⟩
      rw [eq_comm, List.take_eq_nil_iff]
      tauto

/-- The buffers that are filled from the reads of a stream. -/
theorem brought_fetched (capacity : Nat) (reads : List (Option (List UInt8))) :
    brought (fetched (some capacity) reads) = Buffered.fills capacity (brought reads) := by
  rw [brought, fetched, Buffered.reduceOption_fetches, List.filter_eq_self]
  intro buffer member
  obtain ⟨chunk, -, filled⟩ := List.mem_flatMap.mp member
  have whole := nil_not_mem_cutUp capacity chunk
  simp only [ne_eq, decide_eq_true_eq]
  rintro rfl
  exact whole filled

theorem brought_fetched_zero (reads : List (Option (List UInt8))) :
    brought (fetched (some 0) reads) = [] := by
  have nothing (chunk : List UInt8) : Buffered.cutUp 0 chunk = [] := by
    rw [Buffered.cutUp, if_pos (.inl rfl)]
  rw [brought_fetched]
  simp [Buffered.fills, nothing]

/-- A reader sees what is fetched. -/
theorem exists_input (capacity : Option Nat) (reads : List (Option (List UInt8))) :
    ∃ window, (Supply.mk (ofReads reads) capacity).input =
        ⟨(brought (fetched capacity reads)).flatten, window, none, none⟩ ∧
      (brought (fetched capacity reads)).headD [] =
        (brought (fetched capacity reads)).flatten.take window := by
  have joined : Delivery.join (ofReads reads) =
      ⟨(brought reads).flatten, ((brought reads).headD []).length, none, none⟩ := by
    rw [Delivery.join, Delivery.joinAfter_ofReads,
      Delivery.joinAfter_ofChunks (Delivery.nil_not_mem_brought reads)]
  cases capacity with
  | none =>
      refine ⟨((brought reads).headD []).length, joined, ?_⟩
      rw [fetched]
      cases brought reads with
      | nil => rfl
      | cons chunk later => simp
  | some capacity =>
      cases capacity with
      | zero =>
          refine ⟨0, ?_, ?_⟩
          · rw [brought_fetched_zero]
            rfl
          · rw [brought_fetched_zero]
            rfl
      | succ capacity =>
          have room := Nat.succ_pos capacity
          refine ⟨min (capacity + 1) ((brought reads).headD []).length, ?_, ?_⟩
          · rw [brought_fetched, Buffered.flatten_fills room, Supply.input]
            simp only [joined]
          · rw [brought_fetched, Buffered.flatten_fills room,
              Buffered.headD_fills (Delivery.nil_not_mem_brought reads) room]

theorem length_brought_fetched_le (capacity : Option Nat)
    (reads : List (Option (List UInt8))) :
    (brought (fetched capacity reads)).flatten.length ≤ reads.reduceOption.flatten.length := by
  rw [← flatten_brought reads]
  cases capacity with
  | none => exact Nat.le_refl _
  | some capacity =>
      cases capacity with
      | zero =>
          rw [brought_fetched_zero]
          exact Nat.zero_le _
      | succ capacity =>
          rw [brought_fetched, Buffered.flatten_fills (Nat.succ_pos capacity)]

theorem left_ofFetches_le (settings : Settings) (knownUtf8 : Bool)
    (fetches : List (Option (List UInt8))) :
    (ofFetches settings knownUtf8 fetches).left ≤ (brought fetches).flatten.length + 1 := by
  have joined := flatten_dropWhile_isEmpty (fetches.map fun fetch => fetch.getD [])
  rw [Buffered.flatten_map_getD, ← flatten_brought] at joined
  have marked := Reading.detect_snd_le
    (((fetches.map fun fetch => fetch.getD []).dropWhile List.isEmpty).headD [])
  have dropped := congrArg List.length (Buffered.flatten_drop marked)
  rw [joined, List.length_drop] at dropped
  simp only [left, bytesLeft, ofFetches, List.length_singleton, dropped]
  omega

/-- Reading always ends.  Whatever the reads of a stream bring, however often they are
interrupted, and whatever fits the buffer, the calls tell the replies of the input, of which there
are at most two more than bytes, and the last of these and no other is the end of the document
or a failure.  And whatever a tokenizer has come to, a call returns, after at most one turn more
than there are bytes left: a turn in which nothing is waiting takes bytes, fails, or finds
nothing left to read. -/
theorem tells_iff_and_ends (reads : List (Option (List UInt8))) (capacity : Option Nat)
    (settings : Settings) (knownUtf8 : Bool) :
    let opened := ofFetches settings knownUtf8 (fetched capacity reads)
    let replies := (Supply.mk (ofReads reads) capacity).input.replies settings knownUtf8
    (∀ told, opened.Tells told ↔ told = replies) ∧
    replies.length ≤ reads.reduceOption.flatten.length + 2 ∧
    (∃ front last, replies = front ++ [last] ∧ last.isLast = true ∧
      ∀ reply ∈ front, reply.isLast = false) ∧
    ∀ tokenizer : Tokenizer,
      (∃ turns answer, tokenizer.Calls turns answer ∧ turns ≤ tokenizer.bytesLeft + 1) ∧
      (tokenizer.waiting = [] →
        match tokenizer.turn with
        | .again next | .tells _ next => next.bytesLeft < tokenizer.bytesLeft
        | .ends reply => (∃ error, reply.answer = .error error) ∨
            reply.answer = .ok .documentEnd ∧
              (Buffered.skip tokenizer.trimsText tokenizer.buffers).2.flatten = []) := by
  intro opened replies
  obtain ⟨window, input, first⟩ := exists_input capacity reads
  have told : opened.Tells replies := by
    have remaining := tells_remaining opened
    rwa [remaining_ofFetches first, ← input] at remaining
  have unfinished : opened.Unfinished := by
    intro event member
    rw [List.mem_singleton.mp member]
    simp
  refine ⟨fun other => ⟨fun tells => tells.unique told, fun same => same ▸ told⟩, ?_,
    told.closes unfinished, fun tokenizer => ⟨exists_calls tokenizer, fun nothing => ?_⟩⟩
  · have short := told.length_le
    have bytes : opened.left ≤ _ := left_ofFetches_le settings knownUtf8 (fetched capacity reads)
    have within := length_brought_fetched_le capacity reads
    omega
  · have outcome := outcome_turn nothing
    generalize tokenizer.turn = turned at outcome
    cases outcome with
    | atEnd exhausted position => exact .inr ⟨rfl, exhausted⟩
    | fails position error => exact .inl ⟨error, rfl⟩
    | reads next fewer spends unfinishedNext =>
        cases waits : next.waiting with
        | nil =>
            rw [hand, waits]
            exact fewer
        | cons event later =>
            rw [hand, waits]
            exact fewer

/-- `<!--x--><a/>` is read in two parts, with an interruption between them.  The comment costs a
turn that tells nothing, and the empty element is told in two calls. -/
theorem tells_iff_and_ends_interrupted :
    let reads := [some (Utf8.encodeString "<!--x"), none, some (Utf8.encodeString "--><a/>")]
    let opened := ofFetches .standard false (fetched (some 4) reads)
    (∃ replies, opened.Tells replies ∧ replies.map Reply.answer =
        [.ok .documentStart, .ok (.elementStart "a" []), .ok (.elementEnd "a"),
          .ok .documentEnd]) ∧
      ∃ next, Turn.again next = turn { opened with waiting := [] } ∧
        next.bytesLeft < opened.bytesLeft := by
  intro reads opened
  obtain ⟨tells, -, -, turns⟩ := tells_iff_and_ends reads (some 4) .standard false
  refine ⟨⟨_, (tells _).mpr rfl, by decide +kernel⟩, ?_⟩
  have fewer := (turns { opened with waiting := [] }).2 rfl
  have goesOn : (match turn { opened with waiting := [] } with
      | .again _ => true
      | _ => false) = true := by
    decide +kernel
  generalize turn { opened with waiting := [] } = turned at *
  cases turned with
  | again next => exact ⟨next, rfl, fewer⟩
  | tells reply next => contradiction
  | ends reply => contradiction

end Tokenizer

end XmlExtract
