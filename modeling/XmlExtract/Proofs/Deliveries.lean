import Mathlib.Data.List.Forall2
import XmlExtract.OutcomeStream
import XmlExtract.Proofs.FirstBuffer
import XmlExtract.Proofs.PathGrammar
import XmlExtract.Proofs.StopRequests

/-!
# Ways to deliver an outcome

The outcome of a query can be asked for alone, together with a request to stop that nobody
makes, from a stream, or for many patterns at once over a document that is made ready once.
For bytes in memory all these ways deliver the same (`deliveries_agree`).

Bytes in memory are all there, and nobody asks to stop while they are read, so that a query
over them fails only by the fault of the document (`blamesDocument_of_bytes`).
-/

namespace XmlExtract

/-! ### Failures of a document -/

/-- Whatever these replies fail with is of one kind. -/
def Reply.FailWith (kind : Error → Prop) (replies : List Reply) : Prop :=
  ∀ reply ∈ replies, ∀ error, reply.answer = .error error → kind error

/-- Whether a reader of an input may fail with an error: it blames the document, or it is the
fault of the input. -/
def Input.MayFail (fault : Option Error) (error : Error) : Prop :=
  error.blamesDocument = true ∨ fault = some error

namespace Piece

/-- What a lexeme comes to in an input that ends without a failure. -/
theorem content_ofLexeme (trim : Bool) (start skipped : Nat) (lexeme : Lexeme) :
    (ofLexeme trim none start skipped lexeme).content =
      match lexeme.token with
      | .error cause => .error (.malformed start cause)
      | .ok token => .ok (some (if trim then trimToken token else token)) := by
  unfold ofLexeme
  cases lexeme.asksBeyond <;> cases lexeme.token <;> rfl

theorem mayFail_ofLexeme {trim : Bool} {fault : Option Error} {start skipped : Nat}
    {lexeme : Lexeme} {error : Error}
    (failed : (ofLexeme trim fault start skipped lexeme).content = .error error) :
    Input.MayFail fault error := by
  unfold ofLexeme at failed
  simp only at failed
  split at failed
  · right
    rw [Except.error.inj failed]
  · left
    rw [← Except.error.inj failed]
    rfl
  · contradiction

theorem mayFail_cutFrom {trim : Bool} {fault : Option Error} {start : Nat} {bytes : List UInt8}
    {piece : Piece} {error : Error} (member : piece ∈ cutFrom trim fault start bytes)
    (failed : piece.content = .error error) : Input.MayFail fault error := by
  fun_induction cutFrom trim fault start bytes with
  | case1 start bytes blanks rest atEnd =>
      rw [List.mem_singleton.mp member] at failed
      right
      cases fault with
      | none => simp [Piece.atEnd] at failed
      | some reason => rw [← Except.error.inj failed]
  | case2 start bytes blanks rest more lexeme first token content ih =>
      rcases List.mem_cons.mp member with rfl | inside
      · exact mayFail_ofLexeme failed
      · exact ih inside
  | case3 start bytes blanks rest more lexeme first reason content =>
      rw [List.mem_singleton.mp member] at failed
      exact mayFail_ofLexeme failed

end Piece

namespace Reading

variable {rules : ReadingRules} {reading : Reading} {piece : Piece} {error : Error}

theorem blames_blame {α : Type} {position : Nat} {result : Except Invalidity α}
    (failed : blame position result = .error error) : error.blamesDocument = true := by
  cases result with
  | ok value => simp [blame] at failed
  | error cause =>
      rw [← Except.error.inj failed]
      rfl

theorem blames_bind {α β : Type} {position : Nat} {result : Except Invalidity α}
    {next : α → Except Error β}
    (failed : (blame position result >>= next) = .error error)
    (later : ∀ value, next value = .error error → error.blamesDocument = true) :
    error.blamesDocument = true := by
  cases first : blame position result with
  | error cause =>
      rw [first] at failed
      rw [← Except.error.inj failed]
      exact blames_blame first
  | ok value =>
      rw [first] at failed
      exact later value failed

theorem blames_take {token : Token} (failed : reading.take rules piece token = .error error) :
    error.blamesDocument = true := by
  cases token with
  | text raw | cdata raw =>
      apply blames_bind failed
      intro text ended
      simp at ended
  | reference name =>
      apply blames_bind failed
      intro text ended
      split at ended
      · simp at ended
      · rw [← Except.error.inj ended]
        rfl
  | startTag content isEmpty =>
      apply blames_bind failed
      intro event ended
      cases isEmpty with
      | true =>
          apply blames_bind ended
          intro ending done
          simp at done
      | false => simp at ended
  | endTag content =>
      simp only [take] at failed
      split at failed
      · rw [← Except.error.inj failed]
        rfl
      · apply blames_bind failed
        intro event ended
        simp at ended
  | declaration content => simp [take] at failed
  | passedOver => simp [take] at failed

theorem failWith_replies {kind : Error → Prop} {pieces : List Piece} (rules : ReadingRules)
    (input : Input) (blames : ∀ error, error.blamesDocument = true → kind error)
    (sound : ∀ piece ∈ pieces, ∀ error, piece.content = .error error → kind error)
    (reading : Reading) : Reply.FailWith kind (replies rules input reading pieces) := by
  induction pieces generalizing reading with
  | nil => simp [Reply.FailWith, replies]
  | cons piece later ih =>
      rw [List.forall_mem_cons] at sound
      intro reply member error failed
      unfold replies at member
      cases content : piece.content with
      | error cause =>
          simp only [content, List.mem_singleton] at member
          subst member
          exact sound.1 error (by rw [content, Except.error.inj failed])
      | ok found =>
          cases found with
          | none =>
              simp only [content, List.mem_singleton] at member
              simp [member] at failed
          | some token =>
              simp only [content] at member
              cases taken : reading.take rules piece token with
              | error cause =>
                  simp only [taken, List.mem_singleton] at member
                  subst member
                  exact blames error (blames_take (by rw [taken, Except.error.inj failed]))
              | ok answer =>
                  simp only [taken, List.mem_append, List.mem_map] at member
                  rcases member with ⟨event, -, rfl⟩ | inside
                  · simp at failed
                  · exact ih sound.2 answer.2 reply inside error failed

/-- Nobody asks to stop while an input without requests is read. -/
theorem quiet_replies {input : Input} (unasked : input.stopAfter = none) (rules : ReadingRules)
    (reading : Reading) (pieces : List Piece) :
    ∀ reply ∈ replies rules input reading pieces, reply.stopRaised = false := by
  have quiet (reach : Nat) : input.stopRaisedBy reach = false := by
    rw [Input.stopRaisedBy, unasked]
    rfl
  induction pieces generalizing reading with
  | nil => simp [replies]
  | cons piece later ih =>
      intro reply member
      unfold replies at member
      simp only [quiet] at member
      split at member
      · simp [List.mem_singleton.mp member]
      · simp [List.mem_singleton.mp member]
      · split at member
        · simp [List.mem_singleton.mp member]
        · rcases List.mem_append.mp member with here | inside
          · obtain ⟨event, -, rfl⟩ := List.mem_map.mp here
            rfl
          · exact ih _ reply inside

end Reading

theorem Layout.blames_transcode {layout : Layout} {bytes : List UInt8} {error : Error}
    (failed : layout.transcode bytes = .error error) : error.blamesDocument = true := by
  cases layout with
  | ascii => simp [transcode] at failed
  | utf16 order =>
      simp only [transcode, utf16ToUtf8] at failed
      split at failed
      · rw [← Except.error.inj failed]
        rfl
      · split at failed
        · simp at failed
        · rw [← Except.error.inj failed]
          rfl

/-! ### Bytes in memory -/

theorem Input.failWith_replies (input : Input) (settings : Settings) (knownUtf8 : Bool) :
    Reply.FailWith (MayFail input.fault) (input.replies settings knownUtf8) := by
  intro reply member error failed
  rcases List.mem_cons.mp member with rfl | inside
  · simp at failed
  · apply Reading.failWith_replies _ _ _ _ _ reply inside error failed
    · intro reason blamed
      exact Or.inl blamed
    · intro piece found cause
      exact Piece.mayFail_cutFrom found

theorem Input.quiet_replies (bytes : List UInt8) (settings : Settings) (knownUtf8 : Bool) :
    ∀ reply ∈ (Input.ofBytes bytes).replies settings knownUtf8, reply.stopRaised = false := by
  intro reply member
  rcases List.mem_cons.mp member with rfl | inside
  · rfl
  · exact Reading.quiet_replies rfl _ _ _ reply inside

namespace Extraction

variable {extraction : Extraction} {stop : StopRequest} {replies : List Reply}

/-- A run that heeds no request fails like its replies, or blames the document. -/
theorem failsWith_of_unheeded {kind : Error → Prop} (unheeded : stop.heeded = false)
    (blames : ∀ error, error.blamesDocument = true → kind error)
    (fails : Reply.FailWith kind replies) (position : Nat) {error : Error}
    (failed : (extraction.runFrom stop position replies).outcome = .error error) :
    kind error := by
  induction replies generalizing extraction stop position with
  | nil =>
      have ending := react_documentEnd extraction stop position
      rw [failed] at ending
      rcases of_react_error (not_stops_of_unheeded unheeded) ending with answer | ⟨cause, rfl⟩
      · simp at answer
      · exact blames _ rfl
  | cons reply later ih =>
      obtain ⟨failsHere, failsLater⟩ := List.forall_mem_cons.mp fails
      rw [runFrom_cons (not_stops_of_unheeded unheeded)] at failed
      cases reaction : extraction.react stop reply with
      | inl outcome =>
          simp only [reaction] at failed
          subst failed
          rcases of_react_error (not_stops_of_unheeded unheeded) reaction with answer | ⟨cause, rfl⟩
          · exact failsHere error answer
          · exact blames _ rfl
      | inr next =>
          simp only [reaction, Run.afterPull] at failed
          have unheededLater : (stop.raiseIf reply.stopRaised).heeded = false := unheeded
          exact ih unheededLater failsLater _ failed

end Extraction

namespace Query

variable {world : World} {bytes : List UInt8} {pattern : Pattern} {settings : Settings}

/-- A query over bytes in memory runs over the document that they are made into. -/
theorem run_bytes (world : World) (bytes : List UInt8) (pattern : Pattern)
    (settings : Settings) (stop : StopRequest) :
    run world ⟨.bytes bytes, pattern, settings⟩ stop =
      match Document.ofBytes bytes with
      | .error error => ⟨.error error, 0, stop⟩
      | .ok document => document.run pattern settings stop := by
  have unasked : stop.raiseIf (Document.stopRaised (Input.ofBytes bytes)) = stop := by
    unfold Document.stopRaised Input.ofBytes
    rw [Input.firstBuffer_of_sound]
    simp only
    split <;> simp [StopRequest.raiseIf, Input.stopRaisedBy]
  have ready := Document.ofInput_ofBytes bytes
  cases made : Document.ofBytes bytes with
  | error error =>
      rw [made] at ready
      simp only [run, Source.supply, Supply.input_ofBytes, unasked, ready]
  | ok document =>
      rw [made] at ready
      simp only [run, Source.supply, Supply.input_ofBytes, unasked, ready]

/-- A request that nobody makes changes nothing in a query over bytes in memory. -/
theorem run_bytes_waiting (world : World) (bytes : List UInt8) (pattern : Pattern)
    (settings : Settings) :
    run world ⟨.bytes bytes, pattern, settings⟩ .waiting =
      { run world ⟨.bytes bytes, pattern, settings⟩ .ignored with stop := .waiting } := by
  rw [run_bytes, run_bytes, Document.ofBytes]
  cases (Layout.detect bytes).transcode bytes with
  | error error => rfl
  | ok utf8 => exact Extraction.runFrom_of_quiet (Input.quiet_replies utf8 settings _) true false 0

/-- A run over an input that ends without a failure fails only by the fault of the document. -/
theorem blamesDocument_of_run {input : Input} (sound : input.fault = none) {knownUtf8 : Bool}
    {error : Error} (failed : ((Extraction.start pattern settings).run .ignored
      (input.replies settings knownUtf8)).outcome = .error error) :
    error.blamesDocument = true := by
  have mayFail : Input.MayFail input.fault error :=
    Extraction.failsWith_of_unheeded rfl (fun _ => Or.inl)
      (input.failWith_replies settings knownUtf8) 0 failed
  rw [sound] at mayFail
  exact mayFail.resolve_right (by simp)

/-- A query over bytes in memory fails only by the fault of the document. -/
theorem blamesDocument_of_bytes {error : Error}
    (failed : outcome world ⟨.bytes bytes, pattern, settings⟩ = .error error) :
    error.blamesDocument = true := by
  rw [outcome, run_bytes, Document.ofBytes] at failed
  cases transcoded : (Layout.detect bytes).transcode bytes with
  | error reason =>
      simp only [transcoded, Except.map, Except.error.injEq] at failed
      subst failed
      exact Layout.blames_transcode transcoded
  | ok utf8 =>
      simp only [transcoded, Except.map] at failed
      exact blamesDocument_of_run rfl failed

/-! ### Many patterns at once -/

theorem outcomes_eq (world : World) (bytes : List UInt8) (patterns : List Pattern)
    (settings : Settings) :
    outcomes bytes patterns settings =
      patterns.map fun pattern => outcome world ⟨.bytes bytes, pattern, settings⟩ := by
  unfold outcomes outcome
  simp only [run_bytes]
  cases Document.ofBytes bytes <;> rfl

/-- An expression that is asked alone of bytes in memory has this capture. -/
def Captures (world : World) (bytes : List UInt8) (settings : Settings)
    (expression : String) (capture : Capture) : Prop :=
  ∃ pattern, Pattern.parse expression = .ok pattern ∧
    outcome world ⟨.bytes bytes, pattern, settings⟩ = .ok capture

/-- An expression that is asked alone of bytes in memory fails: it is none, or its query
fails. -/
def Fails (world : World) (bytes : List UInt8) (settings : Settings)
    (expression : String) (error : Error) : Prop :=
  Pattern.parse expression = .error error ∨
    ∃ pattern, Pattern.parse expression = .ok pattern ∧
      outcome world ⟨.bytes bytes, pattern, settings⟩ = .error error

def entry (world : World) (bytes : List UInt8) (settings : Settings)
    (query : String × String) : Except Error (String × Capture) := do
  let pattern ← Pattern.parse query.2
  let capture ← outcome world ⟨.bytes bytes, pattern, settings⟩
  .ok (query.1, capture)

theorem entry_eq_ok_iff (query : String × String) (result : String × Capture) :
    entry world bytes settings query = .ok result ↔
      result.1 = query.1 ∧ Captures world bytes settings query.2 result.2 := by
  obtain ⟨key, capture⟩ := result
  unfold entry Captures
  cases parsed : Pattern.parse query.2 with
  | error error => simp [bind, Except.bind]
  | ok pattern =>
      cases ended : outcome world ⟨.bytes bytes, pattern, settings⟩ with
      | error error => simp [bind, Except.bind, ended]
      | ok found => simp [bind, Except.bind, ended, eq_comm]

theorem entry_eq_error_iff (query : String × String) (error : Error) :
    entry world bytes settings query = .error error ↔
      Fails world bytes settings query.2 error := by
  unfold entry Fails
  cases parsed : Pattern.parse query.2 with
  | error reason => simp [bind, Except.bind]
  | ok pattern =>
      cases ended : outcome world ⟨.bytes bytes, pattern, settings⟩ with
      | error reason => simp [bind, Except.bind, ended]
      | ok found => simp [bind, Except.bind, ended]

theorem table_eq (world : World) (bytes : List UInt8)
    (queries : List (String × String)) (settings : Settings) :
    table bytes queries settings =
      (Layout.detect bytes).transcode bytes >>= fun _ =>
        queries.mapM (entry world bytes settings) := by
  unfold table
  cases transcoded : (Layout.detect bytes).transcode bytes with
  | error error => simp [Document.ofBytes, transcoded, Except.map, bind, Except.bind]
  | ok utf8 =>
      have ready : Document.ofBytes bytes =
          .ok ⟨Input.ofBytes utf8, (Layout.detect bytes).needsTranscoding⟩ := by
        rw [Document.ofBytes, transcoded]
        rfl
      rw [ready]
      simp only [bind, Except.bind]
      congr 1
      funext query
      unfold entry outcome
      simp only [run_bytes, ready]
      rfl

end Query

/-- A fallible function succeeds on a list if it does on each member, in order. -/
theorem mapM_eq_ok_iff {α β ε : Type} (read : α → Except ε β) (sources : List α)
    (results : List β) :
    sources.mapM read = .ok results ↔
      List.Forall₂ (fun source result => read source = .ok result) sources results := by
  induction sources generalizing results with
  | nil => cases results <;> simp [pure, Except.pure]
  | cons source later ih =>
      simp only [mapM_cons_eq_ok_iff, ih, List.forall₂_cons_left_iff, @eq_comm _ results]

theorem exists_of_mapM_eq_error {α β ε : Type} {read : α → Except ε β} {sources : List α}
    {error : ε} (failed : sources.mapM read = .error error) :
    ∃ source ∈ sources, read source = .error error := by
  induction sources with
  | nil => simp [pure, Except.pure] at failed
  | cons source later ih =>
      rw [List.mapM_cons] at failed
      cases first : read source with
      | error reason =>
          have same : reason = error := by
            simpa [first, bind, Except.bind] using failed
          exact ⟨source, List.mem_cons_self, by rw [first, same]⟩
      | ok result =>
          cases others : later.mapM read with
          | error reason =>
              have same : reason = error := by
                simpa [first, others, bind, Except.bind] using failed
              obtain ⟨culprit, member, found⟩ := ih (by rw [others, same])
              exact ⟨culprit, List.mem_cons_of_mem _ member, found⟩
          | ok rest => simp [first, others, bind, Except.bind, pure, Except.pure] at failed

theorem exists_forall₂_iff {α β : Type} {related : α → β → Prop} {sources : List α} :
    (∃ results, List.Forall₂ related sources results) ↔
      ∀ source ∈ sources, ∃ result, related source result := by
  induction sources with
  | nil => simp
  | cons source later ih =>
      rw [List.forall_mem_cons, ← ih]
      constructor
      · rintro ⟨_, here | @⟨_, result, _, results, here, there⟩⟩
        exact ⟨⟨result, here⟩, results, there⟩
      · rintro ⟨⟨result, here⟩, results, there⟩
        exact ⟨result :: results, .cons here there⟩

namespace Query

theorem next_ofQuery (world : World) (bytes : List UInt8) (pattern : Pattern)
    (settings : Settings) :
    ((OutcomeStream.ofQuery ⟨.bytes bytes, pattern, settings⟩).next world).1 =
      some (outcome world ⟨.bytes bytes, pattern, settings⟩) := by
  unfold OutcomeStream.next OutcomeStream.ofQuery
  simp only [run_bytes_waiting]
  cases ended : outcome world ⟨.bytes bytes, pattern, settings⟩ with
  | ok capture =>
      rw [outcome] at ended
      simp [ended, StopRequest.waiting]
  | error error =>
      have blamed := blamesDocument_of_bytes ended
      rw [outcome] at ended
      cases error with
      | cancelled => contradiction
      | _ => simp [ended, StopRequest.waiting]

/-- A table succeeds if the bytes can be transcoded and every expression has its entry. -/
theorem table_eq_ok_iff (world : World) (bytes : List UInt8) (settings : Settings)
    (queries : List (String × String)) (entries : List (String × Capture)) :
    table bytes queries settings = .ok entries ↔
      (∃ utf8, (Layout.detect bytes).transcode bytes = .ok utf8) ∧
        List.Forall₂ (fun query entry => entry.1 = query.1 ∧
          Captures world bytes settings query.2 entry.2) queries entries := by
  rw [table_eq world]
  simp only [← entry_eq_ok_iff, ← mapM_eq_ok_iff]
  cases (Layout.detect bytes).transcode bytes with
  | error error => simp [bind, Except.bind]
  | ok utf8 => simp [bind, Except.bind]

/-- All ways to deliver the outcome of a query over bytes in memory agree: alone, with a
request to stop that nobody makes, as the first value of a stream, and together with other
patterns.  A table succeeds exactly if the bytes can be transcoded and every expression
succeeds alone; then it lists what the expressions capture alone, in their order, and
otherwise it fails like the transcoding or like one of them. -/
theorem deliveries_agree (world : World) (bytes : List UInt8) (settings : Settings) :
    (∀ patterns, outcomes bytes patterns settings =
      patterns.map fun pattern => outcome world ⟨.bytes bytes, pattern, settings⟩) ∧
    (∀ pattern, let query : Query := ⟨.bytes bytes, pattern, settings⟩
      (query.run world .waiting).outcome = query.outcome world ∧
        ((OutcomeStream.ofQuery query).next world).1 = some (query.outcome world)) ∧
    ∀ queries,
      ((∃ entries, table bytes queries settings = .ok entries) ↔
        (∃ utf8, (Layout.detect bytes).transcode bytes = .ok utf8) ∧
          ∀ query ∈ queries, ∃ capture, Captures world bytes settings query.2 capture) ∧
      (∀ entries, table bytes queries settings = .ok entries →
        List.Forall₂ (fun query entry => entry.1 = query.1 ∧
          Captures world bytes settings query.2 entry.2) queries entries) ∧
      ∀ error, table bytes queries settings = .error error →
        (Layout.detect bytes).transcode bytes = .error error ∨
          ∃ query ∈ queries, Fails world bytes settings query.2 error := by
  refine ⟨fun patterns => outcomes_eq world bytes patterns settings, fun pattern => ?_,
    fun queries => ⟨⟨?_, ?_⟩, ?_, ?_⟩⟩
  · constructor
    · rw [run_bytes_waiting]
      rfl
    · exact next_ofQuery world bytes pattern settings
  · rintro ⟨entries, listed⟩
    obtain ⟨transcoded, all⟩ := (table_eq_ok_iff world _ _ _ _).mp listed
    refine ⟨transcoded, fun query member => ?_⟩
    obtain ⟨entry, -, captured⟩ := exists_forall₂_iff.mp ⟨entries, all⟩ query member
    exact ⟨entry.2, captured⟩
  · rintro ⟨transcoded, all⟩
    have each : ∀ query ∈ queries, ∃ entry : String × Capture, entry.1 = query.1 ∧
        Captures world bytes settings query.2 entry.2 := by
      intro query member
      obtain ⟨capture, captured⟩ := all query member
      exact ⟨(query.1, capture), rfl, captured⟩
    obtain ⟨entries, listed⟩ := exists_forall₂_iff.mpr each
    exact ⟨entries, (table_eq_ok_iff world _ _ _ _).mpr ⟨transcoded, listed⟩⟩
  · intro entries listed
    exact ((table_eq_ok_iff world _ _ _ _).mp listed).2
  · intro error failed
    rw [table_eq world] at failed
    cases transcoded : (Layout.detect bytes).transcode bytes with
    | error reason =>
        left
        simpa [transcoded, bind, Except.bind] using failed
    | ok utf8 =>
        right
        have entryFailed : queries.mapM (entry world bytes settings) = .error error := by
          simpa [transcoded, bind, Except.bind] using failed
        obtain ⟨query, member, found⟩ := exists_of_mapM_eq_error entryFailed
        exact ⟨query, member, (entry_eq_error_iff query error).mp found⟩

end Query

end XmlExtract
