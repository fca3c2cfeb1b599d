import XmlExtract.Query
import XmlExtract.Script
import XmlExtract.Proofs.Reaction

/-!
# Requests to stop

A run that heeds a request to stop looks at it before and after each pull.  A request made
during a pull that the run makes anyway therefore ends the run with this pull, whatever the
reply is, and a later one is never noticed (`run_stopAt`).

A query heeds the request while it runs over a document, and not while it makes the document
ready.  Once the request is made, the query answers that it was cancelled, unless its source
cannot be opened or its input cannot be made ready (`outcome_raised`).
-/

namespace XmlExtract

namespace Extraction

variable {extraction : Extraction} {stop : StopRequest} {position : Nat} {replies : List Reply}

/-! ### Requests that nobody makes -/

theorem raised_runFrom (raised : stop.raised = true) :
    (extraction.runFrom stop position replies).stop.raised = true := by
  have kept (stop : StopRequest) (raised : stop.raised = true) (now : Bool) :
      (stop.raiseIf now).raised = true := by
    simp [StopRequest.raiseIf, raised]
  induction replies generalizing extraction stop position with
  | nil =>
      unfold runFrom
      split
      · exact raised
      · split <;> exact raised
  | cons reply later ih =>
      cases stopped : stop.stops with
      | true =>
          rw [runFrom_of_stops stopped]
          exact raised
      | false =>
          rw [runFrom_cons stopped]
          cases extraction.react stop reply with
          | inl outcome => exact kept stop raised _
          | inr next => exact ih (kept stop raised _)

/-- In a run by whose end nobody has asked to stop, it does not matter whether a request would
be heeded. -/
theorem runFrom_of_unraised {heeded : Bool}
    (unraised : (extraction.runFrom ⟨heeded, false⟩ position replies).stop.raised = false)
    (other : Bool) :
    extraction.runFrom ⟨other, false⟩ position replies =
      { extraction.runFrom ⟨heeded, false⟩ position replies with stop := ⟨other, false⟩ } := by
  have waits (heeded : Bool) : StopRequest.stops ⟨heeded, false⟩ = false := by
    simp [StopRequest.stops]
  induction replies generalizing extraction position with
  | nil =>
      unfold runFrom
      rw [waits, waits]
      cases extraction.endOfDocument position <;> rfl
  | cons reply later ih =>
      rw [runFrom_cons (waits heeded)] at unraised
      have quiet : reply.stopRaised = false := by
        cases raised : reply.stopRaised with
        | false => rfl
        | true =>
            rw [raised] at unraised
            cases reaction : extraction.react ⟨heeded, false⟩ reply with
            | inl outcome => simp [reaction, StopRequest.raiseIf] at unraised
            | inr next =>
                simp only [reaction, Run.afterPull] at unraised
                rw [raised_runFrom (by simp [StopRequest.raiseIf])] at unraised
                contradiction
      have still (heeded : Bool) :
          StopRequest.raiseIf ⟨heeded, false⟩ reply.stopRaised = ⟨heeded, false⟩ := by
        simp [StopRequest.raiseIf, quiet]
      have same : extraction.react ⟨other, false⟩ reply =
          extraction.react ⟨heeded, false⟩ reply := by
        apply react_congr
        · rw [still, waits]
        · rw [still, waits]
        · rfl
        · rfl
      rw [runFrom_cons (waits heeded), runFrom_cons (waits other), still, still, same]
      rw [still] at unraised
      cases reaction : extraction.react ⟨heeded, false⟩ reply with
      | inl outcome => rfl
      | inr next =>
          simp only [reaction, Run.afterPull] at unraised ⊢
          rw [ih unraised]

theorem unraised_of_quiet (quiet : ∀ reply ∈ replies, reply.stopRaised = false)
    (unraised : stop.raised = false) :
    (extraction.runFrom stop position replies).stop.raised = false := by
  induction replies generalizing extraction stop position with
  | nil =>
      unfold runFrom
      split
      · exact unraised
      · split <;> exact unraised
  | cons reply later ih =>
      rw [List.forall_mem_cons] at quiet
      have still : (stop.raiseIf reply.stopRaised).raised = false := by
        simp [StopRequest.raiseIf, quiet.1, unraised]
      rw [runFrom_cons (by simp [StopRequest.stops, unraised])]
      cases extraction.react stop reply with
      | inl outcome => exact still
      | inr next => exact ih quiet.2 still

/-- In a run in which nobody asks to stop, it does not matter whether a request would be
heeded. -/
theorem runFrom_of_quiet (quiet : ∀ reply ∈ replies, reply.stopRaised = false)
    (heeded other : Bool) (position : Nat) :
    extraction.runFrom ⟨heeded, false⟩ position replies =
      { extraction.runFrom ⟨other, false⟩ position replies with stop := ⟨heeded, false⟩ } :=
  runFrom_of_unraised (unraised_of_quiet quiet rfl) heeded

/-- A run does not pull again when the document has ended. -/
theorem pulls_le_length (running : stop.stops = false)
    (ends : ∃ reply ∈ replies, reply.answer = .ok .documentEnd) :
    (extraction.runFrom stop position replies).pulls ≤ replies.length := by
  induction replies generalizing extraction stop position with
  | nil => simp at ends
  | cons reply later ih =>
      rw [runFrom_cons running, List.length_cons]
      cases reaction : extraction.react stop reply with
      | inl outcome => simp
      | inr next =>
          obtain ⟨stillRunning, event, answer, unfinished, -, -⟩ := of_react_inr reaction
          have endsLater : ∃ reply ∈ later, reply.answer = .ok .documentEnd := by
            obtain ⟨last, member, ended⟩ := ends
            rcases List.mem_cons.mp member with rfl | inside
            · exact absurd (Except.ok.inj (answer.symm.trans ended)) unfinished
            · exact ⟨last, inside, ended⟩
          exact Nat.succ_le_succ (ih stillRunning endsLater)

end Extraction

/-! ### A request at one pull -/

namespace Reply

/-- Make a request to stop while the reply with this number is fetched, counting from
one. -/
def stopAt (pull : Nat) : List Reply → List Reply
  | [] => []
  | reply :: later => { reply with stopRaised := pull == 1 } :: stopAt (pull - 1) later

end Reply

namespace Script

theorem go_some (stop count : Nat) (answers : List (Except Error Event)) :
    replies.go (some stop) count answers =
      Reply.stopAt (stop - count) (replies.go none count answers) := by
  have now (count : Nat) : (some stop == some (count + 1)) = (stop - count == 1) := by
    rw [Bool.eq_iff_iff, beq_iff_eq, beq_iff_eq, Option.some_inj]
    omega
  induction answers generalizing count with
  | nil => simp [replies.go, Reply.stopAt, now]
  | cons answer later ih => simp [replies.go, Reply.stopAt, now, ih, Nat.sub_sub]

theorem quiet_go (count : Nat) (answers : List (Except Error Event)) :
    ∀ reply ∈ replies.go none count answers, reply.stopRaised = false := by
  induction answers generalizing count with
  | nil => simp [replies.go]
  | cons answer later ih => simpa [replies.go] using ih (count + 1)

theorem ends_go (count : Nat) (answers : List (Except Error Event)) :
    ∃ reply ∈ replies.go none count answers, reply.answer = .ok .documentEnd := by
  induction answers generalizing count with
  | nil => simp [replies.go]
  | cons answer later ih =>
      obtain ⟨reply, member, ended⟩ := ih (count + 1)
      exact ⟨reply, List.mem_cons_of_mem _ member, ended⟩

end Script

namespace Extraction

variable {extraction : Extraction} {position pull : Nat} {replies : List Reply}

/-- The run that is cancelled in its last pull. -/
def cancelledAfter (pulls : Nat) : Run := ⟨.error .cancelled, pulls, ⟨true, true⟩⟩

/-- A request at a pull that the run makes anyway ends the run with this pull; a request at
a later one changes nothing. -/
theorem runFrom_stopAt (quiet : ∀ reply ∈ replies, reply.stopRaised = false)
    (within : (extraction.runFrom .waiting position replies).pulls ≤ replies.length)
    (positive : 0 < pull) :
    extraction.runFrom .waiting position (Reply.stopAt pull replies) =
      if pull ≤ (extraction.runFrom .waiting position replies).pulls then cancelledAfter pull
      else extraction.runFrom .waiting position replies := by
  have running : StopRequest.waiting.stops = false := rfl
  induction replies generalizing extraction position pull with
  | nil =>
      -- Replies that hold all pulls of a run do not run out.
      exfalso
      unfold runFrom at within
      rw [running] at within
      cases ending : extraction.endOfDocument position <;> simp [ending] at within
  | cons reply later ih =>
      rw [List.forall_mem_cons] at quiet
      obtain ⟨quietHere, quietLater⟩ := quiet
      have still : StopRequest.waiting.raiseIf reply.stopRaised = .waiting := by
        rw [quietHere]
        rfl
      rw [runFrom_cons running, still] at within ⊢
      rw [Reply.stopAt, runFrom_cons running]
      by_cases first : pull = 1
      · -- The request stops the run, whatever would have come of the reply.
        subst first
        rw [react_of_stops rfl]
        cases extraction.react .waiting reply with
        | inl outcome => rfl
        | inr next => simp [Run.afterPull, cancelledAfter, StopRequest.waiting, StopRequest.raiseIf]
      · have waits : StopRequest.raiseIf .waiting (pull == 1) = .waiting := by
          simp [StopRequest.raiseIf, StopRequest.waiting, first]
        have same : extraction.react .waiting { reply with stopRaised := pull == 1 } =
            extraction.react .waiting reply := by
          apply react_congr
          · rw [waits, running]
          · rw [still, running]
          · rfl
          · rfl
        rw [same]
        cases reaction : extraction.react .waiting reply with
        | inl outcome =>
            have beyond : ¬ pull ≤ 1 := by omega
            simp [waits, beyond]
        | inr next =>
            simp only [reaction, Run.afterPull, List.length_cons] at within
            have positiveLater : 0 < pull - 1 := by omega
            simp only [waits]
            rw [ih quietLater (Nat.le_of_succ_le_succ within) positiveLater]
            by_cases reached : pull - 1 ≤ (next.runFrom .waiting reply.position later).pulls
            · have alsoHere : pull ≤ (next.runFrom .waiting reply.position later).pulls + 1 := by
                omega
              have once : pull - 1 + 1 = pull := by omega
              simp [reached, alsoHere, once, Run.afterPull, cancelledAfter]
            · have notHere : ¬ pull ≤ (next.runFrom .waiting reply.position later).pulls + 1 := by
                omega
              simp [reached, notHere, Run.afterPull]

/-- A request to stop takes effect exactly.  Let the owner of an extraction ask it to stop
before its first pull, if `pull` is zero, or during the pull with this number.  If the free
run, of which nobody asks anything, makes that many pulls, then the run is cancelled after
exactly this pull, and otherwise it is the free run. -/
theorem run_stopAt (extraction : Extraction) (answers : List (Except Error Event))
    (pull : Nat) (heeded : Bool) :
    let script := Script.ofAnswers answers
    let free := extraction.run ⟨heeded, false⟩ (script.replies none)
    let stopped := extraction.run ⟨true, pull == 0⟩ (script.replies (some pull))
    (pull ≤ free.pulls → stopped.outcome = .error .cancelled ∧ stopped.pulls = pull) ∧
      (free.pulls < pull → stopped.outcome = free.outcome ∧ stopped.pulls = free.pulls ∧
        script.advance stopped.pulls = script.advance free.pulls) := by
  intro script free stopped
  have quiet := Script.quiet_go 0 answers
  let waiting := extraction.run .waiting (script.replies none)
  have unheard : free = { waiting with stop := ⟨heeded, false⟩ } :=
    runFrom_of_quiet quiet heeded true 0
  have pulls : free.pulls = waiting.pulls := by rw [unheard]
  rcases Nat.eq_zero_or_pos pull with rfl | positive
  · have cancelled : stopped = cancelledAfter 0 :=
      runFrom_of_stops (by rfl) 0 (script.replies (some 0))
    rw [cancelled]
    exact ⟨fun _ => ⟨rfl, rfl⟩, fun impossible => absurd impossible (Nat.not_lt_zero _)⟩
  · have request : (⟨true, pull == 0⟩ : StopRequest) = .waiting := by
      have nonzero : pull ≠ 0 := by omega
      simp [StopRequest.waiting, nonzero]
    have raised : script.replies (some pull) = Reply.stopAt pull (script.replies none) :=
      Script.go_some pull 0 answers
    have within : waiting.pulls ≤ (script.replies none).length :=
      pulls_le_length rfl (Script.ends_go 0 answers)
    have same : stopped = if pull ≤ waiting.pulls then cancelledAfter pull else waiting := by
      show extraction.runFrom ⟨true, pull == 0⟩ 0 (script.replies (some pull)) = _
      rw [request, raised]
      exact runFrom_stopAt quiet within positive
    rw [pulls]
    constructor
    · intro reached
      rw [same, if_pos reached]
      exact ⟨rfl, rfl⟩
    · intro beyond
      rw [same, if_neg (Nat.not_le.mpr beyond), unheard]
      exact ⟨rfl, rfl, rfl⟩

/-! ### Requests that have been made -/

variable {stop : StopRequest}

/-- A run that heeds a request is cancelled if the request has been made by its end. -/
theorem outcome_of_raised (heeded : stop.heeded = true)
    (raised : (extraction.runFrom stop position replies).stop.raised = true) :
    (extraction.runFrom stop position replies).outcome = .error .cancelled := by
  induction replies generalizing extraction stop position with
  | nil =>
      cases stopped : stop.stops with
      | true => rw [runFrom_of_stops stopped]
      | false =>
          unfold runFrom at raised
          rw [stopped] at raised
          cases ending : extraction.endOfDocument position <;>
            simp_all [StopRequest.stops]
  | cons reply later ih =>
      cases stopped : stop.stops with
      | true => rw [runFrom_of_stops stopped]
      | false =>
          rw [runFrom_cons stopped] at raised ⊢
          cases reaction : extraction.react stop reply with
          | inl outcome =>
              have stops : (stop.raiseIf reply.stopRaised).stops = true := by
                simp only [reaction] at raised
                rw [StopRequest.stops, raised, Bool.and_true]
                exact heeded
              rw [react_of_stops stops] at reaction
              exact (Sum.inl.inj reaction).symm
          | inr next =>
              simp only [reaction, Run.afterPull] at raised ⊢
              exact ih heeded raised

end Extraction

/-! ### Documents that are not there

A failure to get a document is never that the query was cancelled, so that the two can be
told apart. -/

/-- The failures by which a document does not get to its reader. -/
inductive Error.OfDelivery : Error → Prop where
  | unavailable (cause : Unavailability) : OfDelivery (.unavailable cause)
  | io (text : String) : OfDelivery (.io text)
  | invalid (position : Nat) (cause : Invalidity) : OfDelivery (.invalid position cause)
  | brokenDown : OfDelivery (.brokenDown Delivery.breakdownText)

theorem Source.ofDelivery_supply {world : World} {settings : Settings} {source : Source}
    {error : Error} (failed : source.supply world settings = .error error) :
    error.OfDelivery := by
  have fromFile (path : List UInt8)
      (failed : fileSupply world.files settings path = .error error) : error.OfDelivery := by
    unfold fileSupply at failed
    split at failed
    · contradiction
    · contradiction
    · rw [← Except.error.inj failed]
      exact .unavailable _
  have fromNetwork (locator : String)
      (failed : fetchedSupply world.network settings locator = .error error) :
      error.OfDelivery := by
    unfold fetchedSupply at failed
    split at failed
    · rw [← Except.error.inj failed]
      exact .unavailable _
    · split at failed
      · contradiction
      · rw [← Except.error.inj failed]
        exact .unavailable _
  unfold supply at failed
  split at failed
  · contradiction
  · contradiction
  · exact fromFile _ failed
  · split at failed
    · split at failed
      · exact fromFile _ failed
      · rw [← Except.error.inj failed]
        exact .unavailable _
    · split at failed
      · exact fromNetwork _ failed
      · rw [← Except.error.inj failed]
        exact .unavailable _

theorem Delivery.ofDelivery_joinAfter {count : Nat} {deliveries : List Delivery} {error : Error}
    (failed : (joinAfter count deliveries).fault = some error) : error.OfDelivery := by
  induction deliveries generalizing count with
  | nil => contradiction
  | cons part later ih =>
      cases part with
      | data bytes => exact ih failed
      | interruption => exact ih failed
      | stopRequest => exact ih failed
      | failure text =>
          rw [← Option.some.inj failed]
          exact .io text
      | breakdown =>
          rw [← Option.some.inj failed]
          exact .brokenDown

theorem Supply.ofDelivery_input {supply : Supply} {error : Error}
    (failed : supply.input.fault = some error) : error.OfDelivery := by
  unfold input at failed
  split at failed
  · exact Delivery.ofDelivery_joinAfter failed
  · contradiction
  · exact Delivery.ofDelivery_joinAfter failed

theorem Layout.ofDelivery_utf16ToUtf8 {order : Utf16.ByteOrder} {bytes : List UInt8}
    {error : Error} (failed : utf16ToUtf8 order bytes = .error error) : error.OfDelivery := by
  unfold utf16ToUtf8 at failed
  simp only at failed
  split at failed
  · rw [← Except.error.inj failed]
    exact .invalid _ _
  · split at failed
    · contradiction
    · rw [← Except.error.inj failed]
      exact .invalid _ _

/-- An input cannot be made ready because of its fault, or because it is no UTF-16. -/
theorem Document.ofDelivery_ofInput {input : Input} {error : Error}
    (faults : ∀ error, input.fault = some error → error.OfDelivery)
    (failed : ofInput input = .error error) : error.OfDelivery := by
  unfold ofInput at failed
  cases first : input.firstBuffer with
  | error reason =>
      obtain rfl : reason = error := by
        simpa [first, bind, Except.bind] using failed
      unfold Input.firstBuffer at first
      split at first
      · rename_i fault
        exact faults _ (by rw [fault, Except.error.inj first])
      · contradiction
  | ok buffer =>
      simp only [first, bind, Except.bind] at failed
      cases layout : Layout.detect buffer with
      | ascii => simp [layout] at failed
      | utf16 order =>
          simp only [layout] at failed
          cases fault : input.fault with
          | some reason =>
              simp only [fault, Except.error.injEq] at failed
              exact faults _ (failed ▸ fault)
          | none =>
              simp only [fault] at failed
              cases utf8 : Layout.utf16ToUtf8 order input.bytes with
              | error reason =>
                  simp only [utf8, Except.error.injEq] at failed
                  exact Layout.ofDelivery_utf16ToUtf8 (failed ▸ utf8)
              | ok bytes => simp [utf8] at failed

namespace Query

variable {world : World} {query : Query} {stop : StopRequest}

/-- The document that a query runs over: its source is opened, and the input is made
ready. -/
def document (world : World) (query : Query) : Except Error Document := do
  let supply ← query.source.supply world query.settings
  Document.ofInput supply.impatient.input

/-- A query that has no document does not look at a request to stop. -/
theorem outcome_of_document_error {error : Error}
    (failed : query.document world = .error error) (stop : StopRequest) :
    (query.run world stop).outcome = .error error := by
  unfold document at failed
  unfold run
  cases opened : query.source.supply world query.settings with
  | error reason => simpa [opened, bind, Except.bind] using failed
  | ok supply =>
      have unready : Document.ofInput supply.impatient.input = .error error := by
        simpa [opened, bind, Except.bind] using failed
      simp only [unready]

/-- A query runs over its document with a request that may have been made on the way. -/
theorem exists_run_of_document {document : Document}
    (ready : query.document world = .ok document) :
    ∃ now, ∀ stop, query.run world stop =
      document.run query.pattern query.settings (stop.raiseIf now) := by
  unfold Query.document at ready
  unfold run
  cases opened : query.source.supply world query.settings with
  | error reason => simp [opened, bind, Except.bind] at ready
  | ok supply =>
      have made : Document.ofInput supply.impatient.input = .ok document := by
        simpa [opened, bind, Except.bind] using ready
      refine ⟨Document.stopRaised supply.impatient.input, fun stop => ?_⟩
      simp only [made]

theorem run_of_document {document : Document} (ready : query.document world = .ok document)
    (stop : StopRequest) :
    ∃ now, query.run world stop =
      document.run query.pattern query.settings (stop.raiseIf now) := by
  obtain ⟨now, run⟩ := exists_run_of_document ready
  exact ⟨now, run stop⟩

theorem ofDelivery_document {error : Error} (failed : query.document world = .error error) :
    error.OfDelivery := by
  unfold document at failed
  cases opened : query.source.supply world query.settings with
  | error reason =>
      obtain rfl : reason = error := by
        simpa [opened, bind, Except.bind] using failed
      exact Source.ofDelivery_supply opened
  | ok supply =>
      have unready : Document.ofInput supply.impatient.input = .error error := by
        simpa [opened, bind, Except.bind] using failed
      exact Document.ofDelivery_ofInput (fun _ => Supply.ofDelivery_input) unready

theorem document_ne_cancelled (world : World) (query : Query) :
    query.document world ≠ .error .cancelled := by
  intro cancelled
  cases ofDelivery_document cancelled

/-! ### Cancelled queries -/

/-- A request to stop that is made before or during a query, and heeded, makes the query
answer that it was cancelled exactly if the query has a document to run over.  If it has
none, because its source cannot be opened or its input cannot be made ready, it answers
with the failure that kept it from that. -/
theorem outcome_raised (world : World) (query : Query) {stop : StopRequest}
    (heeded : stop.heeded = true)
    (raised : stop.raised = true ∨ (query.run world stop).stop.raised = true) :
    let outcome := (query.run world stop).outcome
    (outcome = .error .cancelled ↔ ∃ document, query.document world = .ok document) ∧
      ∀ error, query.document world = .error error → outcome = .error error := by
  intro outcome
  have failed (error : Error) (unready : query.document world = .error error) :
      outcome = .error error :=
    outcome_of_document_error unready stop
  refine ⟨⟨fun cancelled => ?_, ?_⟩, failed⟩
  · cases ready : query.document world with
    | ok document => exact ⟨document, rfl⟩
    | error error =>
        have same : Error.cancelled = error :=
          Except.error.inj (cancelled.symm.trans (failed error ready))
        exact absurd (same ▸ ready) (document_ne_cancelled world query)
  · rintro ⟨document, ready⟩
    obtain ⟨now, run⟩ := run_of_document ready stop
    have raisedAtEnd : (query.run world stop).stop.raised = true := by
      rcases raised with before | during
      · rw [run]
        apply Extraction.raised_runFrom
        simp [StopRequest.raiseIf, before]
      · exact during
    show (query.run world stop).outcome = .error .cancelled
    rw [run] at raisedAtEnd ⊢
    exact Extraction.outcome_of_raised heeded raisedAtEnd

/-- A request that is made while a reader waits for more of a document. -/
theorem outcome_raised_waiting :
    let query : Query :=
      ⟨.stream [.data [0x3C, 0x61, 0x3E], .stopRequest, .failure "boom"], .root, .standard⟩
    (query.run World.bare .waiting).outcome = .error .cancelled := by
  intro query
  have ready : query.document World.bare =
      .ok ⟨⟨[0x3C, 0x61, 0x3E], 3, some (.io "boom"), some 3⟩, false⟩ := by
    rfl
  have raised : (query.run World.bare .waiting).stop.raised = true := by
    decide +kernel
  exact (outcome_raised World.bare query rfl (.inr raised)).1.mpr ⟨_, ready⟩

/-- A request that is made before the first bytes are there, when they fail to come. -/
theorem outcome_raised_before_failure :
    let query : Query := ⟨.stream [.stopRequest, .failure "boom"], .root, .standard⟩
    (query.run World.bare .waiting).stop.raised = true ∧
      (query.run World.bare .waiting).outcome = .error (.io "boom") := by
  exact ⟨rfl, rfl⟩

end Query

end XmlExtract
