import XmlExtract.Proofs.Deliveries

/-!
# What the owner of a stream asks for

The owner of a stream may ask it for values, cancel it, cancel it by its token, and ask
whether it is cancelled, in any order and as often as he likes.  The first request that counts
is the first one for a value or to cancel: it starts the query, or sees to it that the query is
never run, and leaves a stream that yields nothing more (`Spent`).  So it decides alone which
values and which runs a whole course of requests comes to (`values_eq`, `runs_eq`).

A query by whose end nobody has asked it to stop has the outcome that it has alone
(`Query.outcome_of_unraised`), and that is never that it was cancelled.
-/

namespace XmlExtract

/-! ### Queries that nobody asks to stop -/

theorem Document.fault_ofInput {input : Input} {document : Document}
    (ready : ofInput input = .ok document) :
    document.input.fault = input.fault ∨ document.input.fault = none := by
  unfold ofInput at ready
  cases first : input.firstBuffer with
  | error error => simp [first, bind, Except.bind] at ready
  | ok buffer =>
      simp only [first, bind, Except.bind] at ready
      cases layout : Layout.detect buffer with
      | ascii =>
          simp only [layout, Except.ok.injEq] at ready
          rw [← ready]
          exact Or.inl rfl
      | utf16 order =>
          simp only [layout] at ready
          split at ready
          · contradiction
          · split at ready
            · contradiction
            · rw [← Except.ok.inj ready]
              exact Or.inr rfl

namespace Query

variable {world : World} {query : Query}

theorem ofDelivery_fault {document : Document} (ready : query.document world = .ok document)
    {error : Error} (fault : document.input.fault = some error) : error.OfDelivery := by
  unfold Query.document at ready
  cases opened : query.source.supply world query.settings with
  | error reason => simp [opened, bind, Except.bind] at ready
  | ok supply =>
      have made : Document.ofInput supply.impatient.input = .ok document := by
        simpa [opened, bind, Except.bind] using ready
      rcases Document.fault_ofInput made with kept | none
      · exact Supply.ofDelivery_input (kept.symm.trans fault)
      · rw [none] at fault
        contradiction

/-- A query that heeds no request fails because of the document, or because that does not get
to its reader. -/
theorem error_of_outcome {error : Error} (failed : query.outcome world = .error error) :
    error.blamesDocument = true ∨ error.OfDelivery := by
  cases ready : query.document world with
  | error reason =>
      rw [outcome, outcome_of_document_error ready] at failed
      rw [← Except.error.inj failed]
      exact Or.inr (ofDelivery_document ready)
  | ok document =>
      obtain ⟨now, run⟩ := run_of_document ready .ignored
      rw [outcome, run] at failed
      have fails := document.input.failWith_replies query.settings document.transcoded
      have mayFail : Input.MayFail document.input.fault error :=
        Extraction.failsWith_of_unheeded rfl (fun _ => Or.inl) fails 0 failed
      exact mayFail.imp_right (ofDelivery_fault ready)

theorem outcome_ne_cancelled (world : World) (query : Query) :
    query.outcome world ≠ .error .cancelled := by
  intro cancelled
  rcases error_of_outcome cancelled with blamed | delivery
  · contradiction
  · cases delivery

/-- A query that could be asked to stop, and is not by its end, has the outcome that it has
alone. -/
theorem outcome_of_unraised (unraised : (query.run world .waiting).stop.raised = false) :
    (query.run world .waiting).outcome = query.outcome world := by
  rw [outcome]
  cases ready : query.document world with
  | error error => rw [outcome_of_document_error ready, outcome_of_document_error ready]
  | ok document =>
      obtain ⟨now, run⟩ := exists_run_of_document ready
      rw [run] at unraised ⊢
      rw [run]
      cases now with
      | true =>
          rw [Document.run, Extraction.run, Extraction.raised_runFrom rfl] at unraised
          contradiction
      | false =>
          have same := Extraction.runFrom_of_unraised unraised false
          show _ = (Extraction.runFrom _ ⟨false, false⟩ 0 _).outcome
          rw [same]
          rfl

end Query

/-! ### Requests to a stream -/

namespace OutcomeStream

/-- What the owner of a stream asks for. -/
inductive Request where
  /-- A value, and to wait until it is there or the stream is over. -/
  | next
  | cancel
  /-- To cancel the stream by its token. -/
  | cancelByToken
  /-- Whether the stream is cancelled. -/
  | isCancelled
  deriving Repr, DecidableEq

namespace Request

def cancels : Request → Bool
  | cancel | cancelByToken => true
  | next | isCancelled => false

end Request

/-- The value that a stream yields to a request, if any. -/
def yielded (world : World) (stream : OutcomeStream) :
    Request → Option (Except Error Capture)
  | .next => (stream.next world).1
  | .cancel | .cancelByToken | .isCancelled => none

/-- The query that a request starts, if any. -/
def started (stream : OutcomeStream) : Request → Option Query
  | .next => if stream.stopRaised then none else stream.pending
  | .cancel | .cancelByToken | .isCancelled => none

/-- The stream that a request leaves. -/
def after (world : World) (stream : OutcomeStream) : Request → OutcomeStream
  | .next => (stream.next world).2
  | .cancel | .cancelByToken => stream.cancel
  | .isCancelled => stream

/-- The stream that a course of requests leaves. -/
def afterAll (world : World) (stream : OutcomeStream) (requests : List Request) :
    OutcomeStream :=
  requests.foldl (after world) stream

/-- The values that a stream yields in a course of requests. -/
def values (world : World) (stream : OutcomeStream) :
    List Request → List (Except Error Capture)
  | [] => []
  | request :: later =>
      (stream.yielded world request).toList ++ (stream.after world request).values world later

/-- The queries that are started in a course of requests. -/
def runs (world : World) (stream : OutcomeStream) : List Request → List Query
  | [] => []
  | request :: later =>
      (stream.started request).toList ++ (stream.after world request).runs world later

/-! ### One request -/

/-- A stream that has been cancelled, or has no query to run any more. -/
def Spent (stream : OutcomeStream) : Prop := stream.stopRaised = true ∨ stream.pending = none

variable {world : World} {stream : OutcomeStream} {request : Request}

theorem next_of_spent (spent : stream.Spent) :
    stream.next world = (none, { stream with pending := none }) := by
  unfold next
  rcases spent with raised | done
  · rw [raised]
  · rw [done]
    cases stream.stopRaised <;> rfl

theorem pending_next (world : World) (stream : OutcomeStream) :
    (stream.next world).2.pending = none := by
  unfold next
  split
  · rfl
  · rfl
  · simp only
    split <;> rfl

theorem Spent.yielded (spent : stream.Spent) (request : Request) :
    stream.yielded world request = none := by
  cases request with
  | next => rw [OutcomeStream.yielded, next_of_spent spent]
  | cancel | cancelByToken | isCancelled => rfl

theorem Spent.started (spent : stream.Spent) (request : Request) :
    stream.started request = none := by
  cases request with
  | next =>
      rcases spent with raised | done
      · simp [OutcomeStream.started, raised]
      · simp [OutcomeStream.started, done]
  | cancel | cancelByToken | isCancelled => rfl

theorem Spent.after (spent : stream.Spent) (request : Request) :
    (stream.after world request).Spent := by
  cases request with
  | next => exact Or.inr (pending_next world stream)
  | cancel | cancelByToken => exact Or.inl rfl
  | isCancelled => exact spent

/-- A request for a value or to cancel leaves a stream that is spent. -/
theorem spent_after (counts : request ≠ .isCancelled) : (stream.after world request).Spent := by
  cases request with
  | next => exact Or.inr (pending_next world stream)
  | cancel | cancelByToken => exact Or.inl rfl
  | isCancelled => contradiction

/-! ### Courses of requests -/

theorem values_of_spent (spent : stream.Spent) (requests : List Request) :
    stream.values world requests = [] ∧ stream.runs world requests = [] := by
  induction requests generalizing stream with
  | nil => exact ⟨rfl, rfl⟩
  | cons request later ih =>
      obtain ⟨noValues, noRuns⟩ := ih (spent.after request)
      rw [values, runs, spent.yielded, spent.started, noValues, noRuns]
      exact ⟨rfl, rfl⟩

/-- The first request that counts decides which values there are. -/
theorem values_eq (world : World) (stream : OutcomeStream) (requests : List Request) :
    stream.values world requests =
      match requests.find? (· ≠ .isCancelled) with
      | some .next => (stream.next world).1.toList
      | _ => [] := by
  induction requests with
  | nil => rfl
  | cons request later ih =>
      cases request with
      | isCancelled => exact ih
      | next | cancel | cancelByToken =>
          rw [values, (values_of_spent (spent_after (by simp)) later).1, List.append_nil]
          rfl

/-- The first request that counts decides which queries are run. -/
theorem runs_eq (world : World) (stream : OutcomeStream) (requests : List Request) :
    stream.runs world requests =
      match requests.find? (· ≠ .isCancelled) with
      | some .next => (stream.started .next).toList
      | _ => [] := by
  induction requests with
  | nil => rfl
  | cons request later ih =>
      cases request with
      | isCancelled => exact ih
      | next | cancel | cancelByToken =>
          rw [runs, (values_of_spent (spent_after (by simp)) later).2, List.append_nil]
          rfl

theorem length_values_le (world : World) (stream : OutcomeStream) (requests : List Request) :
    (stream.values world requests).length ≤ 1 := by
  rw [values_eq]
  split
  · cases (stream.next world).1 <;> simp
  · exact Nat.zero_le 1

theorem length_runs_le (world : World) (stream : OutcomeStream) (requests : List Request) :
    (stream.runs world requests).length ≤ 1 := by
  rw [runs_eq]
  split
  · cases stream.started .next <;> simp
  · exact Nat.zero_le 1

/-- That a query was cancelled is no value of its stream. -/
theorem next_ne_cancelled (world : World) (stream : OutcomeStream) :
    (stream.next world).1 ≠ some (.error .cancelled) := by
  unfold next
  split
  · simp
  · simp
  · simp only
    split
    · simp
    · simp
    · rename_i notCancelled
      simpa using notCancelled

theorem cancelled_not_mem_values (world : World) (stream : OutcomeStream)
    (requests : List Request) : .error .cancelled ∉ stream.values world requests := by
  rw [values_eq]
  split
  · rw [Option.mem_toList]
    exact next_ne_cancelled world stream
  · exact List.not_mem_nil

/-- A stream of a query that nobody asks to stop yields the outcome of the query. -/
theorem next_of_unraised {query : Query}
    (unraised : (query.run world .waiting).stop.raised = false) :
    ((ofQuery query).next world).1 = some (query.outcome world) := by
  have same := Query.outcome_of_unraised unraised
  have uncancelled := Query.outcome_ne_cancelled world query
  unfold next ofQuery
  simp only [unraised, same]

theorem afterAll_of_asked {before : List Request}
    (asked : ∀ request ∈ before, request = .isCancelled)
    (stream : OutcomeStream) : stream.afterAll world before = stream := by
  induction before with
  | nil => rfl
  | cons request before ih =>
      rw [List.forall_mem_cons] at asked
      rw [asked.1]
      exact ih asked.2

end OutcomeStream

end XmlExtract
