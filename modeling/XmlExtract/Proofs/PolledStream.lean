import XmlExtract.Proofs.StreamRequests

/-!
# A stream, poll by poll

To wait for a value of a stream is to poll it until it is ready.  The first poll starts a
worker, which runs the query and sends the outcome through a channel; later polls look into
the channel, and each poll looks at first whether the stream has been cancelled.  Between two
polls the worker may go on as far as it likes.  However the polls fall, waiting comes to one
end, which is that of `OutcomeStream.next` (`awaits_iff`), and so a course of requests comes
to one end too (`serves_iff`).  It yields at most one value, and starts at most one worker
(`OutcomeStream.yields_once`).
-/

namespace XmlExtract

/-- A channel from a worker to the stream that has started it. -/
inductive Channel where
  | empty
  | holds (outcome : Except Error Capture)
  /-- The worker is gone and has sent nothing. -/
  | abandoned

/-- How far a stream is. -/
inductive Stage where
  | idle (query : Query)
  | running (query : Query) (channel : Channel)
  | over

/-- What a poll comes to. -/
inductive Poll where
  | pending
  /-- A value, or that the stream is over. -/
  | ready (value : Option (Except Error Capture))

/-- A stream between two polls. -/
structure PolledStream where
  stage : Stage
  stopRaised : Bool

namespace Channel

/-- The channel of a worker that has ended: it has sent the outcome, unless it broke down. -/
def ofOutcome : Except Error Capture → Channel
  | .error (.brokenDown _) => abandoned
  | outcome => holds outcome

/-- Look into the channel. -/
def poll : Channel → Poll
  | empty => .pending
  | holds (.error .cancelled) => .ready none
  | holds outcome => .ready (some outcome)
  | abandoned => .ready (some (.error (.brokenDown Delivery.breakdownText)))

end Channel

namespace PolledStream

open OutcomeStream (Request)

/-- The stream of a query that is still to be run, or that is over. -/
def ofStream (stream : OutcomeStream) : PolledStream :=
  match stream.pending with
  | some query => ⟨.idle query, stream.stopRaised⟩
  | none => ⟨.over, stream.stopRaised⟩

/-- Poll a stream once. -/
def poll (stream : PolledStream) : Poll × PolledStream :=
  if stream.stopRaised then (.ready none, { stream with stage := .over })
  else
    match stream.stage with
    | .idle query => (.pending, { stream with stage := .running query .empty })
    | .running _ channel =>
        match channel.poll with
        | .pending => (.pending, stream)
        | .ready value => (.ready value, { stream with stage := .over })
    | .over => (.ready none, stream)

/-- The query for which a poll of a stream starts a worker, if any. -/
def started (stream : PolledStream) : Option Query :=
  match stream.stage, stream.poll.2.stage with
  | .idle query, .running _ _ => some query
  | _, _ => none

/-- What a worker may do between two polls: meet a request to stop, or end. -/
inductive Works (world : World) : PolledStream → PolledStream → Prop where
  | asked {query : Query} {stopRaised : Bool}
      (raises : (query.run world .waiting).stop.raised = true) :
      Works world ⟨.running query .empty, stopRaised⟩ ⟨.running query .empty, true⟩
  | ended {query : Query} {stopRaised : Bool} :
      Works world ⟨.running query .empty, stopRaised⟩
        ⟨.running query (.ofOutcome (query.run world .waiting).outcome),
          stopRaised || (query.run world .waiting).stop.raised⟩

/-- Waiting for a value starts workers for some queries, comes to the value, and leaves a
stream. -/
inductive Awaits (world : World) :
    PolledStream → List Query → Option (Except Error Capture) → PolledStream → Prop where
  | ready {stream after : PolledStream} {value : Option (Except Error Capture)}
      (polled : stream.poll = (.ready value, after)) :
      Awaits world stream stream.started.toList value after
  | pending {stream waiting after : PolledStream} {starts : List Query}
      {value : Option (Except Error Capture)} (polled : stream.poll = (.pending, waiting))
      (later : Awaits world waiting starts value after) :
      Awaits world stream (stream.started.toList ++ starts) value after
  | works {stream worked after : PolledStream} {starts : List Query}
      {value : Option (Except Error Capture)} (step : Works world stream worked)
      (later : Awaits world worked starts value after) : Awaits world stream starts value after

/-- A course of requests, each of them waited for, starts workers for some queries, yields
some values, and leaves a stream. -/
inductive Serves (world : World) : PolledStream → List Request → List Query →
    List (Except Error Capture) → PolledStream → Prop where
  | done {stream : PolledStream} : Serves world stream [] [] [] stream
  | next {stream waited after : PolledStream} {requests : List Request}
      {starts queries : List Query} {value : Option (Except Error Capture)}
      {values : List (Except Error Capture)} (awaits : Awaits world stream starts value waited)
      (later : Serves world waited requests queries values after) :
      Serves world stream (.next :: requests) (starts ++ queries) (value.toList ++ values) after
  | cancel {stream after : PolledStream} {request : Request} {requests : List Request}
      {queries : List Query} {values : List (Except Error Capture)}
      (cancels : request.cancels = true)
      (later : Serves world { stream with stopRaised := true } requests queries values after) :
      Serves world stream (request :: requests) queries values after
  | isCancelled {stream after : PolledStream} {requests : List Request}
      {queries : List Query} {values : List (Except Error Capture)}
      (later : Serves world stream requests queries values after) :
      Serves world stream (.isCancelled :: requests) queries values after

variable {world : World} {query : Query} {stream after : PolledStream} {starts : List Query}
  {value : Option (Except Error Capture)}

/-- The end to which waiting for a query comes. -/
def Ends (world : World) (query : Query) (value : Option (Except Error Capture))
    (after : PolledStream) : Prop :=
  value = ((OutcomeStream.ofQuery query).next world).1 ∧
    after = ofStream ((OutcomeStream.ofQuery query).next world).2

/-- A stream whose worker runs a query.  Nobody but the worker asks it to stop, and all that
it asks has been asked when it has ended. -/
inductive Running (world : World) (query : Query) : PolledStream → Prop where
  | busy {stopRaised : Bool}
      (asked : stopRaised = true → (query.run world .waiting).stop.raised = true) :
      Running world query ⟨.running query .empty, stopRaised⟩
  | ended {channel : Channel} (sent : channel = .ofOutcome (query.run world .waiting).outcome) :
      Running world query ⟨.running query channel, (query.run world .waiting).stop.raised⟩

/-- The channel of a worker that nobody has asked to stop tells the outcome of the query. -/
theorem poll_ofOutcome (unraised : (query.run world .waiting).stop.raised = false) :
    (Channel.ofOutcome (query.run world .waiting).outcome).poll =
      .ready (some (query.outcome world)) := by
  rw [Query.outcome_of_unraised unraised]
  have uncancelled := Query.outcome_ne_cancelled world query
  cases ended : query.outcome world with
  | ok capture => rfl
  | error error =>
      cases error with
      | cancelled => exact absurd ended uncancelled
      | brokenDown text =>
          rcases Query.error_of_outcome ended with blamed | delivery
          · contradiction
          · cases delivery
            rfl
      | _ => rfl

theorem next_ofQuery_snd (world : World) (query : Query) :
    ((OutcomeStream.ofQuery query).next world).2 =
      ⟨none, (query.run world .waiting).stop.raised⟩ := by
  unfold OutcomeStream.next OutcomeStream.ofQuery
  simp only
  split <;> simp_all

theorem next_of_raised (raised : (query.run world .waiting).stop.raised = true) :
    ((OutcomeStream.ofQuery query).next world).1 = none := by
  unfold OutcomeStream.next OutcomeStream.ofQuery
  simp only [raised]

theorem ends_of_raised (raised : (query.run world .waiting).stop.raised = true) :
    Ends world query none ⟨.over, true⟩ := by
  refine ⟨(next_of_raised raised).symm, ?_⟩
  rw [next_ofQuery_snd, raised]
  rfl

theorem ends_of_unraised (unraised : (query.run world .waiting).stop.raised = false) :
    Ends world query (some (query.outcome world)) ⟨.over, false⟩ := by
  refine ⟨(OutcomeStream.next_of_unraised unraised).symm, ?_⟩
  rw [next_ofQuery_snd, unraised]
  rfl

theorem ofOutcome_ne_empty (outcome : Except Error Capture) :
    Channel.ofOutcome outcome ≠ .empty := by
  unfold Channel.ofOutcome
  split <;> simp

theorem Running.works {worked : PolledStream} (running : Running world query stream)
    (step : Works world stream worked) : Running world query worked := by
  cases running with
  | @busy already asked =>
      cases step with
      | asked raises => exact .busy fun _ => raises
      | ended =>
          have joined : (already || (query.run world .waiting).stop.raised) =
              (query.run world .waiting).stop.raised := by
            cases already with
            | false => rfl
            | true => rw [asked rfl, Bool.or_true]
          rw [joined]
          exact .ended rfl
  | ended sent => cases step <;> exact absurd sent.symm (ofOutcome_ne_empty _)

/-- A poll of a stream whose worker has ended is the last. -/
theorem poll_ended (world : World) (query : Query) : ∃ value after,
    poll ⟨.running query (.ofOutcome (query.run world .waiting).outcome),
        (query.run world .waiting).stop.raised⟩ = (.ready value, after) ∧
      Ends world query value after := by
  cases raised : (query.run world .waiting).stop.raised with
  | true => exact ⟨none, _, rfl, ends_of_raised raised⟩
  | false =>
      refine ⟨some (query.outcome world), _, ?_, ends_of_unraised raised⟩
      simp [poll, poll_ofOutcome raised]

/-- A poll of a running stream changes nothing, or it is the last. -/
theorem Running.poll (running : Running world query stream) :
    stream.poll = (.pending, stream) ∨
      ∃ value after, stream.poll = (.ready value, after) ∧ Ends world query value after := by
  cases running with
  | @busy already asked =>
      cases already with
      | false => exact Or.inl rfl
      | true => exact Or.inr ⟨none, _, rfl, ends_of_raised (asked rfl)⟩
  | ended sent =>
      subst sent
      exact Or.inr (poll_ended world query)

/-- A worker that runs is not started once more. -/
theorem Running.started (running : Running world query stream) : stream.started = none := by
  cases running <;> rfl

/-- However the polls of a running stream fall, waiting for it comes to one end. -/
theorem Running.ends (running : Running world query stream)
    (awaits : Awaits world stream starts value after) :
    starts = [] ∧ Ends world query value after := by
  induction awaits with
  | ready polled =>
      rw [running.started]
      rcases running.poll with pending | ⟨value, after, ready, ends⟩
      · rw [pending] at polled
        simp at polled
      · rw [ready] at polled
        simp only [Prod.mk.injEq, Poll.ready.injEq] at polled
        obtain ⟨rfl, rfl⟩ := polled
        exact ⟨rfl, ends⟩
  | pending polled later ih =>
      rw [running.started]
      rcases running.poll with pending | ⟨value, after, ready, -⟩
      · rw [pending] at polled
        obtain ⟨-, rfl⟩ := Prod.mk.inj polled
        exact ih running
      · rw [ready] at polled
        simp at polled
  | works step later ih => exact ih (running.works step)

/-- A stream that is spent is over at once. -/
theorem poll_of_spent {stream : OutcomeStream} (spent : stream.Spent) :
    (ofStream stream).poll = (.ready none, ofStream { stream with pending := none }) := by
  obtain ⟨pending, stopRaised⟩ := stream
  rcases spent with raised | done
  · obtain rfl : stopRaised = true := raised
    cases pending <;> rfl
  · obtain rfl : pending = none := done
    cases stopRaised <;> rfl

/-- A query is started at the first poll of a stream that is not cancelled. -/
theorem started_ofStream (stream : OutcomeStream) :
    (ofStream stream).started = stream.started .next := by
  obtain ⟨pending, stopRaised⟩ := stream
  cases pending <;> cases stopRaised <;> rfl

/-- No worker runs before the first poll. -/
theorem not_works_ofStream {stream : OutcomeStream} {worked : PolledStream} :
    ¬ Works world (ofStream stream) worked := by
  obtain ⟨pending, stopRaised⟩ := stream
  intro step
  cases pending <;> cases step

/-- Waiting for a value of a stream starts the query and comes to what `OutcomeStream.next`
says, and to nothing else. -/
theorem awaits_iff (world : World) (stream : OutcomeStream) (starts : List Query)
    (value : Option (Except Error Capture)) (after : PolledStream) :
    Awaits world (ofStream stream) starts value after ↔
      starts = (stream.started .next).toList ∧
        value = (stream.next world).1 ∧ after = ofStream (stream.next world).2 := by
  rw [← started_ofStream]
  by_cases spent : stream.Spent
  · rw [OutcomeStream.next_of_spent spent]
    have polledNow := poll_of_spent spent
    constructor
    · intro awaits
      cases awaits with
      | ready polled =>
          rw [polledNow] at polled
          simp only [Prod.mk.injEq, Poll.ready.injEq] at polled
          exact ⟨rfl, polled.1.symm, polled.2.symm⟩
      | pending polled later =>
          rw [polledNow] at polled
          simp at polled
      | works step later => exact absurd step not_works_ofStream
    · rintro ⟨rfl, rfl, rfl⟩
      exact .ready polledNow
  · obtain ⟨query, rfl⟩ : ∃ query, stream = OutcomeStream.ofQuery query := by
      obtain ⟨pending, stopRaised⟩ := stream
      obtain ⟨unraised, unfinished⟩ := not_or.mp spent
      obtain ⟨query, rfl⟩ := Option.ne_none_iff_exists'.mp unfinished
      exact ⟨query, by rw [Bool.not_eq_true] at unraised; simp_all [OutcomeStream.ofQuery]⟩
    -- The first poll starts the worker.
    have starts : (ofStream (.ofQuery query)).poll =
        (.pending, ⟨.running query .empty, false⟩) := rfl
    constructor
    · intro awaits
      cases awaits with
      | ready polled =>
          rw [starts] at polled
          simp at polled
      | pending polled later =>
          rw [starts] at polled
          obtain ⟨-, rfl⟩ := Prod.mk.inj polled
          obtain ⟨rfl, ends⟩ := (Running.busy (by simp)).ends later
          exact ⟨List.append_nil _, ends⟩
      | works step later => exact absurd step not_works_ofStream
    · rintro ⟨rfl, rfl, rfl⟩
      obtain ⟨value, after, ready, rfl, rfl⟩ := poll_ended world query
      refine .pending starts (.works .ended (.ready ?_))
      rw [Bool.false_or]
      exact ready

theorem ofStream_cancel (stream : OutcomeStream) :
    ofStream stream.cancel = { ofStream stream with stopRaised := true } := by
  obtain ⟨pending, stopRaised⟩ := stream
  cases pending <;> rfl

/-- A course of requests starts the queries and yields the values that the requests come to
one by one, and nothing else. -/
theorem serves_iff (world : World) (stream : OutcomeStream) (requests : List Request)
    (queries : List Query) (values : List (Except Error Capture)) (after : PolledStream) :
    Serves world (ofStream stream) requests queries values after ↔
      queries = stream.runs world requests ∧ values = stream.values world requests ∧
        after = ofStream (stream.afterAll world requests) := by
  induction requests generalizing stream queries values with
  | nil =>
      constructor
      · rintro ⟨⟩
        exact ⟨rfl, rfl, rfl⟩
      · rintro ⟨rfl, rfl, rfl⟩
        exact .done
  | cons request later ih =>
      cases request with
      | next =>
          constructor
          · intro serves
            cases serves with
            | next awaits serves =>
                obtain ⟨rfl, rfl, rfl⟩ := (awaits_iff world stream _ _ _).mp awaits
                obtain ⟨rfl, rfl, rfl⟩ := (ih _ _ _).mp serves
                exact ⟨rfl, rfl, rfl⟩
            | cancel cancels serves => contradiction
          · rintro ⟨rfl, rfl, rfl⟩
            exact .next ((awaits_iff world stream _ _ _).mpr ⟨rfl, rfl, rfl⟩)
              ((ih _ _ _).mpr ⟨rfl, rfl, rfl⟩)
      | cancel | cancelByToken =>
          have served := ih stream.cancel queries values
          rw [ofStream_cancel] at served
          constructor
          · intro serves
            cases serves with
            | cancel cancels serves => exact served.mp serves
          · exact fun same => .cancel rfl (served.mpr same)
      | isCancelled =>
          constructor
          · intro serves
            cases serves with
            | isCancelled serves => exact (ih stream queries values).mp serves
            | cancel cancels serves => contradiction
          · exact fun same => .isCancelled ((ih stream queries values).mpr same)

end PolledStream

namespace OutcomeStream

/-- A stream yields at most one value, whatever its owner asks for in whatever order.  It
yields nothing after its value or after it was cancelled, and never that the query was
cancelled.  The query is run at most once, and not at all if the stream is cancelled before it
is asked for a value.  If it is not, and nobody asks the query to stop while it runs, then
the stream yields the outcome of the query, which may be that its worker broke down.  All of
this is what polling the stream comes to, however the polls and the worker fall. -/
theorem yields_once (world : World) (query : Query) (requests : List Request) :
    let stream := ofQuery query
    (stream.values world requests).length ≤ 1 ∧
    .error .cancelled ∉ stream.values world requests ∧
    (stream.runs world requests).length ≤ 1 ∧
    (∀ queries values after,
      PolledStream.Serves world (.ofStream stream) requests queries values after ↔
        queries = stream.runs world requests ∧ values = stream.values world requests ∧
          after = .ofStream (stream.afterAll world requests)) ∧
    ∀ before request later, requests = before ++ request :: later →
      let here := stream.afterAll world before
      ((here.yielded world request).isSome = true ∨ request.cancels = true →
        (here.after world request).values world later = []) ∧
      (.next ∉ before → request.cancels = true → stream.runs world requests = []) ∧
      ((∀ earlier ∈ before, earlier ≠ .next ∧ earlier.cancels = false) → request = .next →
        (query.run world .waiting).stop.raised = false →
          here.yielded world request = some (query.outcome world)) := by
  intro stream
  refine ⟨length_values_le world stream requests, cancelled_not_mem_values world stream requests,
    length_runs_le world stream requests, PolledStream.serves_iff world stream requests, ?_⟩
  rintro before request later rfl here
  refine ⟨fun last => ?_, fun unasked cancels => ?_, fun first isNext unraised => ?_⟩
  · have counts : request ≠ .isCancelled := by
      rintro rfl
      rcases last with yields | cancels <;> contradiction
    exact (values_of_spent (spent_after counts) later).1
  · rw [runs_eq]
    split
    · rename_i found
      have first : (before ++ request :: later).find? (· ≠ .isCancelled) = some .next := found
      rw [List.find?_append] at first
      rcases Option.or_eq_some_iff.mp first with inside | ⟨-, here⟩
      · exact absurd (List.mem_of_find?_eq_some inside) unasked
      · cases request with
        | next | isCancelled => contradiction
        | cancel | cancelByToken => simp at here
    · rfl
  · subst isNext
    have asked : ∀ earlier ∈ before, earlier = .isCancelled := by
      intro earlier member
      obtain ⟨notNext, notCancel⟩ := first earlier member
      cases earlier with
      | isCancelled => rfl
      | next | cancel | cancelByToken => contradiction
    show ((stream.afterAll world before).next world).1 = _
    rw [afterAll_of_asked asked]
    exact next_of_unraised unraised

end OutcomeStream

end XmlExtract
