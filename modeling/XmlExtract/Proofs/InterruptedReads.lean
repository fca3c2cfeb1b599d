import Mathlib.Data.List.ReduceOption
import XmlExtract.Proofs.BufferedReading
import XmlExtract.Proofs.Deliveries

/-!
# Interrupted reads

A read of a stream may be interrupted.  It has brought nothing then, and has to be made
again.  This file runs a query over what single reads bring (`Buffered.runFetches`): a scanner
that is interrupted goes on in its state with a buffer in which there is nothing, and so does
whoever fetches UTF-16 to its end.  Only the fetch that shows the layout is not made again,
and an interruption there is a failure.  That run is the run of the query on the stream
(`run_ofReads_eq_runFetches`).  So interruptions cannot be seen, unless one comes before all
bytes (`outcome_interrupted`).
-/

namespace XmlExtract

variable {reads : List (Option (List UInt8))}

/-! ### Reads of a stream -/

namespace Delivery

/-- A stream of which each read brings some bytes, or nothing because it is interrupted. -/
def ofReads (reads : List (Option (List UInt8))) : List Delivery :=
  reads.map fun
    | some chunk => .data chunk
    | none => .interruption

/-- Whether a read is interrupted before one has brought bytes. -/
def interruptedFirst : List (Option (List UInt8)) → Bool
  | [] => false
  | none :: _ => true
  | some [] :: later => interruptedFirst later
  | some (_ :: _) :: _ => false

/-- The chunks that some reads bring. -/
def brought (reads : List (Option (List UInt8))) : List (List UInt8) :=
  reads.reduceOption.filter (· ≠ [])

theorem brought_empty (reads : List (Option (List UInt8))) :
    brought (some [] :: reads) = brought reads := by
  simp [brought]

theorem brought_cons (byte : UInt8) (chunk : List UInt8) (reads : List (Option (List UInt8))) :
    brought (some (byte :: chunk) :: reads) = (byte :: chunk) :: brought reads := by
  simp [brought]

theorem nil_not_mem_brought (reads : List (Option (List UInt8))) : [] ∉ brought reads := by
  simp [brought]

theorem brought_filter_isSome (reads : List (Option (List UInt8))) :
    brought (reads.filter Option.isSome) = brought reads := by
  rw [brought, brought]
  congr 1
  induction reads with
  | nil => rfl
  | cons read later ih => cases read <;> simp [ih]

theorem interruptedFirst_filter_isSome (reads : List (Option (List UInt8))) :
    interruptedFirst (reads.filter Option.isSome) = false := by
  induction reads with
  | nil => rfl
  | cons read later ih =>
      match read with
      | none | some [] => exact ih
      | some (byte :: chunk) => rfl

/-- Reads that bring nothing leave no trace in the joined input. -/
theorem joinAfter_ofReads (reads : List (Option (List UInt8))) (count : Nat) :
    joinAfter count (ofReads reads) = joinAfter count (ofChunks (brought reads)) := by
  induction reads generalizing count with
  | nil => rfl
  | cons read later ih =>
      match read with
      | none => exact ih count
      | some [] =>
          rw [brought_empty, ← ih]
          rfl
      | some (byte :: chunk) =>
          have rest := ih (count + (byte :: chunk).length)
          rw [brought_cons]
          simp only [ofReads, ofChunks, List.map_cons, joinAfter] at rest ⊢
          rw [rest]

theorem giveUpEarly_of_interruptedFirst (first : interruptedFirst reads = true) :
    ∃ later, giveUpEarly (ofReads reads) = .failure interruptionText :: later := by
  induction reads with
  | nil => contradiction
  | cons read later ih =>
      match read with
      | none => exact ⟨_, rfl⟩
      | some [] => exact ih first
      | some (byte :: chunk) => contradiction

theorem joinAfter_giveUpEarly (patient : interruptedFirst reads = false) (count : Nat) :
    joinAfter count (giveUpEarly (ofReads reads)) = joinAfter count (ofReads reads) := by
  induction reads with
  | nil => rfl
  | cons read later ih =>
      match read with
      | none => contradiction
      | some [] => exact ih patient
      | some (byte :: chunk) => rfl

end Delivery

open Delivery (ofReads ofChunks interruptedFirst brought)

namespace Supply

/-- What a reader sees of a stream whose first bytes come before an interruption. -/
theorem input_ofReads (patient : interruptedFirst reads = false) {capacity : Nat}
    (room : 0 < capacity) :
    (impatient ⟨ofReads reads, some capacity⟩).input =
      ⟨(brought reads).flatten, min capacity ((brought reads).headD []).length, none, none⟩ := by
  have whole := Delivery.nil_not_mem_brought reads
  rw [← input_ofChunks whole room]
  obtain ⟨capacity, rfl⟩ := Nat.exists_eq_add_one.mpr room
  simp only [impatient, input, Delivery.join, Delivery.joinAfter_giveUpEarly patient,
    Delivery.joinAfter_ofReads, Delivery.giveUpEarly_ofChunks whole]

/-- What a reader sees that is interrupted at its first fetch. -/
theorem input_of_interruptedFirst (first : interruptedFirst reads = true) {capacity : Nat}
    (room : 0 < capacity) :
    ∃ window, (impatient ⟨ofReads reads, some capacity⟩).input =
      ⟨[], window, some (.io Delivery.interruptionText), none⟩ := by
  obtain ⟨later, failure⟩ := Delivery.giveUpEarly_of_interruptedFirst first
  obtain ⟨capacity, rfl⟩ := Nat.exists_eq_add_one.mpr room
  refine ⟨min (capacity + 1) 0, ?_⟩
  simp only [impatient, input, Delivery.join, failure]
  rfl

end Supply

/-! ### Fetching again -/

namespace Buffered

/-- What the reads of a stream fill the buffer with, fetch by fetch.  A fetch that is
interrupted does not fill it. -/
def fetches (capacity : Nat) (reads : List (Option (List UInt8))) :
    List (Option (List UInt8)) :=
  reads.flatMap fun
    | some chunk => (cutUp capacity chunk).map some
    | none => [none]

/-- Run a pattern over what is fetched.  The fetch that shows the layout fails if it is
interrupted.  After any other interruption the reader fetches again, and goes on until then
with a buffer in which there is nothing. -/
def runFetches (pattern : Pattern) (settings : Settings) (stop : StopRequest)
    (fetches : List (Option (List UInt8))) : Run :=
  if fetches.head? = some none then
    ⟨.error (.io Delivery.interruptionText), 0, stop⟩
  else
    run pattern settings stop (fetches.map fun fetch => fetch.getD [])

variable {capacity : Nat}

/-- The fetches that bring something are those for the chunks alone. -/
theorem reduceOption_fetches (capacity : Nat) (reads : List (Option (List UInt8))) :
    (fetches capacity reads).reduceOption = fills capacity (brought reads) := by
  induction reads with
  | nil => rfl
  | cons read later ih =>
      match read with
      | none => exact ih
      | some [] =>
          have nothing : cutUp capacity [] = [] := by
            rw [cutUp, if_pos (.inr rfl)]
          rw [Delivery.brought_empty, ← ih, fetches, List.flatMap_cons]
          simp [nothing, fetches]
      | some (byte :: chunk) =>
          rw [Delivery.brought_cons, fills, List.flatMap_cons, ← fills, ← ih, fetches,
            List.flatMap_cons, List.reduceOption_append]
          simp [List.reduceOption, fetches]

theorem head?_fetches (room : 0 < capacity) (reads : List (Option (List UInt8))) :
    (fetches capacity reads).head? = some none ↔ interruptedFirst reads = true := by
  induction reads with
  | nil => simp [fetches, interruptedFirst]
  | cons read later ih =>
      match read with
      | none => simp [fetches, interruptedFirst]
      | some [] =>
          have nothing : cutUp capacity [] = [] := by
            rw [cutUp, if_pos (.inr rfl)]
          rw [interruptedFirst, ← ih, fetches, List.flatMap_cons]
          simp [nothing, fetches]
      | some (byte :: chunk) =>
          have filled : cutUp capacity (byte :: chunk) =
              (byte :: chunk).take capacity :: cutUp capacity ((byte :: chunk).drop capacity) := by
            rw [cutUp, if_neg (by simp; omega)]
          simp [fetches, interruptedFirst, filled]

theorem flatten_map_getD (fetches : List (Option (List UInt8))) :
    (fetches.map fun fetch => fetch.getD []).flatten = fetches.reduceOption.flatten := by
  induction fetches with
  | nil => rfl
  | cons fetch later ih => cases fetch <;> simp [ih]

theorem headD_map_getD {fetches : List (Option (List UInt8))}
    (first : fetches.head? ≠ some none) :
    (fetches.map fun fetch => fetch.getD []).headD [] = fetches.reduceOption.headD [] := by
  match fetches with
  | [] => rfl
  | some buffer :: later => rfl
  | none :: later => simp at first

/-- A run depends on the first buffer and on what all buffers hold together. -/
theorem run_congr {buffers other : List (List UInt8)} {window : Nat}
    (shown : buffers.headD [] = buffers.flatten.take window)
    (first : other.headD [] = buffers.headD []) (joined : other.flatten = buffers.flatten)
    (pattern : Pattern) (settings : Settings) (stop : StopRequest) :
    run pattern settings stop other = run pattern settings stop buffers := by
  have otherShown : other.headD [] = other.flatten.take window := by
    rw [first, joined, shown]
  unfold run
  rw [replies_eq otherShown, replies_eq shown, first, joined]

/-- Interruptions behind the first fetch cannot be seen. -/
theorem runFetches_eq_run (room : 0 < capacity) (patient : interruptedFirst reads = false)
    (pattern : Pattern) (settings : Settings) (stop : StopRequest) :
    runFetches pattern settings stop (fetches capacity reads) =
      run pattern settings stop (fills capacity (brought reads)) := by
  have first : (fetches capacity reads).head? ≠ some none := by
    rw [ne_eq, head?_fetches room, patient]
    exact Bool.false_ne_true
  have shown := headD_fills (Delivery.nil_not_mem_brought reads) room
  rw [← flatten_fills room] at shown
  rw [runFetches, if_neg first]
  apply run_congr shown
  · rw [headD_map_getD first, reduceOption_fetches]
  · rw [flatten_map_getD, reduceOption_fetches]

end Buffered

/-! ### Queries over streams with interruptions -/

namespace Query

variable {world : World} {query : Query} {pattern : Pattern} {settings : Settings}
  {stop : StopRequest}

/-- A query on an input that ends without a failure fails only by the fault of the
document. -/
theorem blamesDocument_of_sound {supply : Supply} {bytes : List UInt8} {window : Nat}
    (opened : query.source.supply world query.settings = .ok supply)
    (seen : supply.impatient.input = ⟨bytes, window, none, none⟩) {error : Error}
    (failed : query.outcome world = .error error) : error.blamesDocument = true := by
  rw [outcome, run_of_sound opened seen] at failed
  cases layout : Layout.detect (bytes.take window) with
  | ascii =>
      simp only [layout] at failed
      exact blamesDocument_of_run rfl failed
  | utf16 order =>
      simp only [layout] at failed
      cases transcoded : Layout.utf16ToUtf8 order bytes with
      | error reason =>
          simp only [transcoded, Except.error.injEq] at failed
          subst failed
          have refused : (Layout.utf16 order).transcode bytes = .error reason := transcoded
          exact Layout.blames_transcode refused
      | ok utf8 =>
          simp only [transcoded] at failed
          exact blamesDocument_of_run rfl failed

theorem opened_of_fits (fits : settings.bufferSize < Source.blockLimit) (world : World)
    (deliveries : List Delivery) :
    Source.supply world settings (.stream deliveries) =
      .ok ⟨deliveries, some settings.bufferSize⟩ := by
  rw [Source.supply, Source.withBuffer, if_pos fits]

/-- No block of memory is that large, whatever there is to be read. -/
theorem outcome_of_large (large : Source.blockLimit ≤ settings.bufferSize) (world : World)
    (pattern : Pattern) (deliveries : List Delivery) :
    outcome world ⟨.stream deliveries, pattern, settings⟩ =
      .error (.brokenDown Delivery.breakdownText) := by
  have opened : Source.supply world settings (.stream deliveries) = .ok ⟨[.breakdown], none⟩ := by
    rw [Source.supply, Source.withBuffer, if_neg (Nat.not_lt.mpr large)]
  unfold outcome run
  simp only [opened]
  rfl

theorem run_of_interruptedFirst (room : 0 < settings.bufferSize)
    (fits : settings.bufferSize < Source.blockLimit) (first : interruptedFirst reads = true) :
    run world ⟨.stream (ofReads reads), pattern, settings⟩ stop =
      ⟨.error (.io Delivery.interruptionText), 0, stop⟩ := by
  obtain ⟨window, seen⟩ := Supply.input_of_interruptedFirst first room
  have same : stop.raiseIf false = stop := by
    rw [StopRequest.raiseIf, Bool.or_false]
  unfold run
  simp only [opened_of_fits fits, seen]
  exact congrArg (Run.mk _ 0) same

/-- The run of a query on a stream is the run over what is fetched from it. -/
theorem run_ofReads_eq_runFetches (room : 0 < settings.bufferSize)
    (fits : settings.bufferSize < Source.blockLimit) (world : World) (pattern : Pattern)
    (stop : StopRequest) (reads : List (Option (List UInt8))) :
    run world ⟨.stream (ofReads reads), pattern, settings⟩ stop =
      Buffered.runFetches pattern settings stop (Buffered.fetches settings.bufferSize reads) := by
  cases first : interruptedFirst reads with
  | true =>
      rw [run_of_interruptedFirst room fits first, Buffered.runFetches,
        if_pos ((Buffered.head?_fetches room reads).mpr first)]
  | false =>
      have whole := Delivery.nil_not_mem_brought reads
      rw [Buffered.runFetches_eq_run room first, ← run_ofChunks whole room fits world,
        run_of_sound (opened_of_fits fits world _) (Supply.input_ofReads first room),
        run_of_sound (opened_of_fits fits world _) (Supply.input_ofChunks whole room)]

/-- Interrupted reads are made again, so that they have no influence on a query, with one
exception: the fetch that shows the layout is not made again.  The query has the outcome that
it has without the interruptions exactly if none comes before all bytes (or if the buffer is
too large to be laid out, and nothing is read); else the interruption is its failure.  The run
goes from fetch to fetch, and its scanners carry their states across the interruptions. -/
theorem outcome_interrupted (world : World) (pattern : Pattern) (settings : Settings)
    (room : 0 < settings.bufferSize) (reads : List (Option (List UInt8))) :
    let streamed := fun reads => outcome world ⟨.stream (ofReads reads), pattern, settings⟩
    (streamed reads = streamed (reads.filter Option.isSome) ↔
      (settings.bufferSize < Source.blockLimit → interruptedFirst reads = false)) ∧
    (settings.bufferSize < Source.blockLimit →
      (interruptedFirst reads = true →
        streamed reads = .error (.io Delivery.interruptionText)) ∧
      ∀ stop, run world ⟨.stream (ofReads reads), pattern, settings⟩ stop =
        Buffered.runFetches pattern settings stop
          (Buffered.fetches settings.bufferSize reads)) := by
  intro streamed
  have failed (fits : settings.bufferSize < Source.blockLimit)
      (first : interruptedFirst reads = true) :
      streamed reads = .error (.io Delivery.interruptionText) :=
    congrArg Run.outcome (run_of_interruptedFirst room fits first)
  refine ⟨?_, fun fits => ⟨failed fits, fun stop =>
    run_ofReads_eq_runFetches room fits world pattern stop reads⟩⟩
  have uninterrupted := Delivery.interruptedFirst_filter_isSome reads
  constructor
  · intro same fits
    cases first : interruptedFirst reads with
    | false => rfl
    | true =>
        rw [failed fits first] at same
        have blames := blamesDocument_of_sound (opened_of_fits fits world _)
          (Supply.input_ofReads uninterrupted room) same.symm
        contradiction
  · intro patient
    rcases Nat.lt_or_ge settings.bufferSize Source.blockLimit with fits | large
    · show (run _ _ _).outcome = (run _ _ _).outcome
      rw [run_of_sound (opened_of_fits fits world _) (Supply.input_ofReads (patient fits) room),
        run_of_sound (opened_of_fits fits world _) (Supply.input_ofReads uninterrupted room),
        Delivery.brought_filter_isSome]
    · exact (outcome_of_large large world pattern _).trans
        (outcome_of_large large world pattern _).symm

/-- `<a>é</a>`, interrupted inside of the letter and twice inside of the end tag. -/
def interruptedInside : List (Option (List UInt8)) :=
  [some [0x3C, 0x61, 0x3E, 0xC3], none, some [0xA9, 0x3C], none, none, some [0x2F, 0x61, 0x3E]]

theorem outcome_interruptedInside :
    0 < Settings.standard.bufferSize ∧
      outcome World.bare ⟨.stream (ofReads interruptedInside), .root, .standard⟩ =
        outcome World.bare
          ⟨.stream (ofReads (interruptedInside.filter Option.isSome)), .root, .standard⟩ :=
  ⟨by decide, (outcome_interrupted World.bare .root .standard (by decide)
    interruptedInside).1.mpr fun _ => rfl⟩

/-- `<a/>` behind an interruption is not read, and without it it is. -/
theorem outcome_interrupted_before :
    let reads := [none, some [0x3C, 0x61, 0x2F, 0x3E]]
    outcome World.bare ⟨.stream (ofReads reads), .root, .standard⟩ =
        .error (.io "interrupted") ∧
      (outcome World.bare ⟨.stream (ofReads (reads.filter Option.isSome)), .root,
        .standard⟩).isOk = true := by
  exact ⟨rfl, by decide +kernel⟩

end Query

end XmlExtract
