import XmlExtract.Markup.Byte

/-!
# Scanning for the end of a construct

Every construct of markup ends at a byte that is recognised by looking at the
bytes before it.  A scanner is a state and a step that either takes a byte into
the construct or closes it there.  `scan` runs a scanner; what it takes, the
closing byte and what it leaves make up what it was given.
-/

namespace XmlExtract

/-- Run a scanner after it has taken `before`, in reverse.  Answers what it took up
to the byte at which it closed, and what comes after that byte. -/
def scanAfter {σ : Type} (step : σ → UInt8 → Option σ) (state : σ) (before : List UInt8) :
    List UInt8 → Option (List UInt8 × List UInt8)
  | [] => none
  | byte :: rest =>
      match step state byte with
      | some state => scanAfter step state (byte :: before) rest
      | none => some (before.reverse, rest)

/-- Run a scanner from its first state. -/
def scan {σ : Type} (step : σ → UInt8 → Option σ) (state : σ) (bytes : List UInt8) :
    Option (List UInt8 × List UInt8) :=
  scanAfter step state [] bytes

theorem scanAfter_eq_some {σ : Type} {step : σ → UInt8 → Option σ} {state : σ}
    {before bytes taken rest : List UInt8}
    (found : scanAfter step state before bytes = some (taken, rest)) :
    ∃ closing, taken ++ closing :: rest = before.reverse ++ bytes := by
  induction bytes generalizing state before with
  | nil => simp [scanAfter] at found
  | cons byte later ih =>
      unfold scanAfter at found
      split at found
      · obtain ⟨closing, joined⟩ := ih found
        exact ⟨closing, by simpa using joined⟩
      · simp only [Option.some.injEq, Prod.mk.injEq] at found
        obtain ⟨rfl, rfl⟩ := found
        exact ⟨byte, rfl⟩

/-- What a scan takes, the byte at which it closes and what it leaves are what it
was given. -/
theorem scan_eq_some {σ : Type} {step : σ → UInt8 → Option σ} {state : σ}
    {bytes taken rest : List UInt8} (found : scan step state bytes = some (taken, rest)) :
    ∃ closing, taken ++ closing :: rest = bytes :=
  scanAfter_eq_some found

theorem scan_rest_length_lt {σ : Type} {step : σ → UInt8 → Option σ} {state : σ}
    {bytes taken rest : List UInt8} (found : scan step state bytes = some (taken, rest)) :
    rest.length < bytes.length := by
  obtain ⟨closing, rfl⟩ := scan_eq_some found
  simp only [List.length_append, List.length_cons]
  omega

namespace Scanner

/-- A tag closes at `>` outside of quotes.  The state is the quote that is open. -/
def tag (state : Option UInt8) (byte : UInt8) : Option (Option UInt8) :=
  match state with
  | none =>
      if byte == Byte.greater then none
      else if byte == Byte.quote || byte == Byte.apostrophe then some (some byte)
      else some none
  | some quote => if byte == quote then some none else some (some quote)

/-- An instruction closes at `>` after `?`.  The state is whether the byte before
was `?`. -/
def instruction (afterQuestion : Bool) (byte : UInt8) : Option Bool :=
  if byte == Byte.greater && afterQuestion then none else some (byte == Byte.question)

/-- A comment closes at `>` after two hyphens, if at least five bytes come before
it, counted from the exclamation mark.  The state is the number of bytes so far
and the number of hyphens at their end. -/
def comment (state : Nat × Nat) (byte : UInt8) : Option (Nat × Nat) :=
  if byte == Byte.greater && 5 ≤ state.1 && 2 ≤ state.2 then none
  else some (state.1 + 1, if byte == Byte.hyphen then state.2 + 1 else 0)

/-- A CDATA section closes at `>` after two brackets.  The state is the number of
closing brackets at the end. -/
def cdata (brackets : Nat) (byte : UInt8) : Option Nat :=
  if byte == Byte.greater && 2 ≤ brackets then none
  else some (if byte == Byte.closeBracket then brackets + 1 else 0)

/-- A document type declaration closes at the `>` that no `<` inside opened.  The
state is the number of these still open. -/
def doctype (opened : Nat) (byte : UInt8) : Option Nat :=
  if byte == Byte.less then some (opened + 1)
  else if byte == Byte.greater then
    match opened with
    | 0 => none
    | opened + 1 => some opened
  else some opened

end Scanner

end XmlExtract
