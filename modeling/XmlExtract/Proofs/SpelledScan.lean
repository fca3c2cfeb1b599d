import Mathlib.Data.List.Infix
import Mathlib.Data.List.Induction
import XmlExtract.Markup.Scan
import XmlExtract.Proofs.Utf8RoundTrip

/-!
# Scanning characters

Scanners look for the end of a construct among bytes, and constructs are made of
characters.  The marks that a scanner looks for are ASCII characters, whose bytes stand
in no other character, so that a construct is open as long as its characters do not
close it: a CDATA section (`Scanner.cdata_open`), a comment (`Scanner.comment_open`), an
instruction (`Scanner.instruction_open`), and a tag with quoted values
(`Scanner.tag_quoted`).
-/

namespace XmlExtract

/-! ### Running a scanner -/

section Scan

variable {σ : Type} {step : σ → UInt8 → Option σ} {state last : σ}
  {bytes rest : List UInt8} {closing : UInt8}

theorem scanAfter_append (before : List UInt8)
    (taken : bytes.foldlM step state = some last) :
    scanAfter step state before (bytes ++ rest) =
      scanAfter step last (bytes.reverse ++ before) rest := by
  induction bytes generalizing state before with
  | nil =>
      have same : state = last := by simpa using taken
      rw [same]
      rfl
  | cons byte later ih =>
      rw [List.foldlM_cons] at taken
      cases next : step state byte with
      | none => simp [next] at taken
      | some following =>
          have takenLater : later.foldlM step following = some last := by
            simpa [next] using taken
          rw [List.cons_append, scanAfter, next, List.reverse_cons, List.append_assoc]
          exact ih _ takenLater

/-- A scanner that takes some bytes and closes at the next one has found them. -/
theorem scan_closing (taken : bytes.foldlM step state = some last)
    (closes : step last closing = none) :
    scan step state (bytes ++ closing :: rest) = some (bytes, rest) := by
  rw [scan, scanAfter_append [] taken, scanAfter, closes, List.append_nil,
    List.reverse_reverse]

/-- Bytes that take a scanner to one state, wherever it is, take it there together. -/
theorem foldlM_settled {settled : σ} (nonempty : bytes ≠ [])
    (settles : ∀ byte ∈ bytes, ∀ state, step state byte = some settled) (state : σ) :
    bytes.foldlM step state = some settled := by
  induction bytes generalizing state with
  | nil => contradiction
  | cons byte later ih =>
      rw [List.forall_mem_cons] at settles
      rw [List.foldlM_cons, settles.1]
      cases later with
      | nil => rfl
      | cons next further => exact ih (List.cons_ne_nil _ _) settles.2 settled

/-- Bytes that leave a scanner in its state do so together. -/
theorem foldlM_stays (stays : ∀ byte ∈ bytes, step state byte = some state) :
    bytes.foldlM step state = some state := by
  induction bytes with
  | nil => rfl
  | cons byte later ih =>
      rw [List.forall_mem_cons] at stays
      rw [List.foldlM_cons, stays.1]
      exact ih stays.2

end Scan

namespace Scanner

theorem tag_outside {bytes : List UInt8}
    (plain : ∀ byte ∈ bytes,
      byte ≠ Byte.greater ∧ byte ≠ Byte.quote ∧ byte ≠ Byte.apostrophe) :
    bytes.foldlM tag none = some none := by
  apply foldlM_stays
  intro byte member
  simp [tag, plain byte member]

theorem tag_inside {quote : UInt8} {bytes : List UInt8} (unclosed : quote ∉ bytes) :
    bytes.foldlM tag (some quote) = some (some quote) := by
  apply foldlM_stays
  intro byte member
  have other : byte ≠ quote := fun same => unclosed (same ▸ member)
  simp [tag, other]

/-- A quoted value, whatever stands in it, leaves a tag open. -/
theorem tag_quoted {quote : UInt8} {bytes : List UInt8}
    (isQuote : quote = Byte.quote ∨ quote = Byte.apostrophe) (unclosed : quote ∉ bytes) :
    (quote :: (bytes ++ [quote])).foldlM tag none = some none := by
  have opens : tag none quote = some (some quote) := by
    rcases isQuote with rfl | rfl <;> decide
  have closes : tag (some quote) quote = some none := by
    simp [tag]
  rw [List.foldlM_cons, opens]
  simp [List.foldlM_append, tag_inside unclosed, closes]

/-! ### Scanning characters -/

variable {characters : List Char} {character : Char}

theorem marks_not_mem {first second : Char} (asciiFirst : first.toNat < 0x80)
    (asciiSecond : second.toNat < 0x80) (notFirst : character ≠ first)
    (notSecond : character ≠ second) :
    ∀ byte ∈ Utf8.encode [character],
      byte ≠ UInt8.ofNat first.toNat ∧ byte ≠ UInt8.ofNat second.toNat := by
  intro byte member
  constructor
  · exact Utf8.ne_of_mem_encode member first asciiFirst
      (fun inside => notFirst (List.mem_singleton.mp inside).symm)
  · exact Utf8.ne_of_mem_encode member second asciiSecond
      (fun inside => notSecond (List.mem_singleton.mp inside).symm)

theorem cdata_other {bytes : List UInt8} (nonempty : bytes ≠ [])
    (plain : ∀ byte ∈ bytes, byte ≠ Byte.greater ∧ byte ≠ Byte.closeBracket)
    (brackets : Nat) : bytes.foldlM cdata brackets = some 0 := by
  apply foldlM_settled nonempty
  intro byte member count
  simp [cdata, plain byte member]

/-- A CDATA section in which nothing closes it is open, and its scanner has counted the
brackets at its end. -/
theorem cdata_open (unclosed : ¬ [']', ']', '>'] <:+: characters) :
    ∃ brackets front, (Utf8.encode characters).foldlM cdata 0 = some brackets ∧
      characters = front ++ List.replicate brackets ']' := by
  -- From the end, since the scanner counts the last brackets.
  induction characters using List.reverseRecOn with
  | nil => exact ⟨0, [], rfl, rfl⟩
  | append_singleton before character ih =>
      have unclosedBefore : ¬ [']', ']', '>'] <:+: before := fun inside =>
        unclosed (inside.trans (List.prefix_append _ _).isInfix)
      obtain ⟨brackets, front, taken, counted⟩ := ih unclosedBefore
      rw [Utf8.encode_append, List.foldlM_append, taken]
      by_cases bracket : character = ']'
      · subst bracket
        refine ⟨brackets + 1, front, rfl, ?_⟩
        rw [counted, List.append_assoc, List.replicate_succ']
      · refine ⟨0, before ++ [character], ?_, by simp⟩
        by_cases greater : character = '>'
        · subst greater
          -- With two brackets before it, this one would close the section.
          have few : ¬ 2 ≤ brackets := by
            intro many
            apply unclosed
            refine ⟨front ++ List.replicate (brackets - 2) ']', [], ?_⟩
            have split : brackets = brackets - 2 + 2 := by omega
            rw [counted, split, List.replicate_succ', List.replicate_succ']
            simp
          show (cdata brackets Byte.greater).bind some = some 0
          rw [cdata, if_neg (by simp [few])]
          rfl
        · have plain := marks_not_mem (by decide) (by decide) greater bracket
          exact cdata_other (Utf8.encode_ne_nil (by simp)) plain brackets

theorem comment_other {bytes : List UInt8} (nonempty : bytes ≠ [])
    (plain : ∀ byte ∈ bytes, byte ≠ Byte.greater ∧ byte ≠ Byte.hyphen) (state : Nat × Nat) :
    bytes.foldlM comment state = some (state.1 + bytes.length, 0) := by
  induction bytes generalizing state with
  | nil => contradiction
  | cons byte later ih =>
      rw [List.forall_mem_cons] at plain
      have step : comment state byte = some (state.1 + 1, 0) := by
        simp [comment, plain.1]
      rw [List.foldlM_cons, step]
      cases later with
      | nil => rfl
      | cons next further =>
          have rest := ih (by simp) plain.2 (state.1 + 1, 0)
          have sizes : state.1 + (byte :: next :: further).length =
              state.1 + 1 + (next :: further).length := by
            simp only [List.length_cons]
            omega
          rw [sizes]
          exact rest

/-- A comment without two hyphens in a row is open.  The hyphens that its scanner has
counted stand at its end, unless they are those of its opening. -/
theorem comment_open (noHyphens : ¬ ['-', '-'] <:+: characters) :
    ∃ count hyphens, (Utf8.encode characters).foldlM comment (3, 2) = some (count, hyphens) ∧
      3 ≤ count ∧ (2 ≤ hyphens → count ≤ 4) ∧
      (1 ≤ hyphens → count = 3 ∨ ∃ front, characters = front ++ ['-']) := by
  induction characters using List.reverseRecOn with
  | nil => exact ⟨3, 2, rfl, by omega, by omega, by omega⟩
  | append_singleton before character ih =>
      have noHyphensBefore : ¬ ['-', '-'] <:+: before := fun inside =>
        noHyphens (inside.trans (List.prefix_append _ _).isInfix)
      obtain ⟨count, hyphens, taken, least, early, atEnd⟩ := ih noHyphensBefore
      rw [Utf8.encode_append, List.foldlM_append, taken]
      by_cases hyphen : character = '-'
      · subst hyphen
        refine ⟨count + 1, hyphens + 1, rfl, by omega, ?_, fun _ => Or.inr ⟨before, rfl⟩⟩
        intro several
        -- Only the two hyphens of the opening may stand next to each other.
        rcases atEnd (by omega) with opening | ⟨front, ends⟩
        · omega
        · exact absurd ⟨front, [], by simp [ends]⟩ noHyphens
      · by_cases greater : character = '>'
        · subst greater
          have stays : ¬ (5 ≤ count ∧ 2 ≤ hyphens) := by omega
          refine ⟨count + 1, 0, ?_, by omega, by omega, by omega⟩
          show (comment (count, hyphens) Byte.greater).bind some = some (count + 1, 0)
          rw [comment, if_neg (by simpa [and_assoc] using stays)]
          rfl
        · have plain := marks_not_mem (by decide) (by decide) greater hyphen
          have other := comment_other (Utf8.encode_ne_nil (by simp)) plain (count, hyphens)
          exact ⟨_, 0, other, by omega, by omega, by omega⟩

theorem instruction_other {bytes : List UInt8} (nonempty : bytes ≠ [])
    (plain : ∀ byte ∈ bytes, byte ≠ Byte.greater ∧ byte ≠ Byte.question) (state : Bool) :
    bytes.foldlM instruction state = some false := by
  apply foldlM_settled nonempty
  intro byte member state
  simp [instruction, plain byte member]

/-- An instruction in which nothing closes it is open, and its scanner knows whether it
ends with a question mark. -/
theorem instruction_open (unclosed : ¬ ['?', '>'] <:+: characters) :
    ∃ afterQuestion, (Utf8.encode characters).foldlM instruction false = some afterQuestion ∧
      (afterQuestion = true → ∃ front, characters = front ++ ['?']) := by
  induction characters using List.reverseRecOn with
  | nil => exact ⟨false, rfl, by simp⟩
  | append_singleton before character ih =>
      have unclosedBefore : ¬ ['?', '>'] <:+: before := fun inside =>
        unclosed (inside.trans (List.prefix_append _ _).isInfix)
      obtain ⟨afterQuestion, taken, atEnd⟩ := ih unclosedBefore
      rw [Utf8.encode_append, List.foldlM_append, taken]
      by_cases question : character = '?'
      · subst question
        refine ⟨true, ?_, fun _ => ⟨before, rfl⟩⟩
        have step : instruction afterQuestion Byte.question = some true := by
          cases afterQuestion <;> decide
        show (instruction afterQuestion Byte.question).bind some = some true
        rw [step]
        rfl
      · refine ⟨false, ?_, by simp⟩
        by_cases greater : character = '>'
        · subst greater
          cases afterQuestion with
          | false => rfl
          | true =>
              obtain ⟨front, ends⟩ := atEnd rfl
              exact absurd ⟨front, [], by simp [ends]⟩ unclosed
        · have plain := marks_not_mem (by decide) (by decide) greater question
          exact instruction_other (Utf8.encode_ne_nil (by simp)) plain afterQuestion

end Scanner

end XmlExtract
