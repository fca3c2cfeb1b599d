import XmlExtract.Proofs.SurrogatePairs
import XmlExtract.Proofs.Utf8RoundTrip

/-!
# Transcoded inputs

Transcoding UTF-16 undoes writing it, and the other way round (`transcode_inverts`).  Where it
fails on whole units, it names the first surrogate that is alone.  The position counts the
characters before that surrogate and not their units, so that it is the byte of the surrogate
only where no pair comes before it (`transcode_unpaired`, `transcode_behindPair`).
-/

namespace XmlExtract

namespace Layout

open Utf16 (ByteOrder)

/-- The length of the byte order mark with which an input begins, if it begins with that of
this order. -/
def markLength (order : ByteOrder) (input : List UInt8) : Nat :=
  if order.mark.isPrefixOf input then 2 else 0

/-- What follows the byte order mark, if there is one. -/
def behindMark (order : ByteOrder) (input : List UInt8) : List UInt8 :=
  input.drop (markLength order input)

theorem transcode_utf16 (order : ByteOrder) (input : List UInt8) :
    (utf16 order).transcode input =
      if (behindMark order input).length % 2 = 0 then
        match Utf16.decode (Utf16.unitsOf order (behindMark order input)) with
        | .ok characters => .ok (Utf8.encode characters)
        | .error unpaired =>
            .error (.invalid (markLength order input + 2 * unpaired.before)
              (.unpairedSurrogate unpaired.unit))
      else
        .error (.invalid input.length .oddUtf16) := by
  have units := Utf16.units?_eq order (behindMark order input)
  by_cases even : (behindMark order input).length % 2 = 0
  · rw [if_pos even] at units ⊢
    unfold behindMark markLength at units
    simp only [transcode, utf16ToUtf8, units]
    rfl
  · rw [if_neg even] at units ⊢
    unfold behindMark markLength at units
    simp only [transcode, utf16ToUtf8, units]

theorem transcode_eq_ok_iff (order : ByteOrder) (input output : List UInt8) :
    (utf16 order).transcode input = .ok output ↔
      (behindMark order input).length % 2 = 0 ∧
        ∃ characters, Utf16.decode (Utf16.unitsOf order (behindMark order input)) =
          .ok characters ∧ Utf8.encode characters = output := by
  rw [transcode_utf16]
  split
  · rename_i even
    cases Utf16.decode (Utf16.unitsOf order (behindMark order input)) <;> simp [even]
  · rename_i odd
    simp [odd]

/-- A text that does not begin with the character of the byte order mark does not begin with
the mark. -/
theorem not_mark_prefix_encode (order : ByteOrder) {characters : List Char}
    (unmarked : characters.head? ≠ some '\uFEFF') :
    ¬ order.mark <+: Utf16.encode order characters := by
  rintro ⟨rest, whole⟩
  have units := (Utf16.decode_units order characters).1
  rw [← whole, ByteOrder.mark, Utf16.units?_bytes_append order (by decide),
    Option.map_eq_some_iff] at units
  obtain ⟨later, -, written⟩ := units
  have fit : ∀ unit ∈ later, unit < 0x10000 := by
    intro unit member
    apply Utf16.lt_of_mem_encodeUnits
    rw [← written]
    exact List.mem_cons_of_mem _ member
  have read := (Utf16.decode_units order characters).2
  rw [← written, Utf16.decode, Utf16.decodeAfter_one (by decide) (by decide)] at read
  have reads := Utf16.reads_decodeAfter 1 [Char.ofNat 0xFEFF] fit
  rw [read] at reads
  obtain ⟨others, begins, -⟩ := reads
  apply unmarked
  rw [begins]
  rfl

/-- Transcoding undoes writing a text in UTF-16, behind a byte order mark or without one.  It
succeeds exactly on whole units in which every surrogate is one of a pair, and then writing
the text in UTF-16 undoes it. -/
theorem transcode_inverts (order : ByteOrder) :
    (∀ text : String,
      (utf16 order).transcode (order.mark ++ Utf16.encode order text.toList) =
        .ok (Utf8.encodeString text) ∧
      (text.toList.head? ≠ some '\uFEFF' →
        (utf16 order).transcode (Utf16.encode order text.toList) =
          .ok (Utf8.encodeString text))) ∧
    ∀ input,
      ((∃ output, (utf16 order).transcode input = .ok output) ↔
        (behindMark order input).length % 2 = 0 ∧
          Utf16.Paired (Utf16.unitsOf order (behindMark order input))) ∧
      ∀ output, (utf16 order).transcode input = .ok output →
        ∃ text : String, Utf8.decode output = .ok text.toList ∧
          output = Utf8.encodeString text ∧
          Utf16.encode order text.toList = behindMark order input := by
  refine ⟨fun text => ⟨utf16ToUtf8_marked order _, fun unmarked => ?_⟩, fun input => ?_⟩
  · exact utf16ToUtf8_unmarked order _ (not_mark_prefix_encode order unmarked)
  have fit := Utf16.unitsOf_lt order (behindMark order input)
  simp only [transcode_eq_ok_iff]
  constructor
  · rw [← Utf16.exists_decode_iff fit]
    constructor
    · rintro ⟨output, even, characters, done, -⟩
      exact ⟨even, characters, done⟩
    · rintro ⟨even, characters, done⟩
      exact ⟨_, even, characters, done, rfl⟩
  · rintro output ⟨even, characters, done, rfl⟩
    have written := (Utf16.decode_eq_ok_iff fit characters).mp done
    refine ⟨String.ofList characters, ?_, ?_, ?_⟩
    · rw [String.toList_ofList, Utf8.decode_encode]
    · rw [Utf8.encodeString, String.toList_ofList]
    · rw [String.toList_ofList, Utf16.encode_eq, ← written, Utf16.flatMap_bytes_unitsOf order even]

/-- An input of whole units fails at the byte of its first surrogate that is alone. -/
def BlamesOwnByte (order : ByteOrder) (input : List UInt8) : Prop :=
  ∀ before unit after,
    Utf16.FirstAlone (Utf16.unitsOf order (behindMark order input)) before unit after →
      (utf16 order).transcode input =
        .error (.invalid (markLength order input + 2 * before.length) (.unpairedSurrogate unit))

/-- The first surrogate that is alone is blamed.  The position falls short of its byte by two
for each pair before it, so that it is its byte exactly if no pair comes before it. -/
theorem transcode_unpaired (order : ByteOrder) {input : List UInt8}
    (even : (behindMark order input).length % 2 = 0)
    (unpaired : ¬ Utf16.Paired (Utf16.unitsOf order (behindMark order input))) :
    ∃ before unit after position,
      Utf16.FirstAlone (Utf16.unitsOf order (behindMark order input)) before unit after ∧
      (utf16 order).transcode input = .error (.invalid position (.unpairedSurrogate unit)) ∧
      position + 2 * before.countP Utf16.isHighSurrogate =
        markLength order input + 2 * before.length ∧
      (BlamesOwnByte order input ↔ ∀ earlier ∈ before, Utf16.isHighSurrogate earlier = false) := by
  have fit := Utf16.unitsOf_lt order (behindMark order input)
  cases done : Utf16.decode (Utf16.unitsOf order (behindMark order input)) with
  | ok characters => exact absurd ((Utf16.exists_decode_iff fit).mp ⟨characters, done⟩) unpaired
  | error fault =>
      obtain ⟨before, after, found, counts⟩ := Utf16.firstAlone_of_decode fit done
      have blamed : (utf16 order).transcode input =
          .error (.invalid (markLength order input + 2 * fault.before)
            (.unpairedSurrogate fault.unit)) := by
        rw [transcode_utf16, if_pos even, done]
      refine ⟨before, fault.unit, after, _, found, blamed, by omega, ?_⟩
      have noPair : (∀ earlier ∈ before, Utf16.isHighSurrogate earlier = false) ↔
          before.countP Utf16.isHighSurrogate = 0 := by
        simp [List.countP_eq_zero]
      rw [noPair]
      constructor
      · intro own
        have claimed := own before fault.unit after found
        rw [blamed] at claimed
        simp only [Except.error.injEq, Error.invalid.injEq] at claimed
        omega
      · intro none front other back again
        obtain ⟨rfl, rfl⟩ := found.unique again
        rw [blamed]
        congr 2
        omega

/-- A letter, and the second half of a pair behind it. -/
def halfBehindLetter : List UInt8 := [0xFE, 0xFF, 0x00, 0x61, 0xDC, 0x00, 0x00, 0x62]

theorem transcode_behindLetter :
    ∃ before unit after position,
      Utf16.FirstAlone (Utf16.unitsOf .big (behindMark .big halfBehindLetter)) before unit after ∧
      (utf16 .big).transcode halfBehindLetter =
        .error (.invalid position (.unpairedSurrogate unit)) ∧
      position + 2 * before.countP Utf16.isHighSurrogate =
        markLength .big halfBehindLetter + 2 * before.length ∧
      (BlamesOwnByte .big halfBehindLetter ↔
        ∀ earlier ∈ before, Utf16.isHighSurrogate earlier = false) := by
  apply transcode_unpaired .big (by decide)
  intro paired
  exact paired [0x61] 0xDC00 [0x62] rfl (Or.inr ⟨rfl, by decide⟩)

/-- A pair, and the first half of another one behind it. -/
def halfBehindPair : List UInt8 := [0xFF, 0xFE, 0x3D, 0xD8, 0x00, 0xDE, 0x00, 0xD8]

/-- The half behind the pair is at byte 6, and byte 4 is blamed. -/
theorem transcode_behindPair :
    (utf16 .little).transcode halfBehindPair = .error (.invalid 4 (.unpairedSurrogate 0xD800)) ∧
      ¬ BlamesOwnByte .little halfBehindPair := by
  have blamed : (utf16 .little).transcode halfBehindPair =
      .error (.invalid 4 (.unpairedSurrogate 0xD800)) := rfl
  refine ⟨blamed, fun own => ?_⟩
  have written : Utf16.encodeUnits [Char.ofNat 0x1F600] = [0xD83D, 0xDE00] := by decide
  have found : Utf16.FirstAlone (Utf16.unitsOf .little (behindMark .little halfBehindPair))
      [0xD83D, 0xDE00] 0xD800 [] := by
    refine ⟨rfl, Or.inl ⟨rfl, by decide⟩, ?_⟩
    intro earlier other later split shorter
    rw [← written] at shorter
    exact Utf16.not_alone_of_encodeUnits (by rw [written]; exact split) shorter
  have claimed := own _ _ _ found
  rw [blamed] at claimed
  simp only [Except.error.injEq, Error.invalid.injEq] at claimed
  exact absurd claimed.1 (by decide)

end Layout

end XmlExtract
