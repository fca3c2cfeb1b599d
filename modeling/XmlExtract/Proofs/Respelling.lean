import Mathlib.Data.List.TakeWhile
import XmlExtract.Proofs.TextSlices

/-!
# Respelled bytes

Many encodings extend ASCII: they write ASCII characters as ASCII bytes, and all others as
bytes above.  Bytes are respelled when each is replaced by what stands for it in another
such encoding.  All markup is made of ASCII characters, so bytes and their respelling have
the same marks, and the same searches find them (`Respelling.takeWhile_apply`).
-/

namespace XmlExtract

/-- What stands for each byte in another encoding that extends ASCII. -/
structure Respelling where
  spell : UInt8 → List UInt8
  spell_ascii : ∀ byte, byte < 0x80 → spell byte = [byte]
  spell_ne_nil : ∀ byte, spell byte ≠ []
  spell_above : ∀ byte, 0x80 ≤ byte → ∀ unit ∈ spell byte, 0x80 ≤ unit
  injective : Function.Injective fun bytes : List UInt8 => bytes.flatMap spell

namespace Respelling

variable (spelling : Respelling)

/-- Bytes, respelled. -/
def apply (bytes : List UInt8) : List UInt8 := bytes.flatMap spelling.spell

theorem apply_injective : Function.Injective spelling.apply := spelling.injective

@[simp]
theorem apply_nil : spelling.apply [] = [] := rfl

theorem apply_cons (byte : UInt8) (bytes : List UInt8) :
    spelling.apply (byte :: bytes) = spelling.spell byte ++ spelling.apply bytes := rfl

theorem apply_append (front back : List UInt8) :
    spelling.apply (front ++ back) = spelling.apply front ++ spelling.apply back :=
  List.flatMap_append

theorem apply_ascii_cons {byte : UInt8} (ascii : byte < 0x80) (bytes : List UInt8) :
    spelling.apply (byte :: bytes) = byte :: spelling.apply bytes := by
  rw [apply_cons, spelling.spell_ascii byte ascii]
  rfl

theorem apply_ascii {bytes : List UInt8} (ascii : ∀ byte ∈ bytes, byte < 0x80) :
    spelling.apply bytes = bytes := by
  induction bytes with
  | nil => rfl
  | cons byte later ih =>
      rw [List.forall_mem_cons] at ascii
      rw [apply_ascii_cons spelling ascii.1, ih ascii.2]

theorem apply_ascii_append {front : List UInt8} (ascii : ∀ byte ∈ front, byte < 0x80)
    (back : List UInt8) : spelling.apply (front ++ back) = front ++ spelling.apply back := by
  rw [apply_append, spelling.apply_ascii ascii]

theorem apply_append_ascii (front : List UInt8) {back : List UInt8}
    (ascii : ∀ byte ∈ back, byte < 0x80) :
    spelling.apply (front ++ back) = spelling.apply front ++ back := by
  rw [apply_append, spelling.apply_ascii ascii]

theorem apply_eq_nil_iff {bytes : List UInt8} : spelling.apply bytes = [] ↔ bytes = [] := by
  cases bytes with
  | nil => simp
  | cons byte later => simp [apply_cons, spelling.spell_ne_nil]

/-- The respelling of bytes that are written in the opposite direction. -/
def backward : Respelling where
  spell byte := (spelling.spell byte).reverse
  spell_ascii byte ascii := by rw [spelling.spell_ascii byte ascii]; rfl
  spell_ne_nil byte := by simpa using spelling.spell_ne_nil byte
  spell_above byte above := by simpa using spelling.spell_above byte above
  injective := by
    intro first second same
    have mirrored : first.reverse = second.reverse := by
      apply spelling.injective
      show first.reverse.flatMap spelling.spell = second.reverse.flatMap spelling.spell
      rw [← List.reverse_inj, List.reverse_flatMap, List.reverse_flatMap,
        List.reverse_reverse, List.reverse_reverse]
      exact same
    exact List.reverse_injective mirrored

theorem reverse_apply (bytes : List UInt8) :
    (spelling.apply bytes).reverse = spelling.backward.apply bytes.reverse :=
  List.reverse_flatMap

theorem reverse_apply_backward (bytes : List UInt8) :
    (spelling.backward.apply bytes).reverse = spelling.apply bytes.reverse := by
  rw [List.reverse_eq_iff, reverse_apply, List.reverse_reverse]

/-! ### Searches -/

section Searches

variable {accepts : UInt8 → Bool} {answer : Bool}
  (above : ∀ byte, 0x80 ≤ byte → accepts byte = answer)

include above

/-- A search that cannot tell the bytes above ASCII apart judges a byte by its spelling. -/
theorem accepts_of_mem_spell {byte unit : UInt8} (member : unit ∈ spelling.spell byte) :
    accepts unit = accepts byte := by
  by_cases ascii : byte < 0x80
  · rw [spelling.spell_ascii byte ascii] at member
    rw [List.mem_singleton.mp member]
  · have byteAbove := UInt8.not_lt.mp ascii
    rw [above byte byteAbove, above unit (spelling.spell_above byte byteAbove unit member)]

theorem span_apply (bytes : List UInt8) :
    (spelling.apply bytes).takeWhile accepts = spelling.apply (bytes.takeWhile accepts) ∧
      (spelling.apply bytes).dropWhile accepts = spelling.apply (bytes.dropWhile accepts) := by
  induction bytes with
  | nil => exact ⟨rfl, rfl⟩
  | cons byte later ih =>
      have alike : ∀ unit ∈ spelling.spell byte, accepts unit = accepts byte :=
        fun _ => spelling.accepts_of_mem_spell above
      rw [List.takeWhile_cons, List.dropWhile_cons, apply_cons]
      cases accepted : accepts byte with
      | true =>
          rw [accepted] at alike
          rw [List.takeWhile_append_of_pos alike, List.dropWhile_append_of_pos alike, ih.1, ih.2]
          exact ⟨rfl, rfl⟩
      | false =>
          rw [accepted] at alike
          obtain ⟨unit, units, spelled⟩ :=
            List.exists_cons_of_ne_nil (spelling.spell_ne_nil byte)
          have rejected : accepts unit = false := alike unit (by simp [spelled])
          rw [spelled, List.cons_append, List.takeWhile_cons, List.dropWhile_cons, rejected]
          refine ⟨rfl, ?_⟩
          simp [apply_cons, spelled]

theorem takeWhile_apply (bytes : List UInt8) :
    (spelling.apply bytes).takeWhile accepts = spelling.apply (bytes.takeWhile accepts) :=
  (spelling.span_apply above bytes).1

theorem dropWhile_apply (bytes : List UInt8) :
    (spelling.apply bytes).dropWhile accepts = spelling.apply (bytes.dropWhile accepts) :=
  (spelling.span_apply above bytes).2

theorem all_apply (bytes : List UInt8) :
    (spelling.apply bytes).all accepts = bytes.all accepts := by
  have nothingLeft (bytes : List UInt8) :
      bytes.all accepts = true ↔ bytes.dropWhile accepts = [] := by
    rw [List.dropWhile_eq_nil_iff, List.all_eq_true]
  rw [Bool.eq_iff_iff, nothingLeft, nothingLeft, spelling.dropWhile_apply above,
    apply_eq_nil_iff]

theorem all_head?_apply (bytes : List UInt8) :
    (spelling.apply bytes).head?.all accepts = bytes.head?.all accepts := by
  cases bytes with
  | nil => rfl
  | cons byte later =>
      obtain ⟨unit, units, spelled⟩ := List.exists_cons_of_ne_nil (spelling.spell_ne_nil byte)
      rw [apply_cons, spelled]
      exact spelling.accepts_of_mem_spell above (by simp [spelled])

end Searches

theorem isBlankByte_above (byte : UInt8) (above : 0x80 ≤ byte) : isBlankByte byte = false := by
  rw [← Bool.not_eq_true]
  intro blank
  exact UInt8.not_lt.mpr above (lt_of_isBlankByte blank)

theorem stopsAtAscii_above {accepts : UInt8 → Bool} (stops : Utf8.StopsAtAscii accepts)
    (byte : UInt8) (above : 0x80 ≤ byte) : accepts byte = true := by
  rw [← Bool.not_eq_false]
  intro rejected
  exact UInt8.not_lt.mpr above (stops byte rejected)

/-- A search that only an ASCII character ends finds it in the respelling as well. -/
theorem dropWhile_apply_eq_cons {accepts : UInt8 → Bool} (stops : Utf8.StopsAtAscii accepts)
    {bytes rest : List UInt8} {byte : UInt8} (found : bytes.dropWhile accepts = byte :: rest) :
    (spelling.apply bytes).dropWhile accepts = byte :: spelling.apply rest := by
  have rejected : accepts byte = false := by
    have head := List.head?_dropWhile_not accepts bytes
    rw [found] at head
    simpa using head
  rw [spelling.dropWhile_apply (stopsAtAscii_above stops), found,
    spelling.apply_ascii_cons (stops byte rejected)]

/-- Trimming the end of a text commutes with respelling it. -/
theorem trimEnd_apply (bytes : List UInt8) :
    Piece.trimEnd (spelling.apply bytes) = spelling.apply (Piece.trimEnd bytes) := by
  rw [Piece.trimEnd, reverse_apply, spelling.backward.dropWhile_apply isBlankByte_above,
    reverse_apply_backward]
  rfl

/-! ### Marks -/

theorem ne_mark_of_above {byte mark : UInt8} (above : 0x80 ≤ byte) (ascii : mark < 0x80) :
    byte ≠ mark := by
  rintro rfl
  exact UInt8.not_lt.mpr above ascii

theorem beq_mark_above {mark : UInt8} (ascii : mark < 0x80) (byte : UInt8)
    (above : 0x80 ≤ byte) : (byte == mark) = false :=
  beq_eq_false_iff_ne.mpr (ne_mark_of_above above ascii)

/-- No search can tell the first byte from that of the respelling.  Behind an ASCII character
the bytes are respelled. -/
theorem exists_apply_cons (byte : UInt8) (bytes : List UInt8) : ∃ first later,
    spelling.apply (byte :: bytes) = first :: later ∧
      (∀ {accepts : UInt8 → Bool} {answer : Bool},
        (∀ other, 0x80 ≤ other → accepts other = answer) → accepts first = accepts byte) ∧
      (byte < 0x80 → first = byte ∧ later = spelling.apply bytes) := by
  obtain ⟨unit, units, spelled⟩ := List.exists_cons_of_ne_nil (spelling.spell_ne_nil byte)
  refine ⟨unit, units ++ spelling.apply bytes, by rw [apply_cons, spelled]; rfl, ?_, ?_⟩
  · intro accepts answer above
    exact spelling.accepts_of_mem_spell above (by simp [spelled])
  · intro ascii
    rw [spelling.spell_ascii byte ascii] at spelled
    obtain ⟨rfl, rfl⟩ := List.cons.inj spelled
    exact ⟨rfl, rfl⟩

variable {word : List UInt8}

theorem isPrefix_apply_iff (ascii : ∀ byte ∈ word, byte < 0x80) (bytes : List UInt8) :
    word <+: spelling.apply bytes ↔ word <+: bytes := by
  constructor
  · intro begins
    induction word generalizing bytes with
    | nil => exact List.nil_prefix
    | cons mark later ih =>
        rw [List.forall_mem_cons] at ascii
        cases bytes with
        | nil => exact begins
        | cons byte rest =>
            obtain ⟨first, more, applied, alike, behind⟩ := spelling.exists_apply_cons byte rest
            rw [applied, List.cons_prefix_cons] at begins
            have sameMark : (first == mark) = (byte == mark) := alike (beq_mark_above ascii.1)
            rw [← begins.1, beq_self_eq_true, eq_comm, beq_iff_eq] at sameMark
            subst sameMark
            rw [(behind ascii.1).2] at begins
            exact List.cons_prefix_cons.mpr ⟨rfl, ih ascii.2 rest begins.2⟩
  · rintro ⟨rest, rfl⟩
    rw [spelling.apply_ascii_append ascii]
    exact List.prefix_append _ _

theorem isSuffix_apply_iff (ascii : ∀ byte ∈ word, byte < 0x80) (bytes : List UInt8) :
    word <:+ spelling.apply bytes ↔ word <:+ bytes := by
  rw [← List.reverse_prefix, reverse_apply,
    spelling.backward.isPrefix_apply_iff (by simpa using ascii), List.reverse_prefix]

theorem take_apply_eq_iff (ascii : ∀ byte ∈ word, byte < 0x80) (bytes : List UInt8) :
    (spelling.apply bytes).take word.length = word ↔ bytes.take word.length = word := by
  rw [eq_comm, ← List.prefix_iff_eq_take, spelling.isPrefix_apply_iff ascii,
    List.prefix_iff_eq_take, eq_comm]

theorem drop_apply (ascii : ∀ byte ∈ word, byte < 0x80) {bytes : List UInt8}
    (begins : bytes.take word.length = word) :
    (spelling.apply bytes).drop word.length = spelling.apply (bytes.drop word.length) := by
  rw [eq_comm, ← List.prefix_iff_eq_take] at begins
  obtain ⟨rest, rfl⟩ := begins
  rw [spelling.apply_ascii_append ascii, List.drop_left, List.drop_left]

end Respelling

end XmlExtract
