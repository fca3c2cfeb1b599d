import XmlExtract.Input.Layout

/-!
# Reading UTF-16 back

What characters are written as in UTF-16 is read as these characters, in either byte order
(`decode_units`).  So transcoding gives their UTF-8 form, whether a byte order mark stands
in front of them or not (`Layout.utf16ToUtf8_marked`, `Layout.utf16ToUtf8_unmarked`), and the
layout is recognised by the mark or by the opening of a tag.
-/

namespace XmlExtract

namespace Utf16

/-! ### Units of two bytes -/

/-- The units of characters. -/
def encodeUnits (characters : List Char) : List Nat := characters.flatMap encodeChar

theorem encode_eq (order : ByteOrder) (characters : List Char) :
    encode order characters = (encodeUnits characters).flatMap order.bytes :=
  List.flatMap_assoc.symm

theorem units?_bytes_append (order : ByteOrder) {unit : Nat} (fits : unit < 0x10000)
    (rest : List UInt8) :
    units? order (order.bytes unit ++ rest) = (units? order rest).map (unit :: ·) := by
  have low : (UInt8.ofNat (unit % 0x100)).toNat = unit % 0x100 :=
    UInt8.toNat_ofNat_of_lt' (Nat.mod_lt unit (by decide))
  have high : (UInt8.ofNat (unit / 0x100)).toNat = unit / 0x100 :=
    UInt8.toNat_ofNat_of_lt' (Nat.div_lt_of_lt_mul fits)
  have whole : unit / 0x100 * 0x100 + unit % 0x100 = unit := by omega
  cases order with
  | little | big =>
      simp only [ByteOrder.bytes, List.cons_append, List.nil_append, units?, ByteOrder.unit,
        low, high, whole]

theorem units?_flatMap_bytes (order : ByteOrder) {units : List Nat}
    (fit : ∀ unit ∈ units, unit < 0x10000) :
    units? order (units.flatMap order.bytes) = some units := by
  induction units with
  | nil => rfl
  | cons unit later ih =>
      rw [List.forall_mem_cons] at fit
      rw [List.flatMap_cons, units?_bytes_append order fit.1, ih fit.2]
      rfl

theorem lt_of_mem_encodeUnits {characters : List Char} {unit : Nat}
    (member : unit ∈ encodeUnits characters) : unit < 0x10000 := by
  obtain ⟨character, -, written⟩ := List.mem_flatMap.mp member
  have bounds : character.toNat < 0xD800 ∨
      0xDFFF < character.toNat ∧ character.toNat < 0x110000 := character.valid
  unfold encodeChar at written
  split at written
  · rw [List.mem_singleton] at written
    omega
  · simp only [List.mem_cons, List.not_mem_nil, or_false] at written
    omega

/-! ### Characters of one or two units -/

theorem decodeAfter_one {unit : Nat} (notHigh : isHighSurrogate unit = false)
    (notLow : isLowSurrogate unit = false) (count : Nat) (before : List Char)
    (rest : List Nat) :
    decodeAfter count before (unit :: rest) =
      decodeAfter (count + 1) (Char.ofNat unit :: before) rest := by
  conv => lhs; unfold decodeAfter
  simp [notHigh, notLow]

theorem decodeAfter_two {high low : Nat} (isHigh : isHighSurrogate high = true)
    (isLow : isLowSurrogate low = true) (count : Nat) (before : List Char)
    (rest : List Nat) :
    decodeAfter count before (high :: low :: rest) =
      decodeAfter (count + 1) (ofPair high low :: before) rest := by
  conv => lhs; unfold decodeAfter
  simp [isHigh, isLow]

theorem decodeAfter_encodeChar (count : Nat) (before : List Char) (character : Char)
    (rest : List Nat) :
    decodeAfter count before (encodeChar character ++ rest) =
      decodeAfter (count + 1) (character :: before) rest := by
  have bounds : character.toNat < 0xD800 ∨
      0xDFFF < character.toNat ∧ character.toNat < 0x110000 := character.valid
  unfold encodeChar
  split
  · rw [List.singleton_append, decodeAfter_one, Char.ofNat_toNat]
    · simp only [isHighSurrogate, Bool.and_eq_false_iff, decide_eq_false_iff_not]
      omega
    · simp only [isLowSurrogate, Bool.and_eq_false_iff, decide_eq_false_iff_not]
      omega
  · have paired : ofPair (0xD800 + (character.toNat - 0x10000) / 0x400)
        (0xDC00 + (character.toNat - 0x10000) % 0x400) = character := by
      have number : 0x10000 + (0xD800 + (character.toNat - 0x10000) / 0x400 - 0xD800) * 0x400 +
          (0xDC00 + (character.toNat - 0x10000) % 0x400 - 0xDC00) = character.toNat := by
        omega
      rw [ofPair, number, Char.ofNat_toNat]
    simp only [List.cons_append, List.nil_append]
    rw [decodeAfter_two, paired]
    · simp only [isHighSurrogate, Bool.and_eq_true, decide_eq_true_eq]
      omega
    · simp only [isLowSurrogate, Bool.and_eq_true, decide_eq_true_eq]
      omega

theorem decodeAfter_encodeUnits (count : Nat) (before characters : List Char) :
    decodeAfter count before (encodeUnits characters) = .ok (before.reverse ++ characters) := by
  induction characters generalizing count before with
  | nil => rw [List.append_nil]; rfl
  | cons character later ih =>
      rw [encodeUnits, List.flatMap_cons, decodeAfter_encodeChar]
      rw [encodeUnits] at ih
      rw [ih, List.reverse_cons, List.append_assoc, List.singleton_append]

/-- The units of the bytes that characters are written as are read as these characters. -/
theorem decode_units (order : ByteOrder) (characters : List Char) :
    units? order (encode order characters) = some (encodeUnits characters) ∧
      decode (encodeUnits characters) = .ok characters := by
  constructor
  · rw [encode_eq]
    exact units?_flatMap_bytes order fun _ => lt_of_mem_encodeUnits
  · exact decodeAfter_encodeUnits 0 [] characters

end Utf16

/-! ### Transcoding -/

namespace Layout

open Utf16 (ByteOrder)

variable (order : ByteOrder) (characters : List Char)

theorem utf16ToUtf8_marked :
    utf16ToUtf8 order (order.mark ++ Utf16.encode order characters) =
      .ok (Utf8.encode characters) := by
  have marked : order.mark.isPrefixOf (order.mark ++ Utf16.encode order characters) = true :=
    List.isPrefixOf_iff_prefix.mpr (List.prefix_append _ _)
  have unmarked : (order.mark ++ Utf16.encode order characters).drop 2 =
      Utf16.encode order characters := by
    cases order <;> rfl
  obtain ⟨units, decoded⟩ := Utf16.decode_units order characters
  simp only [utf16ToUtf8, marked, if_true, unmarked, units, decoded]

theorem utf16ToUtf8_unmarked (unmarked : ¬ order.mark <+: Utf16.encode order characters) :
    utf16ToUtf8 order (Utf16.encode order characters) = .ok (Utf8.encode characters) := by
  rw [← List.isPrefixOf_iff_prefix] at unmarked
  obtain ⟨units, decoded⟩ := Utf16.decode_units order characters
  simp only [utf16ToUtf8, if_neg unmarked, List.drop_zero, units, decoded]

/-! ### Recognising the layout -/

theorem detect_marked (bytes : List UInt8) : detect (order.mark ++ bytes) = .utf16 order := by
  cases order <;> rfl

theorem encode_less_cons (order : ByteOrder) (characters : List Char) :
    Utf16.encode order ('<' :: characters) = order.bytes 0x3C ++ Utf16.encode order characters := by
  simp [Utf16.encode, Utf16.encodeChar]

theorem detect_less (order : ByteOrder) (characters : List Char) :
    detect (Utf16.encode order ('<' :: characters)) = .utf16 order := by
  rw [encode_less_cons]
  cases order <;> rfl

theorem utf16ToUtf8_less (order : ByteOrder) (characters : List Char) :
    utf16ToUtf8 order (Utf16.encode order ('<' :: characters)) =
      .ok (Utf8.encode ('<' :: characters)) := by
  apply utf16ToUtf8_unmarked
  rw [encode_less_cons, ← List.isPrefixOf_iff_prefix]
  cases order <;> simp [ByteOrder.mark, ByteOrder.bytes]

end Layout

end XmlExtract
