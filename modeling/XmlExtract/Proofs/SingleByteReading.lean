import XmlExtract.Proofs.DeclaredEncoding
import XmlExtract.Proofs.RespelledReading

/-!
# Documents in single-byte encodings

A single-byte encoding whose table has a character of its own for every byte can be respelled
in UTF-8: each byte becomes the bytes of its character.  So it does not matter whether a
document that declares such an encoding is read as it is, or decoded first and read as UTF-8
(`Reading.told_singleByte`).  In particular this goes for Latin-1, by which name windows-1252
is meant (`Reading.told_latin`).
-/

namespace XmlExtract

/-! ### Respelling in UTF-8 -/

namespace SingleByte

/-- The code point of a byte; a byte without meaning has none but zero. -/
def codeOf (table : Array Nat) (byte : UInt8) : Nat :=
  if byte < 0x80 then byte.toNat else table[byte.toNat - 0x80]?.getD 0

/-- The character of a byte. -/
def charOf (table : Array Nat) (byte : UInt8) : Char := Char.ofNat (codeOf table byte)

/-- A table in which every byte above ASCII has a character above ASCII of its own. -/
structure IsComplete (table : Array Nat) : Prop where
  size : table.size = 0x80
  sound : ∀ code ∈ table, 0x80 ≤ code ∧ code.isValidChar
  distinct : table.toList.Nodup

namespace IsComplete

variable {table : Array Nat} (complete : IsComplete table)

include complete

theorem exists_code (byte : UInt8) : ∃ code, table[byte.toNat - 0x80]? = some code ∧
    0x80 ≤ code ∧ code.isValidChar := by
  have small := byte.toNat_lt
  have within : byte.toNat - 0x80 < table.size := by
    rw [complete.size]
    omega
  have found := Array.getElem?_eq_getElem within
  exact ⟨_, found, complete.sound _ (Array.mem_of_getElem? found)⟩

theorem codeOf_sound (byte : UInt8) :
    (codeOf table byte).isValidChar ∧ (0x80 ≤ byte ↔ 0x80 ≤ codeOf table byte) := by
  unfold codeOf
  split
  · rename_i ascii
    have small := UInt8.lt_iff_toNat_lt.mp ascii
    refine ⟨Or.inl (Nat.lt_trans small (by decide)), ?_⟩
    exact UInt8.le_iff_toNat_le
  · rename_i above
    obtain ⟨code, found, wide, valid⟩ := complete.exists_code byte
    rw [found]
    exact ⟨valid, fun _ => wide, fun _ => UInt8.not_lt.mp above⟩

theorem codeOf_injective : Function.Injective (codeOf table) := by
  intro first second same
  have alike : 0x80 ≤ first ↔ 0x80 ≤ second := by
    rw [(complete.codeOf_sound first).2, (complete.codeOf_sound second).2, same]
  unfold codeOf at same
  by_cases ascii : first < 0x80
  · have asciiSecond : second < 0x80 :=
      UInt8.not_le.mp fun above => UInt8.not_le.mpr ascii (alike.mpr above)
    rw [if_pos ascii, if_pos asciiSecond] at same
    exact UInt8.toNat_inj.mp same
  · have above := UInt8.not_lt.mp ascii
    have aboveSecond := alike.mp above
    rw [if_neg ascii, if_neg (UInt8.not_lt.mpr aboveSecond)] at same
    obtain ⟨code, found, -⟩ := complete.exists_code first
    obtain ⟨codeSecond, foundSecond, -⟩ := complete.exists_code second
    have within : first.toNat - 0x80 < table.toList.length := by
      have small := first.toNat_lt
      rw [Array.length_toList, complete.size]
      omega
    have samePlace : first.toNat - 0x80 = second.toNat - 0x80 := by
      rw [← List.getElem?_inj within complete.distinct, Array.getElem?_toList,
        Array.getElem?_toList, found, foundSecond]
      rw [found, foundSecond] at same
      exact congrArg some same
    rw [UInt8.le_iff_toNat_le] at above aboveSecond
    apply UInt8.toNat_inj.mp
    simp only [UInt8.reduceToNat] at above aboveSecond
    omega

theorem toNat_charOf (byte : UInt8) : (charOf table byte).toNat = codeOf table byte := by
  rw [charOf, toNat_ofNat (complete.codeOf_sound byte).1]

theorem charOf_injective : Function.Injective (charOf table) := by
  intro first second same
  apply complete.codeOf_injective
  rw [← complete.toNat_charOf, ← complete.toNat_charOf, same]

theorem decodeByte?_eq (byte : UInt8) : decodeByte? table byte = some (charOf table byte) := by
  unfold decodeByte? charOf codeOf
  split
  · rfl
  · obtain ⟨code, found, wide, -⟩ := complete.exists_code byte
    rw [found]
    dsimp only [Option.getD_some]
    split
    · contradiction
    · rename_i zero
      obtain rfl := Option.some.inj zero
      contradiction
    · rename_i same
      rw [Option.some.inj same]

/-- All bytes have a meaning. -/
theorem mapM_decodeByte? (bytes : List UInt8) :
    bytes.mapM (decodeByte? table) = some (bytes.map (charOf table)) := by
  have all : decodeByte? table = fun byte => pure (charOf table byte) :=
    funext complete.decodeByte?_eq
  rw [all, List.mapM_pure]
  rfl

end IsComplete

end SingleByte

open SingleByte (IsComplete charOf)

namespace Respelling

theorem encode_map_charOf (table : Array Nat) (bytes : List UInt8) :
    Utf8.encode (bytes.map (charOf table)) =
      bytes.flatMap fun byte => String.utf8EncodeChar (charOf table byte) := by
  rw [Utf8.encode, List.flatMap_map]

/-- The respelling of a single-byte encoding in UTF-8. -/
def inUtf8 {table : Array Nat} (complete : IsComplete table) : Respelling where
  spell byte := String.utf8EncodeChar (charOf table byte)
  spell_ascii byte ascii := by
    rw [← Utf8.encode_singleton, charOf, SingleByte.codeOf, if_pos ascii,
      Utf8.encode_ofNat_of_ascii ascii]
  spell_ne_nil byte := by
    rw [← Utf8.encode_singleton]
    exact Utf8.encode_ne_nil (List.cons_ne_nil _ _)
  spell_above byte above := by
    intro unit member
    apply Utf8.le_of_mem_encodeChar _ member
    rw [complete.toNat_charOf]
    exact (complete.codeOf_sound byte).2.mp above
  injective := by
    intro first second same
    apply complete.charOf_injective.list_map
    apply Utf8.encode_injective
    rw [encode_map_charOf, encode_map_charOf]
    exact same

theorem apply_inUtf8 {table : Array Nat} (complete : IsComplete table) (bytes : List UInt8) :
    (inUtf8 complete).apply bytes = Utf8.encode (bytes.map (charOf table)) :=
  (encode_map_charOf table bytes).symm

end Respelling

/-! ### Documents that declare their encoding -/

namespace Declaration

variable (declaration : Declaration)

theorem detect_take_written (window : Nat) (bytes : List UInt8) :
    Reading.detect ((declaration.written ++ bytes).take window) = (.utf8, 0) := by
  obtain ⟨more, begins⟩ := declaration.exists_written
  apply Reading.detect_take_of_ascii
  · rw [begins]
    rfl
  · rw [begins, List.cons_append, List.cons_prefix_cons]
    exact fun marked => absurd marked.1 (by decide)

/-- The replies for a document that begins with a declaration, however it is delivered. -/
theorem replies_written (settings : Settings) (window : Nat) (bytes : List UInt8) :
    ∃ input, Input.replies ⟨declaration.written ++ bytes, window, none, none⟩ settings false =
      ⟨0, .ok .documentStart, false⟩ ::
        Reading.replies (.ofSettings settings false) input
          ((Reading.start .utf8).under declaration.charset?)
          (Piece.cutFrom settings.trimsText none (declaration.content.length + 4) bytes) := by
  obtain ⟨piece, content, cut⟩ := declaration.cutFrom_written settings.trimsText bytes
  refine ⟨Input.drop ⟨declaration.written ++ bytes, window, none, none⟩ 0, ?_⟩
  unfold Input.replies
  simp only [Input.firstBuffer_of_sound, detect_take_written, Piece.cut, Input.drop,
    List.drop_zero, cut, Reading.replies, content, Reading.take, Reading.declare_start]
  rfl

end Declaration

namespace Reading

/-- A document that declares a single-byte encoding is told as it is told when it has been
decoded and declares UTF-8. -/
theorem told_singleByte {encoding : SingleByte} (complete : IsComplete encoding.table)
    {declaration declarationUtf8 : Declaration}
    (names : declaration.charset? = some (.singleByte encoding))
    (namesUtf8 : declarationUtf8.charset? = some .utf8) (settings : Settings)
    (window windowUtf8 : Nat) (bytes : List UInt8) :
    ((Input.replies ⟨declaration.written ++ bytes, window, none, none⟩ settings false).map
        Reply.told) =
      (Input.replies ⟨declarationUtf8.written ++ Utf8.encode (bytes.map (charOf encoding.table)),
        windowUtf8, none, none⟩ settings false).map Reply.told := by
  obtain ⟨input, replies⟩ := declaration.replies_written settings window bytes
  obtain ⟨inputUtf8, repliesUtf8⟩ := declarationUtf8.replies_written settings windowUtf8
    (Utf8.encode (bytes.map (charOf encoding.table)))
  have respells : Respells (.ofSettings settings false) (Respelling.inUtf8 complete)
      ((start .utf8).under declaration.charset?)
      ((start .utf8).under declarationUtf8.charset?) := by
    rw [names, namesUtf8]
    refine ⟨rfl, rfl, rfl, rfl, fun bytes => ⟨bytes.map (charOf encoding.table), ?_, ?_⟩⟩
    · exact complete.mapM_decodeByte? bytes
    · show (Utf8.decode _).toOption = _
      rw [Respelling.apply_inUtf8, Utf8.decode_encode]
      rfl
  rw [replies, repliesUtf8, List.map_cons, List.map_cons, ← Respelling.apply_inUtf8 complete,
    told_respelled respells input inputUtf8 (Piece.respells_cutFrom _ _ _ _ _)]

/-! ### Latin-1 -/

theorem isComplete_windows1252 : IsComplete SingleByte.windows1252.table where
  size := rfl
  sound := by decide +kernel
  distinct := by decide +kernel

/-- The bytes of a declaration of Latin-1. -/
def latinDeclaration : List UInt8 :=
  Utf8.encodeString "<?xml version=\"1.0\" encoding=\"ISO-8859-1\"?>"

/-- The bytes of a declaration of UTF-8. -/
def utf8Declaration : List UInt8 :=
  Utf8.encodeString "<?xml version=\"1.0\" encoding=\"UTF-8\"?>"

def declaresLatin1 : Declaration :=
  ⟨" version=\"1.0\" encoding=\"ISO-8859-1\"".toList, by decide, by decide⟩

def declaresUtf8 : Declaration :=
  ⟨" version=\"1.0\" encoding=\"UTF-8\"".toList, by decide, by decide⟩

theorem written_declaresLatin1 : declaresLatin1.written = latinDeclaration := by
  decide +kernel

theorem written_declaresUtf8 : declaresUtf8.written = utf8Declaration := by
  decide +kernel

/-- Whatever bytes follow a declaration of Latin-1, they have a meaning, and the reader tells
the same events, or the same up to an error of the same kind, as for their meaning in UTF-8
behind a declaration of UTF-8. -/
theorem told_latin (settings : Settings) (window windowUtf8 : Nat) (bytes : List UInt8) :
    ∃ characters,
      (Charset.singleByte .windows1252).decode? settings.decoders bytes = some characters ∧
      (Input.replies ⟨latinDeclaration ++ bytes, window, none, none⟩ settings false).map
          Reply.told =
        (Input.replies ⟨utf8Declaration ++ Utf8.encode characters, windowUtf8, none, none⟩
          settings false).map Reply.told := by
  have namesLatin : declaresLatin1.charset? = some (.singleByte .windows1252) := by decide +kernel
  have namesUtf8 : declaresUtf8.charset? = some .utf8 := by decide +kernel
  refine ⟨bytes.map (charOf SingleByte.windows1252.table),
    isComplete_windows1252.mapM_decodeByte? bytes, ?_⟩
  rw [← written_declaresLatin1, ← written_declaresUtf8]
  exact told_singleByte isComplete_windows1252 namesLatin namesUtf8 settings window windowUtf8
    bytes

/-- The name of an element is decoded, and so is a value, where a quote may be meant that ends
nothing. -/
example :
    (Input.replies ⟨latinDeclaration ++ [0x3C, 0xE9, 0x20, 0x61, 0x3D, 0x22, 0x94, 0x22, 0x2F,
        0x3E], 8, none, none⟩ .standard false).map Reply.told =
      [.ok .documentStart, .ok (.elementStart "é" [("a", "”")]), .ok (.elementEnd "é"),
        .ok .documentEnd] := by
  decide +kernel

end Reading

end XmlExtract
