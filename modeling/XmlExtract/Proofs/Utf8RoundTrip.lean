import XmlExtract.Text.Charset

/-!
# Reading UTF-8 back

What characters are written as is read as these characters (`decode_encode`), also in
front of other bytes (`decodeAfter_encode_append`), and nothing else is read
(`decode_eq_ok_iff`).  Every byte of a character outside of ASCII lies above the ASCII bytes
(`le_of_mem_encodeChar`), so that markup is found byte by byte where it stands among the
characters.
-/

namespace XmlExtract

theorem toNat_ofNat {number : Nat} (valid : number.isValidChar) :
    (Char.ofNat number).toNat = number := by
  rw [Char.ofNat, dif_pos valid]
  rfl

namespace Utf8

/-! ### The bytes of one character -/

theorem encodeChar_of_ascii {character : Char} (ascii : character.toNat < 0x80) :
    String.utf8EncodeChar character = [UInt8.ofNat character.toNat] := by
  have small : character.val.toNat ≤ 0x7F := Nat.le_of_lt_succ ascii
  simp only [String.utf8EncodeChar, small, if_true]
  rfl

theorem toNat_ofNat_add (value : Nat) {offset bound : Nat} (positive : 0 < bound)
    (fits : bound + offset ≤ 0x100) :
    (UInt8.ofNat (value % bound + offset)).toNat = value % bound + offset := by
  have small := Nat.mod_lt value positive
  rw [UInt8.toNat_ofNat_of_lt']
  exact Nat.lt_of_lt_of_le (Nat.add_lt_add_right small offset) fits

theorem le_of_mem_encodeChar {character : Char} (wide : 0x80 ≤ character.toNat)
    {byte : UInt8} (member : byte ∈ String.utf8EncodeChar character) : 0x80 ≤ byte := by
  have large : ¬ character.val.toNat ≤ 0x7F := Nat.not_le_of_lt wide
  rw [UInt8.le_iff_toNat_le]
  simp only [String.utf8EncodeChar, large, if_false] at member
  split at member
  · simp only [List.mem_cons, List.not_mem_nil, or_false] at member
    rcases member with rfl | rfl <;>
      · rw [toNat_ofNat_add _ (by decide) (by decide)]
        simp
  · split at member
    · simp only [List.mem_cons, List.not_mem_nil, or_false] at member
      rcases member with rfl | rfl | rfl <;>
        · rw [toNat_ofNat_add _ (by decide) (by decide)]
          simp
    · simp only [List.mem_cons, List.not_mem_nil, or_false] at member
      rcases member with rfl | rfl | rfl | rfl <;>
        · rw [toNat_ofNat_add _ (by decide) (by decide)]
          simp

/-! ### Decoding one sequence -/

/-- Whether a byte may follow the first byte of a sequence, in numbers. -/
def Follows (byte : UInt8) : Prop := 0x80 ≤ byte.toNat ∧ byte.toNat ≤ 0xBF

variable {valid : Nat} {before : List Char} {lead second third fourth : UInt8}
  {rest : List UInt8}

theorem begins_of_bounds (least : 0xC2 ≤ lead.toNat) (most : lead.toNat ≤ 0xF4) :
    ¬ lead < 0x80 ∧ ¬ (lead < 0xC2 || 0xF4 < lead) = true := by
  simp only [Bool.or_eq_true, decide_eq_true_eq, UInt8.lt_iff_toNat_lt, UInt8.reduceToNat]
  omega

theorem decodeAfter_one (small : lead.toNat < 0x80) :
    decodeAfter valid before (lead :: rest) =
      decodeAfter (valid + 1) (Char.ofNat lead.toNat :: before) rest := by
  have below : lead < 0x80 := UInt8.lt_iff_toNat_lt.mpr small
  conv => lhs; unfold decodeAfter
  rw [if_pos below]

theorem decodeAfter_two (least : 0xC2 ≤ lead.toNat) (most : lead.toNat < 0xE0)
    (isSecond : isSecond lead second = true) :
    decodeAfter valid before (lead :: second :: rest) =
      decodeAfter (valid + 2) (ofTwo lead second :: before) rest := by
  obtain ⟨notOne, begins⟩ := begins_of_bounds least (by omega)
  have two : lead < 0xE0 := UInt8.lt_iff_toNat_lt.mpr most
  conv => lhs; unfold decodeAfter
  rw [if_neg notOne, if_neg begins]
  simp [isSecond, two]

theorem decodeAfter_three (least : 0xE0 ≤ lead.toNat) (most : lead.toNat < 0xF0)
    (isSecond : isSecond lead second = true) (isThird : isContinuation third = true) :
    decodeAfter valid before (lead :: second :: third :: rest) =
      decodeAfter (valid + 3) (ofThree lead second third :: before) rest := by
  obtain ⟨notOne, begins⟩ := begins_of_bounds (Nat.le_trans (by decide) least) (by omega)
  have notTwo : ¬ lead < 0xE0 := by
    simp only [UInt8.lt_iff_toNat_lt, UInt8.reduceToNat]
    omega
  have three : lead < 0xF0 := UInt8.lt_iff_toNat_lt.mpr most
  conv => lhs; unfold decodeAfter
  rw [if_neg notOne, if_neg begins]
  simp [isSecond, notTwo, three, isThird]

theorem decodeAfter_four (least : 0xF0 ≤ lead.toNat) (most : lead.toNat ≤ 0xF4)
    (isSecond : isSecond lead second = true) (isThird : isContinuation third = true)
    (isFourth : isContinuation fourth = true) :
    decodeAfter valid before (lead :: second :: third :: fourth :: rest) =
      decodeAfter (valid + 4) (ofFour lead second third fourth :: before) rest := by
  obtain ⟨notOne, begins⟩ := begins_of_bounds (Nat.le_trans (by decide) least) most
  have notThree : ¬ lead < 0xF0 := by
    simp only [UInt8.lt_iff_toNat_lt, UInt8.reduceToNat]
    omega
  have notTwo : ¬ lead < 0xE0 := by
    simp only [UInt8.lt_iff_toNat_lt, UInt8.reduceToNat]
    omega
  conv => lhs; unfold decodeAfter
  rw [if_neg notOne, if_neg begins]
  simp [isSecond, notTwo, notThree, isThird, isFourth]

/-! ### Decoding one character -/

theorem isSecond_iff {lead second : UInt8} : isSecond lead second = true ↔
    Follows second ∧ (lead.toNat = 0xE0 → 0xA0 ≤ second.toNat) ∧
      (lead.toNat = 0xED → second.toNat ≤ 0x9F) ∧
      (lead.toNat = 0xF0 → 0x90 ≤ second.toNat) ∧
      (lead.toNat = 0xF4 → second.toNat ≤ 0x8F) := by
  simp only [isSecond, isContinuation, Follows, Bool.and_eq_true, Bool.or_eq_true,
    bne_iff_ne, ne_eq, decide_eq_true_eq, ← UInt8.toNat_inj, UInt8.le_iff_toNat_le,
    UInt8.reduceToNat]
  omega

theorem isContinuation_iff {byte : UInt8} : isContinuation byte = true ↔ Follows byte := by
  simp only [isContinuation, Follows, Bool.and_eq_true, decide_eq_true_eq,
    UInt8.le_iff_toNat_le, UInt8.reduceToNat]

theorem toNat_low (value : Nat) :
    (UInt8.ofNat (value % 0x40 + 0x80)).toNat = value % 0x40 + 0x80 :=
  toNat_ofNat_add value (by decide) (by decide)

theorem follows_low (value : Nat) : Follows (UInt8.ofNat (value % 0x40 + 0x80)) := by
  rw [Follows, toNat_low]
  omega

theorem decodeAfter_writtenTwo {value : Nat} (least : 0x80 ≤ value) (most : value ≤ 0x7FF) :
    decodeAfter valid before
        (UInt8.ofNat (value / 0x40 % 0x20 + 0xC0) :: UInt8.ofNat (value % 0x40 + 0x80) :: rest) =
      decodeAfter (valid + 2) (Char.ofNat value :: before) rest := by
  have lead : (UInt8.ofNat (value / 0x40 % 0x20 + 0xC0)).toNat = value / 0x40 % 0x20 + 0xC0 :=
    toNat_ofNat_add _ (by decide) (by decide)
  have joined : ofTwo (UInt8.ofNat (value / 0x40 % 0x20 + 0xC0))
      (UInt8.ofNat (value % 0x40 + 0x80)) = Char.ofNat value := by
    unfold ofTwo payload
    rw [lead, toNat_low]
    congr 1
    omega
  rw [decodeAfter_two, joined]
  · omega
  · omega
  · exact isSecond_iff.mpr ⟨follows_low _, by omega⟩

theorem decodeAfter_writtenThree {value : Nat} (least : 0x800 ≤ value) (most : value ≤ 0xFFFF)
    (noSurrogate : value < 0xD800 ∨ 0xDFFF < value) :
    decodeAfter valid before
        (UInt8.ofNat (value / 0x1000 % 0x10 + 0xE0) ::
          UInt8.ofNat (value / 0x40 % 0x40 + 0x80) :: UInt8.ofNat (value % 0x40 + 0x80) :: rest) =
      decodeAfter (valid + 3) (Char.ofNat value :: before) rest := by
  have lead :
      (UInt8.ofNat (value / 0x1000 % 0x10 + 0xE0)).toNat = value / 0x1000 % 0x10 + 0xE0 :=
    toNat_ofNat_add _ (by decide) (by decide)
  have joined : ofThree (UInt8.ofNat (value / 0x1000 % 0x10 + 0xE0))
      (UInt8.ofNat (value / 0x40 % 0x40 + 0x80)) (UInt8.ofNat (value % 0x40 + 0x80)) =
      Char.ofNat value := by
    unfold ofThree payload
    rw [lead, toNat_low, toNat_low]
    congr 1
    omega
  rw [decodeAfter_three, joined]
  · omega
  · omega
  · rw [isSecond_iff, lead, toNat_low]
    exact ⟨follows_low _, by omega⟩
  · exact isContinuation_iff.mpr (follows_low _)

theorem decodeAfter_writtenFour {value : Nat} (least : 0x10000 ≤ value)
    (most : value < 0x110000) :
    decodeAfter valid before
        (UInt8.ofNat (value / 0x40000 % 0x08 + 0xF0) ::
          UInt8.ofNat (value / 0x1000 % 0x40 + 0x80) ::
          UInt8.ofNat (value / 0x40 % 0x40 + 0x80) :: UInt8.ofNat (value % 0x40 + 0x80) :: rest) =
      decodeAfter (valid + 4) (Char.ofNat value :: before) rest := by
  have lead :
      (UInt8.ofNat (value / 0x40000 % 0x08 + 0xF0)).toNat = value / 0x40000 % 0x08 + 0xF0 :=
    toNat_ofNat_add _ (by decide) (by decide)
  have joined : ofFour (UInt8.ofNat (value / 0x40000 % 0x08 + 0xF0))
      (UInt8.ofNat (value / 0x1000 % 0x40 + 0x80)) (UInt8.ofNat (value / 0x40 % 0x40 + 0x80))
      (UInt8.ofNat (value % 0x40 + 0x80)) = Char.ofNat value := by
    unfold ofFour payload
    rw [lead, toNat_low, toNat_low, toNat_low]
    congr 1
    omega
  rw [decodeAfter_four, joined]
  · omega
  · omega
  · rw [isSecond_iff, lead, toNat_low]
    exact ⟨follows_low _, by omega⟩
  · exact isContinuation_iff.mpr (follows_low _)
  · exact isContinuation_iff.mpr (follows_low _)

theorem decodeAfter_encodeChar (valid : Nat) (before : List Char) (character : Char)
    (rest : List UInt8) :
    decodeAfter valid before (String.utf8EncodeChar character ++ rest) =
      decodeAfter (valid + (String.utf8EncodeChar character).length) (character :: before)
        rest := by
  have bounds : character.val.toNat < 0xD800 ∨
      0xDFFF < character.val.toNat ∧ character.val.toNat < 0x110000 := character.valid
  have whole : Char.ofNat character.val.toNat = character := Char.ofNat_toNat character
  -- The bytes depend on the number of the character only, and so does what is read.
  unfold String.utf8EncodeChar
  simp only
  generalize character.val.toNat = value at bounds whole
  subst whole
  split
  · rename_i one
    have small : (UInt8.ofNat value).toNat = value :=
      UInt8.toNat_ofNat_of_lt' (Nat.lt_of_le_of_lt one (by decide))
    rw [List.singleton_append, decodeAfter_one, small]
    · rfl
    · omega
  · split
    · exact decodeAfter_writtenTwo (by omega) (by omega)
    · split
      · exact decodeAfter_writtenThree (by omega) (by omega) (by omega)
      · exact decodeAfter_writtenFour (by omega) (by omega)

/-! ### Decoding a text -/

theorem decodeAfter_encode_append (valid : Nat) (before characters : List Char)
    (rest : List UInt8) :
    decodeAfter valid before (encode characters ++ rest) =
      decodeAfter (valid + (encode characters).length) (characters.reverse ++ before) rest := by
  induction characters generalizing valid before with
  | nil => rfl
  | cons character characters ih =>
      rw [encode, List.flatMap_cons, List.append_assoc, decodeAfter_encodeChar]
      rw [encode] at ih
      rw [ih, List.length_append, Nat.add_assoc, List.reverse_cons, List.append_assoc,
        List.singleton_append]

theorem decode_encode (characters : List Char) : decode (encode characters) = .ok characters := by
  have read := decodeAfter_encode_append 0 [] characters []
  rw [List.append_nil, List.append_nil] at read
  rw [decode, read, decodeAfter, List.reverse_reverse]

theorem encode_injective {first second : List Char} (same : encode first = encode second) :
    first = second := by
  have read := decode_encode first
  rw [same, decode_encode] at read
  exact (Except.ok.inj read).symm

theorem encode_append (first second : List Char) :
    encode (first ++ second) = encode first ++ encode second :=
  List.flatMap_append

theorem encode_cons (character : Char) (characters : List Char) :
    encode (character :: characters) = String.utf8EncodeChar character ++ encode characters :=
  List.flatMap_cons

theorem encode_singleton (character : Char) :
    encode [character] = String.utf8EncodeChar character :=
  List.append_nil _

/-- An ASCII byte stands for itself wherever it stands. -/
theorem mem_of_mem_encode {characters : List Char} {byte : UInt8} (small : byte.toNat < 0x80)
    (member : byte ∈ encode characters) : Char.ofNat byte.toNat ∈ characters := by
  obtain ⟨character, inside, written⟩ := List.mem_flatMap.mp member
  rcases Nat.lt_or_ge character.toNat 0x80 with ascii | wide
  · rw [encodeChar_of_ascii ascii, List.mem_singleton] at written
    have size : character.toNat < UInt8.size := Nat.lt_trans ascii (by decide)
    rw [written, UInt8.toNat_ofNat_of_lt' size, Char.ofNat_toNat]
    exact inside
  · have large := UInt8.le_iff_toNat_le.mp (le_of_mem_encodeChar wide written)
    exact absurd small (Nat.not_lt_of_le large)

theorem not_mem_encode {characters : List Char} (mark : Char) (ascii : mark.toNat < 0x80)
    (absent : mark ∉ characters) : UInt8.ofNat mark.toNat ∉ encode characters := by
  intro member
  have size : mark.toNat < UInt8.size := Nat.lt_trans ascii (by decide)
  have value : (UInt8.ofNat mark.toNat).toNat = mark.toNat := UInt8.toNat_ofNat_of_lt' size
  have inside := mem_of_mem_encode (by rw [value]; exact ascii) member
  rw [value, Char.ofNat_toNat] at inside
  exact absent inside

/-- A byte of a text is not that of an ASCII character which is not in the text. -/
theorem ne_of_mem_encode {characters : List Char} {byte : UInt8}
    (member : byte ∈ encode characters) (mark : Char) (ascii : mark.toNat < 0x80)
    (absent : mark ∉ characters) : byte ≠ UInt8.ofNat mark.toNat := by
  rintro rfl
  exact not_mem_encode mark ascii absent member

theorem encode_ne_nil {characters : List Char} (nonempty : characters ≠ []) :
    encode characters ≠ [] := by
  intro empty
  have same : encode characters = encode [] := empty
  exact nonempty (encode_injective same)

/-! ### Only what characters are written as is read -/

theorem ofNat_eq_of_toNat {value : Nat} {byte : UInt8} (same : value = byte.toNat) :
    UInt8.ofNat value = byte := by
  rw [same, UInt8.ofNat_toNat]

theorem bounds_of_begins (begins : ¬ (lead < 0xC2 || 0xF4 < lead) = true) :
    0xC2 ≤ lead.toNat ∧ lead.toNat ≤ 0xF4 := by
  simp only [Bool.or_eq_true, decide_eq_true_eq, UInt8.lt_iff_toNat_lt, UInt8.reduceToNat]
    at begins
  omega

theorem encodeChar_ofTwo (least : 0xC2 ≤ lead.toNat) (most : lead.toNat < 0xE0)
    (isSecond : isSecond lead second = true) :
    String.utf8EncodeChar (ofTwo lead second) = [lead, second] := by
  obtain ⟨⟨secondLeast, secondMost⟩, -⟩ := isSecond_iff.mp isSecond
  have value : (ofTwo lead second).toNat = lead.toNat % 0x20 * 0x40 + second.toNat % 0x40 := by
    apply toNat_ofNat
    simp only [Nat.isValidChar, payload]
    omega
  simp only [String.utf8EncodeChar]
  rw [Char.toNat] at value
  rw [value, if_neg (by omega), if_pos (by omega)]
  congr
  · exact ofNat_eq_of_toNat (by omega)
  · exact ofNat_eq_of_toNat (by omega)

theorem encodeChar_ofThree (least : 0xE0 ≤ lead.toNat) (most : lead.toNat < 0xF0)
    (isSecond : isSecond lead second = true) (isThird : isContinuation third = true) :
    String.utf8EncodeChar (ofThree lead second third) = [lead, second, third] := by
  obtain ⟨⟨secondLeast, secondMost⟩, long, noSurrogate, -⟩ := isSecond_iff.mp isSecond
  obtain ⟨thirdLeast, thirdMost⟩ := isContinuation_iff.mp isThird
  have value : (ofThree lead second third).toNat =
      lead.toNat % 0x10 * 0x1000 + second.toNat % 0x40 * 0x40 + third.toNat % 0x40 := by
    apply toNat_ofNat
    simp only [Nat.isValidChar, payload]
    omega
  simp only [String.utf8EncodeChar]
  rw [Char.toNat] at value
  rw [value, if_neg (by omega), if_neg (by omega), if_pos (by omega)]
  congr
  · exact ofNat_eq_of_toNat (by omega)
  · exact ofNat_eq_of_toNat (by omega)
  · exact ofNat_eq_of_toNat (by omega)

theorem encodeChar_ofFour (least : 0xF0 ≤ lead.toNat) (most : lead.toNat ≤ 0xF4)
    (isSecond : isSecond lead second = true) (isThird : isContinuation third = true)
    (isFourth : isContinuation fourth = true) :
    String.utf8EncodeChar (ofFour lead second third fourth) = [lead, second, third, fourth] := by
  obtain ⟨⟨secondLeast, secondMost⟩, -, -, long, bounded⟩ := isSecond_iff.mp isSecond
  obtain ⟨thirdLeast, thirdMost⟩ := isContinuation_iff.mp isThird
  obtain ⟨fourthLeast, fourthMost⟩ := isContinuation_iff.mp isFourth
  have value : (ofFour lead second third fourth).toNat =
      lead.toNat % 0x08 * 0x40000 + second.toNat % 0x40 * 0x1000 + third.toNat % 0x40 * 0x40 +
        fourth.toNat % 0x40 := by
    apply toNat_ofNat
    simp only [Nat.isValidChar, payload]
    omega
  simp only [String.utf8EncodeChar]
  rw [Char.toNat] at value
  rw [value, if_neg (by omega), if_neg (by omega), if_neg (by omega)]
  congr
  · exact ofNat_eq_of_toNat (by omega)
  · exact ofNat_eq_of_toNat (by omega)
  · exact ofNat_eq_of_toNat (by omega)
  · exact ofNat_eq_of_toNat (by omega)

theorem encode_ofNat_of_ascii {byte : UInt8} (ascii : byte < 0x80) :
    encode [Char.ofNat byte.toNat] = [byte] := by
  have small : byte.toNat < 0x80 := UInt8.lt_iff_toNat_lt.mp ascii
  have value : (Char.ofNat byte.toNat).toNat = byte.toNat :=
    toNat_ofNat (Or.inl (Nat.lt_trans small (by decide)))
  rw [encode_singleton, encodeChar_of_ascii (by rw [value]; exact small), value,
    UInt8.ofNat_toNat]

theorem encode_reverse_cons {character : Char} {written : List UInt8}
    (one : String.utf8EncodeChar character = written) (before : List Char) :
    encode (character :: before).reverse = encode before.reverse ++ written := by
  rw [List.reverse_cons, encode_append, encode_singleton, one]

theorem encode_of_decodeAfter {bytes : List UInt8} {characters : List Char}
    (read : decodeAfter valid before bytes = .ok characters) :
    encode characters = encode before.reverse ++ bytes := by
  fun_induction decodeAfter valid before bytes with
  | case1 =>
      rw [List.append_nil, Except.ok.inj read]
  | case2 valid before lead rest one ih =>
      have written := (encode_singleton _).symm.trans (encode_ofNat_of_ascii one)
      rw [ih read, encode_reverse_cons written, List.append_assoc, List.singleton_append]
  | case6 valid before lead _ begins second rest isSecond two ih =>
      rw [Bool.not_eq_true, Bool.not_eq_false'] at isSecond
      obtain ⟨least, -⟩ := bounds_of_begins begins
      have written := encodeChar_ofTwo least (UInt8.lt_iff_toNat_lt.mp two) isSecond
      rw [ih read, encode_reverse_cons written, List.append_assoc]
      rfl
  | case9 valid before lead _ begins second isSecond notTwo third rest isThird three ih =>
      rw [Bool.not_eq_true, Bool.not_eq_false'] at isSecond isThird
      have least := UInt8.le_iff_toNat_le.mp (UInt8.not_lt.mp notTwo)
      have written := encodeChar_ofThree least (UInt8.lt_iff_toNat_lt.mp three) isSecond isThird
      rw [ih read, encode_reverse_cons written, List.append_assoc]
      rfl
  | case12 valid before lead _ begins second isSecond notTwo third isThird notThree fourth rest
      isFourth ih =>
      rw [Bool.not_eq_true, Bool.not_eq_false'] at isSecond isThird isFourth
      obtain ⟨-, most⟩ := bounds_of_begins begins
      have least := UInt8.le_iff_toNat_le.mp (UInt8.not_lt.mp notThree)
      have written := encodeChar_ofFour least most isSecond isThird isFourth
      rw [ih read, encode_reverse_cons written, List.append_assoc]
      rfl
  | case3 | case4 | case5 | case7 | case8 | case10 | case11 => contradiction

/-- Bytes are read as the characters that are written as these bytes, if there are some. -/
theorem decode_eq_ok_iff {bytes : List UInt8} {characters : List Char} :
    decode bytes = .ok characters ↔ encode characters = bytes := by
  constructor
  · exact encode_of_decodeAfter
  · rintro rfl
    exact decode_encode characters

end Utf8

end XmlExtract
