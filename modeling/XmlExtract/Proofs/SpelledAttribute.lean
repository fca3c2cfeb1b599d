import XmlExtract.Proofs.SpelledTag

/-!
# Attributes of a spelling

Attributes are read one after the other as they were spelled: their keys are the names,
and their values are decoded first and have their references resolved afterwards
(`AttributeList.readFrom_eq`).
-/

namespace XmlExtract

namespace RawAttribute

/-- The next key, with its position and with what stands behind its equals sign; or nothing,
if no key comes. -/
def keyFrom (total : Nat) (bytes : List UInt8) :
    Except AttributeFlaw (Option (Nat × List UInt8 × List UInt8)) :=
  match bytes.dropWhile isBlankByte with
  | [] => .ok none
  | first :: afterFirst =>
      match (afterFirst.dropWhile isKeyByte).dropWhile isBlankByte with
      | [] => .error (.missingEquals total)
      | equals :: afterEquals =>
          if equals != Byte.equals then
            .error (.missingEquals (total - (afterEquals.length + 1)))
          else
            .ok (some (total - (afterFirst.length + 1),
              first :: afterFirst.takeWhile isKeyByte, afterEquals))

/-- The value behind an equals sign, and what stands behind it. -/
def valueFrom (total : Nat) (bytes : List UInt8) :
    Except AttributeFlaw (List UInt8 × List UInt8) :=
  match bytes.dropWhile isBlankByte with
  | [] => .error (.missingValue total)
  | quote :: afterQuote =>
      if quote != Byte.quote && quote != Byte.apostrophe then
        .error (.unquotedValue (total - (afterQuote.length + 1)))
      else
        match afterQuote.dropWhile (· != quote) with
        | [] => .error (.missingQuote total (Char.ofNat quote.toNat))
        | _ :: rest => .ok (afterQuote.takeWhile (· != quote), rest)

/-- Attributes are read key by key and value by value. -/
theorem readFrom_eq (unique : Bool) (total : Nat) (earlier : List (List UInt8 × Nat))
    (bytes : List UInt8) :
    readFrom unique total earlier bytes =
      match keyFrom total bytes with
      | .error flaw => ([], some flaw)
      | .ok none => ([], none)
      | .ok (some (position, key, afterEquals)) =>
          match if unique then earlier.lookup key else none with
          | some previous => ([], some (.duplicate position previous))
          | none =>
              match valueFrom total afterEquals with
              | .error flaw => ([], some flaw)
              | .ok (value, rest) =>
                  let later := readFrom unique total ((key, position) :: earlier) rest
                  (⟨key, value⟩ :: later.1, later.2) := by
  fun_cases readFrom unique total earlier bytes with
  | case1 atKey => simp only [keyFrom, atKey]
  | case2 first afterFirst atKey atEquals => simp only [keyFrom, atKey, atEquals]
  | case3 first afterFirst atKey equals afterEquals atEquals other =>
      simp only [keyFrom, atKey, atEquals, if_pos other]
  | case4 first afterFirst atKey position key equals afterEquals atEquals same previous known =>
      simp only [keyFrom, atKey, atEquals, if_neg same]
      rw [known]
  | case5 first afterFirst atKey key equals afterEquals atEquals same new atQuote =>
      simp only [keyFrom, atKey, atEquals, if_neg same]
      rw [new]
      simp only [valueFrom, atQuote]
  | case6 first afterFirst atKey key equals afterEquals atEquals same new quote afterQuote
      atQuote other =>
      simp only [keyFrom, atKey, atEquals, if_neg same]
      rw [new]
      simp only [valueFrom, atQuote, if_pos other]
  | case7 first afterFirst atKey key equals afterEquals atEquals same new quote afterQuote
      atQuote isQuote atClosing =>
      simp only [keyFrom, atKey, atEquals, if_neg same]
      rw [new]
      simp only [valueFrom, atQuote, if_neg isQuote, atClosing]
  | case8 first afterFirst atKey position key equals afterEquals atEquals same new quote
      afterQuote atQuote isQuote closing rest atClosing later =>
      simp only [keyFrom, atKey, atEquals, if_neg same]
      rw [new]
      simp only [valueFrom, atQuote, if_neg isQuote, atClosing]
      rfl

/-- One attribute, when everything is where it belongs. -/
theorem readFrom_attribute (total : Nat) {earlier : List (List UInt8 × Nat)}
    {bytes afterFirst afterEquals afterQuote rest : List UInt8}
    {first quote closing : UInt8}
    (atKey : bytes.dropWhile isBlankByte = first :: afterFirst)
    (atEquals : (afterFirst.dropWhile isKeyByte).dropWhile isBlankByte =
      Byte.equals :: afterEquals)
    (new : earlier.lookup (first :: afterFirst.takeWhile isKeyByte) = none)
    (atQuote : afterEquals.dropWhile isBlankByte = quote :: afterQuote)
    (isQuote : quote = Byte.quote ∨ quote = Byte.apostrophe)
    (atClosing : afterQuote.dropWhile (· != quote) = closing :: rest) :
    ∃ position,
      readFrom true total earlier bytes =
        (⟨first :: afterFirst.takeWhile isKeyByte, afterQuote.takeWhile (· != quote)⟩ ::
            (readFrom true total
              ((first :: afterFirst.takeWhile isKeyByte, position) :: earlier) rest).1,
          (readFrom true total
            ((first :: afterFirst.takeWhile isKeyByte, position) :: earlier) rest).2) := by
  refine ⟨total - (afterFirst.length + 1), ?_⟩
  have keyRead : keyFrom total bytes = .ok (some (total - (afterFirst.length + 1),
      first :: afterFirst.takeWhile isKeyByte, afterEquals)) := by
    simp only [keyFrom, atKey, atEquals]
    rw [if_neg (by decide)]
  have valueRead : valueFrom total afterEquals =
      .ok (afterQuote.takeWhile (· != quote), rest) := by
    simp only [valueFrom, atQuote, atClosing]
    rw [if_neg (by rcases isQuote with rfl | rfl <;> decide)]
  rw [readFrom_eq, keyRead]
  simp only [if_true, new, valueRead]

theorem readFrom_blank {total : Nat} {earlier : List (List UInt8 × Nat)} {bytes : List UInt8}
    (blank : bytes.dropWhile isBlankByte = []) :
    readFrom true total earlier bytes = ([], none) := by
  rw [readFrom_eq, keyFrom, blank]

end RawAttribute

namespace Reading

variable {reading : Reading}

/-- Characters written in UTF-8 are decoded, whether or not the reader is told so. -/
theorem decode_encode (utf8 : reading.charset = .utf8) (rules : ReadingRules)
    (characters : List Char) :
    reading.decode rules (Utf8.encode characters) = .ok (String.ofList characters) := by
  rw [decode]
  split
  · rw [Utf8.decode_encode]
  · rw [utf8, Charset.decode?, Utf8.decode_encode]
    rfl

end Reading

namespace Spelling

/-! ### Bytes of an attribute -/

theorem Blanks.bytes {blanks : List Char} (blank : Blanks blanks) :
    ∀ byte ∈ Utf8.encode blanks, isBlankByte byte = true := by
  intro byte member
  obtain ⟨character, inside, written⟩ := List.mem_flatMap.mp member
  obtain ⟨only, encoded, isBlank⟩ := encode_blank (blank character inside)
  rw [encoded, List.mem_singleton] at written
  rw [written]
  exact isBlank

theorem IsName.isKeyByte {name : List Char} (isName : IsName name) :
    ∀ byte ∈ Utf8.encode name, RawAttribute.isKeyByte byte = true := by
  intro byte member
  have notEquals : byte ≠ Byte.equals :=
    Utf8.ne_of_mem_encode member '=' (by decide) (isName.not_mem '=' (by decide))
  simp [RawAttribute.isKeyByte, isBlankByte_of_mem isName byte member, notEquals]

/-- After a key comes an equals sign, perhaps after blanks. -/
theorem span_equals {blanks : List Char} (blank : Blanks blanks) (rest : List UInt8) :
    (Utf8.encode blanks ++ Byte.equals :: rest).takeWhile RawAttribute.isKeyByte = [] ∧
      (Utf8.encode blanks ++ Byte.equals :: rest).dropWhile RawAttribute.isKeyByte =
        Utf8.encode blanks ++ Byte.equals :: rest := by
  have bytes := blank.bytes
  cases encoded : Utf8.encode blanks with
  | nil => exact ⟨rfl, rfl⟩
  | cons byte others =>
      rw [encoded, List.forall_mem_cons] at bytes
      have notKey : RawAttribute.isKeyByte byte = false := by
        rw [RawAttribute.isKeyByte, bytes.1]
        exact Bool.and_false _
      simp [notKey]

/-- One attribute is read as it was spelled, up to its references. -/
theorem readFrom_spelled {key : String}
    {before beforeEquals afterEquals written spelling : List Char} {quote : Char}
    (blank : Blanks before) (isName : IsName key.toList) (blankBefore : Blanks beforeEquals)
    (blankAfter : Blanks afterEquals) (quoted : quote = '\"' ∨ quote = '\'')
    (unquoted : quote ∉ written) (total : Nat) {earlier : List (List UInt8 × Nat)}
    (new : earlier.lookup (Utf8.encodeString key) = none) :
    ∃ position,
      RawAttribute.readFrom true total earlier (Utf8.encode (before ++ (key.toList ++
          (beforeEquals ++ '=' :: (afterEquals ++ quote :: (written ++ quote :: spelling)))))) =
        (⟨Utf8.encodeString key, Utf8.encode written⟩ ::
            (RawAttribute.readFrom true total ((Utf8.encodeString key, position) :: earlier)
              (Utf8.encode spelling)).1,
          (RawAttribute.readFrom true total ((Utf8.encodeString key, position) :: earlier)
              (Utf8.encode spelling)).2) := by
  obtain ⟨byte, isQuote, encoded, absent⟩ := exists_quote_byte quoted
  obtain ⟨first, others, keyBytes⟩ :=
    List.exists_cons_of_ne_nil (Utf8.encode_ne_nil isName.ne_nil)
  have isKey := isName.isKeyByte
  have notBlank := isBlankByte_of_mem isName
  rw [keyBytes, List.forall_mem_cons] at isKey notBlank
  -- What is left to read after each part of the attribute.
  let valueBytes := Utf8.encode written ++ byte :: Utf8.encode spelling
  let quoteBytes := Utf8.encode afterEquals ++ byte :: valueBytes
  let equalsBytes := Utf8.encode beforeEquals ++ Byte.equals :: quoteBytes
  have whole : Utf8.encode (before ++ (key.toList ++ (beforeEquals ++ '=' ::
      (afterEquals ++ quote :: (written ++ quote :: spelling))))) =
      Utf8.encode before ++ (first :: (others ++ equalsBytes)) := by
    rw [Utf8.encode_append, Utf8.encode_append, keyBytes, Utf8.encode_append,
      Utf8.encode_cons '=', Utf8.encode_append, encoded, Utf8.encode_append, encoded]
    rfl
  have atKey : (Utf8.encode before ++ (first :: (others ++ equalsBytes))).dropWhile
      isBlankByte = first :: (others ++ equalsBytes) := by
    rw [List.dropWhile_append_of_pos blank.bytes, List.dropWhile_cons_of_neg]
    simp [notBlank.1]
  obtain ⟨keyTaken, keyLeft⟩ := span_equals blankBefore quoteBytes
  have atEquals : ((others ++ equalsBytes).dropWhile RawAttribute.isKeyByte).dropWhile
      isBlankByte = Byte.equals :: quoteBytes := by
    rw [List.dropWhile_append_of_pos isKey.2, keyLeft,
      List.dropWhile_append_of_pos blankBefore.bytes]
    rfl
  have keyEq : first :: (others ++ equalsBytes).takeWhile RawAttribute.isKeyByte =
      Utf8.encodeString key := by
    rw [List.takeWhile_append_of_pos isKey.2, keyTaken, List.append_nil, ← keyBytes]
    rfl
  have atQuote : quoteBytes.dropWhile isBlankByte = byte :: valueBytes := by
    rw [List.dropWhile_append_of_pos blankAfter.bytes]
    rcases isQuote with rfl | rfl <;> rfl
  have inside : ∀ other ∈ Utf8.encode written, (other != byte) = true := by
    intro other member
    rw [bne_iff_ne]
    exact fun same => absent written unquoted (same ▸ member)
  have atClosing : valueBytes.dropWhile (· != byte) = byte :: Utf8.encode spelling := by
    rw [List.dropWhile_append_of_pos inside]
    simp
  have valueEq : valueBytes.takeWhile (· != byte) = Utf8.encode written := by
    rw [List.takeWhile_append_of_pos inside]
    simp
  rw [← keyEq] at new
  have read := RawAttribute.readFrom_attribute total atKey atEquals new atQuote isQuote atClosing
  rwa [keyEq, valueEq, ← whole] at read

theorem AttributeList.readFrom_eq {attributes : List (String × String)} {spelling : List Char}
    (spelled : AttributeList attributes spelling)
    (distinct : (attributes.map Prod.fst).Nodup) {earlier : List (List UInt8 × Nat)}
    (fresh : ∀ name ∈ attributes.map Prod.fst,
      earlier.lookup (Utf8.encodeString name) = none)
    (total : Nat) {reading : Reading} (utf8 : reading.charset = .utf8) (rules : ReadingRules) :
    ∃ raws, RawAttribute.readFrom true total earlier (Utf8.encode spelling) = (raws, none) ∧
      raws.mapM (reading.readAttribute rules) = .ok attributes := by
  induction spelled generalizing earlier with
  | done blank =>
      refine ⟨[], RawAttribute.readFrom_blank ?_, rfl⟩
      rw [← List.append_nil (Utf8.encode _), List.dropWhile_append_of_pos blank.bytes]
      rfl
  | more separated blank isName blankBefore blankAfter quoted value rest ih =>
      rename_i key text before beforeEquals afterEquals written spelling quote attributes
      rw [List.map_cons, List.forall_mem_cons] at fresh
      rw [List.map_cons, List.nodup_cons] at distinct
      obtain ⟨position, read⟩ := readFrom_spelled blank isName blankBefore blankAfter quoted
        (value.quote_not_mem quoted) total fresh.1
      have freshLater : ∀ name ∈ attributes.map Prod.fst,
          List.lookup (Utf8.encodeString name)
            ((Utf8.encodeString key, position) :: earlier) = none := by
        intro name member
        -- Names are compared as bytes, and different names have different bytes.
        have different : Utf8.encodeString name ≠ Utf8.encodeString key := by
          intro same
          have equal := String.toList_inj.mp (Utf8.encode_injective same)
          exact distinct.1 (equal ▸ member)
        rw [List.lookup_cons, beq_eq_false_iff_ne.mpr different]
        exact fresh.2 name member
      obtain ⟨raws, readLater, decoded⟩ := ih distinct.2 freshLater
      refine ⟨⟨Utf8.encodeString key, Utf8.encode written⟩ :: raws, ?_, ?_⟩
      · rw [read, readLater]
      · have head : reading.readAttribute rules ⟨Utf8.encodeString key, Utf8.encode written⟩ =
            .ok (key, text) := by
          simp only [Reading.readAttribute, Utf8.encodeString, Reading.decode_encode utf8, bind,
            Except.bind, String.toList_ofList, value.resolveAll_eq, String.ofList_toList]
        rw [List.mapM_cons, head, decoded]
        rfl

/-! ### Whole tags -/

theorem AttributeList.separated {attributes : List (String × String)} {spelling : List Char}
    (spelled : AttributeList attributes spelling) :
    ∀ first ∈ spelling.head?, isBlank first = true := by
  intro first found
  cases spelled with
  | done blank => exact blank first (List.mem_of_head? found)
  | more separated blank isName blankBefore blankAfter quoted value rest =>
      rw [List.head?_append_of_ne_nil _ separated] at found
      exact blank first (List.mem_of_head? found)

namespace StartTag

variable {name : String} {attributes : List (String × String)} {content : List Char}
  {reading : Reading}

theorem startName_eq (start : StartTag name attributes content) :
    Reading.startName (Utf8.encode content) = Utf8.encodeString name := by
  obtain ⟨spelling, list, rfl⟩ := start.spelled
  exact takeWhile_name start.isName list.separated

theorem readStart_eq (start : StartTag name attributes content)
    (utf8 : reading.charset = .utf8) (rules : ReadingRules) :
    reading.readStart rules (Utf8.encode content) = .ok (.elementStart name attributes) := by
  have nameEq := start.startName_eq
  obtain ⟨spelling, list, rfl⟩ := start.spelled
  have rest : (Utf8.encode (name.toList ++ spelling)).drop (Utf8.encodeString name).length =
      Utf8.encode spelling := by
    rw [Utf8.encode_append]
    exact List.drop_left
  have fresh : ∀ name ∈ attributes.map Prod.fst,
      ([] : List (List UInt8 × Nat)).lookup (Utf8.encodeString name) = none :=
    fun _ _ => rfl
  obtain ⟨raws, read, decoded⟩ := list.readFrom_eq start.distinct fresh
    (Utf8.encode (name.toList ++ spelling)).length utf8 rules
  have decodedName : reading.decode rules (Utf8.encodeString name) = .ok name := by
    rw [Utf8.encodeString, Reading.decode_encode utf8, String.ofList_toList]
  simp only [Reading.readStart, nameEq, decodedName, RawAttribute.readAll, rest, read, bind,
    Except.bind, decoded]

end StartTag

end Spelling

end XmlExtract
