import XmlExtract.Proofs.Utf16RoundTrip
import XmlExtract.Proofs.Utf8RoundTrip

/-!
# Surrogates in pairs

Units of UTF-16 write a text exactly if every surrogate among them has its other half beside
it, a high one in front of a low one.  Whether a surrogate is alone can be seen from its two
neighbours, with no decoding from the front (`Alone`).  The decoder agrees: it reads units as
the characters that are written with them (`decode_eq_ok_iff`), and it fails at the first
surrogate that is alone, with a count of the characters before it (`firstAlone_of_decode`).
-/

namespace XmlExtract

namespace Utf16

/-! ### Surrogates and their neighbours -/

/-- A surrogate between other units, none of which is its other half. -/
def Alone (before : List Nat) (unit : Nat) (after : List Nat) : Prop :=
  (isHighSurrogate unit = true ∧ ∀ next ∈ after.head?, isLowSurrogate next = false) ∨
    (isLowSurrogate unit = true ∧ ∀ last ∈ before.getLast?, isHighSurrogate last = false)

/-- Every surrogate is one of a pair. -/
def Paired (units : List Nat) : Prop :=
  ∀ before unit after, units = before ++ unit :: after → ¬ Alone before unit after

/-- The first surrogate of some units that is alone, and the units around it. -/
structure FirstAlone (units before : List Nat) (unit : Nat) (after : List Nat) : Prop where
  split : units = before ++ unit :: after
  alone : Alone before unit after
  first : ∀ earlier other later, units = earlier ++ other :: later →
    earlier.length < before.length → ¬ Alone earlier other later

theorem FirstAlone.unique {units before after front back : List Nat} {unit other : Nat}
    (found : FirstAlone units before unit after) (again : FirstAlone units front other back) :
    before = front ∧ unit = other := by
  have notShorter : ¬ front.length < before.length := fun shorter =>
    found.first front other back again.split shorter again.alone
  have notLonger : ¬ before.length < front.length := fun longer =>
    again.first before unit after found.split longer found.alone
  have same := found.split.symm.trans again.split
  have parts := List.append_inj same (by omega)
  exact ⟨parts.1, (List.cons.inj parts.2).1⟩

theorem Alone.of_cons {head : Nat} {before after : List Nat} {unit : Nat}
    (alone : Alone (head :: before) unit after) : Alone before unit after := by
  rcases alone with high | ⟨isLow, noHigh⟩
  · exact Or.inl high
  · refine Or.inr ⟨isLow, fun last member => noHigh last ?_⟩
    rw [Option.mem_def] at member ⊢
    rw [List.getLast?_cons, member]
    rfl

theorem isHighSurrogate_of_low {unit : Nat} (isLow : isLowSurrogate unit = true) :
    isHighSurrogate unit = false := by
  simp only [isHighSurrogate, isLowSurrogate, Bool.and_eq_true, Bool.and_eq_false_iff,
    decide_eq_true_eq, decide_eq_false_iff_not] at isLow ⊢
  omega

theorem isLowSurrogate_of_high {unit : Nat} (isHigh : isHighSurrogate unit = true) :
    isLowSurrogate unit = false := by
  cases isLow : isLowSurrogate unit with
  | false => rfl
  | true =>
      rw [isHighSurrogate_of_low isLow] at isHigh
      contradiction

/-! ### The units of characters -/

/-- A character is written as one unit that is no surrogate, or as a pair. -/
theorem encodeChar_cases (character : Char) :
    (∃ unit, encodeChar character = [unit] ∧ isHighSurrogate unit = false ∧
      isLowSurrogate unit = false) ∨
    ∃ high low, encodeChar character = [high, low] ∧ isHighSurrogate high = true ∧
      isLowSurrogate low = true := by
  have bounds : character.toNat < 0xD800 ∨
      0xDFFF < character.toNat ∧ character.toNat < 0x110000 := character.valid
  unfold encodeChar
  split
  · left
    refine ⟨_, rfl, ?_, ?_⟩
    · simp only [isHighSurrogate, Bool.and_eq_false_iff, decide_eq_false_iff_not]
      omega
    · simp only [isLowSurrogate, Bool.and_eq_false_iff, decide_eq_false_iff_not]
      omega
  · right
    refine ⟨_, _, rfl, ?_, ?_⟩
    · simp only [isHighSurrogate, Bool.and_eq_true, decide_eq_true_eq]
      omega
    · simp only [isLowSurrogate, Bool.and_eq_true, decide_eq_true_eq]
      omega

theorem encodeUnits_cons (character : Char) (characters : List Char) :
    encodeUnits (character :: characters) = encodeChar character ++ encodeUnits characters :=
  List.flatMap_cons

/-- No surrogate that a text is written with is alone, whatever follows the text. -/
theorem not_alone_of_encodeUnits {characters : List Char} {rest before after : List Nat}
    {unit : Nat} (split : encodeUnits characters ++ rest = before ++ unit :: after)
    (inside : before.length < (encodeUnits characters).length) : ¬ Alone before unit after := by
  induction characters generalizing before with
  | nil => simp [encodeUnits] at inside
  | cons character later ih =>
      rw [encodeUnits_cons, List.append_assoc] at split
      rw [encodeUnits_cons, List.length_append] at inside
      rcases encodeChar_cases character with
        ⟨single, written, notHigh, notLow⟩ | ⟨high, low, written, isHigh, isLow⟩
      · rw [written] at split inside
        cases before with
        | nil =>
            obtain ⟨rfl, -⟩ := List.cons.inj split
            simp [Alone, notHigh, notLow]
        | cons head before =>
            obtain ⟨rfl, others⟩ := List.cons.inj split
            intro alone
            apply ih others
            · simp only [List.length_cons, List.length_nil] at inside
              omega
            · exact alone.of_cons
      · rw [written] at split inside
        have notLow := isLowSurrogate_of_high isHigh
        simp only [List.cons_append, List.nil_append] at split
        rcases before with _ | ⟨head, _ | ⟨second, before⟩⟩
        · obtain ⟨rfl, rfl⟩ := List.cons.inj split
          simp [Alone, notLow, isLow]
        · simp only [List.cons_append, List.nil_append, List.cons.injEq] at split
          obtain ⟨rfl, rfl, -⟩ := split
          simp [Alone, isHighSurrogate_of_low isLow, isHigh]
        · simp only [List.cons_append, List.cons.injEq] at split
          obtain ⟨rfl, rfl, others⟩ := split
          intro alone
          apply ih others
          · simp only [List.length_cons, List.length_nil] at inside
            omega
          · exact alone.of_cons.of_cons

theorem paired_encodeUnits (characters : List Char) : Paired (encodeUnits characters) := by
  intro before unit after split
  have whole : encodeUnits characters ++ [] = before ++ unit :: after := by
    rw [List.append_nil, split]
  apply not_alone_of_encodeUnits whole
  rw [split, List.length_append, List.length_cons]
  omega

/-- The last unit of a text waits for no other. -/
theorem isHighSurrogate_getLast? {characters : List Char} {last : Nat}
    (member : last ∈ (encodeUnits characters).getLast?) : isHighSurrogate last = false := by
  induction characters with
  | nil => simp [encodeUnits] at member
  | cons character later ih =>
      rw [encodeUnits_cons, List.getLast?_append, Option.mem_def] at member
      cases others : (encodeUnits later).getLast? with
      | some unit =>
          rw [others] at member ih
          exact ih member
      | none =>
          rw [others, Option.none_or] at member
          rcases encodeChar_cases character with
            ⟨single, written, notHigh, -⟩ | ⟨high, low, written, -, isLow⟩
          · rw [written] at member
            exact Option.some.inj member ▸ notHigh
          · rw [written] at member
            exact Option.some.inj member ▸ isHighSurrogate_of_low isLow

/-- Each character has one unit, and one more for a pair. -/
theorem length_encodeUnits (characters : List Char) :
    (encodeUnits characters).length =
      characters.length + (encodeUnits characters).countP isHighSurrogate := by
  induction characters with
  | nil => rfl
  | cons character later ih =>
      rw [encodeUnits_cons, List.length_append, List.countP_append, ih, List.length_cons]
      rcases encodeChar_cases character with
        ⟨single, written, notHigh, -⟩ | ⟨high, low, written, isHigh, isLow⟩
      · simp [written, notHigh]
        omega
      · simp [written, isHigh, isHighSurrogate_of_low isLow]
        omega

/-! ### What the decoder reads -/

theorem encodeChar_ofNat {unit : Nat} (fits : unit < 0x10000)
    (notHigh : isHighSurrogate unit = false) (notLow : isLowSurrogate unit = false) :
    encodeChar (Char.ofNat unit) = [unit] := by
  simp only [isHighSurrogate, isLowSurrogate, Bool.and_eq_false_iff,
    decide_eq_false_iff_not] at notHigh notLow
  have valid : unit.isValidChar := by
    unfold Nat.isValidChar
    omega
  rw [encodeChar, toNat_ofNat valid, if_pos fits]

theorem encodeChar_ofPair {high low : Nat} (isHigh : isHighSurrogate high = true)
    (isLow : isLowSurrogate low = true) : encodeChar (ofPair high low) = [high, low] := by
  simp only [isHighSurrogate, isLowSurrogate, Bool.and_eq_true, decide_eq_true_eq]
    at isHigh isLow
  have valid : (0x10000 + (high - 0xD800) * 0x400 + (low - 0xDC00)).isValidChar := by
    unfold Nat.isValidChar
    omega
  rw [encodeChar, ofPair, toNat_ofNat valid, if_neg (by omega)]
  simp only [List.cons.injEq, and_true]
  omega

/-- A surrogate that is alone behind nothing is alone behind a text. -/
theorem Alone.behind {unit : Nat} {after : List Nat} (alone : Alone [] unit after)
    (characters : List Char) : Alone (encodeUnits characters) unit after := by
  rcases alone with high | ⟨isLow, -⟩
  · exact Or.inl high
  · exact Or.inr ⟨isLow, fun last member => isHighSurrogate_getLast? member⟩

/-- What decoding units behind `count` characters comes to, `before` in reverse: all of them
are the units of the characters that follow, or those in front of a surrogate that is alone
are. -/
def Reads (count : Nat) (before : List Char) (units : List Nat) :
    Except Unpaired (List Char) → Prop
  | .ok characters => ∃ later, characters = before.reverse ++ later ∧ units = encodeUnits later
  | .error ⟨unit, stopped⟩ =>
      ∃ later after, units = encodeUnits later ++ unit :: after ∧
        stopped = count + later.length ∧ Alone [] unit after

theorem Reads.cons {count : Nat} {before : List Char} {character : Char} {units : List Nat}
    {result : Except Unpaired (List Char)}
    (reads : Reads (count + 1) (character :: before) units result) :
    Reads count before (encodeChar character ++ units) result := by
  cases result with
  | ok characters =>
      obtain ⟨later, read, rfl⟩ := reads
      refine ⟨character :: later, ?_, (encodeUnits_cons character later).symm⟩
      rw [read, List.reverse_cons, List.append_assoc, List.singleton_append]
  | error unpaired =>
      obtain ⟨later, after, rfl, stopped, alone⟩ := reads
      refine ⟨character :: later, after, ?_, ?_, alone⟩
      · rw [encodeUnits_cons, List.append_assoc]
      · rw [stopped, List.length_cons]
        omega

theorem reads_decodeAfter (count : Nat) (before : List Char) {units : List Nat}
    (fit : ∀ unit ∈ units, unit < 0x10000) :
    Reads count before units (decodeAfter count before units) := by
  induction count, before, units using decodeAfter.induct with
  | case1 count before => exact ⟨[], (List.append_nil _).symm, rfl⟩
  | case2 count before high isHigh low rest isLow ih =>
      rw [decodeAfter_two isHigh isLow]
      have shorter := ih fun unit member =>
        fit unit (List.mem_cons_of_mem _ (List.mem_cons_of_mem _ member))
      have longer := Reads.cons shorter
      rw [encodeChar_ofPair isHigh isLow] at longer
      exact longer
  | case3 count before high isHigh next rest notLow =>
      have stops : decodeAfter count before (high :: next :: rest) = .error ⟨high, count⟩ := by
        simp [decodeAfter, isHigh, notLow]
      rw [stops]
      refine ⟨[], next :: rest, rfl, rfl, Or.inl ⟨isHigh, ?_⟩⟩
      simpa using notLow
  | case4 count before high isHigh =>
      have stops : decodeAfter count before [high] = .error ⟨high, count⟩ := by
        simp [decodeAfter, isHigh]
      rw [stops]
      exact ⟨[], [], rfl, rfl, Or.inl ⟨isHigh, by simp⟩⟩
  | case5 count before low rest notHigh isLow =>
      have stops : decodeAfter count before (low :: rest) = .error ⟨low, count⟩ := by
        conv => lhs; unfold decodeAfter
        simp [notHigh, isLow]
      rw [stops]
      exact ⟨[], rest, rfl, rfl, Or.inr ⟨isLow, by simp⟩⟩
  | case6 count before unit rest notHigh notLow ih =>
      rw [List.forall_mem_cons] at fit
      rw [Bool.not_eq_true] at notHigh notLow
      rw [decodeAfter_one notHigh notLow]
      have longer := Reads.cons (ih fit.2)
      rw [encodeChar_ofNat fit.1 notHigh notLow] at longer
      exact longer

/-- Units are read as the characters that are written with them. -/
theorem decode_eq_ok_iff {units : List Nat} (fit : ∀ unit ∈ units, unit < 0x10000)
    (characters : List Char) : decode units = .ok characters ↔ units = encodeUnits characters := by
  constructor
  · intro done
    have reads := reads_decodeAfter 0 [] fit
    rw [decode] at done
    rw [done] at reads
    obtain ⟨later, read, written⟩ := reads
    rw [read]
    exact written
  · rintro rfl
    exact decodeAfter_encodeUnits 0 [] characters

/-- Where decoding fails, it names the first surrogate that is alone, and it has counted the
characters before that. -/
theorem firstAlone_of_decode {units : List Nat} (fit : ∀ unit ∈ units, unit < 0x10000)
    {unpaired : Unpaired} (failed : decode units = .error unpaired) :
    ∃ before after, FirstAlone units before unpaired.unit after ∧
      unpaired.before + before.countP isHighSurrogate = before.length := by
  have reads := reads_decodeAfter 0 [] fit
  rw [decode] at failed
  rw [failed] at reads
  obtain ⟨characters, after, split, stopped, alone⟩ := reads
  refine ⟨encodeUnits characters, after, ⟨split, alone.behind characters, ?_⟩, ?_⟩
  · intro earlier other later again shorter
    exact not_alone_of_encodeUnits (split.symm.trans again) shorter
  · have lengths := length_encodeUnits characters
    omega

theorem exists_decode_iff {units : List Nat} (fit : ∀ unit ∈ units, unit < 0x10000) :
    (∃ characters, decode units = .ok characters) ↔ Paired units := by
  constructor
  · rintro ⟨characters, done⟩
    rw [(decode_eq_ok_iff fit characters).mp done]
    exact paired_encodeUnits characters
  · intro paired
    cases done : decode units with
    | ok characters => exact ⟨characters, rfl⟩
    | error unpaired =>
        obtain ⟨before, after, found, -⟩ := firstAlone_of_decode fit done
        exact absurd found.alone (paired _ _ _ found.split)

/-! ### Bytes, two by two -/

/-- The units of bytes; a byte that is left over writes none. -/
def unitsOf (order : ByteOrder) : List UInt8 → List Nat
  | first :: second :: rest => order.unit first second :: unitsOf order rest
  | _ => []

theorem unit_lt (order : ByteOrder) (first second : UInt8) :
    order.unit first second < 0x10000 := by
  have low := first.toNat_lt
  have high := second.toNat_lt
  cases order <;> simp only [ByteOrder.unit] <;> omega

theorem bytes_unit (order : ByteOrder) (first second : UInt8) :
    order.bytes (order.unit first second) = [first, second] := by
  have low := first.toNat_lt
  have high := second.toNat_lt
  cases order with
  | little =>
      have rest : (second.toNat * 0x100 + first.toNat) % 0x100 = first.toNat := by omega
      have quotient : (second.toNat * 0x100 + first.toNat) / 0x100 = second.toNat := by omega
      simp [ByteOrder.bytes, ByteOrder.unit, rest, quotient]
  | big =>
      have rest : (first.toNat * 0x100 + second.toNat) % 0x100 = second.toNat := by omega
      have quotient : (first.toNat * 0x100 + second.toNat) / 0x100 = first.toNat := by omega
      simp [ByteOrder.bytes, ByteOrder.unit, rest, quotient]

theorem unitsOf_lt (order : ByteOrder) (bytes : List UInt8) :
    ∀ unit ∈ unitsOf order bytes, unit < 0x10000 := by
  induction bytes using unitsOf.induct with
  | case1 first second rest ih =>
      rw [unitsOf, List.forall_mem_cons]
      exact ⟨unit_lt order first second, ih⟩
  | case2 bytes short => simp [unitsOf]

theorem nil_or_singleton {bytes : List UInt8}
    (short : ∀ first second rest, bytes = first :: second :: rest → False) :
    bytes = [] ∨ ∃ byte, bytes = [byte] := by
  rcases bytes with _ | ⟨byte, _ | ⟨second, rest⟩⟩
  · exact Or.inl rfl
  · exact Or.inr ⟨byte, rfl⟩
  · exact absurd rfl (short byte second rest)

theorem units?_eq (order : ByteOrder) (bytes : List UInt8) :
    units? order bytes =
      if bytes.length % 2 = 0 then some (unitsOf order bytes) else none := by
  induction bytes using unitsOf.induct with
  | case1 first second rest ih =>
      have parity : (first :: second :: rest).length % 2 = rest.length % 2 := by
        simp only [List.length_cons]
        omega
      rw [units?, ih, parity, unitsOf]
      split <;> rfl
  | case2 bytes short =>
      rcases nil_or_singleton short with rfl | ⟨byte, rfl⟩
      · rfl
      · rfl

theorem flatMap_bytes_unitsOf (order : ByteOrder) {bytes : List UInt8}
    (even : bytes.length % 2 = 0) : (unitsOf order bytes).flatMap order.bytes = bytes := by
  induction bytes using unitsOf.induct with
  | case1 first second rest ih =>
      have evenRest : rest.length % 2 = 0 := by
        simp only [List.length_cons] at even
        omega
      rw [unitsOf, List.flatMap_cons, bytes_unit, ih evenRest]
      rfl
  | case2 bytes short =>
      rcases nil_or_singleton short with rfl | ⟨byte, rfl⟩
      · rfl
      · contradiction

end Utf16

end XmlExtract
