import XmlExtract.Proofs.Respelling
import XmlExtract.Proofs.SpelledAttribute

/-!
# Respelled tags

Inside of a tag, too, every name and every value is cut out at ASCII characters.  So the
attributes of a respelled tag are those of the tag, respelled
(`RawAttribute.respells_readFrom`), and so are the names (`Reading.startName_apply`,
`Reading.endName_apply`).  Flaws stand where they stood, but their positions count bytes.
-/

namespace XmlExtract

open Respelling (stopsAtAscii_above isBlankByte_above beq_mark_above)

namespace RawAttribute

/-- An attribute whose key and value are respelled. -/
def respell (spelling : Respelling) (raw : RawAttribute) : RawAttribute :=
  ⟨spelling.apply raw.key, spelling.apply raw.value⟩

/-- What is read of respelled bytes: the attributes, respelled, and a flaw if there is one. -/
structure Respells (spelling : Respelling)
    (read other : List RawAttribute × Option AttributeFlaw) : Prop where
  raws : other.1 = read.1.map (respell spelling)
  flawed : other.2.isSome = read.2.isSome

variable (spelling : Respelling)

/-- A key ends at an ASCII character, but it may begin with any byte. -/
theorem key_apply (first : UInt8) (bytes : List UInt8) : ∃ firstOther later,
    spelling.apply (first :: bytes) = firstOther :: later ∧
      firstOther :: later.takeWhile isKeyByte =
        spelling.apply (first :: bytes.takeWhile isKeyByte) ∧
      later.dropWhile isKeyByte = spelling.apply (bytes.dropWhile isKeyByte) := by
  have above := stopsAtAscii_above stopsAtAscii_isKeyByte
  obtain ⟨unit, units, spelled⟩ := List.exists_cons_of_ne_nil (spelling.spell_ne_nil first)
  have inKey : ∀ other ∈ units, isKeyByte other = true := by
    intro other member
    by_cases ascii : first < 0x80
    · rw [spelling.spell_ascii first ascii, List.cons.injEq] at spelled
      rw [← spelled.2] at member
      exact absurd member List.not_mem_nil
    · exact above other (spelling.spell_above first (UInt8.not_lt.mp ascii) other
        (by simp [spelled, member]))
  refine ⟨unit, units ++ spelling.apply bytes, by rw [Respelling.apply_cons, spelled]; rfl,
    ?_, ?_⟩
  · rw [List.takeWhile_append_of_pos inKey, spelling.takeWhile_apply above,
      Respelling.apply_cons, spelled]
    rfl
  · rw [List.dropWhile_append_of_pos inKey, spelling.dropWhile_apply above]

theorem length_lt_of_dropWhile {accepts : UInt8 → Bool} {bytes rest : List UInt8} {byte : UInt8}
    (found : bytes.dropWhile accepts = byte :: rest) : rest.length < bytes.length := by
  have shorter := (List.dropWhile_sublist accepts (l := bytes)).length_le
  rw [found, List.length_cons] at shorter
  exact shorter

/-- In respelled bytes there is the same key, respelled, or none, or a flaw, as in the bytes. -/
theorem keyFrom_apply (total totalOther : Nat) (bytes : List UInt8) :
    (∃ flaw flawOther, keyFrom total bytes = .error flaw ∧
      keyFrom totalOther (spelling.apply bytes) = .error flawOther) ∨
    (keyFrom total bytes = .ok none ∧ keyFrom totalOther (spelling.apply bytes) = .ok none) ∨
    ∃ position positionOther key rest, rest.length < bytes.length ∧
      keyFrom total bytes = .ok (some (position, key, rest)) ∧
      keyFrom totalOther (spelling.apply bytes) =
        .ok (some (positionOther, spelling.apply key, spelling.apply rest)) := by
  unfold keyFrom
  rw [spelling.dropWhile_apply isBlankByte_above]
  rcases atKey : bytes.dropWhile isBlankByte with _ | ⟨first, afterFirst⟩
  · exact Or.inr (Or.inl ⟨rfl, rfl⟩)
  obtain ⟨firstOther, later, applied, sameKey, behindKey⟩ :=
    key_apply spelling first afterFirst
  rw [applied]
  dsimp only
  rw [sameKey, behindKey, spelling.dropWhile_apply isBlankByte_above]
  rcases atEquals : (afterFirst.dropWhile isKeyByte).dropWhile isBlankByte with
    _ | ⟨equals, afterEquals⟩
  · exact Or.inl ⟨_, _, rfl, rfl⟩
  obtain ⟨equalsOther, more, applied, alike, behindEquals⟩ :=
    spelling.exists_apply_cons equals afterEquals
  have sameMark : (equalsOther == Byte.equals) = (equals == Byte.equals) :=
    alike (beq_mark_above (by decide))
  rw [applied]
  dsimp only
  rw [bne, bne, sameMark]
  split
  · exact Or.inl ⟨_, _, rfl, rfl⟩
  · rename_i isEquals
    rw [Bool.not_eq_true, Bool.not_eq_false', beq_iff_eq] at isEquals
    rw [(behindEquals (by rw [isEquals]; decide)).2]
    have toKey := length_lt_of_dropWhile atKey
    have toEquals := length_lt_of_dropWhile atEquals
    have pastKey := (List.dropWhile_sublist isKeyByte (l := afterFirst)).length_le
    exact Or.inr (Or.inr ⟨_, _, _, _, by omega, rfl, rfl⟩)

/-- Behind the equals sign of respelled bytes there is the same value, respelled, or a flaw. -/
theorem valueFrom_apply (total totalOther : Nat) (bytes : List UInt8) :
    (∃ flaw flawOther, valueFrom total bytes = .error flaw ∧
      valueFrom totalOther (spelling.apply bytes) = .error flawOther) ∨
    ∃ value rest, rest.length < bytes.length ∧ valueFrom total bytes = .ok (value, rest) ∧
      valueFrom totalOther (spelling.apply bytes) =
        .ok (spelling.apply value, spelling.apply rest) := by
  unfold valueFrom
  rw [spelling.dropWhile_apply isBlankByte_above]
  rcases atQuote : bytes.dropWhile isBlankByte with _ | ⟨quote, afterQuote⟩
  · exact Or.inl ⟨_, _, rfl, rfl⟩
  obtain ⟨quoteOther, more, applied, alike, behindQuote⟩ :=
    spelling.exists_apply_cons quote afterQuote
  have sameQuote : (quoteOther == Byte.quote) = (quote == Byte.quote) :=
    alike (beq_mark_above (by decide))
  have sameApostrophe : (quoteOther == Byte.apostrophe) = (quote == Byte.apostrophe) :=
    alike (beq_mark_above (by decide))
  rw [applied]
  dsimp only
  rw [bne, bne, bne, bne, sameQuote, sameApostrophe]
  split
  · exact Or.inl ⟨_, _, rfl, rfl⟩
  · rename_i quoted
    have isQuote : quote = Byte.quote ∨ quote = Byte.apostrophe := by
      simpa [or_iff_not_imp_left] using quoted
    obtain ⟨rfl, rfl⟩ := behindQuote (by rcases isQuote with rfl | rfl <;> decide)
    have stops := stopsAtAscii_quote isQuote
    rw [spelling.takeWhile_apply (stopsAtAscii_above stops)]
    rcases atClosing : afterQuote.dropWhile (· != quoteOther) with _ | ⟨closing, rest⟩
    · rw [spelling.dropWhile_apply (stopsAtAscii_above stops), atClosing]
      exact Or.inl ⟨_, _, rfl, rfl⟩
    · rw [spelling.dropWhile_apply_eq_cons stops atClosing]
      have toQuote := length_lt_of_dropWhile atQuote
      have toClosing := length_lt_of_dropWhile atClosing
      exact Or.inr ⟨_, _, by omega, rfl, rfl⟩

/-- A key is new among respelled keys if it was new among the keys. -/
theorem lookup_apply_eq_none_iff {earlier earlierOther : List (List UInt8 × Nat)}
    (keys : earlierOther.map Prod.fst = (earlier.map Prod.fst).map spelling.apply)
    (key : List UInt8) :
    earlierOther.lookup (spelling.apply key) = none ↔ earlier.lookup key = none := by
  have isNew (entries : List (List UInt8 × Nat)) (key : List UInt8) :
      entries.lookup key = none ↔ key ∉ entries.map Prod.fst := by
    rw [List.lookup_eq_none_iff, List.mem_map]
    constructor
    · rintro differ ⟨entry, member, rfl⟩
      exact absurd (differ entry member) (by simp)
    · intro absent entry member
      rw [bne_iff_ne]
      exact fun same => absent ⟨entry, member, same.symm⟩
  rw [isNew, isNew, keys, List.mem_map_of_injective spelling.apply_injective]

/-- The attributes of a respelled tag are respelled. -/
theorem respells_readFrom (unique : Bool) (total totalOther : Nat)
    {earlier earlierOther : List (List UInt8 × Nat)}
    (keys : earlierOther.map Prod.fst = (earlier.map Prod.fst).map spelling.apply)
    (bytes : List UInt8) :
    Respells spelling (readFrom unique total earlier bytes)
      (readFrom unique totalOther earlierOther (spelling.apply bytes)) := by
  induction size : bytes.length using Nat.strongRecOn generalizing bytes earlier earlierOther with
  | ind size ih =>
      rw [readFrom_eq unique total, readFrom_eq unique totalOther]
      rcases keyFrom_apply spelling total totalOther bytes with
        ⟨flaw, flawOther, read, readOther⟩ | ⟨read, readOther⟩ |
          ⟨position, positionOther, key, afterEquals, shorter, read, readOther⟩
      · rw [read, readOther]
        exact ⟨rfl, rfl⟩
      · rw [read, readOther]
        exact ⟨rfl, rfl⟩
      rw [read, readOther]
      have seen : (if unique then earlierOther.lookup (spelling.apply key) else none) = none ↔
          (if unique then earlier.lookup key else none) = none := by
        cases unique with
        | false => simp
        | true => exact lookup_apply_eq_none_iff spelling keys key
      dsimp only
      cases new : if unique then earlier.lookup key else none with
      | some previous =>
          obtain ⟨previousOther, found⟩ :=
            Option.ne_none_iff_exists'.mp (mt seen.mp (by simp [new]))
          rw [found]
          exact ⟨rfl, rfl⟩
      | none =>
          rw [seen.mpr new]
          rcases valueFrom_apply spelling total totalOther afterEquals with
            ⟨flaw, flawOther, read, readOther⟩ | ⟨value, rest, shorterStill, read, readOther⟩
          · rw [read, readOther]
            exact ⟨rfl, rfl⟩
          · rw [read, readOther]
            have keysLater : ((spelling.apply key, positionOther) :: earlierOther).map Prod.fst =
                (((key, position) :: earlier).map Prod.fst).map spelling.apply := by
              simp [keys]
            have later := ih rest.length (by omega) keysLater rest rfl
            exact ⟨congrArg _ later.raws, later.flawed⟩

end RawAttribute

namespace Reading

variable (spelling : Respelling)

theorem startName_apply (content : List UInt8) :
    startName (spelling.apply content) = spelling.apply (startName content) :=
  spelling.takeWhile_apply (stopsAtAscii_above stopsAtAscii_isNameByte) content

theorem endName_apply (content : List UInt8) :
    endName (spelling.apply content) = spelling.apply (endName content) := by
  unfold endName
  rw [spelling.all_apply isBlankByte_above, spelling.trimEnd_apply]
  split <;> rfl

theorem respells_readAll (content : List UInt8) :
    RawAttribute.Respells spelling
      (RawAttribute.readAll true (startName content).length content)
      (RawAttribute.readAll true (startName (spelling.apply content)).length
        (spelling.apply content)) := by
  unfold RawAttribute.readAll
  rw [drop_startName, drop_startName,
    spelling.dropWhile_apply (stopsAtAscii_above stopsAtAscii_isNameByte)]
  exact RawAttribute.respells_readFrom spelling true _ _ rfl _

end Reading

end XmlExtract
