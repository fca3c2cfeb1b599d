import XmlExtract.Markup.Reference
import XmlExtract.Proofs.Spelling

/-!
# References are resolved

Whatever way a character is referred to, the reference is resolved to the character
(`Refers.resolve_eq`).  Characters that are spelled one by one are therefore what comes
of resolving every reference in the spelling (`Characters.resolveAll_eq`).
-/

namespace XmlExtract

namespace Digits

variable {radix : Nat} {character : Char} {digits : List Char}

theorem not_mem_of_readAfter? (noDigit : value? radix character = none)
    {number result : Nat} (read : readAfter? radix number digits = some result) :
    character ∉ digits := by
  induction digits generalizing number with
  | nil => exact List.not_mem_nil
  | cons first rest ih =>
      cases value : value? radix first with
      | none => simp [readAfter?, value] at read
      | some digit =>
          simp only [readAfter?, value] at read
          rintro (_ | ⟨_, later⟩)
          · simp [value] at noDigit
          · exact ih read later

/-- Digits that follow others make the number no smaller. -/
theorem le_of_readAfter? (positive : 0 < radix) {number result : Nat}
    (read : readAfter? radix number digits = some result) : number ≤ result := by
  induction digits generalizing number with
  | nil => exact Nat.le_of_eq (Option.some.inj read)
  | cons first rest ih =>
      cases value : value? radix first with
      | none => simp [readAfter?, value] at read
      | some digit =>
          simp only [readAfter?, value] at read
          have larger := ih read
          have grows := Nat.le_mul_of_pos_right number positive
          omega

end Digits

namespace Reference

variable {radix : Nat} {digits : List Char}

theorem readDigitsAfter_eq (positive : 0 < radix) {value result : Nat}
    (read : Digits.readAfter? radix value digits = some result) (small : result < numberBound) :
    readDigitsAfter radix value digits = .ok result := by
  induction digits generalizing value with
  | nil => exact congrArg Except.ok (Option.some.inj read)
  | cons first rest ih =>
      cases found : Digits.value? radix first with
      | none => simp [Digits.readAfter?, found] at read
      | some digit =>
          simp only [Digits.readAfter?, found] at read
          have most := Digits.le_of_readAfter? positive read
          simp only [readDigitsAfter, found]
          rw [if_pos (Nat.lt_of_le_of_lt most small)]
          exact ih read

/-- Digits are read as the number that they write, in decimal or in hexadecimal. -/
theorem readNumber_eq (decimalOrHexadecimal : radix = 10 ∨ radix = 16) (written : digits ≠ [])
    {result : Nat} (read : Digits.read? radix digits = some result)
    (small : result < numberBound) : readNumber radix digits = .ok result := by
  have positive : 0 < radix := by omega
  have plus : Digits.value? radix '+' = none := by
    rcases decimalOrHexadecimal with rfl | rfl <;> decide
  have minus : Digits.value? radix '-' = none := by
    rcases decimalOrHexadecimal with rfl | rfl <;> decide
  have noPlus := Digits.not_mem_of_readAfter? plus read
  have noMinus := Digits.not_mem_of_readAfter? minus read
  unfold readNumber
  split
  · contradiction
  · simp at noPlus
  · simp at noMinus
  · exact readDigitsAfter_eq positive read small

theorem toNat_lt_numberBound (character : Char) : character.toNat < numberBound := by
  have valid : character.val.toNat < 0xD800 ∨
      0xDFFF < character.val.toNat ∧ character.val.toNat < 0x110000 := character.valid
  show character.val.toNat < 0x100000000
  omega

theorem characterOf_toNat {character : Char} (nonzero : character.toNat ≠ 0) :
    characterOf character.toNat = .ok character := by
  have valid : character.toNat.isValidChar := character.valid
  rw [characterOf, if_neg nonzero, if_pos valid, Char.ofNat_toNat]

end Reference

namespace Spelling

variable {character : Char} {name : List Char}

theorem Refers.resolve_eq (refers : Refers character name) (start : Nat) :
    Reference.resolve start name = .ok character := by
  have small := Reference.toNat_lt_numberBound character
  cases refers with
  | decimal nonzero written value =>
      rename_i digits
      have noX : 'x' ∉ digits := Digits.not_mem_of_readAfter? (by decide) value
      have number := Reference.readNumber_eq (Or.inl rfl) written value small
      have read : Reference.readCharacter digits = .ok character := by
        unfold Reference.readCharacter
        split
        · simp at noX
        · rw [number]
          exact Reference.characterOf_toNat nonzero
      simp only [Reference.resolve, read]
  | hexadecimal nonzero written value =>
      rename_i digits
      have number := Reference.readNumber_eq (Or.inr rfl) written value small
      have read : Reference.readCharacter ('x' :: digits) = .ok character := by
        rw [Reference.readCharacter, number]
        exact Reference.characterOf_toNat nonzero
      simp only [Reference.resolve, read]
  | byName known =>
      simp only [named, List.mem_cons, Prod.mk.injEq, List.not_mem_nil, or_false] at known
      rcases known with ⟨rfl, rfl⟩ | ⟨rfl, rfl⟩ | ⟨rfl, rfl⟩ | ⟨rfl, rfl⟩ | ⟨rfl, rfl⟩ <;> rfl

/-- The characters that end a reference, or a value around it, stand in none. -/
theorem Refers.not_mem (refers : Refers character name) :
    ∀ mark ∈ [';', '&', '<', '\"', '\''], mark ∉ name := by
  intro mark member
  have foreign : Digits.value? 10 mark = none ∧ Digits.value? 16 mark = none ∧
      mark ≠ '#' ∧ mark ≠ 'x' := by
    simp only [List.mem_cons, List.not_mem_nil, or_false] at member
    rcases member with rfl | rfl | rfl | rfl | rfl <;> decide
  obtain ⟨noDecimal, noHexadecimal, notHash, notX⟩ := foreign
  cases refers with
  | decimal nonzero written value =>
      simp [notHash, Digits.not_mem_of_readAfter? noDecimal value]
  | hexadecimal nonzero written value =>
      simp [notHash, notX, Digits.not_mem_of_readAfter? noHexadecimal value]
  | byName known =>
      have clean : (named.all fun entry => [';', '&', '<', '\"', '\''].all fun mark =>
          !entry.1.toList.contains mark) = true := by
        decide
      simpa using List.all_eq_true.mp (List.all_eq_true.mp clean _ known) mark member

end Spelling

namespace Reference

/-- What stands between an ampersand and a semicolon is resolved at the semicolon. -/
theorem resolveFrom_reference {name : List Char} (open? : '&' ∉ name) (unclosed : ';' ∉ name)
    (size offset start : Nat) (taken before rest : List Char) {character : Char}
    (resolved : resolve start (taken.reverse ++ name) = .ok character) :
    ∃ next, resolveFrom size offset (some (start, taken)) before (name ++ ';' :: rest) =
      resolveFrom size next none (character :: before) rest := by
  induction name generalizing offset taken with
  | nil =>
      rw [List.append_nil] at resolved
      refine ⟨offset + ';'.utf8Size, ?_⟩
      simp [resolveFrom, resolved]
  | cons first others ih =>
      rw [List.mem_cons, not_or] at open? unclosed
      have resolvedLater : resolve start ((first :: taken).reverse ++ others) = .ok character := by
        rw [List.reverse_cons, List.append_assoc]
        exact resolved
      obtain ⟨next, found⟩ := ih open?.2 unclosed.2 (offset + first.utf8Size) (first :: taken)
        resolvedLater
      refine ⟨next, ?_⟩
      rw [← found, List.cons_append]
      simp [resolveFrom, Ne.symm open?.1, Ne.symm unclosed.1]

end Reference

namespace Spelling

variable {barred text spelling : List Char}

theorem Characters.resolveFrom_eq (spelled : Characters barred text spelling)
    (size offset : Nat) (before : List Char) :
    Reference.resolveFrom size offset none before spelling = .ok (before.reverse ++ text) := by
  induction spelled generalizing offset before with
  | done => simp [Reference.resolveFrom]
  | plain notLess notAmpersand allowed rest ih =>
      rename_i character text spelling
      have later := ih (offset + character.utf8Size) (character :: before)
      simp only [Reference.resolveFrom]
      rw [if_neg notAmpersand, later, List.reverse_cons, List.append_assoc]
      rfl
  | reference refers rest ih =>
      rename_i character name text spelling
      have marks := refers.not_mem
      obtain ⟨next, found⟩ := Reference.resolveFrom_reference (marks '&' (by decide))
        (marks ';' (by decide)) size (offset + '&'.utf8Size) (offset + '&'.utf8Size) [] before
        spelling (refers.resolve_eq _)
      simp only [Reference.resolveFrom]
      rw [found, ih, List.reverse_cons, List.append_assoc]
      rfl

theorem Characters.resolveAll_eq (spelled : Characters barred text spelling) :
    Reference.resolveAll spelling = .ok text :=
  spelled.resolveFrom_eq _ 0 []

end Spelling

end XmlExtract
