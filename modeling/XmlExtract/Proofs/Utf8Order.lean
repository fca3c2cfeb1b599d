import XmlExtract.Proofs.Utf8RoundTrip

/-!
# UTF-8 keeps the order of texts

The keys of a collection ascend by code points.  A character with a larger number is written
with larger bytes, where the first byte that differs decides: longer forms have larger first
bytes, and within a form the digits of the number come from the top (`Ascends.low`).  So the
keys ascend by the bytes of their UTF-8 forms as well (`encodeString_lt_iff`).
-/

namespace XmlExtract

namespace Utf8

/-! ### Numbers below a bound -/

/-- Larger numbers below the bound are written with larger bytes, whatever follows. -/
def Ascends (bound : Nat) (write : Nat → List UInt8) : Prop :=
  ∀ value larger, value < larger → larger < bound →
    ∀ rest other, write value ++ rest < write larger ++ other

theorem cons_lt_cons_of_toNat_lt {byte larger : UInt8} (less : byte.toNat < larger.toNat)
    (rest other : List UInt8) : byte :: rest < larger :: other :=
  List.cons_lt_cons_iff.mpr (Or.inl (UInt8.lt_iff_toNat_lt.mpr less))

theorem ascends_lead (bound offset : Nat) (fits : bound + offset ≤ 0x100) :
    Ascends bound fun value => [UInt8.ofNat (value % bound + offset)] := by
  intro value larger less within rest other
  have positive : 0 < bound := Nat.zero_lt_of_lt within
  apply cons_lt_cons_of_toNat_lt
  rw [toNat_ofNat_add _ positive fits, toNat_ofNat_add _ positive fits,
    Nat.mod_eq_of_lt (Nat.lt_trans less within), Nat.mod_eq_of_lt within]
  exact Nat.add_lt_add_right less offset

/-- The last digit decides where the digits above it are the same. -/
theorem Ascends.low {bound : Nat} {write : Nat → List UInt8} (ascends : Ascends bound write) :
    Ascends (bound * 0x40) fun value =>
      write (value / 0x40) ++ [UInt8.ofNat (value % 0x40 + 0x80)] := by
  intro value larger less within rest other
  rw [List.append_assoc, List.append_assoc]
  rcases Nat.lt_or_eq_of_le (Nat.div_le_div_right (c := 0x40) (Nat.le_of_lt less)) with
    above | same
  · exact ascends _ _ above (Nat.div_lt_of_lt_mul (Nat.mul_comm bound _ ▸ within)) _ _
  · rw [same]
    apply List.append_left_lt
    apply cons_lt_cons_of_toNat_lt
    rw [toNat_low, toNat_low]
    omega

theorem ascends_two : Ascends 0x800 fun value =>
    [UInt8.ofNat (value / 0x40 % 0x20 + 0xC0), UInt8.ofNat (value % 0x40 + 0x80)] :=
  (ascends_lead 0x20 0xC0 (by decide)).low

theorem ascends_three : Ascends 0x10000 fun value =>
    [UInt8.ofNat (value / 0x1000 % 0x10 + 0xE0), UInt8.ofNat (value / 0x40 % 0x40 + 0x80),
      UInt8.ofNat (value % 0x40 + 0x80)] := by
  have digits := (ascends_lead 0x10 0xE0 (by decide)).low.low
  simpa only [Nat.div_div_eq_div_mul, List.cons_append, List.nil_append] using digits

theorem ascends_four : Ascends 0x200000 fun value =>
    [UInt8.ofNat (value / 0x40000 % 0x08 + 0xF0), UInt8.ofNat (value / 0x1000 % 0x40 + 0x80),
      UInt8.ofNat (value / 0x40 % 0x40 + 0x80), UInt8.ofNat (value % 0x40 + 0x80)] := by
  have digits := (ascends_lead 0x08 0xF0 (by decide)).low.low.low
  simpa only [Nat.div_div_eq_div_mul, List.cons_append, List.nil_append] using digits

/-! ### Texts -/

/-- A larger character is written with larger bytes, whatever follows. -/
theorem encodeChar_append_lt {character larger : Char} (less : character < larger)
    (rest other : List UInt8) :
    String.utf8EncodeChar character ++ rest < String.utf8EncodeChar larger ++ other := by
  have numbers : character.val.toNat < larger.val.toNat := UInt32.lt_iff_toNat_lt.mp less
  have bounds : larger.val.toNat < 0xD800 ∨
      0xDFFF < larger.val.toNat ∧ larger.val.toNat < 0x110000 := larger.valid
  unfold String.utf8EncodeChar
  simp only
  generalize character.val.toNat = value at numbers
  generalize larger.val.toNat = number at numbers bounds
  have leads (value : Nat) : (UInt8.ofNat (value % 0x20 + 0xC0)).toNat = value % 0x20 + 0xC0 ∧
      (UInt8.ofNat (value % 0x10 + 0xE0)).toNat = value % 0x10 + 0xE0 ∧
      (UInt8.ofNat (value % 0x08 + 0xF0)).toNat = value % 0x08 + 0xF0 :=
    ⟨toNat_ofNat_add _ (by decide) (by decide), toNat_ofNat_add _ (by decide) (by decide),
      toNat_ofNat_add _ (by decide) (by decide)⟩
  have one (value : Nat) (ascii : value ≤ 0x7F) : (UInt8.ofNat value).toNat = value :=
    UInt8.toNat_ofNat_of_lt' (Nat.lt_of_le_of_lt ascii (by decide))
  -- A form that is longer begins with a larger byte.
  by_cases ascii : value ≤ 0x7F
  · rw [if_pos ascii]
    split
    · rename_i alsoAscii
      apply cons_lt_cons_of_toNat_lt
      rwa [one value ascii, one number alsoAscii]
    · split
      · apply cons_lt_cons_of_toNat_lt
        rw [one value ascii, (leads _).1]
        omega
      · split
        · apply cons_lt_cons_of_toNat_lt
          rw [one value ascii, (leads _).2.1]
          omega
        · apply cons_lt_cons_of_toNat_lt
          rw [one value ascii, (leads _).2.2]
          omega
  · rw [if_neg ascii, if_neg (show ¬ number ≤ 0x7F by omega)]
    by_cases two : value ≤ 0x7FF
    · rw [if_pos two]
      split
      · exact ascends_two value number numbers (by omega) rest other
      · split
        · apply cons_lt_cons_of_toNat_lt
          rw [(leads _).1, (leads _).2.1]
          omega
        · apply cons_lt_cons_of_toNat_lt
          rw [(leads _).1, (leads _).2.2]
          omega
    · rw [if_neg two, if_neg (show ¬ number ≤ 0x7FF by omega)]
      by_cases three : value ≤ 0xFFFF
      · rw [if_pos three]
        split
        · exact ascends_three value number numbers (by omega) rest other
        · apply cons_lt_cons_of_toNat_lt
          rw [(leads _).2.1, (leads _).2.2]
          omega
      · rw [if_neg three, if_neg (show ¬ number ≤ 0xFFFF by omega)]
        exact ascends_four value number numbers (by omega) rest other

theorem encode_lt_of_lt {characters larger : List Char} (less : characters < larger) :
    encode characters < encode larger := by
  induction characters generalizing larger with
  | nil =>
      cases larger with
      | nil => exact absurd less (List.lt_irrefl [])
      | cons character later =>
          obtain ⟨lead, more, written⟩ :=
            List.exists_cons_of_ne_nil (encode_ne_nil (List.cons_ne_nil character later))
          rw [written]
          exact List.nil_lt_cons lead more
  | cons character later ih =>
      cases larger with
      | nil => exact absurd less (List.not_lt_nil _)
      | cons other others =>
          rw [encode_cons, encode_cons]
          rcases List.cons_lt_cons_iff.mp less with first | ⟨rfl, rest⟩
          · exact encodeChar_append_lt first _ _
          · exact List.append_left_lt (ih rest)

/-- Texts are in the order of their bytes in UTF-8. -/
theorem encodeString_lt_iff {text larger : String} :
    encodeString text < encodeString larger ↔ text < larger := by
  constructor
  · intro bytes
    apply Classical.byContradiction
    intro notLess
    by_cases same : text = larger
    · rw [same] at bytes
      exact List.lt_irrefl _ bytes
    · have greater := Std.lt_of_le_of_ne (String.not_lt.mp notLess) (Ne.symm same)
      have back := encode_lt_of_lt (String.lt_iff.mp greater)
      exact List.lt_irrefl _ (List.lt_trans bytes back)
  · intro less
    exact encode_lt_of_lt (String.lt_iff.mp less)

end Utf8

end XmlExtract
