import XmlExtract.Text.Digits

/-!
# Tables as text

A long table of numbers is written as text: every line holds rows that are divided
by semicolons, and a row holds hexadecimal numbers that are divided by spaces.
-/

namespace XmlExtract.Rows

/-- The numbers of one row. -/
def readRow (row : String) : List Nat :=
  (row.splitOn " ").filterMap fun number => Digits.read? 16 number.toList

/-- The rows of a table, in order. -/
def read (lines : List String) : List (List Nat) :=
  lines.flatMap fun line => (line.splitOn ";").map readRow

end XmlExtract.Rows
