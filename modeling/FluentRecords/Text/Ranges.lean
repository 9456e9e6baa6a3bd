import FluentRecords.Text.Basic

/-!
Sets of code points given by ranges, and the written form the tables of character properties use:
hexadecimal bounds joined by a hyphen, ranges separated by blanks.
-/

namespace FluentRecords

/-- A set of code points as a list of closed intervals. -/
abbrev Ranges := List (CodePoint × CodePoint)

namespace Ranges

/-- Membership in one of the intervals. -/
def contains (rs : Ranges) (c : CodePoint) : Bool :=
  rs.any fun r => r.1 ≤ c && c ≤ r.2

/-- The value of an upper-case hexadecimal digit. -/
def digitValue (c : Char) : Nat :=
  if c.isDigit then c.toNat - 48 else c.toNat - 55

/-- The value of a hexadecimal numeral. -/
def numeral (cs : List Char) : Nat :=
  cs.foldl (fun n c => 16 * n + digitValue c) 0

/-- One interval: two numerals around a hyphen, or a single numeral. -/
def interval (cs : List Char) : CodePoint × CodePoint :=
  match cs.span (· != '-') with
  | (a, []) => (numeral a, numeral a)
  | (a, _ :: b) => (numeral a, numeral b)

/-- The words between blanks and line breaks. -/
def words (cs : List Char) : List (List Char) :=
  (cs.splitOnP Char.isWhitespace).filter (! ·.isEmpty)

/-- Reads the written form of a table. -/
def ofString (s : String) : Ranges :=
  (words s.toList).map interval

end Ranges

end FluentRecords
