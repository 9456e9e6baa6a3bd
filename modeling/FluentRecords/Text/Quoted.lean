import FluentRecords.Text.Printable

/-!
Quoted forms. A text is put between apostrophes, or between double quotes when it has apostrophes but
no double quote; what is not printable is escaped. Bytes are quoted in the same way with a `b` in
front, every byte outside printable ASCII being escaped.
-/

namespace FluentRecords.Text

/-- The apostrophe. -/
def apostrophe : CodePoint := 39

/-- The double quote. -/
def doubleQuote : CodePoint := 34

/-- The backslash. -/
def backslash : CodePoint := 92

/-- The numeric escape of a code point, as short as its value allows. -/
def numericEscape (c : CodePoint) : Text :=
  if c ≤ 0xFF then "\\x" ++ hex 2 c
  else if c ≤ 0xFFFF then "\\u" ++ hex 4 c
  else "\\U" ++ hex 8 c

/-- The escape of a code point that is not shown as itself. -/
def escape (c : CodePoint) : Text :=
  if c = 9 then "\\t"
  else if c = 10 then "\\n"
  else if c = 13 then "\\r"
  else if c = backslash then "\\\\"
  else numericEscape c

/-- The delimiter for a quoted form: double quotes only if that saves escaping apostrophes. -/
def delimiter (t : Text) : CodePoint :=
  if t.contains apostrophe && !t.contains doubleQuote then doubleQuote else apostrophe

/-- One code point inside the quoted form delimited by `q`. -/
def quoteOne (q c : CodePoint) : Text :=
  if c = q then [backslash, c]
  else if c = backslash || !isPrintable c then escape c
  else [c]

/-- The quoted form of a text. -/
def quote (t : Text) : Text :=
  let q := delimiter t
  q :: t.flatMap (quoteOne q) ++ [q]

/-- One byte inside the quoted form delimited by `q`. -/
def quoteByte (q : CodePoint) (b : UInt8) : Text :=
  let c := b.toNat
  if c = q then [backslash, c]
  else if c = backslash || c < 32 || 127 ≤ c then escape c
  else [c]

/-- The quoted form of a byte sequence. -/
def quoteBytes (bs : List UInt8) : Text :=
  let q := delimiter (bs.map UInt8.toNat)
  98 :: q :: bs.flatMap (quoteByte q) ++ [q]

end FluentRecords.Text
