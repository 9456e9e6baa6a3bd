/-!
Texts as sequences of code points. Unlike `String`, a text can hold half of a surrogate pair, so every
value a record module can write down has a text. The bridge to `String` is `Text.toChars?`: it answers
exactly on the texts that have a UTF-8 form.
-/

namespace FluentRecords

/-- A code point, at most `0x10FFFF`; the surrogate range is not excluded. -/
abbrev CodePoint := Nat

/-- A text is the list of its code points. -/
abbrev Text := List CodePoint

namespace Text

/-- The code points of a string. -/
def ofString (s : String) : Text :=
  s.toList.map Char.toNat

instance : Coe String Text := ⟨ofString⟩

/-- The code points of a list of characters. -/
def ofChars (cs : List Char) : Text :=
  cs.map Char.toNat

/-- Half of a surrogate pair; such a code point has no UTF-8 form. -/
def isSurrogate (c : CodePoint) : Bool :=
  0xD800 ≤ c && c ≤ 0xDFFF

/-- The characters of a text without surrogates. -/
def toChars? : Text → Option (List Char)
  | [] => some []
  | c :: rest => if isSurrogate c then none else (toChars? rest).map (Char.ofNat c :: ·)

/-- The string of a text, with every surrogate replaced by NUL. -/
def toStringLossy (t : Text) : String :=
  String.ofList (t.map Char.ofNat)

/-- The decimal digits of a natural number. -/
def ofNat (n : Nat) : Text :=
  ofChars (Nat.toDigits 10 n)

/-- The decimal text of an integer, with a minus sign when it is negative. -/
def ofInt (i : Int) : Text :=
  if i < 0 then 45 :: ofNat i.natAbs else ofNat i.natAbs

/-- The digit of a value below 16, in lower case. -/
def hexDigit (n : Nat) : CodePoint :=
  if n < 10 then 48 + n else 87 + n

/-- `n` in hexadecimal with exactly `width` digits, the higher ones cut off. -/
def hex (width n : Nat) : Text :=
  match width with
  | 0 => []
  | w + 1 => hexDigit (n / 16 ^ w % 16) :: hex w n

/-- Upper-case hexadecimal digits, at least four of them. -/
def hexUpper (n : Nat) : Text :=
  let digits := (Nat.toDigits 16 n).map fun c => c.toUpper.toNat
  List.replicate (4 - digits.length) 48 ++ digits

/-- The text if the condition holds, else nothing. -/
def when (b : Bool) (t : Text) : Text :=
  if b then t else []

/-- The parts with the separator between neighbours. -/
def join (sep : Text) : List Text → Text
  | [] => []
  | [t] => t
  | t :: rest => t ++ sep ++ join sep rest

/-- The pieces between line feeds; a text without one is a single line. -/
def splitLines : Text → List Text
  | [] => [[]]
  | c :: rest =>
    match splitLines rest with
    | [] => [[c]]
    | line :: lines => if c = 10 then [] :: line :: lines else (c :: line) :: lines

/-- Every kind of line end as a line feed. -/
def lineFeeds : Text → Text
  | [] => []
  | 13 :: 10 :: rest => 10 :: lineFeeds rest
  | 13 :: rest => 10 :: lineFeeds rest
  | c :: rest => c :: lineFeeds rest

/-- Whether the first text begins the second. -/
def startsWith (p t : Text) : Bool :=
  p.isPrefixOf t

/-- Order by code points, the first difference decides. -/
def le : Text → Text → Bool
  | [], _ => true
  | _ :: _, [] => false
  | a :: s, b :: t => a < b || (a == b && le s t)

/-- The texts in increasing order, equal ones in their given order. -/
def sort (ts : List Text) : List Text :=
  ts.mergeSort le

/-- Lower case of the letters A to Z; every other code point is kept. -/
def asciiLower (t : Text) : Text :=
  t.map fun c => if 65 ≤ c && c ≤ 90 then c + 32 else c

end Text

end FluentRecords
