import FluentRecords.Syntax.Token.Number
import FluentRecords.Syntax.Tree
import FluentRecords.Text.Names
import FluentRecords.Text.Utf8

/-!
The values of literals: numerals, and the escapes in string literals. An escape that is not known stands
for itself, backslash included.
-/

namespace FluentRecords.Literal

/-- The value of digits in a base; other characters are passed over. -/
def natOf (base : Nat) (cs : List Char) : Nat :=
  cs.foldl (fun n c =>
    if c.isDigit then base * n + (c.toNat - 48)
    else if 'a' ≤ c && c ≤ 'f' then base * n + (c.toNat - 87)
    else if 'A' ≤ c && c ≤ 'F' then base * n + (c.toNat - 55)
    else n) 0

/-- The number a decimal numeral with a fraction or an exponent stands for. -/
def floatOf (cs : List Char) : Binary64 :=
  let cs := cs.filter (· != '_')
  let (mantissa, exponent) := cs.span fun c => c != 'e' && c != 'E'
  let (whole, fraction) := mantissa.span (· != '.')
  let fraction := fraction.drop 1
  let e : Int := match exponent.drop 1 with
    | '-' :: ds => -(natOf 10 ds : Int)
    | ds => natOf 10 ds
  Binary64.ofDecimal (natOf 10 (whole ++ fraction)) (e - fraction.length)

/-- The value of a numeral. Decimal integers beyond 4300 digits are refused with their length. -/
def numeral (cs : List Char) : Except Nat Constant :=
  match cs with
  | '0' :: b :: ds =>
    if b == 'x' || b == 'X' then .ok (.int (natOf 16 ds))
    else if b == 'o' || b == 'O' then .ok (.int (natOf 8 ds))
    else if b == 'b' || b == 'B' then .ok (.int (natOf 2 ds))
    else decimal cs
  | cs => decimal cs
where
  decimal (cs : List Char) : Except Nat Constant :=
    match cs.getLast? with
    | some 'j' => .ok (.imaginary (floatOf cs.dropLast))
    | some 'J' => .ok (.imaginary (floatOf cs.dropLast))
    | _ =>
      if cs.any fun c => c == '.' || c == 'e' || c == 'E' then .ok (.float (floatOf cs))
      else
        let ds := cs.filter (· != '_')
        if 4300 < ds.length then .error ds.length else .ok (.int (natOf 10 ds))

/-- A string literal taken apart. -/
structure StringParts where
  bytes : Bool
  raw : Bool
  formatted : Bool
  marked : Bool
  body : List Char
  /-- The characters before the body. -/
  opening : Nat

/-- Takes a string literal apart. -/
def stringParts (cs : List Char) : StringParts :=
  let letters := cs.takeWhile Char.isAlpha
  let has (a b : Char) : Bool := letters.any fun c => c == a || c == b
  let quoted := cs.drop letters.length
  let size := match quoted with
    | a :: b :: c :: _ :: _ :: _ :: _ => if a == b && b == c then 3 else 1
    | _ => 1
  { bytes := has 'b' 'B', raw := has 'r' 'R', formatted := has 'f' 'F',
    marked := letters.head? == some 'u', body := (quoted.drop size).take (quoted.length - 2 * size),
    opening := letters.length + size }

/-- A malformed escape in a text: the bytes it takes up, and what is wrong. -/
structure EscapeFault where
  start : Nat
  stop : Nat
  reason : Text

/-- How a malformed escape is reported. -/
def EscapeFault.message (f : EscapeFault) : Text :=
  if f.stop = f.start + 1 then
    "(unicode error) 'unicodeescape' codec can't decode byte 0x5c in position " ++ Text.ofNat f.start
      ++ ": " ++ f.reason
  else
    "(unicode error) 'unicodeescape' codec can't decode bytes in position " ++ Text.ofNat f.start
      ++ "-" ++ Text.ofNat (f.stop - 1) ++ ": " ++ f.reason

/-- What an escape stands for and the characters it takes after the backslash; a malformed one gives
the characters read and the reason. -/
abbrev EscapeReading := Except (Nat × Text) (Text × Nat)

/-- The code points of the one-letter escapes. -/
def simpleEscape? (c : Char) : Option Text :=
  match c with
  | '\n' => some []
  | '\\' => some [92]
  | '\'' => some [39]
  | '"' => some [34]
  | 'a' => some [7]
  | 'b' => some [8]
  | 'f' => some [12]
  | 'n' => some [10]
  | 'r' => some [13]
  | 't' => some [9]
  | 'v' => some [11]
  | _ => none

/-- An octal digit. -/
def isOctal (c : Char) : Bool :=
  '0' ≤ c && c < '8'

/-- An escape with a fixed number of hexadecimal digits. -/
def hexEscape (count : Nat) (reason : Text) (rest : List Char) : EscapeReading :=
  let ds := (rest.take count).takeWhile Numeral.isHexDigit
  if ds.length < count then .error (1 + ds.length, reason)
  else
    let n := natOf 16 ds
    if n < 0x110000 then .ok ([n], 1 + count) else .error (1 + count, "illegal Unicode character")

/-- An escape by name. -/
def nameEscape (rest : List Char) : EscapeReading :=
  match rest with
  | '\x7b' :: rest' =>
    let name := rest'.takeWhile (· != '\x7d')
    if name.length = rest'.length then .error (2 + name.length, "malformed \\N character escape")
    else if name.isEmpty then .error (2, "malformed \\N character escape")
    else match Text.named? (Text.ofChars name) with
      | some c => .ok ([c], 3 + name.length)
      | none => .error (3 + name.length, "unknown Unicode character name")
  | _ => .error (1, "malformed \\N character escape")

/-- Reads an escape in a text; `c :: rest` follows the backslash. -/
def textEscape (c : Char) (rest : List Char) : EscapeReading :=
  match simpleEscape? c with
  | some t => .ok (t, 1)
  | none =>
    if isOctal c then
      let ds := c :: (rest.take 2).takeWhile isOctal
      .ok ([natOf 8 ds], ds.length)
    else if c == 'x' then hexEscape 2 "truncated \\xXX escape" rest
    else if c == 'u' then hexEscape 4 "truncated \\uXXXX escape" rest
    else if c == 'U' then hexEscape 8 "truncated \\UXXXXXXXX escape" rest
    else if c == 'N' then nameEscape rest
    else .ok ([92, c.toNat], 1)

/-- The bytes a character counts for in the report of a malformed escape. -/
def reportSize (c : Char) : Nat :=
  if c.toNat < 0x80 then 1 else 10

/-- Decoding from a position on; `skip` characters belong to the escape before. -/
def decodeFrom (position skip : Nat) : List Char → Except EscapeFault Text
  | [] => .ok []
  | c :: rest =>
    match skip with
    | k + 1 => decodeFrom (position + reportSize c) k rest
    | 0 =>
      if c == '\\' then
        match rest with
        | [] => .ok [92]
        | d :: rest' =>
          if 0x80 ≤ d.toNat then (decodeFrom (position + 6) 0 rest).map (92 :: ·)
          else match textEscape d rest' with
            | .ok (t, n) => (decodeFrom (position + 1) n rest).map (t ++ ·)
            | .error (n, reason) => .error ⟨position, position + 1 + n, reason⟩
      else (decodeFrom (position + reportSize c) 0 rest).map (c.toNat :: ·)

/-- The text of a string literal's body. -/
def textOf (raw : Bool) (body : List Char) : Except EscapeFault Text :=
  if raw then .ok (Text.ofChars body) else decodeFrom 0 0 body

/-- Reads an escape in bytes. -/
def byteEscape (c : Char) (rest : List Char) : Option (List UInt8 × Nat) :=
  match simpleEscape? c with
  | some t => some (t.map Nat.toUInt8, 1)
  | none =>
    if isOctal c then
      let ds := c :: (rest.take 2).takeWhile isOctal
      some ([(natOf 8 ds).toUInt8], ds.length)
    else if c == 'x' then
      let ds := (rest.take 2).takeWhile Numeral.isHexDigit
      if ds.length < 2 then none else some ([(natOf 16 ds).toUInt8], 3)
    else some ([92, c.toNat.toUInt8], 1)

/-- Decoding of bytes from a position on; a malformed escape gives its position. -/
def bytesFrom (position skip : Nat) : List Char → Except Nat (List UInt8)
  | [] => .ok []
  | c :: rest =>
    match skip with
    | k + 1 => bytesFrom (position + 1) k rest
    | 0 =>
      if c == '\\' then
        match rest with
        | [] => .ok [92]
        | d :: rest' =>
          match byteEscape d rest' with
          | some (bs, n) => (bytesFrom (position + 1) n rest).map (bs ++ ·)
          | none => .error position
      else (bytesFrom (position + 1) 0 rest).map (c.toNat.toUInt8 :: ·)

/-- The bytes of a literal's body, which is ASCII. -/
def bytesOf (raw : Bool) (body : List Char) : Except Nat (List UInt8) :=
  if raw then .ok (body.map fun c => c.toNat.toUInt8) else bytesFrom 0 0 body

end FluentRecords.Literal
