import FluentRecords.Text.Basic

/-!
Numerals. A scan answers with the length of the numeral; a fault with its wording and the number of
characters read before it was noticed. Digits may be grouped by single underscores, decimal integers
must not begin with zeros, and no name may follow without a blank, except for the words that can
continue an expression.
-/

namespace FluentRecords.Numeral

/-- A malformed numeral: the wording, and how many characters were read. -/
structure ScanFault where
  message : Text
  read : Nat

/-- The state of a scan: how many characters were read, and what follows. -/
structure Scan where
  read : Nat
  rest : List Char

/-- A character that can be part of a name. -/
def isNameChar (c : Char) : Bool :=
  c.isAlphanum || c == '_' || 0x80 ≤ c.toNat

/-- A hexadecimal digit. -/
def isHexDigit (c : Char) : Bool :=
  c.isDigit || ('a' ≤ c && c ≤ 'f') || ('A' ≤ c && c ≤ 'F')

/-- Reads digits, single underscores between them. -/
def digits (isDigit : Char → Bool) (fault : Nat → List Char → ScanFault) (read : Nat) :
    List Char → Except ScanFault Scan
  | [] => .ok ⟨read, []⟩
  | c :: rest =>
    if isDigit c then digits isDigit fault (read + 1) rest
    else if c == '_' then
      match rest with
      | d :: rest' =>
        if isDigit d then digits isDigit fault (read + 2) rest' else .error (fault (read + 1) rest)
      | [] => .error (fault (read + 1) [])
    else .ok ⟨read, c :: rest⟩

/-- The fault of a decimal numeral. -/
def decimalFault (read : Nat) (_ : List Char) : ScanFault :=
  ⟨"invalid decimal literal", read⟩

/-- Words that may follow a numeral at once, as pairs of first letter and remainder. -/
def followers : List (List Char) :=
  ["and", "else", "for", "if", "in", "is", "or", "not"].map String.toList

/-- Checks what follows a numeral. -/
def finish (kind : Text) (s : Scan) : Except ScanFault Nat :=
  match s.rest with
  | [] => .ok s.read
  | c :: _ =>
    if isNameChar c && !followers.any (·.isPrefixOf s.rest) then
      .error ⟨"invalid " ++ kind ++ " literal", s.read⟩
    else .ok s.read

/-- The digits after a base prefix. -/
def based (kind : Text) (isDigit : Char → Bool) (s : Scan) : Except ScanFault Nat := do
  let fault (read : Nat) (rest : List Char) : ScanFault :=
    match rest with
    | d :: _ =>
      if d.isDigit then ⟨"invalid digit '" ++ [d.toNat] ++ "' in " ++ kind ++ " literal", read + 1⟩
      else ⟨"invalid " ++ kind ++ " literal", read⟩
    | [] => ⟨"invalid " ++ kind ++ " literal", read⟩
  let s : Scan := match s.rest with
    | '_' :: rest => ⟨s.read + 1, rest⟩
    | _ => s
  match s.rest with
  | d :: rest =>
    if isDigit d then
      let s ← digits isDigit fault (s.read + 1) rest
      match s.rest with
      | e :: _ => if e.isDigit then .error (fault s.read s.rest) else finish kind s
      | [] => finish kind s
    else .error (fault s.read s.rest)
  | [] => .error (fault s.read [])

/-- An imaginary unit, or the end of the numeral. -/
def suffix (s : Scan) : Except ScanFault Nat :=
  match s.rest with
  | c :: rest =>
    if c == 'j' || c == 'J' then finish "imaginary" ⟨s.read + 1, rest⟩ else finish "decimal" s
  | [] => finish "decimal" s

/-- An exponent, if there is one. -/
def exponent (s : Scan) : Except ScanFault Nat :=
  match s.rest with
  | e :: rest =>
    if e == 'e' || e == 'E' then
      match rest with
      | c :: rest' =>
        if c == '+' || c == '-' then
          match rest' with
          | d :: rest'' =>
            if d.isDigit then do
              let t ← digits Char.isDigit decimalFault (s.read + 3) rest''
              suffix t
            else .error (decimalFault (s.read + 2) [])
          | [] => .error (decimalFault (s.read + 2) [])
        else if c.isDigit then do
          let t ← digits Char.isDigit decimalFault (s.read + 2) rest'
          suffix t
        else finish "decimal" s
      | [] => finish "decimal" s
    else suffix s
  | [] => suffix s

/-- A fraction whose point has been read. -/
def fraction (s : Scan) : Except ScanFault Nat :=
  match s.rest with
  | d :: rest =>
    if d.isDigit then do
      let t ← digits Char.isDigit decimalFault (s.read + 1) rest
      exponent t
    else exponent s
  | [] => exponent s

/-- What follows the whole part of a decimal numeral. -/
def afterWhole (s : Scan) : Except ScanFault Nat :=
  match s.rest with
  | '.' :: rest => fraction ⟨s.read + 1, rest⟩
  | _ => exponent s

/-- Whether what follows makes a numeral other than an integer. -/
def continuesDecimal : List Char → Bool
  | c :: _ => c == '.' || c == 'e' || c == 'E' || c == 'j' || c == 'J'
  | [] => false

/-- Reads zeros, single underscores between them, up to the first other digit. -/
def zeros (read : Nat) : List Char → Except ScanFault Scan
  | [] => .ok ⟨read, []⟩
  | c :: rest =>
    if c == '0' then zeros (read + 1) rest
    else if c == '_' then
      match rest with
      | d :: rest' =>
        if d == '0' then zeros (read + 2) rest'
        else if d.isDigit then .ok ⟨read + 1, rest⟩
        else .error (decimalFault (read + 1) [])
      | [] => .error (decimalFault (read + 1) [])
    else .ok ⟨read, c :: rest⟩

/-- A numeral that begins with zero and has no base prefix. -/
def leadingZero (rest : List Char) : Except ScanFault Nat := do
  let z ← zeros 1 rest
  match z.rest with
  | d :: rest' =>
    if d.isDigit then
      let s ← digits Char.isDigit decimalFault (z.read + 1) rest'
      if continuesDecimal s.rest then afterWhole s
      else
        .error ⟨"leading zeros in decimal integer literals are not permitted; use an 0o prefix for octal integers", 1⟩
    else afterWhole z
  | [] => afterWhole z

/-- The length of the numeral at the beginning, which is a digit or a point before a digit. -/
def scan : List Char → Except ScanFault Nat
  | '.' :: rest => fraction ⟨1, rest⟩
  | '0' :: c :: rest =>
    if c == 'x' || c == 'X' then based "hexadecimal" isHexDigit ⟨2, rest⟩
    else if c == 'o' || c == 'O' then based "octal" (fun d => '0' ≤ d && d < '8') ⟨2, rest⟩
    else if c == 'b' || c == 'B' then based "binary" (fun d => d == '0' || d == '1') ⟨2, rest⟩
    else leadingZero (c :: rest)
  | ['0'] => .ok 1
  | cs => do
    let s ← digits Char.isDigit decimalFault 0 cs
    afterWhole s

end FluentRecords.Numeral
