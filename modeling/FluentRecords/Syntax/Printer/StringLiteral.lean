import FluentRecords.Text.Quoted

/-!
String literals with few backslashes. Of the four delimiters the first one that does not occur in the
escaped text is taken; a text with line breaks needs a triple one. Where no delimiter is left the quoted
form is used. A literal that may not hold any backslash is checked by its user.
-/

namespace FluentRecords.StringLiteral

/-- A delimiter of string literals: its quote character, written once or three times. -/
structure Delimiter where
  quote : CodePoint
  triple : Bool
deriving DecidableEq

namespace Delimiter

/-- The delimiter as written. -/
def text (d : Delimiter) : Text :=
  List.replicate (if d.triple then 3 else 1) d.quote

/-- All delimiters, the preferred ones first. -/
def all : List Delimiter :=
  [⟨Text.apostrophe, false⟩, ⟨Text.doubleQuote, false⟩, ⟨Text.doubleQuote, true⟩,
    ⟨Text.apostrophe, true⟩]

/-- The delimiters that may span lines. -/
def multiline : List Delimiter :=
  [⟨Text.doubleQuote, true⟩, ⟨Text.apostrophe, true⟩]

end Delimiter

/-- Whether `p` occurs in the text. -/
def occurs (p : Text) : Text → Bool
  | [] => p.isEmpty
  | c :: rest => p.isPrefixOf (c :: rest) || occurs p rest

/-- Escapes backslashes and what is not printable; line feeds and tabs only on demand. -/
def escapeOne (whitespace : Bool) (c : CodePoint) : Text :=
  if !whitespace && (c == 10 || c == 9) then [c]
  else if c = Text.backslash || !Text.isPrintable c then Text.escape c
  else [c]

/-- The quoted form without its delimiters. -/
def quotedInner (q : CodePoint) (t : Text) : Text :=
  t.flatMap (Text.quoteOne q)

/-- The inside of a literal for the text, with the delimiters it may stand between, the best first. -/
def inner (t : Text) (allowed : List Delimiter) (whitespace : Bool) : Text × List Delimiter :=
  let escaped := t.flatMap (escapeOne whitespace)
  let possible := if escaped.elem 10 then allowed.filter (·.triple) else allowed
  match possible.filter fun d => !occurs d.text escaped with
  | [] =>
    let q := Text.delimiter t
    (quotedInner q t, [(allowed.find? fun d => d.quote == q).getD ⟨q, false⟩])
  | d :: rest =>
    match escaped.getLast? with
    | none => (escaped, d :: rest)
    | some last =>
      let sorted := (d :: rest).filter (·.quote != last) ++ (d :: rest).filter (·.quote == last)
      if (d :: rest).all (·.quote == last) then
        (escaped.dropLast ++ [Text.backslash, last], sorted)
      else (escaped, sorted)

/-- The best delimiter of a nonempty choice. -/
def best : List Delimiter → Delimiter
  | [] => ⟨Text.apostrophe, true⟩
  | d :: _ => d

/-- The literal of a text between one of the allowed delimiters. -/
def write (t : Text) (allowed : List Delimiter) : Text :=
  let (body, ds) := inner t allowed false
  let d := (best ds).text
  d ++ body ++ d

/-- The insides of the parts of a formatted string, each with whether it is literal text: every part
narrows the choice of delimiters for the next. -/
def innerParts : List (Text × Bool) → List Delimiter → Option (List Text × List Delimiter)
  | [], allowed => some ([], allowed)
  | (t, isLiteral) :: rest, allowed =>
    let (body, ds) := inner t allowed isLiteral
    if ds.all fun d => !allowed.elem d then none
    else (innerParts rest ds).map fun (bodies, final) => (body :: bodies, final)

/-- The literal of a formatted string from its parts. If no delimiter suits all of them, triple
apostrophes are used and every part is escaped for them. -/
def writeParts (parts : List (Text × Bool)) : Text :=
  match innerParts parts Delimiter.all with
  | some (bodies, ds) => (best ds).text ++ bodies.flatten ++ (best ds).text
  | none =>
    let d : Delimiter := ⟨Text.apostrophe, true⟩
    d.text ++ parts.flatMap (fun p => quotedInner Text.apostrophe p.1) ++ d.text

end FluentRecords.StringLiteral
