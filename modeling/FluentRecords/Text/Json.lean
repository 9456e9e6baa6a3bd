import FluentRecords.Text.Basic

/-!
JSON texts in ASCII: every other character is written by its UTF-16 units, a character beyond the first
65536 as a surrogate pair.
-/

namespace FluentRecords

/-- A JSON value. Numbers are integers; the members of an object keep their order. -/
inductive Json
  | null
  | bool (b : Bool)
  | int (i : Int)
  | str (t : Text)
  | arr (elems : List Json)
  | obj (members : List (Text × Json))

namespace Json

/-- A UTF-16 unit as an escape. -/
def unitEscape (n : Nat) : Text :=
  "\\u" ++ Text.hex 4 n

/-- A character of a string. -/
def escapeOne (c : CodePoint) : Text :=
  if c = 34 then [92, 34]
  else if c = 92 then [92, 92]
  else if c = 10 then [92, 110]
  else if c = 13 then [92, 114]
  else if c = 9 then [92, 116]
  else if c = 12 then [92, 102]
  else if c = 8 then [92, 98]
  else if 32 ≤ c && c < 127 then [c]
  else if c < 0x10000 then unitEscape c
  else unitEscape (0xD800 + (c - 0x10000) / 0x400) ++ unitEscape (0xDC00 + (c - 0x10000) % 0x400)

/-- A string in quotes. -/
def quote (t : Text) : Text :=
  34 :: t.flatMap escapeOne ++ [34]

/-- A line feed and the indentation of a level. -/
def newLine (level : Nat) : Text :=
  10 :: List.replicate (2 * level) 32

/-- What is between brackets, on lines of their own. -/
def bracketed (opening closing : Text) (level : Nat) (parts : List Text) : Text :=
  if parts.isEmpty then opening ++ closing
  else opening ++ newLine (level + 1) ++ Text.join ("," ++ newLine (level + 1)) parts ++ newLine level
    ++ closing

mutual

/-- The text of a value with every element and every member on a line of its own. -/
def render (level : Nat) : Json → Text
  | null => "null"
  | bool b => if b then "true" else "false"
  | int i => Text.ofInt i
  | str t => quote t
  | arr elems => bracketed "[" "]" level (renderAll (level + 1) elems)
  | obj members => bracketed "\x7b" "\x7d" level (renderMembers (level + 1) members)

/-- The texts of elements. -/
def renderAll (level : Nat) : List Json → List Text
  | [] => []
  | e :: rest => render level e :: renderAll level rest

/-- The texts of members. -/
def renderMembers (level : Nat) : List (Text × Json) → List Text
  | [] => []
  | (k, v) :: rest => (quote k ++ ": " ++ render level v) :: renderMembers level rest

end

end Json

end FluentRecords
