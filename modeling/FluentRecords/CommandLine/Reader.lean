import FluentRecords.Text.Quoted
import FluentRecords.Text.Similarity

/-!
Reading command lines: options with and without a value, spelled long or as single letters that may be
joined, among other arguments. Two hyphens alone end the options.
-/

namespace FluentRecords

/-- An option: how it is spelled, what it stands for, and whether a value follows. -/
structure OptionSpec (α : Type) where
  spellings : List Text
  key : α
  takesValue : Bool

/-- What is read: the options in their order, and the other arguments. -/
structure Arguments (α : Type) where
  options : List (α × Option Text)
  others : List Text

/-- Why a command line cannot be read. -/
inductive ArgumentsFault
  | unknown (spelling : Text) (similar : List Text)
  | valueMissing (spelling : Text)
  | valueUnwanted (spelling : Text)
deriving DecidableEq

namespace ArgumentsFault

/-- Suggestions after a message. -/
def suggest : List Text → Text
  | [] => []
  | [s] => " Did you mean " ++ Text.quote s ++ "?"
  | several => " Did you mean one of: " ++ Text.join ", " (several.map Text.quote) ++ "?"

/-- How a fault is reported. -/
def message : ArgumentsFault → Text
  | unknown s similar => "No such option " ++ Text.quote s ++ "." ++ suggest similar
  | valueMissing s => "Option " ++ Text.quote s ++ " requires an argument."
  | valueUnwanted s => "Option " ++ Text.quote s ++ " does not take a value."

end ArgumentsFault

namespace Arguments

variable {α : Type}

/-- The option with a spelling. -/
def spec? (specs : List (OptionSpec α)) (spelling : Text) : Option (OptionSpec α) :=
  specs.find? (·.spellings.elem spelling)

/-- A long spelling has more than a hyphen and a letter. -/
def isLong (spelling : Text) : Bool :=
  spelling.length != 2

/-- The long spellings of all options. -/
def longSpellings (specs : List (OptionSpec α)) : List Text :=
  (specs.flatMap (·.spellings)).filter isLong

/-- One argument as options: those it holds, and the last of them with its spelling if its value has
still to come. -/
structure Reading (α : Type) where
  options : List (α × Option Text)
  pending : Option (α × Text)

/-- Letters joined after one hyphen. What follows a letter that takes a value is its value. -/
def readLetters (specs : List (OptionSpec α)) : Text → Except ArgumentsFault (Reading α)
  | [] => .ok ⟨[], none⟩
  | c :: rest => do
    let some s := spec? specs [45, c] | .error (.unknown [45, c] [])
    if !s.takesValue then
      let r ← readLetters specs rest
      .ok { r with options := (s.key, none) :: r.options }
    else if rest.isEmpty then .ok ⟨[], some (s.key, [45, c])⟩
    else .ok ⟨[(s.key, some rest)], none⟩

/-- An argument that begins with a hyphen. A value may be attached to a long spelling. -/
def readOption (specs : List (OptionSpec α)) (argument : Text) :
    Except ArgumentsFault (Reading α) :=
  let spelling := argument.takeWhile (· != 61)
  let attached := (argument.dropWhile (· != 61)).tail
  let hasAttached := argument.elem 61
  match if isLong spelling then spec? specs spelling else none with
  | some s =>
    if s.takesValue then
      .ok (if hasAttached then ⟨[(s.key, some attached)], none⟩ else ⟨[], some (s.key, spelling)⟩)
    else if hasAttached then .error (.valueUnwanted spelling)
    else .ok ⟨[(s.key, none)], none⟩
  | none =>
    if Text.startsWith [45, 45] argument then
      .error (.unknown spelling (Text.suggestions spelling (longSpellings specs)))
    else readLetters specs argument.tail

/-- Reads a command line. `pending` is an option whose value comes next. Where options may not follow
other arguments (`mixed` is false), the first such argument ends them. -/
def read (specs : List (OptionSpec α)) (mixed : Bool) (pending : Option (α × Text)) :
    List Text → Except ArgumentsFault (Arguments α)
  | [] =>
    match pending with
    | some (_, spelling) => .error (.valueMissing spelling)
    | none => .ok ⟨[], []⟩
  | a :: rest =>
    match pending with
    | some (key, _) => do
      let more ← read specs mixed none rest
      .ok { more with options := (key, some a) :: more.options }
    | none =>
      if a == [45, 45] then .ok ⟨[], rest⟩
      else if a.head? == some 45 && a.length != 1 then do
        let r ← readOption specs a
        let more ← read specs mixed r.pending rest
        .ok { more with options := r.options ++ more.options }
      else if mixed then do
        let more ← read specs mixed none rest
        .ok { more with others := a :: more.others }
      else .ok ⟨[], a :: rest⟩

variable [DecidableEq α]

/-- Whether an option is given. -/
def has (a : Arguments α) (key : α) : Bool :=
  a.options.any (·.1 == key)

/-- The value of an option; the last one counts. -/
def value? (a : Arguments α) (key : α) : Option Text :=
  ((a.options.reverse.find? (·.1 == key)).map (·.2)).join

/-- The options that are given, each where it first occurs, and then the others. -/
def order (a : Arguments α) (declared : List α) : List α :=
  let given := (a.options.map (·.1)).eraseDups
  given ++ declared.filter (!given.elem ·)

end Arguments

end FluentRecords
