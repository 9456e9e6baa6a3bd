import FluentRecords.CommandLine.Generate
import FluentRecords.CommandLine.Inspect

/-!
The program as a function of its arguments and of the files it finds.
-/

namespace FluentRecords

/-- How the program is entered: by other code, for which every failure is alike, or by a user. -/
inductive Entry
  | code
  | user
deriving DecidableEq

/-- What is seen of a run. -/
structure Exit where
  code : Nat
  out : Text
  err : Text

namespace Program

/-- The options of the program itself. -/
inductive Key
  | verbose
  | debug
  | version
  | help
deriving DecidableEq

/-- The options as the command line knows them. -/
def specs : List (OptionSpec Key) :=
  [⟨[Text.ofString "-v", Text.ofString "--verbose"], .verbose, false⟩,
    ⟨[Text.ofString "--debug"], .debug, false⟩, ⟨[Text.ofString "--version"], .version, false⟩,
    ⟨[Text.ofString "--help"], .help, false⟩]

/-- The line that states the version. -/
def versionLine : Text :=
  "record-builder, version " ++ GeneratedFile.generatorVersion ++ "\n"

/-- Reads the options of the program; the first question among them is answered. The rest is a command
with its own arguments. -/
def readOptions (words : List Text) : Except Stop (List Text) := do
  let arguments : Arguments Key ← (Arguments.read specs false none words).mapError
    fun f => .misused (.ofArguments .program f)
  match (arguments.options.map (·.1)).find? fun k => k == Key.version || k == Key.help with
  | some .version => .error (.answered versionLine)
  | some _ => .error (.answered (Command.help .program))
  | none => .ok arguments.others

/-- The command that is called, and its arguments. A name that looks like an option is read as one
before it is refused. -/
def resolve (words : List Text) : Except Stop (Command × List Text) :=
  match words with
  | [] => .error (.misused ⟨some .program, "Missing command."⟩)
  | name :: rest =>
    match Command.ofName? name with
    | some c => .ok (c, rest)
    | none => do
      let _ ← readOptions words
      let similar := Text.suggestions name [Text.ofString "generate", Text.ofString "inspect"]
      .error (.misused ⟨some .program,
        "No such command " ++ Text.quote name ++ "." ++ ArgumentsFault.suggest similar⟩)

/-- The work of a run. -/
def report (tree : FileTree) (here : Directory) (words : List Text) : Report :=
  if words.isEmpty then .stopped tree (.unasked (Command.help .program))
  else
    match readOptions words >>= resolve with
    | .error s => .stopped tree s
    | .ok (.generate, rest) => Generate.run tree here rest
    | .ok (.inspect, rest) => Inspect.run tree here rest
    | .ok (.program, _) => .stopped tree (.answered (Command.help .program))

/-- Lines as a text. -/
def unlines (lines : List Text) : Text :=
  lines.flatMap (· ++ [10])

/-- The code of a wrong use. -/
def misuseCode : Entry → Nat
  | .code => 1
  | .user => 2

/-- What is seen of the end of a run. -/
def ending (entry : Entry) (out : Text) : Option Stop → Exit
  | none => ⟨0, out, []⟩
  | some (.answered text) => ⟨0, out ++ text, []⟩
  | some (.unasked text) => ⟨misuseCode entry, out, text⟩
  | some (.misused f) => ⟨misuseCode entry, out, f.text⟩
  | some (.failed message) => ⟨1, out, "Error: " ++ message ++ "\n"⟩
  | some (.reported lines) => ⟨1, out, unlines lines⟩

/-- Runs the program in a directory of a tree of files. -/
def run (entry : Entry) (tree : FileTree) (here : Directory) (words : List Text) :
    Exit × FileTree :=
  let r := report tree here words
  (ending entry (unlines r.out) r.stop, r.tree)

end Program

end FluentRecords
