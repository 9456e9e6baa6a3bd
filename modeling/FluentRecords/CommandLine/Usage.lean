import FluentRecords.CommandLine.Reader
import FluentRecords.Files.Tree

/-!
The commands, how they are used, and what is said to someone who uses them otherwise.
-/

namespace FluentRecords

/-- The program itself and its commands. -/
inductive Command
  | program
  | generate
  | inspect
deriving DecidableEq

namespace Command

/-- The words that call a command. -/
def call : Command → Text
  | program => "record-builder"
  | generate => "record-builder generate"
  | inspect => "record-builder inspect"

/-- What may follow these words. -/
def operands : Command → Text
  | program => "[OPTIONS] COMMAND [ARGS]..."
  | generate => "[OPTIONS]"
  | inspect => "[OPTIONS] FILE"

/-- The line that shows how a command is used. -/
def usage (c : Command) : Text :=
  "Usage: " ++ c.call ++ " " ++ c.operands ++ "\n"

/-- What a command is for, and its options. -/
def description : Command → Text
  | program => "
  Generate fluent builder classes for annotated record declarations.

Options:
  -v, --verbose  Enable verbose output
  --debug        Enable debug output
  --version      Show the version and exit.
  --help         Show this message and exit.

Commands:
  generate  Generate builders for every @derive_builder class of a module.
  inspect   Show how the fields of decorated records are classified.
"
  | generate => "
  Generate builders for every @derive_builder class of a module.

  The decorated classes keep their fields and gain a builder() factory; a
  <Name>Builder class is inserted after each of them.

  Example:     record-builder generate --in models.py --out models_gen.py

Options:
  --in FILE              Python module containing decorated record classes
                         [required]
  --out FILE             Path of the generated module  [required]
  --check                Check the generated module is up to date
  --suffix TEXT          Builder class name suffix (default: Builder)
  --factory-name TEXT    Name of the factory added to records
  --finalizer-name TEXT  Name of the builder's finalize method
  --collect-missing      Report every missing required field instead of the
                         first
  --help                 Show this message and exit.
"
  | inspect => "
  Show how the fields of decorated records are classified.

  Example:     record-builder inspect models.py

Options:
  --json  Output as JSON
  --help  Show this message and exit.
"

/-- The help on a command. -/
def help (c : Command) : Text :=
  c.usage ++ c.description

/-- The command of a name. -/
def ofName? (name : Text) : Option Command :=
  if name == Text.ofString "generate" then some generate
  else if name == Text.ofString "inspect" then some inspect
  else none

end Command

/-- A wrong use. Where the command is known, its usage is shown. -/
structure UsageFault where
  command : Option Command
  message : Text

namespace UsageFault

/-- How a wrong use is reported. -/
def text (f : UsageFault) : Text :=
  let usage := match f.command with
    | some c => c.usage ++ "Try '" ++ c.call ++ " --help' for help.\n\n"
    | none => []
  usage ++ "Error: " ++ f.message ++ "\n"

/-- The wrong use that a faulty command line is. Only an unknown option is blamed on the command. -/
def ofArguments (c : Command) (f : ArgumentsFault) : UsageFault :=
  match f with
  | .unknown _ _ => ⟨some c, f.message⟩
  | .valueMissing _ => ⟨none, f.message⟩
  | .valueUnwanted _ => ⟨none, f.message⟩

end UsageFault

/-- How a run ends before its work is done. -/
inductive Stop
  /-- It was only asked for a text. -/
  | answered (text : Text)
  /-- It was asked for nothing at all, and a text says what there is. -/
  | unasked (text : Text)
  | misused (f : UsageFault)
  | failed (message : Text)
  /-- Something was found that has been reported line by line. -/
  | reported (lines : List Text)

/-- What a run leaves: what it printed, why it ended early if it did, and the files. -/
structure Report where
  out : List Text
  stop : Option Stop
  tree : FileTree

namespace Report

/-- A run that ended before anything was printed or written. -/
def stopped (tree : FileTree) (s : Stop) : Report :=
  ⟨[], some s, tree⟩

/-- A run that printed one line. -/
def line (tree : FileTree) (text : Text) : Report :=
  ⟨[text], none, tree⟩

end Report

namespace Command

/-- Looks at the file that an option or an argument names; it may not be a directory. -/
def checkFile (c : Command) (tree : FileTree) (here : Directory) (mustExist : Bool)
    (option path : Text) : Except Stop Unit :=
  let refuse (what : Text) : Except Stop Unit :=
    .error (.misused ⟨some c, "Invalid value for " ++ Text.quote option ++ ": File "
      ++ Text.quote path ++ what⟩)
  match tree.find here path with
  | .ok .directory => refuse " is a directory."
  | .ok (.file _) => .ok ()
  | .error _ => if mustExist then refuse " does not exist." else .ok ()

/-- Refuses arguments that a command has no use for. -/
def checkExtra (c : Command) (arguments : List Text) : Except Stop Unit :=
  match arguments with
  | [] => .ok ()
  | [a] => .error (.misused ⟨some c, "Got unexpected extra argument (" ++ a ++ ")"⟩)
  | several =>
    .error (.misused ⟨some c, "Got unexpected extra arguments (" ++ Text.join " " several ++ ")"⟩)

end Command

end FluentRecords
