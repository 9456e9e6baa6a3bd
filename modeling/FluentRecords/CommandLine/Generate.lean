import FluentRecords.CommandLine.Usage
import FluentRecords.GeneratedFile

/-!
The command that generates a file, or checks that it is up to date. A file is left alone when it holds
what would be written, or states the digest that would be written.
-/

namespace FluentRecords

namespace Generate

/-- The options of the command. -/
inductive Key
  | input
  | output
  | check
  | suffix
  | factoryName
  | finalizerName
  | collectMissing
  | help
deriving DecidableEq

namespace Key

/-- All options, in the order in which they are looked at when they are not given. -/
def all : List Key :=
  [input, output, check, suffix, factoryName, finalizerName, collectMissing, help]

/-- How an option is spelled. -/
def spelling : Key → Text
  | input => "--in"
  | output => "--out"
  | check => "--check"
  | suffix => "--suffix"
  | factoryName => "--factory-name"
  | finalizerName => "--finalizer-name"
  | collectMissing => "--collect-missing"
  | help => "--help"

/-- Whether a value follows an option. -/
def takesValue : Key → Bool
  | input => true
  | output => true
  | check => false
  | suffix => true
  | factoryName => true
  | finalizerName => true
  | collectMissing => false
  | help => false

end Key

/-- The options as the command line knows them. -/
def specs : List (OptionSpec Key) :=
  Key.all.map fun k => ⟨[k.spelling], k, k.takesValue⟩

/-- What is asked for. -/
structure Order where
  input : Text
  output : Text
  check : Bool
  options : Options

/-- A file that has to be named. -/
def required (arguments : Arguments Key) (key : Key) : Except Stop Text :=
  match arguments.value? key with
  | some path => .ok path
  | none =>
    .error (.misused ⟨some .generate, "Missing option " ++ Text.quote key.spelling ++ "."⟩)

/-- Looks at the value of an option. -/
def checkOption (tree : FileTree) (here : Directory) (arguments : Arguments Key) (key : Key) :
    Except Stop Unit :=
  match key with
  | .input => do
    let path ← required arguments .input
    Command.checkFile .generate tree here true key.spelling path
  | .output => do
    let path ← required arguments .output
    Command.checkFile .generate tree here false key.spelling path
  | _ => .ok ()

/-- The settings that are given by options. -/
def settingOptions (arguments : Arguments Key) : Options :=
  let given (s : Setting) (key : Key) : Options :=
    ((arguments.value? key).map fun t => (s.key, Value.str t)).toList
  given .builderSuffix .suffix ++ given .factoryName .factoryName
    ++ given .finalizerName .finalizerName
    ++ [(Setting.collectMissing.key, .bool (arguments.has .collectMissing))]

/-- Reads a command line. -/
def Order.read (tree : FileTree) (here : Directory) (words : List Text) : Except Stop Order := do
  let arguments ← (Arguments.read specs true none words).mapError
    fun f => .misused (.ofArguments .generate f)
  if arguments.has .help then .error (.answered (Command.help .generate))
  (arguments.order Key.all).forM (checkOption tree here arguments)
  Command.checkExtra .generate arguments.others
  .ok ⟨← required arguments .input, ← required arguments .output, arguments.has .check,
    settingOptions arguments⟩

/-- The text to be generated. -/
def render (tree : FileTree) (here : Directory) (o : Order) : Except Stop Text := do
  let path := FilePath.ofText o.input
  let settings ← (Settings.ofOptions o.options).mapError
    fun fs => .failed ("Invalid generator options: " ++ SettingFault.report fs)
  let source ← (tree.readText here path.text).mapError
    fun f => .failed ("Error reading " ++ path.text ++ ": " ++ f.message)
  match GeneratedFile.render here path settings source with
  | .ok text => .ok text
  | .error (.rejected ds) => .error (.reported (ds.map fun d => d.render (some path.text)))
  | .error (.breakdown b) => .error (.failed b.message)

/-- Compares a file with the text to be generated. -/
def compare (tree : FileTree) (here : Directory) (path text : Text) : Except Stop Text :=
  if !tree.holds here path then .error (.reported [path ++ " is missing (run generator)"])
  else
    match tree.readText here path with
    | .error f => .error (.failed f.message)
    | .ok existing =>
      if existing = text then .ok ("up-to-date: " ++ path)
      else .error (.reported [path ++ " is out of date (run generator)"])

/-- Whether a file that holds `existing` may stay as it is. -/
def isCurrent (existing text : Text) : Bool :=
  let digest := GeneratedFile.digest? existing
  existing == text || (digest.isSome && digest == GeneratedFile.digest? text)

/-- Whether the file at a path may stay; without one it may not. -/
def mayStay (tree : FileTree) (here : Directory) (path text : Text) : Except Stop Bool :=
  if !tree.holds here path then .ok false
  else
    match tree.readText here path with
    | .error f => .error (.failed f.message)
    | .ok existing => .ok (isCurrent existing text)

/-- Writes a text to a file. One without a UTF-8 form leaves the file empty. -/
def writeText (tree : FileTree) (here : Directory) (path text : Text) : FileTree × Option Text :=
  match Text.encode text with
  | .ok bytes =>
    match tree.write here path bytes with
    | .error f => (tree, some f.message)
    | .ok tree => (tree, none)
  | .error fault =>
    match tree.write here path [] with
    | .error f => (tree, some f.message)
    | .ok tree => (tree, some fault.message)

/-- Writes the generated text, and the directories above it first. -/
def store (tree : FileTree) (here : Directory) (path : FilePath) (text : Text) : Report :=
  match tree.ensureDirectories here path.parent with
  | (tree, some f) => .stopped tree (.failed f.message)
  | (tree, none) =>
    match writeText tree here path.text text with
    | (tree, some message) => .stopped tree (.failed message)
    | (tree, none) => .line tree ("generated: " ++ path.text)

/-- Carries out what is asked for. -/
def Order.carryOut (tree : FileTree) (here : Directory) (o : Order) : Report :=
  let path := FilePath.ofText o.output
  match render tree here o with
  | .error s => .stopped tree s
  | .ok text =>
    if o.check then
      match compare tree here path.text text with
      | .error s => .stopped tree s
      | .ok said => .line tree said
    else
      match mayStay tree here path.text text with
      | .error s => .stopped tree s
      | .ok true => .line tree ("unchanged: " ++ path.text)
      | .ok false => store tree here path text

/-- Runs the command. -/
def run (tree : FileTree) (here : Directory) (words : List Text) : Report :=
  match Order.read tree here words with
  | .error s => .stopped tree s
  | .ok o => o.carryOut tree here

end Generate

end FluentRecords
