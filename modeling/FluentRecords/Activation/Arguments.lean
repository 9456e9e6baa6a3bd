import FluentRecords.Denotation
import FluentRecords.Diagnostic
import FluentRecords.Settings.Options

/-!
Arguments of the activation decorator. They are literal settings given by name. Under `config` stands
either a literal mapping or a call of `GeneratorConfig` with literal settings; it replaces the settings
in force before the other arguments are applied.
-/

namespace FluentRecords

/-- What is wrong with a request for a builder, apart from the shape of the declaration. -/
inductive RequestCause
  | nested (name : Text)
  | positional (owner : Text)
  | unpacked (owner : Text)
  | notLiteral (argument owner : Text)
  | unknown (arguments : List Text)
  | invalid (faults : List SettingFault)

/-- The wording of a cause. -/
def RequestCause.message : RequestCause → Text
  | nested name =>
    "builder can only be derived for module-level classes, '" ++ name ++ "' is nested"
  | positional owner => owner ++ " takes keyword arguments only"
  | unpacked owner => "'**' arguments are not supported on " ++ owner
  | notLiteral argument owner => "argument '" ++ argument ++ "' of " ++ owner ++ " must be a literal"
  | unknown arguments => "unknown decorator argument(s): " ++ Text.join ", " arguments
  | invalid faults => "invalid decorator arguments: " ++ SettingFault.report faults

/-- A cause and its place. -/
structure RequestFault where
  cause : RequestCause
  place : Pos

/-- Why arguments cannot be used. -/
inductive ArgumentFault
  | request (f : RequestFault)
  | breakdown (b : Breakdown)

/-- The key under which the settings in force are replaced. -/
def configKey : Text :=
  "config"

/-- The name of the settings in arguments. -/
def configName : Text :=
  "GeneratorConfig"

/-- What the activation decorator is called in reports. -/
def decoratorName : Text :=
  "the activation decorator"

/-- The parts of a call whose callee, by its last name, is the settings. -/
def Expr.configCall? : Expr → Option (List Expr × List Keyword)
  | call (name n) args keywords => if n = configName then some (args, keywords) else none
  | call (member _ a) args keywords => if a = configName then some (args, keywords) else none
  | _ => none

namespace Keyword

/-- Whether a keyword argument replaces the settings in force by a call. -/
def isConfigCall (k : Keyword) : Bool :=
  k.name == some configKey && k.value.configCall?.isSome

end Keyword

/-- Splits off the last element that passes a test. -/
def splitLast? {α : Type} (p : α → Bool) : List α → Option (List α × α × List α)
  | [] => none
  | a :: rest =>
    match splitLast? p rest with
    | some (before, b, after) => some (a :: before, b, after)
    | none => if p a then some ([], a, rest) else none

/-- The value of one keyword argument. -/
def Keyword.literal (owner : Text) (k : Keyword) : Except ArgumentFault (Text × Value) :=
  match k.name with
  | none => .error (.request ⟨.unpacked owner, k.place⟩)
  | some n =>
    match k.value.literal with
    | .ok v => .ok (n, v)
    | .error .notLiteral => .error (.request ⟨.notLiteral n owner, k.place⟩)
    | .error (.breakdown b) => .error (.breakdown b)

/-- Reads keyword arguments on top of others; the last one of a name counts, in the place of the
first. -/
def readKeywords (owner : Text) (done : Options) : List Keyword → Except ArgumentFault Options
  | [] => .ok done
  | k :: rest => do
    let (n, v) ← k.literal owner
    readKeywords owner (Options.put n v done) rest

/-- Reads the arguments of a call at a place. -/
def readArguments (owner : Text) (place : Pos) (args : List Expr) (keywords : List Keyword) :
    Except ArgumentFault Options :=
  if args.isEmpty then readKeywords owner [] keywords
  else .error (.request ⟨.positional owner, place⟩)

/-- Options as a mapping. -/
def Options.mapping (o : Options) : Value :=
  .dict (o.map fun (k, v) => (.str k, v))

namespace Decorator

/-- The options of an activation decorator. -/
def overrides (d : Decorator) : Except ArgumentFault Options :=
  match d.expr with
  | .call _ args keywords =>
    match splitLast? Keyword.isConfigCall keywords with
    | some (before, k, after) => do
      let (configArgs, configKeywords) := (k.value.configCall?).getD ([], [])
      let config ← readArguments configName k.place configArgs configKeywords
      let others ← readArguments decoratorName d.place args (before ++ after)
      .ok (Options.override [(configKey, config.mapping)] others)
    | none => readArguments decoratorName d.place args keywords
  | _ => .ok []

end Decorator

/-- The options in a mapping whose keys are texts. -/
def Options.ofEntries? : List (Value × Value) → Option Options
  | [] => some []
  | (.str k, v) :: rest => (ofEntries? rest).map ((k, v) :: ·)
  | _ :: _ => none

/-- The options in a value given under `config`. -/
def Options.ofMapping : Value → Except Breakdown Options
  | .dict entries =>
    match ofEntries? entries with
    | some o => .ok o
    | none => .error .keysNotText
  | v => .error (.notMapping v.kindName)

namespace Settings

/-- The keys of the settings. -/
def keys : List Text :=
  Setting.all.map Setting.key

/-- The settings given by options, or what is wrong with them at a place. -/
def ofOptionsAt (place : Pos) (o : Options) : Except ArgumentFault Settings :=
  (ofOptions o).mapError fun faults => .request ⟨.invalid faults, place⟩

/-- The settings that a value under `config` puts in the place of those in force. -/
def replaced (s : Settings) (place : Pos) : Value → Except ArgumentFault Settings
  | .none => .ok s
  | v => do
    let o ← (Options.ofMapping v).mapError .breakdown
    ofOptionsAt place o

/-- The settings with options applied, for a decorator at a place. -/
def withOverrides (s : Settings) (place : Pos) (o : Options) : Except ArgumentFault Settings :=
  if o.isEmpty then .ok s
  else
    let config := (o.find? (·.1 == configKey)).map (·.2)
    let others := o.filter (·.1 != configKey)
    let unknown := (others.map (·.1)).filter fun k => !keys.elem k
    if unknown.isEmpty then do
      let base ← s.replaced place (config.getD .none)
      ofOptionsAt place (Options.override base.toOptions others)
    else .error (.request ⟨.unknown (Text.sort unknown), place⟩)

end Settings

end FluentRecords
