import FluentRecords.Settings.Basic
import FluentRecords.Value

/-!
Options are raw values under setting names. Reading them checks every setting, in a fixed order, and
reports all faults together; a missing option keeps the default and an unknown one is ignored. Texts
may be given as UTF-8 bytes, truth values also as the numbers 0 and 1 or as one of the usual words.
-/

namespace FluentRecords

/-- One of the settings. -/
inductive Setting
  | builderSuffix
  | factoryName
  | finalizerName
  | wrapperName
  | activationName
  | collectMissing
deriving DecidableEq

namespace Setting

/-- All settings, in the order in which they are checked. -/
def all : List Setting :=
  [builderSuffix, factoryName, finalizerName, wrapperName, activationName, collectMissing]

/-- The key a setting is given under. -/
def key : Setting → Text
  | builderSuffix => "builder_suffix"
  | factoryName => "factory_name"
  | finalizerName => "finalizer_name"
  | wrapperName => "wrapper_name"
  | activationName => "activation_name"
  | collectMissing => "collect_missing"

end Setting

/-- Raw values by key; the first entry of a key counts. -/
abbrev Options := List (Text × Value)

namespace Options

/-- The value given for a setting. -/
def get? (o : Options) (s : Setting) : Option Value :=
  (o.find? fun e => e.1 == s.key).map (·.2)

/-- Sets a key: an entry that is there keeps its place. -/
def put (k : Text) (v : Value) : Options → Options
  | [] => [(k, v)]
  | (k', v') :: rest => if k' = k then (k, v) :: rest else (k', v') :: put k v rest

/-- The first options with those of the second put over them. -/
def override (base later : Options) : Options :=
  later.foldl (fun o e => put e.1 e.2 o) base

end Options

/-- Why a value is refused for a setting. -/
inductive SettingCause
  | notText
  | notUnicode
  | tooShort
  | illegalName (t : Text)
  | illegalSuffix (t : Text)
  | notTruth
  | unclearTruth

/-- A refused value. -/
structure SettingFault where
  setting : Setting
  cause : SettingCause
  input : Value

namespace SettingCause

/-- The wording of a cause. -/
def message : SettingCause → Text
  | notText => "Input should be a valid string"
  | notUnicode => "Input should be a valid string, unable to parse raw data as a unicode string"
  | tooShort => "String should have at least 1 character"
  | illegalName t => "Value error, " ++ Text.quote t ++ " is not a valid Python identifier"
  | illegalSuffix t => "Value error, " ++ Text.quote t ++ " cannot be used as a class name suffix"
  | notTruth => "Input should be a valid boolean"
  | unclearTruth => "Input should be a valid boolean, unable to interpret input"

/-- The short code of a cause. -/
def code : SettingCause → Text
  | notText => "string_type"
  | notUnicode => "string_unicode"
  | tooShort => "string_too_short"
  | illegalName _ => "value_error"
  | illegalSuffix _ => "value_error"
  | notTruth => "bool_type"
  | unclearTruth => "bool_parsing"

end SettingCause

/-! Reports about refused values. -/

namespace Refusal

/-- The longest beginning of a text whose UTF-8 form has at most `n` bytes. -/
def takeBytes (n : Nat) : Text → Text
  | [] => []
  | c :: rest =>
    if Text.encodedSize c ≤ n then c :: takeBytes (n - Text.encodedSize c) rest else []

/-- The text in at most fifty bytes: the middle of a longer one is left out. -/
def shorten (t : Text) : Text :=
  if t.encodedLength ≤ 50 then t
  else takeBytes 25 t ++ "..." ++ (takeBytes 24 t.reverse).reverse

/-- The lines about one refused value, given as its written form and the name of its kind. -/
def lines (name message code input kind : Text) : Text :=
  "\n" ++ name ++ "\n  " ++ message ++ " [type=" ++ code ++ ", input_value=" ++ shorten input
    ++ ", input_type=" ++ kind ++ "]"

/-- The first line of a report. -/
def headline (count : Nat) (model : Text) : Text :=
  Text.ofNat count ++ (if count = 1 then " validation error for " else " validation errors for ")
    ++ model

end Refusal

namespace SettingFault

/-- The report about refused settings. -/
def report (faults : List SettingFault) : Text :=
  Refusal.headline faults.length "GeneratorConfig" ++ faults.flatMap fun f =>
    Refusal.lines f.setting.key f.cause.message f.cause.code f.input.text f.input.kindName

end SettingFault

namespace Settings

/-- A text given directly or as UTF-8 bytes. -/
def readText : Value → Except SettingCause Text
  | .str t => .ok t
  | .bytes bs =>
    match Text.decode bs with
    | .ok t => .ok t
    | .error _ => .error .notUnicode
  | _ => .error .notText

/-- A name from a raw value. -/
def readName (v : Value) : Except SettingCause LegalName := do
  let t ← readText v
  if h : Text.isLegalName t = true then .ok ⟨t, h⟩ else .error (.illegalName t)

/-- A suffix from a raw value. -/
def readSuffix (v : Value) : Except SettingCause Suffix := do
  let t ← readText v
  if t.any Text.isSurrogate then .error .notUnicode
  else if t.isEmpty then .error .tooShort
  else if h : Text.isSuffix t = true then .ok ⟨t, h⟩
  else .error (.illegalSuffix t)

/-- The words for the two truth values, in lower case. -/
def truthWords : List (String × Bool) :=
  [("0", false), ("off", false), ("f", false), ("false", false), ("n", false), ("no", false),
    ("1", true), ("on", true), ("t", true), ("true", true), ("y", true), ("yes", true)]

/-- The truth value a word stands for. -/
def truthOfWord (t : Text) : Except SettingCause Bool :=
  match truthWords.find? fun w => Text.ofString w.1 == Text.asciiLower t with
  | some w => .ok w.2
  | none => .error .unclearTruth

/-- The least integer of 64 bits; the greatest is `-1 - leastWord`. -/
def leastWord : Int := -0x8000000000000000

/-- The truth value of an integer: only 0 and 1 have one, and outside 64 bits none is looked for. -/
def truthOfInt (i : Int) : Except SettingCause Bool :=
  if i = 0 then .ok false
  else if i = 1 then .ok true
  else if leastWord ≤ i ∧ i ≤ -1 - leastWord then .error .unclearTruth
  else .error .notTruth

/-- A truth value from a raw value. -/
def readTruth : Value → Except SettingCause Bool
  | .bool b => .ok b
  | .str t => if t.any Text.isSurrogate then .error .notUnicode else truthOfWord t
  | .bytes bs =>
    match Text.decode bs with
    | .ok t => truthOfWord t
    | .error _ => .error .unclearTruth
  | .int i => truthOfInt i
  | .float x =>
    match x.toInt? with
    | some i => if i = leastWord then .error .notTruth else truthOfInt i
    | none => .error .notTruth
  | _ => .error .notTruth

/-- Reads one option; a missing one gives the default. -/
def readOption {α : Type} (o : Options) (s : Setting) (dflt : α)
    (read : Value → Except SettingCause α) : Except SettingFault α :=
  match o.get? s with
  | none => .ok dflt
  | some v =>
    match read v with
    | .ok a => .ok a
    | .error c => .error ⟨s, c, v⟩

/-- The fault of a reading, as a list. -/
def faultOf {α : Type} : Except SettingFault α → List SettingFault
  | .ok _ => []
  | .error f => [f]

/-- The settings given by options, or everything that is wrong with them. -/
def ofOptions (o : Options) : Except (List SettingFault) Settings :=
  let suffix := readOption o .builderSuffix default.builderSuffix readSuffix
  let factory := readOption o .factoryName default.factoryName readName
  let finalizer := readOption o .finalizerName default.finalizerName readName
  let wrapper := readOption o .wrapperName default.wrapperName readName
  let activation := readOption o .activationName default.activationName readName
  let collect := readOption o .collectMissing default.collectMissing readTruth
  match suffix, factory, finalizer, wrapper, activation, collect with
  | .ok a, .ok b, .ok c, .ok d, .ok e, .ok f => .ok ⟨a, b, c, d, e, f⟩
  | _, _, _, _, _, _ =>
    .error (faultOf suffix ++ faultOf factory ++ faultOf finalizer ++ faultOf wrapper
      ++ faultOf activation ++ faultOf collect)

/-- The options that give the settings back. -/
def toOptions (s : Settings) : Options :=
  [(Setting.builderSuffix.key, .str s.builderSuffix.val),
    (Setting.factoryName.key, .str s.factoryName.val),
    (Setting.finalizerName.key, .str s.finalizerName.val),
    (Setting.wrapperName.key, .str s.wrapperName.val),
    (Setting.activationName.key, .str s.activationName.val),
    (Setting.collectMissing.key, .bool s.collectMissing)]

end Settings

end FluentRecords
