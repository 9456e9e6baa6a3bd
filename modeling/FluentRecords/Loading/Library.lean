import FluentRecords.Loading.World

/-!
What the libraries hold that modules import, by name.
-/

namespace FluentRecords

namespace Library

/-- The classes that every module finds without an import. -/
def builtinTypes : List Text :=
  (["int", "str", "float", "bool", "bytes", "list", "dict", "set", "frozenset", "tuple", "complex",
    "object", "bytearray", "memoryview", "range", "slice", "enumerate", "zip", "map", "filter",
    "reversed"] : List String).map Text.ofString

/-- The faults that every module finds without an import. -/
def builtinFaults : List Text :=
  (["BaseException", "Exception", "ValueError", "TypeError", "KeyError", "IndexError",
    "AttributeError", "NameError", "RuntimeError", "NotImplementedError", "ArithmeticError",
    "ZeroDivisionError", "AssertionError", "ImportError", "LookupError", "OSError", "StopIteration",
    "UnicodeError", "RecursionError"] : List String).map Text.ofString

/-- The functions that every module finds without an import. -/
def builtinFunctions : List Text :=
  (["print", "len", "isinstance", "issubclass", "sorted", "sum", "min", "max", "abs", "any", "all",
    "getattr", "setattr", "hasattr", "delattr", "vars", "dir", "id", "hash", "iter", "next", "callable",
    "chr", "ord", "round", "divmod", "pow", "format", "ascii", "bin", "hex", "oct", "globals",
    "locals", "open", "input", "exec", "eval", "compile"] : List String).map Text.ofString

/-- A tool under the name by which every module finds it. -/
def builtinTool? (n : Text) : Option Tool :=
  if n = Text.ofString "type" then some .type
  else if n = Text.ofString "repr" then some .repr
  else if n = Text.ofString "super" then some .ancestor
  else if n = Text.ofString "property" then some .property
  else if n = Text.ofString "staticmethod" || n = Text.ofString "classmethod" then some .transparent
  else none

/-- What a name stands for without an import. -/
def builtin? (n : Text) : Option Thing :=
  match builtinTool? n with
  | some t => some (.tool t)
  | none =>
    if n = Text.ofString "str" then some (.tool .text)
    else if builtinTypes.elem n then some (.library .type n)
    else if builtinFaults.elem n then some (.library .fault n)
    else if builtinFunctions.elem n then some (.library .function n)
    else if n = Text.ofString "__name__" then some (.str moduleName)
    else if n = Text.ofString "__file__" then some (.str moduleFile)
    else if n = Text.ofString "__debug__" then some (.value (.bool true))
    else if n = Text.ofString "NotImplemented" then some .unseen
    else none

/-- The modules that can be imported. -/
def modules : List Text :=
  (["__future__", "abc", "ast", "collections", "collections.abc", "contextlib", "copy", "dataclasses",
    "datetime", "decimal", "enum", "fractions", "functools", "inspect", "itertools", "json",
    "logging", "math", "operator", "os", "os.path", "pathlib", "pydantic", "re", "recordbuilder",
    "recordbuilder.config", "recordbuilder.decorator", "recordbuilder.errors",
    "recordbuilder.runtime", "string", "sys", "textwrap", "time", "types", "typing", "uuid"] : List String).map Text.ofString

/-- The faults that can be imported. -/
def faults : List Text :=
  (["DeriveError", "MissingFieldError", "ShapeError", "GenerationError"] : List String).map
    Text.ofString

/-- Whether a name begins with a capital letter, as names of classes do. -/
def isCapital (n : Text) : Bool :=
  match n with
  | c :: _ => 65 ≤ c && c ≤ 90
  | [] => false

/-- What a module holds under a name. -/
def member (module n : Text) : Thing :=
  if n = Text.ofString "dataclass" then .tool .dataclass
  else if n = Text.ofString "field" then .tool .field
  else if n = Text.ofString "derive_builder" then .tool .derive
  else if n = configName then .tool .settings
  else if n = Text.ofString "NamedTuple" then .tool .namedTuple
  else if n = Text.ofString "TYPE_CHECKING" then .value (.bool false)
  else if modules.elem (module ++ "." ++ n) then .library .module (module ++ "." ++ n)
  else if !isCapital n then .library .function n
  else if faults.elem n then .library .fault n
  else if module = Text.ofString "typing" || n = Text.ofString "KW_ONLY" then .library .form n
  else .library .type n

end Library

end FluentRecords
