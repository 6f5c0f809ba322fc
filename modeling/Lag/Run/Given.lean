import Lag.Run.Operate

/-!
# What the host gives

The host gives names to classes, to functions and to a few things besides, and every module starts
with names of its own: two libraries, a journal and a function that writes a value as a text. A
module uses some of these by name, so what it uses is decided by what the name stands for.
-/
namespace Lag.Run

/-- The classes that the host names. -/
def givenKinds : List String := [
  "bool", "float", "int", "range", "str", "ArithmeticError", "AssertionError", "AttributeError",
  "BaseException", "BaseExceptionGroup", "BlockingIOError", "BrokenPipeError", "BufferError",
  "BytesWarning", "ChildProcessError", "ConnectionAbortedError", "ConnectionError",
  "ConnectionRefusedError", "ConnectionResetError", "DeprecationWarning", "EOFError",
  "EncodingWarning", "Exception", "ExceptionGroup", "FileExistsError", "FileNotFoundError",
  "FloatingPointError", "FutureWarning", "GeneratorExit", "ImportError", "ImportWarning",
  "IndentationError", "IndexError", "InterruptedError", "IsADirectoryError", "KeyError",
  "KeyboardInterrupt", "LookupError", "MemoryError", "ModuleNotFoundError", "NameError",
  "NotADirectoryError", "NotImplementedError", "OSError", "OverflowError",
  "PendingDeprecationWarning", "PermissionError", "ProcessLookupError", "RecursionError",
  "ReferenceError", "ResourceWarning", "RuntimeError", "RuntimeWarning", "StopAsyncIteration",
  "StopIteration", "SyntaxError", "SyntaxWarning", "SystemError", "SystemExit", "TabError",
  "TimeoutError", "TypeError", "UnboundLocalError", "UnicodeDecodeError", "UnicodeEncodeError",
  "UnicodeError", "UnicodeTranslateError", "UnicodeWarning", "UserWarning", "ValueError",
  "Warning", "ZeroDivisionError", "bytearray", "bytes", "classmethod", "complex", "dict",
  "enumerate", "filter", "frozenset", "list", "map", "memoryview", "object", "property",
  "reversed", "set", "slice", "staticmethod", "super", "tuple", "type", "zip"]

/-- The functions that the host names. -/
def givenFunctions : List String := [
  "isinstance", "len", "abs", "aiter", "all", "anext", "any", "ascii", "bin", "breakpoint",
  "callable", "chr", "compile", "delattr", "dir", "divmod", "eval", "exec", "format", "getattr",
  "globals", "hasattr", "hash", "hex", "id", "input", "issubclass", "iter", "locals", "max",
  "min", "next", "oct", "open", "ord", "pow", "print", "repr", "round", "setattr", "sorted",
  "sum", "vars"]

/-- The other things that the host names. -/
def givenThings : List (String × Value) := [
  ("None", .none), ("True", .bool true), ("False", .bool false),
  ("EnvironmentError", .entity (.kind "OSError")), ("IOError", .entity (.kind "OSError")),
  ("Ellipsis", .entity (.thing "ellipsis" "Ellipsis")),
  ("NotImplemented", .entity (.thing "NotImplementedType" "NotImplemented")),
  ("copyright", .entity (.thing "_Printer" "copyright")),
  ("credits", .entity (.thing "_Printer" "credits")),
  ("license", .entity (.thing "_Printer" "license")),
  ("exit", .entity (.thing "Quitter" "exit")), ("quit", .entity (.thing "Quitter" "quit")),
  ("help", .entity (.thing "_Helper" "help"))]

/-- What a name stands for at the start of every module. -/
def startValue? : String → Option Value
  | "_lag_str" => some (.entity .writing)
  | "_lag_logger" => some (.entity .journal)
  | "_lag_math" => some (.entity (.library "math"))
  | "_lag_logging" => some (.entity (.library "logging"))
  | _ => none

/-- What the host lets a name stand for. -/
def givenValue? (name : String) : Option Value :=
  if givenFunctions.contains name then some (.entity (.given name))
  else if givenKinds.contains name then some (.entity (.kind name))
  else List.lookup name givenThings

/-- Whether a class has a value as a member. -/
def isMember (kind : String) (value : Value) : Bool :=
  kind == value.kindName || kind == "object" || (kind == "int" && value.kindName == "bool")

/-- The result of a function that the host gives. Only those that modules use are answered. -/
def applyGiven (name : String) (arguments : List Value) : Outcome Value :=
  match name, arguments with
  | "len", [value] => length value
  | "isinstance", [value, .entity (.kind kind)] => .ok (.bool (isMember kind value))
  | "isinstance", [_, _] => .error .membership
  | _, _ => .error (.call (.entity (.given name)))

/-- The member of a class that is made of values. Only the classes that modules use make one. -/
def applyKind (name : String) (arguments : List Value) : Outcome Value :=
  match name, arguments with
  | "float", [value] => toFloat value
  | "str", [value] => (hostText value).map .string
  | "bool", [value] => .ok (.bool (truth value))
  | "range", [first, bound] => do
    let first ← loopBound first
    let bound ← loopBound bound
    .ok (.entity (.span first bound))
  | _, _ => .error (.call (.entity (.kind name)))

/-- Whether a value has a part of a name, of the parts that modules use. -/
def hasPart (part : String) : Value → Bool
  | .entity .journal | .entity (.library "logging") => part == "info"
  | .entity (.library "math") => part == "sqrt" || part == "floor"
  | _ => false

end Lag.Run
