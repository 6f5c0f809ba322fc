import Lag.Check.Mark

/-!
# Names of the host language

Every symbol of a checked program has a name of its own in the host module. A symbol keeps its
name when that is neither reserved nor taken; otherwise it gets the first free name with a number
after it. The functions and variables of the module come first, then the parameters and variables
of each function, in order.
-/
namespace Lag.Host

/-- The words that the host language reserves or defines. -/
def reservedWords : List String := [
  "ArithmeticError", "AssertionError", "AttributeError", "BaseException", "BaseExceptionGroup",
  "BlockingIOError", "BrokenPipeError", "BufferError", "BytesWarning", "ChildProcessError",
  "ConnectionAbortedError", "ConnectionError", "ConnectionRefusedError", "ConnectionResetError",
  "DeprecationWarning", "EOFError", "Ellipsis", "EncodingWarning", "EnvironmentError",
  "Exception", "ExceptionGroup", "False", "FileExistsError", "FileNotFoundError",
  "FloatingPointError", "FutureWarning", "GeneratorExit", "IOError", "ImportError",
  "ImportWarning", "IndentationError", "IndexError", "InterruptedError", "IsADirectoryError",
  "KeyError", "KeyboardInterrupt", "LookupError", "MemoryError", "ModuleNotFoundError",
  "NameError", "None", "NotADirectoryError", "NotImplemented", "NotImplementedError", "OSError",
  "OverflowError", "PendingDeprecationWarning", "PermissionError", "ProcessLookupError",
  "RecursionError", "ReferenceError", "ResourceWarning", "RuntimeError", "RuntimeWarning",
  "StopAsyncIteration", "StopIteration", "SyntaxError", "SyntaxWarning", "SystemError",
  "SystemExit", "TabError", "TimeoutError", "True", "TypeError", "UnboundLocalError",
  "UnicodeDecodeError", "UnicodeEncodeError", "UnicodeError", "UnicodeTranslateError",
  "UnicodeWarning", "UserWarning", "ValueError", "Warning", "ZeroDivisionError", "_",
  "__build_class__", "__debug__", "__doc__", "__import__", "__loader__", "__name__",
  "__package__", "__spec__", "abs", "aiter", "all", "and", "anext", "any", "as", "ascii",
  "assert", "async", "await", "bin", "bool", "break", "breakpoint", "bytearray", "bytes",
  "callable", "case", "chr", "class", "classmethod", "compile", "complex", "continue",
  "copyright", "credits", "def", "del", "delattr", "dict", "dir", "divmod", "elif", "else",
  "enumerate", "eval", "except", "exec", "exit", "filter", "finally", "float", "for", "format",
  "from", "frozenset", "getattr", "global", "globals", "hasattr", "hash", "help", "hex", "id",
  "if", "import", "in", "input", "int", "is", "isinstance", "issubclass", "iter", "lambda",
  "len", "license", "list", "locals", "map", "match", "max", "memoryview", "min", "next",
  "nonlocal", "not", "object", "oct", "open", "or", "ord", "pass", "pow", "print", "property",
  "quit", "raise", "range", "repr", "return", "reversed", "round", "set", "setattr", "slice",
  "sorted", "staticmethod", "str", "sum", "super", "try", "tuple", "type", "vars", "while",
  "with", "yield", "zip"]

/-- Whether a name starts and ends with two underscores. -/
def isUnderscored (name : List Char) : Bool :=
  name.take 2 == ['_', '_'] && name.reverse.take 2 == ['_', '_']

/-- Whether no symbol may have a name: it is a word of the host language, a name of the lines that
every module starts with, or surrounded by underscores. -/
def isReserved (name : String) : Bool :=
  reservedWords.contains name || name.toList.take 5 == "_lag_".toList || isUnderscored name.toList

/-- A name with a number after it; none for zero. -/
def numbered (name : String) (number : Nat) : String :=
  if number = 0 then name else name ++ "_" ++ toString number

/-- Whether a name is reserved or taken. -/
def isOccupied (taken : List String) (name : String) : Bool :=
  isReserved name || taken.contains name

/-- The first name with a number, from a given one on, that is neither reserved nor taken. The
search ends only at such a name. -/
def search (taken : List String) (name : String) (number : Nat) : Option String :=
  let candidate := numbered name number
  if isOccupied taken candidate then by
    apply search
    · exact taken
    · exact name
    · exact number + 1
  else some candidate
partial_fixpoint

/-- The first name with a number, from a given one on, that is neither reserved nor taken. The
search is bounded by the first argument. -/
def freeName (taken : List String) (name : String) : Nat → Nat → String
  | 0, number => numbered name number
  | bound + 1, number =>
    let candidate := numbered name number
    if isOccupied taken candidate then freeName taken name bound (number + 1) else candidate

/-- The name that a bounded search gives. Of the numbered names at most one for each reserved word
and each taken name is not free. -/
def nearName (taken : List String) (name : String) : String :=
  freeName taken name (reservedWords.length + taken.length + 2) 0

/-- The name for a symbol. If none is free near by, the search goes on, and it does not end. -/
def chooseName (taken : List String) (name : String) : String :=
  let near := nearName taken name
  if isOccupied taken near then (search taken name 0).getD near else near

/-- The host names of symbols, by the numbers of their declarations, the newest first. -/
abbrev Names := List (Nat × String)

namespace Names

/-- The names that are taken. -/
def taken (names : Names) : List String := names.map (·.2)

/-- Name a symbol, unless it has a name. -/
def add (names : Names) (symbol : Symbol) : Names :=
  match symbol.origin with
  | none => names
  | some origin =>
    match List.lookup origin names with
    | some _ => names
    | none => (origin, chooseName names.taken symbol.name) :: names

/-- The host name of a symbol. -/
def find (names : Names) (symbol : Symbol) : String :=
  (symbol.origin.bind fun origin => List.lookup origin names).getD symbol.name

end Names

mutual

/-- The symbols that a statement declares, in order. -/
def declared : Stmt Mark → List Symbol
  | .declare binding => binding.note.symbol.toList
  | .assign _ _ _ | .leave _ _ | .evaluate _ _ => []
  | .block _ body => declaredAll body
  | .ifThen _ _ _ body => declaredAll body
  | .ifElse _ _ _ body otherwise => declaredAll body ++ declared otherwise
  | .whileLoop _ _ _ body => declaredAll body
  | .forLoop mark _ _ _ _ body => mark.symbol.toList ++ declaredAll body

/-- The symbols that statements declare, in order. -/
def declaredAll : List (Stmt Mark) → List Symbol
  | [] => []
  | stmt :: rest => declared stmt ++ declaredAll rest

end

/-- The symbol that a declaration of a module introduces. -/
def declaredBy : Declaration Mark → List Symbol
  | .function function => function.note.symbol.toList
  | .binding binding => binding.note.symbol.toList

/-- The symbols that a function declares, in order: its parameters, then its variables. -/
def declaredIn (function : Lag.Function Mark) : List Symbol :=
  function.params.flatMap (·.note.symbol.toList) ++ declaredAll function.body

/-- The symbols of a program in the order in which they are named. -/
def symbolsOf (program : Program Mark) : List Symbol :=
  program.declarations.flatMap declaredBy ++ program.functions.flatMap declaredIn

/-- The host names of a program. -/
def Names.ofProgram (program : Program Mark) : Names := (symbolsOf program).foldl Names.add []

end Lag.Host
