import Lag.World.Content

/-!
# Simple scripts of the host language

A simple script imports libraries, sets things of them that no library has by itself, and defines
functions without parameters. A function may write lines and give an integer or one of these things.
A script may also export nothing, and may refuse to be asked for names that it lacks. So simple
scripts do all that scripts of the host language do beside their own variables: they share things,
write lines and raise errors. Lines of a text that are none of these are not read here.
-/
namespace Lag

namespace Simple

/-- A step of a function. -/
inductive Action where
  /-- Write a line. -/
  | tell (line : String)
  /-- Give an integer. -/
  | give (value : Int)
  /-- Give a thing of a library. -/
  | look (library name : String)
  deriving DecidableEq, Repr

/-- Where a line stands. -/
inductive Place where
  /-- Outside functions. -/
  | outside
  /-- In the body of a function. -/
  | inside
  /-- After the head of the function that is asked for names. -/
  | asked
  deriving DecidableEq, Repr

end Simple

/-- A simple script of the host language. -/
structure Simple where
  /-- The libraries that are imported. -/
  libraries : List String := []
  /-- The things that are set, with their values. -/
  settings : List (String × Int) := []
  /-- The functions, the last one first, and the steps of each in order. -/
  functions : Table (List Simple.Action) := []
  /-- Whether it says that it exports nothing. -/
  isClosed : Bool := false
  /-- Whether it refuses to be asked for names that it lacks. -/
  refuses : Bool := false
  deriving Repr

namespace Simple

/-! ## Reading -/

/-- The libraries that simple scripts may import. -/
def knownLibraries : List String := ["logging", "math"]

/-- The name under which scripts share a thing of a library. -/
def sharedName (library name : String) : String := library ++ "." ++ name

/-- What stands between a front part and an end part. -/
def between? (front back : String) (line : List Char) : Option (List Char) :=
  let rest := line.drop front.length
  let inner := rest.take (rest.length - back.length)
  if line = front.toList ++ inner ++ back.toList then some inner else none

/-- An integer by its digits. -/
def digits? (text : List Char) : Option Int :=
  if text.all (fun c => '0' ≤ c && c ≤ '9') && (text == ['0'] || text.head?.any (· != '0')) then
    some (text.foldl (fun value c => value * 10 + (c.toNat - '0'.toNat : Nat)) 0)
  else none

/-- Whether a text is a name of small letters and digits. -/
def isName (text : List Char) : Bool :=
  text.head?.any (fun c => 'a' ≤ c && c ≤ 'z') &&
    text.all fun c => 'a' ≤ c && c ≤ 'z' || '0' ≤ c && c ≤ '9' || c == '_'

/-- A thing of a library that is imported, and that the library does not have by itself. -/
def thing? (script : Simple) (text : List Char) : Option (String × String) := do
  let library := String.ofList (text.takeWhile (· != '.'))
  let name ← between? (library ++ ".lag_") "" text
  if script.libraries.contains library && isName name then
    some (library, "lag_" ++ String.ofList name)
  else none

/-- Whether a character may stand in a text between apostrophes. -/
def isPlain (c : Char) : Bool :=
  ' ' ≤ c && c ≤ '~' && c != Text.apostrophe && c != '\\'

/-- A step of a function of a script with an identifier. -/
def action? (id : String) (script : Simple) (line : List Char) : Option Action :=
  let journal := "    logging.getLogger('lagscript.scripts." ++ id ++ "').info('%s', '"
  match between? journal "')" line with
  | some text =>
    if script.libraries.contains "logging" && text.all isPlain && id.toList.all isPlain then
      some (.tell (String.ofList text))
    else none
  | none => do
    let value ← between? "    return " "" line
    match digits? value with
    | some value => some (.give value)
    | none => (script.thing? value).map fun (library, name) => .look library name

/-- Add a step to the last function. -/
def addAction (action : Action) (script : Simple) : Simple :=
  { script with
    functions := match script.functions with
      | [] => []
      | (name, actions) :: rest => (name, actions ++ [action]) :: rest }

/-- Read a line outside functions. -/
def readOutside (line : List Char) (script : Simple) : Option (Place × Simple) :=
  if line.isEmpty || line.head? = some '#' then some (.outside, script)
  else if line = "__lag_exports__ = \x7b\x7d".toList then
    some (.outside, { script with isClosed := true })
  else if line = "def __getattr__(name):".toList then
    some (.asked, { script with refuses := true })
  else
    match between? "import " "" line, between? "def " "():" line with
    | some library, _ =>
      let library := String.ofList library
      if knownLibraries.contains library then
        some (.outside, { script with libraries := library :: script.libraries })
      else none
    | none, some name =>
      let name := String.ofList name
      if isName name.toList && !(Host.isReserved name || knownLibraries.contains name ||
          script.functions.has name) then
        some (.inside, { script with functions := (name, []) :: script.functions })
      else none
    | none, none => do
      let (library, name) ← script.thing? (line.takeWhile (· != ' '))
      let value ← between? (sharedName library name ++ " = ") "" line
      let value ← digits? value
      some (.outside,
        { script with settings := script.settings ++ [(sharedName library name, value)] })

/-- Read a line of a script with an identifier. -/
def readLine (id : String) (line : List Char) : Place × Simple → Option (Place × Simple)
  | (.asked, script) =>
    if line = "    raise ValueError(name)".toList then some (.outside, script) else none
  | (.inside, script) =>
    match action? id script line with
    | some action => some (.inside, script.addAction action)
    | none => readOutside line script
  | (.outside, script) => readOutside line script

/-- Read lines of a script with an identifier. -/
def readLines (id : String) : List (List Char) → Place × Simple → Option (Place × Simple)
  | [], read => some read
  | line :: rest, read => (readLine id line read).bind (readLines id rest)

/-- Read the text of a script with an identifier. -/
def ofText? (id code : String) : Option Simple :=
  match readLines id (Text.splitLines code.toList) (.outside, {}) with
  | some (.asked, _) | none => none
  | some (_, script) =>
    if script.functions.all (!·.2.isEmpty) then
      some { script with functions := script.functions.reverse }
    else none

/-! ## Running -/

/-- An error that a script meets. -/
def met (trouble : Run.Trouble) : Run.Raised :=
  { kind := trouble.className, message := trouble.message }

/-- The steps of a function. -/
def course : List Action → Run.Store → Run.Store → Run.Course
  | [], globals, shared => .done (.ok .none) globals shared
  | .tell line :: rest, globals, shared => .line line globals shared (course rest)
  | .give value :: _, globals, shared => .done (.ok (.int value)) globals shared
  | .look library name :: _, globals, shared =>
    let outcome := match shared.find? (sharedName library name) with
      | some value => .ok value
      | none => .error (met (.part (.entity (.library library)) name))
    .done outcome globals shared

/-- A name that a script lacks is asked for. -/
def ask (script : Simple) (name : String) : Except Run.Raised Value :=
  if script.refuses then .error { kind := "ValueError", message := name, escapes := true }
  else .ok .none

/-- What a script does on a request. -/
def run (script : Simple) (request : Run.Request) (globals shared : Run.Store) : Run.Course :=
  match request with
  | .body =>
    let shared := script.settings.foldl
      (fun shared setting => Table.put setting.1 (.int setting.2) shared) shared
    .done (if script.isClosed then .ok .none else script.ask "__lag_exports__") globals shared
  | .initial => .done (script.ask "__lag_init__") globals shared
  | .call (.function _ name) arguments =>
    if arguments.isEmpty then course ((script.functions.find? name).getD []) globals shared
    else .done (.error (met (.tooManyArguments name 0 arguments.length))) globals shared
  | .call _ _ => .done (.ok .none) globals shared

/-- The names that a script exports. -/
def exports (script : Simple) : List String :=
  if script.isClosed then [] else script.functions.names

/-- A script as a module. -/
def native (script : Simple) : Run.Native where
  run := script.run
  exports _ := script.exports
  find? _ entry :=
    if script.exports.contains entry then some (.function (script.exports.idxOf entry) entry)
    else none

end Simple

/-- The host language as far as scripts are simple. Simple scripts replace nothing that modules of
Lag programs use. -/
def HostLanguage.simple : HostLanguage where
  read id code :=
    match Simple.ofText? id code with
    | .some script => .ok script.native
    | .none => .error (.host id { code := "E401", message := "this is no simple script" })

end Lag
