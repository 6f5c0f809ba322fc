import Lag.Text.Lines
import Lag.Text.Path
import Lag.Text.Quoted
import Lag.Text.Utf8

/-!
# Files

A small file system: the files and directories below a working directory, with the times at which
they were last changed. Paths are followed step by step, through directories that are there. Around
the working directory there are directories of which nothing else is known, so a path from the root
leads to the root or nowhere. Names and paths have a greatest length. Reading a text decodes its
bytes strictly and writes every line end as a line feed.
-/
namespace Lag

/-- A file or a directory. -/
inductive FileNode where
  /-- A file with its bytes and the time of its last change. -/
  | file (bytes : ByteArray) (time : Int)
  /-- A directory with the time of its last change. -/
  | directory (time : Int)
  deriving Inhabited

/-- The time of the last change. -/
def FileNode.time : FileNode → Int
  | .file _ time => time
  | .directory time => time

/-- Whether there is a directory. -/
def FileNode.isDirectory : FileNode → Bool
  | .file _ _ => false
  | .directory _ => true

/-- Why a file cannot be used. -/
inductive FileFault where
  /-- Nothing is there. -/
  | missing (path : String)
  /-- A directory is there. -/
  | directory (path : String)
  /-- Something on the way is no directory. -/
  | noDirectory (path : String)
  /-- Something is there already. -/
  | exists (path : String)
  /-- The path or a step of it is too long. -/
  | tooLong (path : String)
  /-- The path holds a null character. -/
  | null
  /-- The bytes are no text. -/
  | encoding (fault : Text.Utf8Fault)
  deriving DecidableEq, Repr

/-- A byte in two hexadecimal digits. -/
def byteText (byte : UInt8) : String := String.ofList (Text.hexDigits 2 byte.toNat)

/-- The bytes concerned by a fault of encoding, with their positions. -/
def encodingPlace (fault : Text.Utf8Fault) : String :=
  if fault.count = 1 then
    "byte 0x" ++ byteText fault.first ++ " in position " ++ toString fault.position
  else
    "bytes in position " ++ toString fault.position ++ "-" ++
      toString (fault.position + fault.count - 1)

/-- The wording of a fault. -/
def FileFault.message : FileFault → String
  | .missing path => "[Errno 2] No such file or directory: " ++ Text.quoted path
  | .directory path => "[Errno 21] Is a directory: " ++ Text.quoted path
  | .noDirectory path => "[Errno 20] Not a directory: " ++ Text.quoted path
  | .exists path => "[Errno 17] File exists: " ++ Text.quoted path
  | .tooLong path => "[Errno 36] File name too long: " ++ Text.quoted path
  | .null => "embedded null byte"
  | .encoding fault =>
    "'utf-8' codec can't decode " ++ encodingPlace fault ++ ": " ++ fault.reason.message

/-- A file system. -/
structure Files where
  /-- The files and directories by their steps from the working directory. -/
  nodes : List (List String × FileNode) := []
  /-- A time that is later than every time so far. -/
  clock : Int := 4000000000000000000
  deriving Inhabited

namespace Files

/-- Whether steps lead to the working directory or to one around it. -/
def isAround (steps : List String) : Bool := steps.all (· == "..")

/-- What is at some steps from the working directory. -/
def at? (files : Files) (steps : List String) : Option FileNode :=
  if isAround steps then some (.directory 0) else List.lookup steps files.nodes

/-- The greatest number of bytes of a step. -/
def stepLimit : Nat := 255

/-- The greatest number of bytes of a path. -/
def pathLimit : Nat := 4095

/-- Follow steps from a directory; `name` is the whole path. -/
def follow (files : Files) (name : String) : List String → List String →
    Except FileFault (List String)
  | place, [] => .ok place
  | place, step :: rest =>
    match files.at? place with
    | some (.directory _) =>
      if step = ".." ∧ !isAround place then follow files name place.dropLast rest
      else if stepLimit < step.utf8ByteSize then .error (.tooLong name)
      else follow files name (place ++ [step]) rest
    | some (.file _ _) => .error (.noDirectory name)
    | none => .error (.missing name)

/-- The steps from the working directory to a path. -/
def resolve (files : Files) (path : Text.Path) : Except FileFault (List String) :=
  let name := path.toText
  if name.toList.contains '\x00' then .error .null
  else if pathLimit < name.utf8ByteSize then .error (.tooLong name)
  else if path.root = 0 then files.follow name [] path.steps
  else if isAround path.steps then .ok [".."]
  else .error (.missing name)

/-- What is at a path. -/
def find (files : Files) (path : Text.Path) : Except FileFault FileNode :=
  match files.resolve path with
  | .error fault => .error fault
  | .ok steps =>
    match files.at? steps with
    | some node => .ok node
    | none => .error (.missing path.toText)

/-- Whether what is at a path passes a test; nothing does not. A path that is too long cannot be
tested. -/
def passes (files : Files) (path : Text.Path) (test : FileNode → Bool) : Except FileFault Bool :=
  match files.find path with
  | .ok node => .ok (test node)
  | .error (.tooLong name) => .error (.tooLong name)
  | .error _ => .ok false

/-- Whether anything is at a path. -/
def exists? (files : Files) (path : Text.Path) : Except FileFault Bool :=
  files.passes path fun _ => true

/-- Whether a directory is at a path. -/
def isDirectory (files : Files) (path : Text.Path) : Except FileFault Bool :=
  files.passes path FileNode.isDirectory

/-- Whether a file is at a path. -/
def isFile (files : Files) (path : Text.Path) : Bool :=
  match files.find path with
  | .ok node => !node.isDirectory
  | .error _ => false

/-- The text of the file at a path. -/
def read (files : Files) (path : Text.Path) : Except FileFault String :=
  match files.find path with
  | .error fault => .error fault
  | .ok (.directory _) => .error (.directory path.toText)
  | .ok (.file bytes _) =>
    match Text.decodeUtf8 bytes with
    | .error fault => .error (.encoding fault)
    | .ok text => .ok (String.ofList (Text.unifyLineEnds text.toList))

/-- Put something at some steps from the working directory, in place of what is there. -/
def put (files : Files) (steps : List String) (node : FileNode) : Files :=
  let rec set : List (List String × FileNode) → List (List String × FileNode)
    | [] => [(steps, node)]
    | (other, old) :: rest =>
      if other = steps then (steps, node) :: rest else (other, old) :: set rest
  { files with nodes := set files.nodes, clock := files.clock + 1 }

/-- Follow steps from a directory and make the directories that are missing: the steps to where they
lead. -/
def makeWay (files : Files) (name : String) : List String → List String →
    Except FileFault (Files × List String)
  | place, [] => .ok (files, place)
  | place, step :: rest =>
    if step = ".." ∧ !isAround place then files.makeWay name place.dropLast rest
    else if stepLimit < step.utf8ByteSize then .error (.tooLong name)
    else
      let next := place ++ [step]
      match files.at? next with
      | some (.directory _) => files.makeWay name next rest
      | some (.file _ _) => .error (.noDirectory name)
      | none => (files.put next (.directory files.clock)).makeWay name next rest

/-- Make the directories on the way to a path: the steps to it. -/
def reach (files : Files) (path : Text.Path) : Except FileFault (Files × List String) :=
  let name := path.toText
  if name.toList.contains '\x00' then .error .null
  else
    match files.makeWay name [] path.steps.dropLast with
    | .error fault => .error fault
    | .ok (files, place) => (files.follow name place [path.name]).map (files, ·)

/-- Write the bytes of a file, with the directories on the way to it; without a time the file is
the one changed last. -/
def write (files : Files) (path : Text.Path) (bytes : ByteArray) (time : Option Int) :
    Except FileFault Files :=
  match files.reach path with
  | .error fault => .error fault
  | .ok (files, steps) =>
    match files.at? steps with
    | some (.directory _) => .error (.directory path.toText)
    | _ => .ok (files.put steps (.file bytes (time.getD files.clock)))

/-- Make a directory, with the directories on the way to it. A time is set also when the directory
is there. -/
def makeDirectory (files : Files) (path : Text.Path) (time : Option Int) :
    Except FileFault Files :=
  match files.reach path with
  | .error fault => .error fault
  | .ok (files, steps) =>
    match files.at? steps, time with
    | some (.file _ _), _ => .error (.exists path.toText)
    | some (.directory _), none => .ok files
    | some (.directory _), some time => .ok (files.put steps (.directory time))
    | none, time => .ok (files.put steps (.directory (time.getD files.clock)))

/-- Write a text to a file in a directory that is there. -/
def store (files : Files) (path : Text.Path) (text : String) : Except FileFault Files :=
  match files.resolve path with
  | .error fault => .error fault
  | .ok steps =>
    match files.at? steps with
    | some (.directory _) => .error (.directory path.toText)
    | _ => .ok (files.put steps (.file text.toUTF8 files.clock))

/-- Write a text at the end of a file in a directory that is there. A file that is missing is
made. -/
def append (files : Files) (path : Text.Path) (text : String) : Except FileFault Files :=
  match files.resolve path with
  | .error fault => .error fault
  | .ok steps =>
    match files.at? steps with
    | some (.directory _) => .error (.directory path.toText)
    | some (.file bytes _) => .ok (files.put steps (.file (bytes ++ text.toUTF8) files.clock))
    | none => .ok (files.put steps (.file text.toUTF8 files.clock))

/-- Remove the file at a path. -/
def remove (files : Files) (path : Text.Path) : Except FileFault Files :=
  match files.resolve path with
  | .error fault => .error fault
  | .ok place =>
    match files.at? place with
    | none => .error (.missing path.toText)
    | some (.directory _) => .error (.directory path.toText)
    | some (.file _ _) =>
      .ok { files with nodes := files.nodes.filter fun (steps, _) => steps != place }

/-- The names in a directory, in order. -/
def names (files : Files) (path : Text.Path) : List String :=
  match files.resolve path with
  | .error _ => []
  | .ok place =>
    let inside := files.nodes.filterMap fun (steps, _) =>
      if steps.dropLast = place ∧ steps ≠ [] then steps.getLast? else none
    inside.mergeSort fun first second => first ≤ second

end Files

end Lag
