import Lag.Compile
import Lag.Run.Native
import Lag.Script

/-!
# What modules hold

A script in Lag is compiled to a module of the host, which runs as it is written. What becomes of a
script in the host language is up to that language: it is given by how it reads texts.
-/
namespace Lag

/-- What a module holds. -/
inductive Content where
  /-- A program in Lag. -/
  | lag (linked : Linked)
  /-- A text in the host language. -/
  | host (text : String) (native : Run.Native)
  deriving Inhabited

/-- The host language. -/
structure HostLanguage where
  /-- Read the text of a script with an identifier. -/
  read : String → String → Except CompileFault Run.Native
  /-- Whether shared things are in place of what modules of Lag programs use. -/
  isReplaced : Run.Store → Bool := fun _ => false
  /-- What a module of a Lag program does on a request once something that it uses was replaced, by
  the variables that it began with, those after each line, and the shared things. -/
  further : Linked → Run.Request → Run.Store → List Run.Store → Run.Store → Run.Course :=
    fun _ _ begun past shared => .done (.ok .none) (past.headD begun) shared
  deriving Inhabited

namespace HostLanguage

/-- A host language that refuses every text. -/
def none : HostLanguage where
  read id _ := .error (.host id { code := "E401", message := "invalid syntax" })

/-- Compile a script; at most a number of failures are reported. -/
def compile (language : HostLanguage) (script : Script) (limit : Nat) :
    Except CompileFault Content :=
  match script.language with
  | .lag =>
    .lag <$> Lag.compile script.code script.id (script.path.map Text.Path.toText) limit
  | .host => .host script.code <$> language.read script.id script.code

/-- What a module does on a request. -/
def serve {σ : Type} (language : HostLanguage) (content : Content) (request : Run.Request)
    (port : Run.Port σ) : Run.Part σ :=
  match content with
  | .lag linked =>
    Run.guarded language.isReplaced (language.further linked request)
      (Run.serve linked.program request) port
  | .host _ native => native.serve request port

end HostLanguage

namespace Content

/-- The names that a module exports, by its variables. -/
def exports (content : Content) (globals : Run.Store) : List String :=
  match content with
  | .lag linked => linked.program.exports
  | .host _ native => native.exports globals

/-- What a module exports under a name, by its variables. -/
def find? (content : Content) (globals : Run.Store) (entry : String) : Option Entity :=
  match content with
  | .lag linked => Run.exported? linked.program entry
  | .host _ native => native.find? globals entry

/-- The text of a module in the host language. -/
def text : Content → String
  | .lag linked => linked.written.toText
  | .host text _ => text

end Content

/-- The fault of a script of the host language whose text meets an accident when it runs. -/
def CompileFault.body (script : Script) (accident : Run.Accident) : CompileFault :=
  let place : Source.Location := ⟨accident.line, 1, 0⟩
  .host script.id
    { code := "E402"
      message := "module body raised " ++ accident.display
      span := if accident.line = 0 then none else some ⟨some (Host.fileOf script.id), place, place⟩
      sourceLine :=
        if accident.line = 0 then none else (Text.linesOf script.code)[accident.line - 1]? }

end Lag
