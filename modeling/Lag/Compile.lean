import Lag.Check
import Lag.Host.Limit
import Lag.Host.Lower

/-!
# Compiling scripts

A source text becomes a host module in stages: it is read, checked, lowered, and accepted by the
host. The first stage that refuses it decides the fault.
-/
namespace Lag

/-- Why a source text does not become a host module. -/
inductive CompileFault where
  /-- The text is no sequence of tokens. -/
  | token (diagnostic : Source.Diagnostic)
  /-- A numeral in the text cannot be converted. -/
  | numeral (fault : Number.ReadFault)
  /-- The tokens are no program. -/
  | tree (diagnostic : Source.Diagnostic)
  /-- The program is not well typed: the first failure, and the number of failures. -/
  | type (first : Check.Failure) (diagnostic : Source.Diagnostic) (count : Nat)
  /-- The program is nested too deeply. -/
  | nesting (diagnostic : Source.Diagnostic)
  /-- The host refuses the module of a script. -/
  | host (id : String) (diagnostic : Source.Diagnostic)
  /-- The host is out of memory when it reads the module of a script. -/
  | memory
  deriving Repr

namespace CompileFault

/-- The message of a fault. -/
def message : CompileFault → String
  | .token diagnostic | .tree diagnostic | .type _ diagnostic _ | .nesting diagnostic =>
    diagnostic.message
  | .numeral fault => fault.message
  | .host id diagnostic => "compilation of '" ++ id ++ "' failed: " ++ diagnostic.message
  | .memory => Host.Refusal.memory.message

/-- The display of a fault. A fault of the source shows its diagnostic. -/
def display : CompileFault → String
  | .token diagnostic | .tree diagnostic | .type _ diagnostic _ | .nesting diagnostic =>
    diagnostic.display
  | fault => fault.message

/-- Whether a fault is one of the script. A numeral that cannot be converted is not, and neither is
a host that is out of memory. -/
def isScriptFault : CompileFault → Bool
  | .numeral _ | .memory => false
  | _ => true

end CompileFault

/-- The fault of a text that is no program; diagnostics quote its lines. -/
def SourceError.toFault (lines : Array String) : SourceError → CompileFault
  | .token (.located cause span) => .token (Scan.diagnostic lines cause span)
  | .token (.numeral fault) => .numeral fault
  | .tree error => .tree (error.diagnostic lines)

/-- Read a source text. -/
def readProgram (source : String) (file : Option String) : Except CompileFault (Program Node) :=
  match Program.ofText source file with
  | .ok program => .ok program
  | .error error => .error (error.toFault (Text.linesOf source))

/-- Check a program, whose diagnostics quote lines. -/
def checkProgram (program : Program Node) (limit : Nat) (lines : Array String) :
    Except CompileFault (Program Mark) :=
  let result := program.check limit
  match result.failures, result.program with
  | [], some checked => .ok checked
  | [], none => .ok (program.map Mark.bare)
  | first :: rest, _ => .error (.type first (first.diagnostic lines) (rest.length + 1))

/-- Lower a checked program. -/
def lowerProgram (program : Program Mark) (title : String) : Except CompileFault Host.Module :=
  match program.lower? title with
  | some lowered => .ok lowered
  | none => .error (.nesting (Host.tooDeep program.note.node.span))

/-- Read, check and lower a source text. -/
def translate (source title : String) (file : Option String) (limit : Nat) :
    Except CompileFault Host.Module :=
  match readProgram source file with
  | .error fault => .error fault
  | .ok program =>
    match checkProgram program limit (Text.linesOf source) with
    | .error fault => .error fault
    | .ok checked => lowerProgram checked title

/-- A host module that the host accepted: as it is written, and as it runs. -/
structure Linked where
  /-- The module as it is written. -/
  written : Host.Module
  /-- The module as it runs. -/
  program : Host.Module
  deriving Repr, Inhabited

/-- The fault of a module of a script that the host refuses. -/
def refusedFault (id : String) (lowered : Host.Module) (refused : Host.Refused) : CompileFault :=
  if refused.refusal = .memory then .memory else .host id (refused.diagnostic id lowered)

/-- Have the host accept a module of a script. -/
def accept (id : String) (lowered : Host.Module) : Except CompileFault Linked :=
  match lowered.refused? with
  | some refused => .error (refusedFault id lowered refused)
  | none => .ok ⟨lowered, lowered.link⟩

/-- Compile a source text to a module of a script. -/
def compile (source id : String) (file : Option String) (limit : Nat) :
    Except CompileFault Linked :=
  match translate source id file limit with
  | .error fault => .error fault
  | .ok lowered => accept id lowered

end Lag
