import Lag.Text.Case
import Lag.Text.Path

/-!
# Scripts

A script is a source text with an identifier, a language and the path it was read from. The
language follows from the suffix of a path.
-/
namespace Lag

/-- The languages of scripts. -/
inductive Language where
  /-- Lag. -/
  | lag
  /-- The host language. -/
  | host
  deriving DecidableEq, Repr, Inhabited

/-- The name under which a language is listed. -/
def Language.name : Language → String
  | .lag => "LAG"
  | .host => "HOST"

/-- The suffix of a path in small letters. -/
def suffixOf (path : Text.Path) : String := Text.lowerText path.suffix

/-- The language of the file at a path. -/
def Language.ofPath? (path : Text.Path) : Option Language :=
  if suffixOf path = ".lag" then some .lag
  else if suffixOf path = ".py" then some .host
  else none

/-- The message about a path whose suffix belongs to no language, with the path as it was given. -/
def Language.suffixMessage (path : Text.Path) (given : String) : String :=
  "unsupported script extension '" ++ suffixOf path ++ "' for " ++ given

/-- A script. -/
structure Script where
  /-- The identifier. -/
  id : String
  /-- The language. -/
  language : Language := .lag
  /-- The source text. -/
  code : String
  /-- The path that it was read from. -/
  path : Option Text.Path := none
  deriving DecidableEq, Repr, Inhabited

namespace Script

/-- Whether the identifier can name a module. -/
def isValid (script : Script) : Bool := script.id != ""

/-- The script with another source text in a language. -/
def withSource (script : Script) (language : Language) (code : String) : Script :=
  { script with language := language, code := code }

end Script

end Lag
