import Lag.Host.Print

/-!
# The stack of the host's reader

The host reads a text by the rules of its grammar, which call each other, and it runs out of memory
when too many of them are under way at once. How many are depends on what is nested in what. The
text of a module is cut into pieces here, and each piece says how many rules are under way before
the reader looks at the next one.

Expressions are counted at their primaries, which are names, literals, calls and whatever stands in
parentheses. A statement that is an expression or an assignment is first read as a target, which
comes to the leftmost primary by fewer rules than the expression does. What is inside that primary
is remembered when it is read again, so the rules of the first reading count there.

The numbers are those of the grammar of version 3.11: one for each kind of statement, each level of
operators and each choice between them that is under way on the way to a piece.
-/
namespace Lag.Host

/-- The greatest number of rules under way at once. -/
def stackLimit : Nat := 6000

/-- The rules from a primary to the first one in its parentheses. -/
def groupRules : Nat := 28

/-- The rules from a call to the first argument. -/
def firstArgumentRules : Nat := 24

/-- The rules from a call to an argument after the first one. -/
def argumentRules : Nat := 28

/-- The rules that an operator adds for its right operand. -/
def Operator.rules : Operator → Nat
  | .and | .or => 2
  | .equal | .notEqual | .less | .greater | .lessEqual | .greaterEqual => 3
  | .add | .subtract | .multiply | .divide | .floorDivide | .remainder => 0

/-- A piece of a line. -/
structure Piece where
  /-- The text. -/
  text : String
  /-- The greatest number of rules under way from where it is looked at until the next piece is, or
  zero where others around it count. -/
  rules : Nat := 0
  deriving DecidableEq, Repr, Inhabited

/-- The text of some pieces, one after the other. -/
def Piece.join (pieces : List Piece) : String := String.join (pieces.map (·.text))

/-- The numbers of rules under way at the primaries of an expression. -/
structure Reading where
  /-- At the leftmost primary when it is first read. -/
  lead : Nat
  /-- At the primaries. -/
  depth : Nat
  /-- At the leftmost primary in parentheses when these stand first, when it is first read. -/
  inner : Nat
  /-- Whether a name that stands first is first looked at for an assignment to it, so with the word
  after it. -/
  named : Bool
  deriving DecidableEq, Repr

namespace Reading

/-- An expression that is read once. -/
def once (depth : Nat) : Reading := ⟨depth, depth, depth + groupRules, false⟩

/-- An argument or a test. -/
def inside (depth : Nat) : Reading := { once depth with named := true }

/-- What stands first in parentheses. -/
def group (reading : Reading) : Reading :=
  ⟨reading.inner, reading.lead + groupRules, reading.inner + groupRules, true⟩

/-- An operand of a level in a place that asks for a level. -/
def operand (reading : Reading) (minimum level : Level) : Reading :=
  if level < minimum then reading.group else reading

end Reading

/-- The pieces of an operand of a level in a place that asks for a level. -/
def enclose (minimum level : Level) (reading : Reading) (pieces : List Piece) : List Piece :=
  if level < minimum then ⟨"(", reading.depth + 6⟩ :: pieces ++ [⟨")", 0⟩] else pieces

/-- The pieces of a function up to its arguments. -/
def openCall (reading : Reading) (function : String) : List Piece :=
  [⟨function, if reading.named then 0 else reading.depth + 2⟩, ⟨"(", reading.depth + 4⟩]

/-- The pieces in front of the argument of a built-in function. -/
def builtinOpening (reading : Reading) : Builtin → List Piece
  | .print =>
    openCall { reading with named := false } "_lag_logger.info" ++
      ⟨"'%s', ", reading.lead + firstArgumentRules + 4⟩ ::
        openCall (.inside (reading.lead + argumentRules)) "_lag_str"
  | .str => openCall reading "_lag_str"
  | .len => openCall reading "len"
  | .sqrt => openCall { reading with named := false } "_lag_math.sqrt"
  | .floor => openCall { reading with named := false } "_lag_math.floor"

/-- The rules from a built-in function to its argument. -/
def builtinRules : Builtin → Nat
  | .print => argumentRules + firstArgumentRules
  | .str | .len | .sqrt | .floor => firstArgumentRules

/-- What closes the call of a built-in function. -/
def builtinClosing : Builtin → String
  | .print => "))"
  | .str | .len | .sqrt | .floor => ")"

mutual

/-- The pieces of an expression. -/
def Expr.pieces (reading : Reading) : Expr → List Piece
  | .int value => [⟨toString value, reading.depth + 2⟩]
  | .float value => [⟨Number.floatText value, reading.depth + 2⟩]
  | .text value =>
    -- Texts are remembered from the first reading.
    [⟨Text.quoted value, reading.depth + if reading.lead < reading.depth then 3 else 4⟩]
  | .truth value => [⟨if value then "True" else "False", reading.depth + 2⟩]
  | .read name => [⟨name, reading.depth + 2⟩]
  | .not operand =>
    let within := Reading.once (reading.depth + 1)
    ⟨"not ", reading.depth - 16⟩ :: enclose notLevel operand.level within
      (operand.pieces (within.operand notLevel operand.level))
  | .negate operand =>
    let within := Reading.once (reading.depth + 1)
    ⟨"-", reading.depth - 2⟩ :: enclose negateLevel operand.level within
      (operand.pieces (within.operand negateLevel operand.level))
  | .binary op left right =>
    let within := Reading.once (reading.depth + op.rules)
    enclose op.leftLevel left.level reading
        (left.pieces (reading.operand op.leftLevel left.level)) ++
      ⟨" " ++ op.spelling ++ " ", 0⟩ ::
        enclose op.rightLevel right.level within
          (right.pieces (within.operand op.rightLevel right.level))
  | .call function [] =>
    openCall reading function ++ [⟨")", reading.lead + firstArgumentRules + 2⟩]
  | .call function (first :: others) =>
    openCall reading function ++
      first.pieces (.inside (reading.lead + firstArgumentRules)) ++
      Expr.piecesAll (.inside (reading.lead + argumentRules)) others ++ [⟨")", 0⟩]
  | .builtin function arguments =>
    builtinOpening reading function ++
      Expr.headPieces (.inside (reading.lead + builtinRules function)) arguments ++
      [⟨builtinClosing function, 0⟩]
  | .toFloat value =>
    openCall reading "float" ++
      value.pieces (.inside (reading.lead + firstArgumentRules)) ++ [⟨")", 0⟩]

/-- The pieces of the arguments after the first one. -/
def Expr.piecesAll (reading : Reading) : List Expr → List Piece
  | [] => []
  | expr :: rest => ⟨", ", 0⟩ :: expr.pieces reading ++ Expr.piecesAll reading rest

/-- The pieces of the argument of a built-in function. -/
def Expr.headPieces (reading : Reading) : List Expr → List Piece
  | [] => []
  | expr :: _ => expr.pieces reading

end

/-- The pieces of a body that is never empty; as many rules are under way at its statements. -/
def suitePieces (rules : Nat) (lines : List (List Piece)) : List (List Piece) :=
  if lines.isEmpty then [[⟨"pass", rules + 27⟩]] else lines

/-- The pieces of an assignment at which so many rules are under way. -/
def assignPieces (rules : Nat) (name : String) (value : Expr) : List Piece :=
  ⟨name ++ " = ", 0⟩ :: value.pieces ⟨rules + 9, rules + 27, rules + 37, false⟩

/-- The pieces of a line with a test, of a statement at which so many rules are under way. -/
def testPieces (word : String) (rules : Nat) (test : Expr) : List Piece :=
  ⟨word ++ " ", 0⟩ :: test.pieces (.inside (rules + 24)) ++ [⟨":", 0⟩]

mutual

/-- The pieces of the lines of a statement at which so many rules are under way; a conditional
starts with a word. -/
def Stmt.pieces (word : String) (rules : Nat) : Stmt → List (List Piece)
  | .assign name value => [assignPieces rules name value]
  | .evaluate value => [value.pieces ⟨rules + 6, rules + 25, rules + 7, false⟩]
  | .leave none => [[⟨"return", rules + 28⟩]]
  | .leave (some value) => [⟨"return ", 0⟩ :: value.pieces (.once (rules + 26))]
  | .ifThen test body =>
    testPieces word rules test ::
      suitePieces (rules + 6) (Stmt.piecesAll (rules + 6) body)
  | .ifElse test body otherwise =>
    -- The other branch is read by a rule of its own, below that of the conditional.
    testPieces word rules test ::
      suitePieces (rules + 6) (Stmt.piecesAll (rules + 6) body) ++
      [⟨"else:", 0⟩] :: suitePieces (rules + 7) (Stmt.piecesAll (rules + 7) otherwise)
  | .ifElif test body otherwise =>
    testPieces word rules test ::
      suitePieces (rules + 6) (Stmt.piecesAll (rules + 6) body) ++
      Stmt.pieces "elif" (rules + 1) otherwise
  | .whileLoop test body =>
    testPieces "while" rules test ::
      suitePieces (rules + 6) (Stmt.piecesAll (rules + 6) body)
  | .forLoop counter first bound body =>
    (⟨"for " ++ counter ++ " in range(", 0⟩ :: first.pieces (.inside (rules + 49)) ++
        ⟨", ", 0⟩ :: bound.pieces (.inside (rules + 53)) ++ [⟨"):", 0⟩]) ::
      suitePieces (rules + 6) (Stmt.piecesAll (rules + 6) body)

/-- The pieces of the lines of statements. -/
def Stmt.piecesAll (rules : Nat) : List Stmt → List (List Piece)
  | [] => []
  | stmt :: rest => stmt.pieces "if" rules ++ Stmt.piecesAll rules rest

end

/-- The rules under way at the statements of a function. -/
def bodyRules : Nat := 11

/-- The pieces of lines in which few rules are under way. -/
def plainPieces (lines : List Line) : List (List Piece) := lines.map fun line => [⟨line.text, 0⟩]

/-- The pieces of the lines of a function. -/
def Function.pieces (function : Function) : List (List Piece) :=
  [⟨"def " ++ function.name ++ "(" ++ ", ".intercalate function.params ++ "):", 0⟩] ::
    plainPieces (globalLine function.globals) ++
    suitePieces bodyRules (Stmt.piecesAll bodyRules function.body)

/-- The pieces of the lines that give the variables of a module their first values. -/
def initialPieces (firsts : List (String × Expr)) : List (List Piece) :=
  [⟨"def __lag_init__():", 0⟩] :: plainPieces (globalLine (firsts.map (·.1))) ++
    suitePieces bodyRules (firsts.map fun (name, value) => assignPieces bodyRules name value)

/-- The pieces of the lines of a module, line by line. -/
def Module.pieces (program : Module) : List (List Piece) :=
  plainPieces (prelude program.title) ++
    program.functions.flatMap (fun (_, function) =>
      plainPieces [blank, blank] ++ function.pieces) ++
    plainPieces [blank, blank] ++ initialPieces program.firsts ++
    plainPieces (blank :: blank :: exportLines program.functions)

/-- Where the reader runs out of memory in the pieces of a line; the first argument is the column of
the first piece. -/
def overflow? (column : Nat) : List Piece → Option Nat
  | [] => none
  | piece :: rest =>
    if stackLimit < piece.rules then some column
    else overflow? (column + piece.text.length) rest

end Lag.Host
