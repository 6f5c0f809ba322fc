import Lag.Source.Diagnostic
import Lag.Symbol
import Lag.Tree.Branch
import Lag.Tree.Parse

/-!
# Failures of the type check

A failure names its cause, the stretch of the source that its diagnostic points at, and the
construct at fault. Code, wording and the two sides of the mismatch follow from the cause.
-/
namespace Lag.Check

/-- Why a program is not well typed. -/
inductive Cause where
  /-- A name stands for nothing. -/
  | undeclared (name : String)
  /-- A name is declared twice in a scope. -/
  | redeclared (name : String)
  /-- The first value of a variable does not fit its type. -/
  | initial (name : String) (place value : Ty)
  /-- A variable starts with no value. -/
  | initialVoid (name : String)
  /-- A value does not fit the variable it is assigned to. -/
  | assigned (name : String) (place value : Ty)
  /-- A function is assigned to. -/
  | assignedFunction (name : String)
  /-- The variable of a loop is assigned to. -/
  | assignedCounter (name : String)
  /-- A variable or parameter is to hold nothing. -/
  | voidVariable
  /-- A test is no truth value. -/
  | test (word : String) (value : Ty)
  /-- A bound of a loop is no integer. -/
  | bound (value : Ty)
  /-- A function that is called is not declared. -/
  | undeclaredCallee (name : String)
  /-- A variable is called. -/
  | variableCallee (name : String) (type : Ty)
  /-- A call has the wrong number of arguments. -/
  | arity (name : String) (takes given : Nat)
  /-- An argument does not fit its parameter. -/
  | argument (param function : String) (place value : Ty)
  /-- A returned value does not fit the result of the function. -/
  | returned (place value : Ty)
  /-- A function without a result returns a value. -/
  | returnedVoid (value : Ty)
  /-- A function with a result returns none. -/
  | returnedNothing (place : Ty)
  /-- A function with a result may end without a return. -/
  | missingReturn (name : String) (place : Ty)
  /-- An operator does not apply to its operands. -/
  | operands (op : BinaryOp) (left right : Ty)
  /-- The operand of a negation of truth is no truth value. -/
  | notOperand (value : Ty)
  /-- The operand of a change of sign is no number. -/
  | negateOperand (value : Ty)
  /-- A function is used as a value. -/
  | functionValue (name : String)
  /-- The program is nested too deeply. -/
  | tooDeep
  deriving DecidableEq, Repr

/-- The code of a cause. -/
def Cause.code : Cause → String
  | .undeclared _ => "E201"
  | .redeclared _ => "E202"
  | .initial _ _ _ => "E210"
  | .initialVoid _ => "E211"
  | .assigned _ _ _ => "E212"
  | .assignedFunction _ | .assignedCounter _ => "E213"
  | .voidVariable => "E214"
  | .test _ _ => "E220"
  | .bound _ => "E221"
  | .undeclaredCallee _ | .variableCallee _ _ => "E230"
  | .arity _ _ _ => "E231"
  | .argument _ _ _ _ => "E232"
  | .returned _ _ => "E240"
  | .returnedVoid _ => "E241"
  | .returnedNothing _ => "E242"
  | .missingReturn _ _ => "E243"
  | .operands op _ _ =>
    if op.isArithmetic then "E250"
    else if op.isOrder then "E251"
    else if op.isEquality then "E252"
    else "E253"
  | .notOperand _ => "E260"
  | .negateOperand _ => "E261"
  | .functionValue _ => "E271"
  | .tooDeep => "E272"

/-- A word between apostrophes. -/
def inQuotes (word : String) : String := "'" ++ word ++ "'"

/-- A number of arguments. -/
def countText (count : Nat) : String := toString count ++ " argument(s)"

/-- The two operands of an operator in words. -/
def pairText (left right : Ty) : String := inQuotes left.name ++ " and " ++ inQuotes right.name

/-- The wording of a cause. -/
def Cause.message : Cause → String
  | .undeclared name => "undeclared identifier " ++ inQuotes name
  | .redeclared name => inQuotes name ++ " is already declared in this scope"
  | .initial name place value =>
    "cannot initialize " ++ inQuotes name ++ " of type " ++ inQuotes place.name ++
      " with a value of type " ++ inQuotes value.name
  | .initialVoid name => "cannot initialize " ++ inQuotes name ++ " with a void expression"
  | .assigned name place value =>
    "cannot assign a value of type " ++ inQuotes value.name ++ " to " ++ inQuotes name ++
      " of type " ++ inQuotes place.name
  | .assignedFunction name => "cannot assign to function " ++ inQuotes name
  | .assignedCounter name => "cannot assign to loop variable " ++ inQuotes name
  | .voidVariable => "variables and parameters cannot have type 'void'"
  | .test word value =>
    inQuotes word ++ " condition must be 'bool', got " ++ inQuotes value.name
  | .bound value => "'for' range bound must be 'int', got " ++ inQuotes value.name
  | .undeclaredCallee name => "call to undeclared function " ++ inQuotes name
  | .variableCallee name _ => inQuotes name ++ " is not a function"
  | .arity name takes given =>
    inQuotes name ++ " takes " ++ countText takes ++ " but " ++ toString given ++ " were given"
  | .argument param function place value =>
    "argument " ++ inQuotes param ++ " of " ++ inQuotes function ++ " expects " ++
      inQuotes place.name ++ ", got " ++ inQuotes value.name
  | .returned place value =>
    "cannot return a value of type " ++ inQuotes value.name ++ " from a function returning " ++
      inQuotes place.name
  | .returnedVoid _ => "void function cannot return a value"
  | .returnedNothing place => "missing return value, function returns " ++ inQuotes place.name
  | .missingReturn name _ =>
    "function " ++ inQuotes name ++ " does not return a value on every path"
  | .operands op left right =>
    "cannot apply " ++ inQuotes op.spelling ++ " to " ++ pairText left right
  | .notOperand value => "operand of '!' must be 'bool', got " ++ inQuotes value.name
  | .negateOperand value => "cannot negate a value of type " ++ inQuotes value.name
  | .functionValue name => "function " ++ inQuotes name ++ " cannot be used as a value"
  | .tooDeep => "expression too deeply nested"

/-- What was expected. -/
def Cause.expected : Cause → String
  | .undeclared name => "declaration of " ++ inQuotes name
  | .redeclared name => "unique name " ++ inQuotes name ++ " in scope"
  | .initial _ place _ | .assigned _ place _ | .argument _ _ place _ | .returned place _
  | .returnedNothing place => place.name
  | .initialVoid _ | .functionValue _ => "value"
  | .assignedFunction _ | .assignedCounter _ => "mutable variable"
  | .voidVariable => "int, float, bool or string"
  | .test _ _ | .notOperand _ => "bool"
  | .bound _ => "int"
  | .undeclaredCallee _ => "declared function"
  | .variableCallee _ _ => "function"
  | .arity _ takes _ => countText takes
  | .returnedVoid _ => "void"
  | .missingReturn _ place => "return of type " ++ inQuotes place.name
  | .operands op _ _ =>
    if op.isArithmetic || op.isOrder then "numeric operands"
    else if op.isEquality then "operands of a common type"
    else "bool operands"
  | .negateOperand _ => "int or float"
  | .tooDeep => "shallower nesting"

/-- What was found. -/
def Cause.actual : Cause → String
  | .undeclared _ | .undeclaredCallee _ => "undeclared"
  | .redeclared _ => "redeclaration"
  | .initial _ _ value | .assigned _ _ value | .test _ value | .bound value
  | .argument _ _ _ value | .returned _ value | .returnedVoid value | .notOperand value
  | .negateOperand value => value.name
  | .initialVoid _ | .voidVariable | .returnedNothing _ => "void"
  | .assignedFunction _ | .functionValue _ => "function"
  | .assignedCounter name => "loop variable " ++ inQuotes name
  | .variableCallee _ type => "variable of type " ++ inQuotes type.name
  | .arity _ _ given => countText given
  | .missingReturn _ _ => "missing return"
  | .operands _ left right => pairText left right
  | .tooDeep => "too deeply nested"

/-- A failure of the type check. -/
structure Failure where
  /-- The cause. -/
  cause : Cause
  /-- The stretch that the diagnostic points at. -/
  span : Source.Span
  /-- The kind of construct at fault. -/
  kind : Kind
  /-- The place of the construct at fault. -/
  place : Source.Span
  deriving DecidableEq, Repr

/-- The diagnostic of a failure, which quotes a line of the source unless the whole program is at
fault. -/
def Failure.diagnostic (lines : Array String) (failure : Failure) : Source.Diagnostic where
  code := failure.cause.code
  message := failure.cause.message
  span := some failure.span
  sourceLine := match failure.cause with
    | .tooDeep => none
    | _ => Text.lineAt? lines failure.span.start.line
  hints := match failure.cause with
    | .tooDeep => [Parse.nestingHint]
    | _ => []

end Lag.Check
