import Lag.Number.Reading
import Lag.Value

/-!
# Troubles of a run

A script that runs may meet trouble: a division by zero, a number beyond all floats, an operand of
a kind that an operator has no use for. Each trouble belongs to a class, and has a wording.
-/
namespace Lag

/-- The kinds of entities, as messages name them. -/
def Entity.kindName : Entity → String
  | .function _ _ | .writing => "function"
  | .given _ => "builtin_function_or_method"
  | .kind _ => "type"
  | .library _ => "module"
  | .journal => "Logger"
  | .span _ _ => "range"
  | .thing group _ => group

/-- The kinds of values, as messages name them. -/
def Value.kindName : Value → String
  | .none => "NoneType"
  | .bool _ => "bool"
  | .int _ => "int"
  | .float _ => "float"
  | .string _ => "str"
  | .entity thing => thing.kindName

namespace Run

/-- Why a text cannot be filled in. -/
inductive FillFault where
  /-- The text has fewer places than there are values. -/
  | unused
  /-- The text has more places than there are values. -/
  | missing
  /-- A place is to be filled in by name. -/
  | mapping
  /-- A place is not complete. -/
  | incomplete
  /-- A place has an unknown letter, with its position. -/
  | letter (letter : Char) (position : Nat)
  /-- The width of a place is too great. -/
  | width
  /-- The precision of a place is too great. -/
  | precision
  /-- A precision is too great for an integer. -/
  | digits
  /-- A width or precision is no integer. -/
  | size
  /-- A width that is given as a value is too great. -/
  | givenWidth
  /-- A precision that is given as a value is too great. -/
  | givenPrecision
  /-- A place for an integer is to be filled in with something else. -/
  | integer (letter : Char) (value : Value)
  /-- A place for a number is to be filled in with something else. -/
  | real (letter : Char) (value : Value)
  /-- A place for a character is to be filled in with something else. -/
  | character
  /-- An integer is no character. -/
  | codePoint
  deriving Repr, Inhabited

/-- What stops a script. -/
inductive Trouble where
  /-- A whole quotient has no divisor. -/
  | integerDivision
  /-- A remainder of integers has no divisor. -/
  | integerRemainder
  /-- A quotient of integers has no divisor. -/
  | division
  /-- A quotient of floats has no divisor. -/
  | floatDivision
  /-- A remainder of floats has no divisor. -/
  | floatRemainder
  /-- A whole quotient of floats has no divisor. -/
  | floatFloorDivision
  /-- A function has no value at a number. -/
  | domain
  /-- An infinity is no integer. -/
  | infinityToInt
  /-- Not a number is no integer. -/
  | nanToInt
  /-- An integer lies beyond all floats. -/
  | intTooLarge
  /-- A quotient of integers lies beyond all floats. -/
  | quotientTooLarge
  /-- An integer has too many digits to be written. -/
  | tooManyDigits
  /-- A count of repetitions is too large. -/
  | countTooLarge
  /-- A repeated text is too long. -/
  | repeatTooLong
  /-- A text does not fit into memory. -/
  | memory
  /-- An operator has no use for its operands. -/
  | operands (op : String) (left right : Value)
  /-- Only a text can follow a text. -/
  | concatenation (right : Value)
  /-- A text can be repeated a whole number of times only. -/
  | repetition (count : Value)
  /-- An operator has no use for its operand. -/
  | operand (op : String) (value : Value)
  /-- Two values have no order. -/
  | order (op : String) (left right : Value)
  /-- A value has no length. -/
  | length (value : Value)
  /-- A value is no integer. -/
  | integer (value : Value)
  /-- A value is no number. -/
  | real (value : Value)
  /-- A value cannot be converted to a float. -/
  | floatArgument (value : Value)
  /-- A text is no number. -/
  | reading (fault : Number.ReadFault)
  /-- A text cannot be filled in. -/
  | fill (fault : FillFault)
  /-- A variable of a function has no value yet. -/
  | unboundLocal (name : String)
  /-- A variable of the module has no value yet. -/
  | unboundGlobal (name : String)
  /-- A value is called. -/
  | call (value : Value)
  /-- A value has no part of a name. -/
  | part (value : Value) (name : String)
  /-- A loop goes over a value that holds nothing. -/
  | iteration (value : Value)
  /-- Only a class has members. -/
  | membership
  /-- A function is given too many arguments. -/
  | tooManyArguments (function : String) (takes given : Nat)
  /-- A function is given too few arguments: the names of the missing ones. -/
  | tooFewArguments (function : String) (missing : List String)
  /-- Calls are nested too deeply. -/
  | recursion
  /-- A loop runs without end. -/
  | endless
  deriving Repr, Inhabited

/-- A word between apostrophes. -/
def inMarks (word : String) : String := "'" ++ word ++ "'"

/-- Words in a list, with a conjunction before the last. -/
def enumerate : List String → String
  | [] => ""
  | [word] => word
  | [first, second] => first ++ " and " ++ second
  | words => ", ".intercalate words.dropLast ++ ", and " ++ words.getLastD ""

/-- A noun, with the ending of the plural unless there is one thing. -/
def plural (count : Nat) (noun : String) : String := if count = 1 then noun else noun ++ "s"

/-- The hexadecimal digits of a character. -/
def hexOf (c : Char) : String := String.ofList (Nat.toDigits 16 c.toNat)

/-- A character as a message shows it, which is a question mark for most. -/
def shownLetter (c : Char) : Char := if 31 ≤ c.toNat ∧ c.toNat < 127 then c else '?'

/-- The class of a fault. -/
def FillFault.className : FillFault → String
  | .unused | .missing | .mapping | .size | .integer _ _ | .real _ _ | .character => "TypeError"
  | .incomplete | .letter _ _ | .width | .precision => "ValueError"
  | .digits | .givenWidth | .givenPrecision | .codePoint => "OverflowError"

/-- The wording of a fault. -/
def FillFault.message : FillFault → String
  | .unused => "not all arguments converted during string formatting"
  | .missing => "not enough arguments for format string"
  | .mapping => "format requires a mapping"
  | .incomplete => "incomplete format"
  | .letter last position =>
    "unsupported format character " ++ inMarks (shownLetter last).toString ++ " (0x" ++
      hexOf last ++ ") at index " ++ toString position
  | .width => "width too big"
  | .precision => "precision too big"
  | .digits => "precision too large"
  | .size => "* wants int"
  | .givenWidth => "Python int too large to convert to C ssize_t"
  | .givenPrecision => "Python int too large to convert to C int"
  | .integer last value =>
    "%" ++ last.toString ++ " format: an integer is required, not " ++ value.kindName
  | .real last value =>
    "%" ++ last.toString ++ " format: a real number is required, not " ++ value.kindName
  | .character => "%c requires int or char"
  | .codePoint => "%c arg not in range(0x110000)"

/-- The class of a trouble. -/
def Trouble.className : Trouble → String
  | .integerDivision | .integerRemainder | .division | .floatDivision | .floatRemainder
  | .floatFloorDivision => "ZeroDivisionError"
  | .domain | .nanToInt | .tooManyDigits | .reading _ => "ValueError"
  | .infinityToInt | .intTooLarge | .quotientTooLarge | .countTooLarge
  | .repeatTooLong => "OverflowError"
  | .memory => "MemoryError"
  | .operands _ _ _ | .concatenation _ | .repetition _ | .operand _ _ | .order _ _ _ | .length _
  | .integer _ | .real _ | .floatArgument _ | .call _ | .iteration _ | .membership
  | .tooManyArguments _ _ _ | .tooFewArguments _ _ => "TypeError"
  | .fill fault => fault.className
  | .part _ _ => "AttributeError"
  | .unboundLocal _ => "UnboundLocalError"
  | .unboundGlobal _ => "NameError"
  | .recursion | .endless => "RecursionError"

/-- What a message says has no part. -/
def partHolder : Value → String
  | .entity (.kind name) => "type object " ++ inMarks name
  | .entity (.library name) => "module " ++ inMarks name
  | value => inMarks value.kindName ++ " object"

/-- The wording of a trouble. -/
def Trouble.message : Trouble → String
  | .integerDivision => "integer division or modulo by zero"
  | .integerRemainder => "integer modulo by zero"
  | .division => "division by zero"
  | .floatDivision => "float division by zero"
  | .floatRemainder => "float modulo"
  | .floatFloorDivision => "float floor division by zero"
  | .domain => "math domain error"
  | .infinityToInt => "cannot convert float infinity to integer"
  | .nanToInt => "cannot convert float NaN to integer"
  | .intTooLarge => "int too large to convert to float"
  | .quotientTooLarge => "integer division result too large for a float"
  | .tooManyDigits => Number.tooLongToWrite
  | .countTooLarge => "cannot fit 'int' into an index-sized integer"
  | .repeatTooLong => "repeated string is too long"
  | .memory => ""
  | .operands op left right =>
    "unsupported operand type(s) for " ++ op ++ ": " ++ inMarks left.kindName ++ " and " ++
      inMarks right.kindName
  | .concatenation right =>
    "can only concatenate str (not \"" ++ right.kindName ++ "\") to str"
  | .repetition count => "can't multiply sequence by non-int of type " ++ inMarks count.kindName
  | .operand op value => "bad operand type for unary " ++ op ++ ": " ++ inMarks value.kindName
  | .order op left right =>
    inMarks op ++ " not supported between instances of " ++ inMarks left.kindName ++ " and " ++
      inMarks right.kindName
  | .length value => "object of type " ++ inMarks value.kindName ++ " has no len()"
  | .integer value =>
    inMarks value.kindName ++ " object cannot be interpreted as an integer"
  | .real value => "must be real number, not " ++ value.kindName
  | .floatArgument value =>
    "float() argument must be a string or a real number, not " ++ inMarks value.kindName
  | .reading fault => fault.message
  | .fill fault => fault.message
  | .unboundLocal name =>
    "cannot access local variable " ++ inMarks name ++
      " where it is not associated with a value"
  | .unboundGlobal name => "name " ++ inMarks name ++ " is not defined"
  | .call value => inMarks value.kindName ++ " object is not callable"
  | .part value name => partHolder value ++ " has no attribute " ++ inMarks name
  | .iteration value => inMarks value.kindName ++ " object is not iterable"
  | .membership => "isinstance() arg 2 must be a type, a tuple of types, or a union"
  | .tooManyArguments function takes given =>
    function ++ "() takes " ++ toString takes ++ " positional " ++ plural takes "argument" ++
      " but " ++ toString given ++ (if given = 1 then " was given" else " were given")
  | .tooFewArguments function missing =>
    function ++ "() missing " ++ toString missing.length ++ " required positional " ++
      plural missing.length "argument" ++ ": " ++ enumerate (missing.map inMarks)
  | .recursion => "maximum recursion depth exceeded"
  | .endless => "maximum number of rounds exceeded"

/-- A trouble by its class and wording. -/
def Trouble.display (trouble : Trouble) : String := trouble.className ++ ": " ++ trouble.message

end Run

end Lag
