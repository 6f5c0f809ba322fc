import Lag.Tree.Parse

/-!
# The grammar

The published grammar of the language as derivations: which tokens write which tree. A rule
concatenates the tokens of its parts, and the tree it writes keeps no parentheses. Expressions come
in levels: the six levels of operators of two operands, which group to the left, then the operators
in front of an operand, then calls, and last literals, names and expressions in parentheses. Only a
name can be called, and a name in parentheses is still a name.
-/
namespace Lag

/-- Whether a kind is a literal. -/
def TokenKind.isLiteral : TokenKind → Bool
  | .intLiteral | .floatLiteral | .stringLiteral | .boolLiteral => true
  | _ => false

namespace Grammar

open Parse (Place)

/-- Tokens that write a name. -/
inductive Name : List Token → Ident Place → Prop
  | word {token : Token} : token.kind = .identifier → Name [token] ⟨token.span, token.lexeme⟩
  | grouped {opener closer : Token} {name : List Token} {ident : Ident Place} :
    opener.kind = .leftParen → Name name ident → closer.kind = .rightParen →
      Name (opener :: (name ++ [closer])) ident

mutual

/-- Tokens that write an expression whose operators of two operands have at least a level. Above the
last level there are none. -/
inductive Level : Nat → List Token → Expr Place → Prop
  | operand {text : List Token} {expr : Expr Place} : Prefixed text expr → Level 7 text expr
  | higher {level : Nat} {text : List Token} {expr : Expr Place} :
    Level (level + 1) text expr → Level level text expr
  | operator {level : Nat} {op : BinaryOp} {sign : Token} {before after : List Token}
      {left right : Expr Place} :
    op.level = level → Level level before left → BinaryOp.ofKind? sign.kind = some op →
    Level (level + 1) after right →
      Level level (before ++ sign :: after) (.binary (left.note.through right.note) op left right)

/-- Tokens that write an operand with the operators in front of it. -/
inductive Prefixed : List Token → Expr Place → Prop
  | operand {text : List Token} {expr : Expr Place} : Called text expr → Prefixed text expr
  | operator {op : UnaryOp} {sign : Token} {text : List Token} {operand : Expr Place} :
    UnaryOp.ofKind? sign.kind = some op → Prefixed text operand →
      Prefixed (sign :: text) (.unary (sign.span.through operand.note) op operand)

/-- Tokens that write an operand without operators. -/
inductive Called : List Token → Expr Place → Prop
  | operand {text : List Token} {expr : Expr Place} : Primary text expr → Called text expr
  | call {opener closer : Token} {name text : List Token} {callee : Ident Place}
      {arguments : List (Expr Place)} :
    Name name callee → opener.kind = .leftParen → Arguments text arguments →
    closer.kind = .rightParen →
      Called (name ++ opener :: (text ++ [closer]))
        (.call (callee.note.through closer.span) callee arguments)

/-- Tokens that write a literal, a name or an expression in parentheses. -/
inductive Primary : List Token → Expr Place → Prop
  | literal {token : Token} {value : Literal} :
    token.kind.isLiteral = true → token.literal = some value →
      Primary [token] (.literal token.span value token.lexeme)
  | name {token : Token} :
    token.kind = .identifier → Primary [token] (.read ⟨token.span, token.lexeme⟩)
  | grouped {opener closer : Token} {text : List Token} {expr : Expr Place} :
    opener.kind = .leftParen → Level 1 text expr → closer.kind = .rightParen →
      Primary (opener :: (text ++ [closer])) expr

/-- Tokens that write the arguments of a call. -/
inductive Arguments : List Token → List (Expr Place) → Prop
  | none : Arguments [] []
  | some {text rest : List Token} {expr : Expr Place} {others : List (Expr Place)} :
    Level 1 text expr → Further rest others → Arguments (text ++ rest) (expr :: others)

/-- Tokens that write the arguments after the first. -/
inductive Further : List Token → List (Expr Place) → Prop
  | none : Further [] []
  | some {comma : Token} {text rest : List Token} {expr : Expr Place} {others : List (Expr Place)} :
    comma.kind = .comma → Level 1 text expr → Further rest others →
      Further (comma :: (text ++ rest)) (expr :: others)

end

/-- Tokens that write an expression. -/
abbrev Expression : List Token → Expr Place → Prop := Level 1

/-- A token that writes a type. -/
inductive Written : List Token → TypeName Place → Prop
  | type {token : Token} {type : Ty} :
    token.kind.isType = true → Ty.ofName? token.lexeme = some type →
      Written [token] ⟨token.span, type⟩

/-- Tokens that write a type after a sign, or no tokens. -/
inductive Typed (kind : TokenKind) : List Token → Option (TypeName Place) → Prop
  | none : Typed kind [] none
  | some {sign : Token} {text : List Token} {type : TypeName Place} :
    sign.kind = kind → Written text type → Typed kind (sign :: text) (some type)

/-- Tokens that write a declaration of a variable. -/
inductive Declares : List Token → Binding Place → Prop
  | binding {word name equals stop : Token} {typeTokens text : List Token}
      {type : Option (TypeName Place)} {value : Expr Place} :
    word.kind = .letWord → name.kind = .identifier → Typed .colon typeTokens type →
    equals.kind = .assign → Expression text value → stop.kind = .semicolon →
      Declares (word :: name :: (typeTokens ++ equals :: (text ++ [stop])))
        ⟨word.span.through stop.span, name.lexeme, type, value⟩

mutual

/-- Tokens that write a statement. -/
inductive Statement : List Token → Stmt Place → Prop
  | declare {text : List Token} {binding : Binding Place} :
    Declares text binding → Statement text (.declare binding)
  | assign {target equals stop : Token} {text : List Token} {value : Expr Place} :
    target.kind = .identifier → equals.kind = .assign → Expression text value →
    stop.kind = .semicolon →
      Statement (target :: equals :: (text ++ [stop]))
        (.assign (target.span.through stop.span) ⟨target.span, target.lexeme⟩ value)
  | leave {word stop : Token} :
    word.kind = .returnWord → stop.kind = .semicolon →
      Statement [word, stop] (.leave (word.span.through stop.span) none)
  | leaveWith {word stop : Token} {text : List Token} {value : Expr Place} :
    word.kind = .returnWord → Expression text value → stop.kind = .semicolon →
      Statement (word :: (text ++ [stop])) (.leave (word.span.through stop.span) (some value))
  | evaluate {first stop : Token} {more : List Token} {value : Expr Place} :
    Expression (first :: more) value → stop.kind = .semicolon →
      Statement (first :: (more ++ [stop])) (.evaluate (first.span.through stop.span) value)
  | block {text : List Token} {place : Place} {body : List (Stmt Place)} :
    Block text place body → Statement text (.block place body)
  | conditional {text : List Token} {stmt : Stmt Place} :
    Conditional text stmt → Statement text stmt
  | whileLoop {word : Token} {condition text : List Token} {test : Expr Place}
      {place : Place} {body : List (Stmt Place)} :
    word.kind = .whileWord → Expression condition test → Block text place body →
      Statement (word :: (condition ++ text)) (.whileLoop (word.span.through place) test place body)
  | forLoop {word counter inside dots : Token} {start limit text : List Token}
      {initial bound : Expr Place} {place : Place} {body : List (Stmt Place)} :
    word.kind = .forWord → counter.kind = .identifier → inside.kind = .inWord →
    Expression start initial → dots.kind = .range → Expression limit bound →
    Block text place body →
      Statement (word :: counter :: inside :: (start ++ dots :: (limit ++ text)))
        (.forLoop (word.span.through place) counter.lexeme initial bound place body)

/-- Tokens that write a conditional. -/
inductive Conditional : List Token → Stmt Place → Prop
  | plain {word : Token} {condition text : List Token} {test : Expr Place}
      {place : Place} {body : List (Stmt Place)} :
    word.kind = .ifWord → Expression condition test → Block text place body →
      Conditional (word :: (condition ++ text)) (.ifThen (word.span.through place) test place body)
  | otherwise {word elseWord : Token} {condition text other : List Token}
      {test : Expr Place} {place otherPlace : Place}
      {body otherBody : List (Stmt Place)} :
    word.kind = .ifWord → Expression condition test → Block text place body →
    elseWord.kind = .elseWord → Block other otherPlace otherBody →
      Conditional (word :: (condition ++ (text ++ elseWord :: other)))
        (.ifElse (word.span.through otherPlace) test place body (.block otherPlace otherBody))
  | chained {word elseWord : Token} {condition text other : List Token}
      {test : Expr Place} {place : Place} {body : List (Stmt Place)} {next : Stmt Place} :
    word.kind = .ifWord → Expression condition test → Block text place body →
    elseWord.kind = .elseWord → Conditional other next →
      Conditional (word :: (condition ++ (text ++ elseWord :: other)))
        (.ifElse (word.span.through next.note) test place body next)

/-- Tokens that write a block: its place and its statements. -/
inductive Block : List Token → Place → List (Stmt Place) → Prop
  | braces {opener closer : Token} {text : List Token} {body : List (Stmt Place)} :
    opener.kind = .leftBrace → Statements text body → closer.kind = .rightBrace →
      Block (opener :: (text ++ [closer])) (opener.span.through closer.span) body

/-- Tokens that write statements one after another. -/
inductive Statements : List Token → List (Stmt Place) → Prop
  | none : Statements [] []
  | some {text rest : List Token} {stmt : Stmt Place} {others : List (Stmt Place)} :
    Statement text stmt → Statements rest others → Statements (text ++ rest) (stmt :: others)

end

/-- Tokens that write a parameter. -/
inductive Parameter : List Token → Param Place → Prop
  | typed {name colon : Token} {text : List Token} {type : TypeName Place} :
    name.kind = .identifier → colon.kind = .colon → Written text type →
      Parameter (name :: colon :: text) ⟨name.span.through type.note, name.lexeme, type⟩

/-- Tokens that write the parameters after the first. -/
inductive FurtherParameters : List Token → List (Param Place) → Prop
  | none : FurtherParameters [] []
  | some {comma : Token} {text rest : List Token} {param : Param Place}
      {others : List (Param Place)} :
    comma.kind = .comma → Parameter text param → FurtherParameters rest others →
      FurtherParameters (comma :: (text ++ rest)) (param :: others)

/-- Tokens that write the parameters of a function. -/
inductive Parameters : List Token → List (Param Place) → Prop
  | none : Parameters [] []
  | some {text rest : List Token} {param : Param Place} {others : List (Param Place)} :
    Parameter text param → FurtherParameters rest others →
      Parameters (text ++ rest) (param :: others)

/-- Tokens that write a declaration of a function or of a variable. -/
inductive Declared : List Token → Declaration Place → Prop
  | function {word name opener closer : Token} {given typeTokens text : List Token}
      {params : List (Param Place)} {result : Option (TypeName Place)}
      {place : Place} {body : List (Stmt Place)} :
    word.kind = .fnWord → name.kind = .identifier → opener.kind = .leftParen →
    Parameters given params → closer.kind = .rightParen → Typed .arrow typeTokens result →
    Block text place body →
      Declared (word :: name :: opener :: (given ++ closer :: (typeTokens ++ text)))
        (.function ⟨word.span.through place, name.lexeme, params, result, place, body⟩)
  | binding {text : List Token} {binding : Binding Place} :
    Declares text binding → Declared text (.binding binding)

/-- Tokens that write declarations one after another. -/
inductive Declarations : List Token → List (Declaration Place) → Prop
  | none : Declarations [] []
  | some {text rest : List Token} {declared : Declaration Place}
      {others : List (Declaration Place)} :
    Declared text declared → Declarations rest others →
      Declarations (text ++ rest) (declared :: others)

/-- Tokens of a source text that write a program: declarations up to the end of the text. -/
inductive Program (file : Option String) : List Token → Lag.Program Place → Prop
  | upToEnd {text : List Token} {final : Token} {declarations : List (Declaration Place)} :
    Declarations text declarations → final.kind = .endOfText →
      Program file (text ++ [final])
        ⟨(text.headD final).span.through final.span, declarations, file⟩

end Grammar

end Lag
