import Lag.Document
import Lag.Number.Reading
import Lag.Text.Utf8

/-!
# Faults of documents

A text that is no document has a problem at a place, often inside something whose own place is told
too. A text that is one may still hold a scalar that its tag does not admit; such a fault has no
place.
-/
namespace Lag.Document

/-- A place in a text: lines and columns are counted from zero. -/
structure Mark where
  /-- The line. -/
  line : Nat
  /-- The column. -/
  column : Nat
  deriving DecidableEq, Repr, Inhabited

/-- A place as messages tell it. -/
def Mark.display (file : String) (mark : Mark) : String :=
  "  in \"" ++ file ++ "\", line " ++ toString (mark.line + 1) ++ ", column " ++
    toString (mark.column + 1)

/-- What is being read when a problem is found. -/
inductive Activity where
  /-- Something is read from characters. -/
  | scanning (what : String)
  /-- Something is read from the parts of a text. -/
  | parsing (what : String)
  /-- A document is made of something. -/
  | constructing (what : String)
  /-- The only document of a text has been read. -/
  | singleDocument
  /-- A name was given before. -/
  | named (name : String)
  deriving DecidableEq, Repr

/-- The wording of an activity. -/
def Activity.message : Activity → String
  | .scanning what => "while scanning " ++ what
  | .parsing what => "while parsing " ++ what
  | .constructing what => "while constructing " ++ what
  | .singleDocument => "expected a single document in the stream"
  | .named name => "found duplicate anchor " ++ Text.quoted name ++ "; first occurrence"

/-- Why bytes cannot be read from letters, digits and two signs. -/
inductive BytesFault where
  /-- Characters are not of ASCII: the first, its position, and how many follow one another. -/
  | notAscii (first : Char) (position count : Nat)
  /-- The number of letters is one above a multiple of four. -/
  | count (letters : Nat)
  /-- The letters at the end are not filled up. -/
  | padding
  deriving DecidableEq, Repr

/-- The wording of a fault of bytes. -/
def BytesFault.message : BytesFault → String
  | .notAscii first position length =>
    "failed to convert base64 data into ascii: 'ascii' codec can't encode character" ++
      (if length = 1 then
        " '" ++ String.ofList (Text.charCode first) ++ "' in position " ++ toString position
      else
        "s in position " ++ toString position ++ "-" ++ toString (position + length - 1)) ++
      ": ordinal not in range(128)"
  | .count letters =>
    "failed to decode base64 data: Invalid base64-encoded string: number of data characters (" ++
      toString letters ++ ") cannot be 1 more than a multiple of 4"
  | .padding => "failed to decode base64 data: Incorrect padding"

/-- What is wrong at a place. -/
inductive Problem where
  /-- A character is not what is wanted. -/
  | expected (wanted : String) (found : Char)
  /-- A part of a text is not what is wanted. -/
  | expectedPart (wanted : String) (found : String)
  /-- A part of a text does not go on what is in brackets. -/
  | expectedNext (wanted : String) (found : String)
  /-- A node is not of the kind that is wanted. -/
  | expectedNode (wanted : String) (found : String)
  /-- A mapping that should have one entry has another number of them. -/
  | expectedEntry (count : Nat)
  /-- An indentation is given as zero. -/
  | zeroIndent
  /-- A key has no colon. -/
  | noColon
  /-- Something may not stand here. -/
  | notAllowed (what : String)
  /-- A character starts nothing. -/
  | noStart (found : Char)
  /-- A character after a backslash has no meaning. -/
  | unknownEscape (found : Char)
  /-- A text between quotation marks is not closed. -/
  | openText
  /-- A mark between documents stands in a text between quotation marks. -/
  | separator
  /-- Bytes in a tag are not UTF-8. -/
  | escape (fault : Text.Utf8Fault)
  /-- The version is given twice. -/
  | versionTwice
  /-- The version is not known. -/
  | version
  /-- The handle of tags is given twice. -/
  | handleTwice (handle : String)
  /-- The handle of a tag is not known. -/
  | unknownHandle (handle : String)
  /-- Nothing has a name. -/
  | unknownName (name : String)
  /-- A name is given again. -/
  | nameTwice
  /-- There is another document. -/
  | secondDocument
  /-- A key of a mapping holds other documents. -/
  | badKey
  /-- A tag is not known. -/
  | unknownTag (tag : String)
  /-- A scalar does not write bytes. -/
  | bytes (fault : BytesFault)
  deriving DecidableEq, Repr

/-- A character in quotation marks. -/
def quotedOne (c : Char) : String := Text.quoted (String.singleton c)

/-- The wording of bytes that are not UTF-8. -/
def utf8Message (fault : Text.Utf8Fault) : String :=
  "'utf-8' codec can't decode " ++
    (if fault.count = 1 then
      "byte 0x" ++ String.ofList (Text.hexDigits 2 fault.first.toNat) ++ " in position " ++
        toString fault.position
    else
      "bytes in position " ++ toString fault.position ++ "-" ++
        toString (fault.position + fault.count - 1)) ++
    ": " ++ fault.reason.message

/-- The wording of a problem. -/
def Problem.message : Problem → String
  | .expected wanted found => "expected " ++ wanted ++ ", but found " ++ quotedOne found
  | .expectedPart wanted found => "expected " ++ wanted ++ ", but found " ++ Text.quoted found
  | .expectedNext wanted found => "expected " ++ wanted ++ ", but got " ++ Text.quoted found
  | .expectedNode wanted found => "expected " ++ wanted ++ ", but found " ++ found
  | .expectedEntry count =>
    "expected a single mapping item, but found " ++ toString count ++ " items"
  | .zeroIndent => "expected indentation indicator in the range 1-9, but found 0"
  | .noColon => "could not find expected ':'"
  | .notAllowed what => what ++ " are not allowed here"
  | .noStart found => "found character " ++ quotedOne found ++ " that cannot start any token"
  | .unknownEscape found => "found unknown escape character " ++ quotedOne found
  | .openText => "found unexpected end of stream"
  | .separator => "found unexpected document separator"
  | .escape fault => utf8Message fault
  | .versionTwice => "found duplicate YAML directive"
  | .version => "found incompatible YAML document (version 1.* is required)"
  | .handleTwice handle => "duplicate tag handle " ++ Text.quoted handle
  | .unknownHandle handle => "found undefined tag handle " ++ Text.quoted handle
  | .unknownName name => "found undefined alias " ++ Text.quoted name
  | .nameTwice => "second occurrence"
  | .secondDocument => "but found another document"
  | .badKey => "found unhashable key"
  | .unknownTag tag => "could not determine a constructor for the tag " ++ Text.quoted tag
  | .bytes fault => fault.message

/-- What a fault happens inside of: the activity and the place where that starts. -/
structure Context where
  /-- What is being read. -/
  activity : Activity
  /-- Where it starts, if that is told. -/
  start : Option Mark
  deriving DecidableEq, Repr

/-- Why a text gives no document. -/
inductive Fault where
  /-- A character may not stand in a document. -/
  | character (found : Char) (position : Nat)
  /-- There is a problem at a place. -/
  | problem (context : Option Context) (problem : Problem) (mark : Mark)
  /-- A scalar writes no number. -/
  | number (fault : Number.ReadFault)
  /-- A scalar that should be a number is empty. -/
  | noNumber
  /-- A scalar is no truth value. -/
  | noFlag (text : String)
  /-- A scalar is no day or moment. -/
  | noTime
  /-- A day or moment does not exist. -/
  | time (fault : Calendar.Fault)
  /-- The code of a character is beyond all characters. -/
  | charCode (code : Nat)
  deriving DecidableEq, Repr

namespace Fault

/-- Whether the text of a document is not well formed, or holds what documents do not know. Other
faults are those of a single scalar. -/
def isOfFormat : Fault → Bool
  | .character _ _ | .problem _ _ _ => true
  | _ => false

/-- The kind of a fault of a scalar. -/
def className : Fault → String
  | .noNumber => "IndexError"
  | .noFlag _ => "KeyError"
  | .noTime => "AttributeError"
  | .charCode code => if code < Nat.pow 2 31 then "ValueError" else "OverflowError"
  | _ => "ValueError"

/-- The lines about what a fault happens inside of. Its place is left out where the problem is in
the same place. -/
def contextLines (file : String) (mark : Mark) : Option Context → List String
  | none => []
  | some context =>
    context.activity.message ::
      ((context.start.filter (· != mark)).map (Mark.display file)).toList

/-- The message of a fault in a file. -/
def message (file : String) : Fault → String
  | .character found position =>
    "unacceptable character #x" ++
      String.ofList (Text.hexDigits 4 found.toNat) ++
      ": special characters are not allowed\n  in \"" ++ file ++ "\", position " ++
      toString position
  | .problem context found mark =>
    "\n".intercalate (contextLines file mark context ++ [found.message, mark.display file])
  | .number fault => fault.message
  | .noNumber => "string index out of range"
  | .noFlag word => Text.quoted word
  | .noTime => "'NoneType' object has no attribute 'groupdict'"
  | .time fault => fault.message
  | .charCode code =>
    if code < Nat.pow 2 31 then "chr() arg not in range(0x110000)"
    else "Python int too large to convert to C int"

end Fault

end Lag.Document
