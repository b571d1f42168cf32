import LabelQuery.Json.Value
import LabelQuery.Number.Notation
import LabelQuery.Text.Quoted

/-!
Writing data values, on one line without blanks or on indented lines. Text is escaped only where it has
to be: quotes, backslashes and the controls below the blank.
-/
namespace LabelQuery

open Text

namespace Json

def escapeChar (c : Char) : List Char :=
  if c = '"' then ['\\', '"']
  else if c = '\\' then ['\\', '\\']
  else if c = '\x08' then ['\\', 'b']
  else if c = '\x0c' then ['\\', 'f']
  else if c = '\n' then ['\\', 'n']
  else if c = '\r' then ['\\', 'r']
  else if c = '\t' then ['\\', 't']
  else if c.toNat < 0x20 then
    '\\' :: 'u' :: '0' :: '0' :: (if c.toNat < 0x10 then ['0'] else []) ++ hexDigits c.toNat
  else [c]

/-- A text between quotes. -/
def writeText (text : String) : List Char :=
  '"' :: text.toList.flatMap escapeChar ++ ['"']

def writeScalar : Json → List Char
  | null | arr _ | obj _ => "null".toList
  | bool value => (if value then "true" else "false").toList
  | int value => (toString value).toList
  | float value => (FloatNotation.data.write value).toList
  | str value => writeText value

mutual

def writeLine : Json → List Char
  | arr items => '[' :: writeItems items
  | obj fields => '\x7b' :: writeFields fields
  | value => writeScalar value

def writeItems : List Json → List Char
  | [] => [']']
  | [item] => writeLine item ++ [']']
  | item :: items => writeLine item ++ ',' :: writeItems items

def writeFields : List (String × Json) → List Char
  | [] => ['\x7d']
  | [(name, value)] => writeText name ++ ':' :: writeLine value ++ ['\x7d']
  | (name, value) :: fields => writeText name ++ ':' :: writeLine value ++ ',' :: writeFields fields

end

/-- The start of a line at some depth: a line feed and two blanks for each level. -/
def newline (depth : Nat) : List Char :=
  '\n' :: List.replicate (2 * depth) ' '

mutual

/-- A value on indented lines, from some depth on. Empty arrays and objects take no line of their
own. -/
def writeBlock (depth : Nat) : Json → List Char
  | arr [] => ['[', ']']
  | arr items => '[' :: writeBlockItems depth items
  | obj [] => ['\x7b', '\x7d']
  | obj fields => '\x7b' :: writeBlockFields depth fields
  | value => writeScalar value

/-- Items on lines of their own, one level deeper, and the closing bracket. -/
def writeBlockItems (depth : Nat) : List Json → List Char
  | [] => newline depth ++ [']']
  | [item] => newline (depth + 1) ++ writeBlock (depth + 1) item ++ newline depth ++ [']']
  | item :: items =>
    newline (depth + 1) ++ writeBlock (depth + 1) item ++ ',' :: writeBlockItems depth items

/-- Fields on lines of their own, one level deeper, and the closing brace. -/
def writeBlockFields (depth : Nat) : List (String × Json) → List Char
  | [] => newline depth ++ ['\x7d']
  | [(name, value)] =>
    newline (depth + 1) ++ writeText name ++ ':' :: ' ' :: writeBlock (depth + 1) value ++
      newline depth ++ ['\x7d']
  | (name, value) :: fields =>
    newline (depth + 1) ++ writeText name ++ ':' :: ' ' :: writeBlock (depth + 1) value ++
      ',' :: writeBlockFields depth fields

end

/-- The value as one line of text. -/
def line (value : Json) : String :=
  String.ofList value.writeLine

/-- The value as indented lines of text. -/
def block (value : Json) : String :=
  String.ofList (value.writeBlock 0)

end Json

end LabelQuery
