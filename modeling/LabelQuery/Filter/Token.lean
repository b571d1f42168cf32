import LabelQuery.Filter.Operator

/-!
Tokens: the pieces of a filter expression, each with its text as written and the place where it
starts.
-/
namespace LabelQuery

inductive TokenKind
  /-- Text between two quotes of one sort. -/
  | quoted
  /-- One of `(`, `)`, `=` and `;`. -/
  | symbol
  /-- Any other run of characters. -/
  | word
  deriving DecidableEq, Repr

def TokenKind.name : TokenKind → String
  | quoted => "quoted"
  | symbol => "symbol"
  | word => "word"

/-- A piece of an expression. -/
structure Token where
  kind : TokenKind
  /-- The text as written, quotes included. -/
  text : String
  /-- How many characters stand before it. A text that is held in memory has no place that a machine word
  could not count; only tokens made without a text could. -/
  offset : Nat
  deriving DecidableEq, Repr

namespace Token

/-- The text between two delimiters. A delimiter takes one byte, so a text that begins or ends with a
wider character has no inside, nor has one too short to hold both delimiters. -/
def unquote : List Char → List Char
  | [] => []
  | first :: rest =>
    match rest.getLast? with
    | none => []
    | some last => if first.utf8Size = 1 ∧ last.utf8Size = 1 then rest.dropLast else []

/-- The text a token contributes as an operand: quotes are dropped, escapes stay as written. -/
def value (token : Token) : String :=
  match token.kind with
  | .quoted => String.ofList (unquote token.text.toList)
  | .symbol | .word => token.text

/-- The operator a token stands for. Quoted text never is one. -/
def operator? (token : Token) : Option Operator :=
  match token.kind with
  | .quoted => none
  | .symbol | .word => Operator.lookup? token.text

/-- The place just past a token. A machine word would overflow at a last place near its limit, which the
tokens of a text do not have. -/
def stop (token : Token) : Nat :=
  token.offset + token.text.length

end Token

end LabelQuery
