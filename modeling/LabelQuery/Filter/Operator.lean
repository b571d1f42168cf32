/-!
The closed set of filter operators: how each is written, how tightly it binds and how many operands it
takes.
-/
namespace LabelQuery

/-- The operators of a filter; `fin` ends an alternative and every program. -/
inductive Operator
  | openParen
  | closeParen
  | equal
  | not
  | and
  | or
  | fin
  deriving DecidableEq, Repr

/-- What an operator takes from the operands before it. -/
inductive Arity
  /-- Exactly this many. -/
  | fixed (count : Nat)
  /-- Nothing: the operator only groups. -/
  | grouping
  /-- All that are left. -/
  | reduce
  deriving DecidableEq, Repr

namespace Operator

/-- Every operator once. -/
def all : List Operator :=
  [openParen, closeParen, equal, not, and, or, fin]

/-- The text a user types for an operator; ending a program needs none. -/
def symbol? : Operator → Option String
  | openParen => some "("
  | closeParen => some ")"
  | equal => some "="
  | not => some "not"
  | and => some "and"
  | or => some "or"
  | fin => none

def name (op : Operator) : String :=
  op.symbol?.getD "fin"

def precedence : Operator → Int
  | openParen | closeParen => -1
  | equal => 5
  | not => 4
  | and => 3
  | or => 2
  | fin => -10

/-- How many operands an operator takes. -/
def arity : Operator → Arity
  | not => .fixed 1
  | equal | and | or => .fixed 2
  | openParen => .fixed 0
  | closeParen => .grouping
  | fin => .reduce

/-- An operator on its way in lets a waiting `top` go first if that binds at least as tightly: all
operators group to the left. -/
def yieldsTo (op top : Operator) : Bool :=
  op.precedence ≤ top.precedence

/-- The operator that a word or symbol stands for. Keywords may be in any case, ASCII letters only. -/
def lookup? (word : String) : Option Operator :=
  if word = "(" then some openParen
  else if word = ")" then some closeParen
  else if word = "=" then some equal
  else if word = ";" then some fin
  else
    let lowered := word.toList.map Char.toLower
    if lowered = "not".toList then some not
    else if lowered = "and".toList then some and
    else if lowered = "or".toList then some or
    else none

end Operator

end LabelQuery
