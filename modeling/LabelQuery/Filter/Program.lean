import LabelQuery.Filter.Operator
import LabelQuery.Filter.Lexer
import LabelQuery.Text.Joined

/-!
Programs: filters in postfix order. A program always ends with `fin`, so that running it leaves one
answer.
-/
namespace LabelQuery

open Text

inductive Instruction
  /-- Puts a text on the stack. -/
  | operand (text : String)
  /-- Applies an operator that stands at `position` in the expression. -/
  | operator (op : Operator) (position : Nat)
  deriving DecidableEq, Repr

namespace Instruction

def isFin : Instruction → Bool
  | operator .fin _ => true
  | _ => false

/-- Operands that would read as something else than one operand are printed between quotes. -/
def needsQuotes (text : String) : Bool :=
  text = "" || (Operator.lookup? text).isSome ||
    text.toList.any fun c => isBlank c || isSymbol c || isQuote c

def print : Instruction → String
  | operand text => if needsQuotes text then "\"" ++ text ++ "\"" else text
  | operator op _ => op.name

end Instruction

/-- Steps in postfix order, the last of them `fin`. -/
structure Program where
  instructions : List Instruction
  ends_fin : instructions.getLast?.any Instruction.isFin = true

namespace Program

instance : DecidableEq Program := fun p q =>
  decidable_of_iff (p.instructions = q.instructions)
    ⟨fun h => by cases p; cases q; cases h; rfl, congrArg instructions⟩

/-- Ends a list of steps with `fin` at `stop`, unless it already ends with one. -/
def close (instructions : List Instruction) (stop : Nat) : Program :=
  if h : instructions.getLast?.any Instruction.isFin = true then ⟨instructions, h⟩
  else ⟨instructions ++ [.operator .fin stop], by simp [Instruction.isFin]⟩

def size (program : Program) : Nat :=
  program.instructions.length

def print (program : Program) : String :=
  joined " " (program.instructions.map Instruction.print)

end Program

end LabelQuery
