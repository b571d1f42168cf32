import LabelQuery.Dict
import LabelQuery.Filter.Program

/-!
The labels that a program asks for: the names it uses as conditions and the keys it compares, but not
the values it compares them with.
-/
namespace LabelQuery

/-- The names that one step asks for, and the stack after it. An answer names no label, and an
operator without enough operands takes those that are there. -/
def Instruction.asks : Instruction → List (Option String) → List String × List (Option String)
  | .operand text, stack => ([], some text :: stack)
  | .operator op _, stack =>
    match op with
    | .openParen | .closeParen => ([], stack)
    | .equal => (((stack.drop 1).take 1).filterMap id, none :: stack.drop 2)
    | .not => ((stack.take 1).filterMap id, none :: stack.drop 1)
    | .and | .or => ((stack.take 2).filterMap id, none :: stack.drop 2)
    | .fin => (stack.filterMap id, [none])

/-- The names that steps ask for in order, started on a stack. -/
def asksAll : List Instruction → List (Option String) → List String
  | [], _ => []
  | instruction :: rest, stack =>
    let (names, stack) := instruction.asks stack
    names ++ asksAll rest stack

/-- Texts in ascending order, each once. -/
def ascendingNames (names : List String) : List String :=
  (Dict.ofList (names.map fun name => (name, ()))).keys

/-- The labels that a program asks for, ascending and each once. -/
def Program.referencedLabels (program : Program) : List String :=
  ascendingNames (asksAll program.instructions [])

/-- Tells whether a program never asks anything. -/
def Program.isMatchAll (program : Program) : Bool :=
  program.instructions.all Instruction.isFin

end LabelQuery
