import LabelQuery.Filter.Error
import LabelQuery.Filter.Program

/-!
Running a program on the labels of one entity. An operand that is used as a condition asks whether the
entity has a label of that name.
-/
namespace LabelQuery

/-- The value of each label that an entity has. -/
abbrev Labels := String → Option String

/-- What the stack holds: a text from the program, or the answer of a part already reduced. -/
inductive Datum
  | text (text : String)
  | truth (answer : Bool)
  deriving DecidableEq, Repr

namespace Datum

/-- The datum as a condition: a text names a label that must be there. -/
def holds (labels : Labels) : Datum → Bool
  | text name => (labels name).isSome
  | truth answer => answer

/-- The text that a label's value is compared with; an answer compares as `true` or `false`. -/
def comparand : Datum → String
  | text value => value
  | truth answer => if answer then "true" else "false"

/-- Tells whether the label `key` is there with this value. Only a text can name a label. -/
def labelEquals (labels : Labels) (key value : Datum) : Bool :=
  match key with
  | text name => labels name == some value.comparand
  | truth _ => false

end Datum

open Datum

def Instruction.run (labels : Labels) :
    Instruction → List Datum → Except FilterError (List Datum)
  | .operand word, stack => .ok (text word :: stack)
  | .operator op position, stack =>
    match op, stack with
    | .openParen, stack | .closeParen, stack => .ok stack
    | .not, a :: rest => .ok (truth (!a.holds labels) :: rest)
    | .and, a :: b :: rest => .ok (truth (a.holds labels && b.holds labels) :: rest)
    | .or, a :: b :: rest => .ok (truth (a.holds labels || b.holds labels) :: rest)
    | .equal, value :: key :: rest => .ok (truth (labelEquals labels key value) :: rest)
    | .fin, [] => .ok [truth true]
    | .fin, alternatives => .ok [truth (alternatives.any (holds labels))]
    | op, _ => .error (.missingOperands op position)

namespace Program

/-- Runs steps in order on a stack. -/
def runAll (labels : Labels) : List Instruction → List Datum → Except FilterError (List Datum)
  | [], stack => .ok stack
  | instruction :: rest, stack => do
    let stack ← instruction.run labels stack
    runAll labels rest stack

/-- The answer on top of a stack; nothing asked is nothing refused. -/
def answer (labels : Labels) : List Datum → Bool
  | [] => true
  | top :: _ => top.holds labels

/-- Tells whether labels satisfy a program, unless an operator lacks operands. -/
def evaluate (program : Program) (labels : Labels) : Except FilterError Bool := do
  let stack ← runAll labels program.instructions []
  return answer labels stack

end Program

end LabelQuery
