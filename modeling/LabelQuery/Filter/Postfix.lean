import LabelQuery.Filter.Error
import LabelQuery.Filter.Program

/-!
From tokens to postfix order. Operands are emitted at once; an operator waits until one arrives that
binds no tighter, until its group closes, or until the tokens end.
-/
namespace LabelQuery

/-- An operator that waits for its right operand, with the place of its token. -/
structure Pending where
  op : Operator
  position : Nat
  deriving DecidableEq, Repr

namespace Pending

/-- The step that a waiting operator becomes. -/
def emit (pending : Pending) : Instruction :=
  .operator pending.op pending.position

/-- Tells whether a waiting operator goes before `op`; an open group holds back all below it. -/
def goesBefore (op : Operator) (pending : Pending) : Bool :=
  pending.op ≠ .openParen && op.yieldsTo pending.op

/-- Takes the operators down to the innermost open group, and that group's mark, off the stack. -/
def closeGroup? : List Pending → Option (List Pending × List Pending)
  | [] => none
  | top :: below =>
    if top.op = .openParen then some ([], below)
    else (closeGroup? below).map fun (inside, outside) => (top :: inside, outside)

/-- What one token emits, and the operators that wait after it. -/
def advance (token : Token) (waiting : List Pending) :
    Except FilterError (List Instruction × List Pending) :=
  match token.operator? with
  | none => .ok ([.operand token.value], waiting)
  | some .openParen => .ok ([], ⟨.openParen, token.offset⟩ :: waiting)
  | some .closeParen =>
    match closeGroup? waiting with
    | none => .error (.unmatchedClose token.offset)
    | some (inside, outside) => .ok (inside.map emit, outside)
  | some op =>
    .ok ((waiting.takeWhile (goesBefore op)).map emit,
      ⟨op, token.offset⟩ :: waiting.dropWhile (goesBefore op))

/-- What the waiting operators emit when the tokens end. -/
def drain : List Pending → Except FilterError (List Instruction)
  | [] => .ok []
  | top :: below =>
    if top.op = .openParen then .error (.unclosedOpen top.position)
    else (drain below).map (top.emit :: ·)

/-- What the remaining tokens emit, given the operators that wait before them. -/
def convert : List Token → List Pending → Except FilterError (List Instruction)
  | [], waiting => drain waiting
  | token :: tokens, waiting => do
    let (emitted, stillWaiting) ← advance token waiting
    let following ← convert tokens stillWaiting
    return emitted ++ following

end Pending

namespace Program

/-- The place just past the last token. -/
def stopOf (tokens : List Token) : Nat :=
  (tokens.getLast?.map Token.stop).getD 0

def ofTokens (tokens : List Token) : Except FilterError Program := do
  let instructions ← Pending.convert tokens []
  return close instructions (stopOf tokens)

def compile (expression : String) : Except FilterError Program :=
  ofTokens (tokenize expression)

end Program

end LabelQuery
