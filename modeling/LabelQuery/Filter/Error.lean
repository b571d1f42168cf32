import LabelQuery.Filter.Operator

/-!
The ways in which a filter expression can be malformed.
-/
namespace LabelQuery

/-- Why an expression is no filter, and where: positions count characters of the expression. -/
inductive FilterError
  /-- A `)` with no open `(` before it. -/
  | unmatchedClose (position : Nat)
  /-- A `(` that is never closed. -/
  | unclosedOpen (position : Nat)
  /-- An operator with fewer operands before it than it takes. -/
  | missingOperands (op : Operator) (position : Nat)
  deriving DecidableEq, Repr

namespace FilterError

def position : FilterError → Nat
  | unmatchedClose position | unclosedOpen position | missingOperands _ position => position

def message (error : FilterError) : String :=
  "invalid filter expression: " ++
    (match error with
      | unmatchedClose _ => "unmatched ')'"
      | unclosedOpen _ => "unclosed '('"
      | missingOperands op _ => "insufficient operands for operator '" ++ op.name ++ "'") ++
    " at position " ++ toString error.position

end FilterError

end LabelQuery
