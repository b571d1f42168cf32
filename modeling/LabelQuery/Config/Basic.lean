import LabelQuery.Dict
import LabelQuery.Filter.Basic
import LabelQuery.Suggestion

/-!
Configurations: saved filters under their names, and settings. A filter argument that starts with the
mark `@` names a saved filter.
-/
namespace LabelQuery

structure Settings where
  /-- The greatest distance at which a known name is suggested. -/
  fuzzyThreshold : Nat := 2
  /-- Whether to warn of labels that no entity carries. -/
  warnUnknownLabels : Bool := true
  deriving DecidableEq, Repr

structure Config where
  filters : Dict String := .empty
  settings : Settings := {}
  deriving DecidableEq

instance : Inhabited Config := ⟨{}⟩

/-- An argument that names no saved filter, and the saved names close to it. -/
structure UnknownFilter where
  name : String
  suggestions : List String
  deriving DecidableEq, Repr

def savedMark : Char := '@'

def UnknownFilter.message (unknown : UnknownFilter) : String :=
  "unknown saved filter '" ++ String.ofList (savedMark :: unknown.name.toList) ++ "'"

namespace Config

/-- The default configuration with three saved filters to begin with. -/
def examples : Config where
  filters := .ofList [
    ("controllers", "role=controller"),
    ("rack1-controllers", "role=controller and rack=1"),
    ("active", "not decommissioned")]

def suggestFilters (config : Config) (name : String) : List String :=
  suggest name config.filters.keys config.settings.fuzzyThreshold

/-- The expression that an argument stands for: a saved one if it starts with the mark, and else
itself. A saved expression is not looked up again. -/
def resolve (config : Config) (argument : String) : Except UnknownFilter String :=
  match argument.toList with
  | c :: rest =>
    if c = savedMark then
      let name := String.ofList rest
      match config.filters.get? name with
      | some expression => .ok expression
      | none => .error ⟨name, config.suggestFilters name⟩
    else .ok argument
  | [] => .ok argument

end Config

end LabelQuery
