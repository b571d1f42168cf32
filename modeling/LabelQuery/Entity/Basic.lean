import LabelQuery.Dict
import LabelQuery.Filter.Basic

/-!
Entities: named things with labels, from which a filter selects.
-/
namespace LabelQuery

structure Entity where
  name : String
  labels : Dict String
  deriving DecidableEq

namespace Entity

/-- The names of the labels that some entity carries, ascending and each once. -/
def knownLabels (entities : List Entity) : List String :=
  ascendingNames (entities.flatMap fun entity => entity.labels.keys)

end Entity

end LabelQuery
