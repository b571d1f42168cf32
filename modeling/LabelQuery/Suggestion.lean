import LabelQuery.Text.EditDistance
import LabelQuery.Text.Lowercase

/-!
Suggestions for a name that is not known: the known names that begin like it or are few edits away,
closest first. Upper and lower case count as the same.
-/
namespace LabelQuery

open Text

/-- A known name and how far it is from the one asked for. -/
structure Suggestion where
  score : Nat
  name : String
  deriving DecidableEq, Repr

namespace Suggestion

/-- Tells whether one suggestion ranks strictly before another: by score, then by name. -/
def before (a b : Suggestion) : Bool :=
  a.score < b.score || (a.score == b.score && a.name < b.name)

/-- Puts a suggestion into a ranked list at its rank, unless it is there. -/
def place (suggestion : Suggestion) : List Suggestion → List Suggestion
  | [] => [suggestion]
  | first :: rest =>
    if suggestion.before first then suggestion :: first :: rest
    else if suggestion = first then first :: rest
    else first :: place suggestion rest

/-- How far a candidate is from a query, both in lower case. A candidate that the query begins is not
far at all. -/
def distance (query candidate : List Char) : Nat :=
  if !query.isEmpty && query.isPrefixOf candidate then 0 else editDistance query candidate

/-- Ranks a candidate that is another name than the query and within `threshold` of it. -/
def rank? (query : String) (threshold : Nat) (candidate : String) : Option Suggestion :=
  let score := distance (lowercase query.toList) (lowercase candidate.toList)
  if candidate ≠ query ∧ score ≤ threshold then some ⟨score, candidate⟩ else none

end Suggestion

/-- The candidates close to a query, ranked, each once. -/
def suggest (query : String) (candidates : List String) (threshold : Nat) : List String :=
  let ranked := (candidates.filterMap (Suggestion.rank? query threshold)).foldl
    (fun list suggestion => suggestion.place list) []
  ranked.map Suggestion.name

end LabelQuery
