/-!
Sets of characters, given by the code points at which membership changes. A table of a character
property lists a few hundred edges instead of a hundred thousand characters.
-/
namespace LabelQuery.Text

/-- A set of characters: membership starts as "outside" and flips at each of the ascending edges. -/
structure CharSet where
  edges : List Nat
  deriving DecidableEq

namespace CharSet

/-- The parity of the edges at or below a code point, read up to the first edge above it. -/
def insideEdges (code : Nat) : List Nat → Bool
  | [] => false
  | edge :: rest => if code < edge then false else !insideEdges code rest

def contains (set : CharSet) (c : Char) : Bool :=
  insideEdges c.toNat set.edges

end CharSet

end LabelQuery.Text
