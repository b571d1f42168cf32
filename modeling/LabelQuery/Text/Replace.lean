/-!
Replacing every occurrence of a piece of text, from left to right and without overlap. The text put
in is not searched again.
-/
namespace LabelQuery.Text

/-- Replaces each occurrence of `pattern` in what follows the next `skip` characters, which belong to
an occurrence already replaced. -/
def replaceFrom (pattern replacement : List Char) : Nat → List Char → List Char
  | _, [] => []
  | skip + 1, _ :: rest => replaceFrom pattern replacement skip rest
  | 0, c :: rest =>
    if pattern.isPrefixOf (c :: rest) then
      replacement ++ replaceFrom pattern replacement (pattern.length - 1) rest
    else c :: replaceFrom pattern replacement 0 rest

/-- Replaces each occurrence of a non-empty `pattern` by `replacement`. -/
def replaceAll (pattern replacement text : List Char) : List Char :=
  replaceFrom pattern replacement 0 text

end LabelQuery.Text
