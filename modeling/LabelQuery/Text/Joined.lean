/-!
Listing texts with a separator between each two.
-/
namespace LabelQuery.Text

/-- The pieces in order with `separator` between each two of them. -/
def joined (separator : String) : List String → String
  | [] => ""
  | [piece] => piece
  | piece :: pieces => piece ++ separator ++ joined separator pieces

end LabelQuery.Text
