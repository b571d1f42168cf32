import LabelQuery.Number.Binary64

/-!
Data values: what a document says once its spelling is forgotten.
-/
namespace LabelQuery

/-- A data value. An object lists its fields in the order in which they are to be seen. -/
inductive Json
  | null
  | bool (value : Bool)
  | int (value : Int)
  | float (value : Binary64)
  | str (value : String)
  | arr (items : List Json)
  | obj (fields : List (String × Json))
  deriving Inhabited

namespace Json

def kind : Json → String
  | null => "null"
  | bool _ => "boolean"
  | int _ | float _ => "number"
  | str _ => "string"
  | arr _ => "array"
  | obj _ => "object"

def field? (fields : List (String × Json)) (name : String) : Option Json :=
  fields.lookup name

def ofStrings (texts : List String) : Json :=
  arr (texts.map str)

end Json

end LabelQuery
