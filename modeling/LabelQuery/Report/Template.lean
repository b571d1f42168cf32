import LabelQuery.Entity.Basic
import LabelQuery.Json.Printer
import LabelQuery.Text.Replace

/-!
Lines of text for entities: a fixed form, and templates in which a name between braces stands for a
value.
-/
namespace LabelQuery.Report

open Text

/-- Labels as `key=value` pairs with commas between them. -/
def labelPairs (labels : Dict String) : String :=
  joined "," (labels.entries.map fun (key, value) => key ++ "=" ++ value)

/-- An entity on one line: its name, and behind a tab its labels if it has some. -/
def entityLine (entity : Entity) : String :=
  if entity.labels.isEmpty then entity.name
  else entity.name ++ "\t" ++ labelPairs entity.labels

/-- A name between braces. -/
def placeholder (name : String) : List Char :=
  '\x7b' :: name.toList ++ ['\x7d']

mutual

def valueText : Json → String
  | .null => ""
  | .bool value => if value then "true" else "false"
  | .int value => toString value
  | .float value => FloatNotation.data.write value
  | .str value => value
  | .arr items => joined ", " (itemTexts items)
  | .obj fields => joined "," (fieldTexts fields)

def itemTexts : List Json → List String
  | [] => []
  | item :: items => valueText item :: itemTexts items

def fieldTexts : List (String × Json) → List String
  | [] => []
  | (key, value) :: fields => (key ++ "=" ++ valueText value) :: fieldTexts fields

end

/-- What the placeholders of one field stand for: first those of the fields of its value, then its
own. -/
def fieldPlaceholders (field : String × Json) : List (String × String) :=
  let (key, value) := field
  (match value with
    | .obj inner => inner.map fun (name, value) => (key ++ "." ++ name, valueText value)
    | _ => []) ++ [(key, valueText value)]

/-- What the placeholders of a value stand for, in the order in which they are replaced. Only an object
has placeholders. -/
def placeholders : Json → List (String × String)
  | .obj fields => fields.flatMap fieldPlaceholders
  | _ => []

/-- Fills in the placeholders one after the other, each everywhere in the text made so far. -/
def fill (template : String) (values : List (String × String)) : String :=
  String.ofList (values.foldl
    (fun text (name, value) => replaceAll (placeholder name) value.toList text) template.toList)

def render (template : String) (value : Json) : String :=
  fill template (placeholders value)

def textFields (dict : Dict String) : Json :=
  .obj (dict.entries.map fun (key, value) => (key, .str value))

/-- An entity as a template sees it: the fields in ascending order of their names. -/
def entityFields (entity : Entity) : Json :=
  .obj [("labels", textFields entity.labels), ("name", .str entity.name)]

def renderEntity (template : String) (entity : Entity) : String :=
  render template (entityFields entity)

end LabelQuery.Report
