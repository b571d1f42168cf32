import LabelQuery.Entity.Basic
import LabelQuery.Json.Relaxed.Meaning

/-!
Entity documents. A document is an array of objects with a `name` and `labels`, or an object that gives
each entity's labels under its name. Label values are scalars and become text.
-/
namespace LabelQuery

/-- Why a document describes no entities. A path names the part at fault. -/
inductive EntityError
  /-- The text cannot be read. -/
  | unreadable (error : Relaxed.ReadError)
  /-- The value is neither an array nor an object. -/
  | noCollection (kind : String)
  /-- An item is no object. -/
  | noObject (path : String)
  /-- An item's name is no text. -/
  | nameType (path kind : String)
  /-- An item has no name. -/
  | noName (path : String)
  /-- Labels are neither an object nor null. -/
  | labelsType (path kind : String)
  /-- A label's value is an array or an object. -/
  | labelValue (path key : String)
  deriving DecidableEq, Repr

def EntityError.message : EntityError → String
  | unreadable error => "Failed to parse entities: " ++ error.message
  | noCollection kind => "expected an array or object of entities, got " ++ kind
  | noObject path => path ++ ": entity must be an object"
  | nameType path kind => path ++ ".name: expected string, got " ++ kind
  | noName path => path ++ ": entity is missing 'name'"
  | labelsType path kind => path ++ ": labels must be an object, got " ++ kind
  | labelValue path key => path ++ "." ++ key ++ ": label values must be scalars"

namespace Entity

/-- Whole numbers below this are written as integers. -/
def wholeLimit : Nat := Nat.pow 10 15

def numberText (value : Binary64) : String :=
  if value.isWhole && value.floorMagnitude < wholeLimit then toString value.truncate
  else FloatNotation.plain.write value

/-- A scalar as the text of a label; null becomes the empty text. -/
def labelText? : Json → Option String
  | .null => some ""
  | .bool value => some (if value then "true" else "false")
  | .int value => some (toString value)
  | .float value => some (numberText value)
  | .str value => some value
  | .arr _ | .obj _ => none

def labelsOfFields (path : String) :
    List (String × Json) → Except EntityError (List (String × String))
  | [] => .ok []
  | (key, value) :: fields =>
    match labelText? value with
    | none => .error (.labelValue path key)
    | some text => (labelsOfFields path fields).map ((key, text) :: ·)

def labelsOf (path : String) : Json → Except EntityError (Dict String)
  | .obj fields => (labelsOfFields path fields).map Dict.ofList
  | .null => .ok .empty
  | other => .error (.labelsType path other.kind)

def ofItem (path : String) : Json → Except EntityError Entity
  | .obj fields =>
    match Json.field? fields "name" with
    | none => .error (.noName path)
    | some (.str name) =>
      match Json.field? fields "labels" with
      | none => .ok ⟨name, .empty⟩
      | some labels => (labelsOf (path ++ ".labels") labels).map (⟨name, ·⟩)
    | some other => .error (.nameType path other.kind)
  | _ => .error (.noObject path)

def itemPath (index : Nat) : String :=
  "[" ++ toString index ++ "]"

/-- The entities that the items of an array describe, the first of them at `index`. -/
def ofItems (index : Nat) : List Json → Except EntityError (List Entity)
  | [] => .ok []
  | item :: items => do
    let entity ← ofItem (itemPath index) item
    let entities ← ofItems (index + 1) items
    return entity :: entities

def ofFields : List (String × Json) → Except EntityError (List Entity)
  | [] => .ok []
  | (name, value) :: fields => do
    let labels ← labelsOf name value
    let entities ← ofFields fields
    return ⟨name, labels⟩ :: entities

def ofJson : Json → Except EntityError (List Entity)
  | .arr items => ofItems 0 items
  | .obj fields => ofFields fields
  | other => .error (.noCollection other.kind)

/-- The entities of a document. A blank document has none. -/
def parse (text : String) : Except EntityError (List Entity) :=
  if text.toList.all Text.isBlank then .ok []
  else
    match Relaxed.readJson text with
    | .ok value => ofJson value
    | .error error => .error (.unreadable error)

end Entity

end LabelQuery
