import LabelQuery.Config.Edit

/-!
Edits of a configuration that the caller keeps.
-/
namespace LabelQuery

/-- Work on a configuration in place: an error does not take back what was changed before it. -/
abbrev Editing := ExceptT EditError (StateM Config)

namespace Editing

open Config

def save (name expression : String) : Editing Unit := do
  if let some fault := nameFault? name then
    throw (.badName fault)
  if let .error error := Filter.compile expression then
    throw (.badFilter name error)
  modify fun config => { config with filters := config.filters.insert name expression }

def set (key value : String) : Editing Unit := do
  if let some name := filterName? key then
    return ← save name value
  if key = "settings.fuzzy_threshold" then
    match counter? value with
    | .ok number => modify fun config => { config with settings.fuzzyThreshold := number }
    | .error fault => throw (.badNumber value fault)
  else if key = "settings.warn_unknown_labels" then
    match truth? value with
    | some answer => modify fun config => { config with settings.warnUnknownLabels := answer }
    | none => throw (.badTruth value)
  else throw (.unknownKey key)

/-- Gives the expression that was saved. -/
def remove (name : String) : Editing String := do
  let some expression := (← get).filters.get? name | throw (.notSaved name)
  modify fun config => { config with filters := config.filters.erase name }
  return expression

end Editing

inductive Edit
  | set (key value : String)
  | remove (name : String)
  deriving DecidableEq, Repr

/-- A call gives the text it removes. -/
def Edit.call : Edit → Editing (Option String)
  | set key value => (fun _ => none) <$> Editing.set key value
  | remove name => some <$> Editing.remove name

namespace Config

def outcome (config : Config) (edit : Edit) : Except EditError (Option String) :=
  (edit.call.run.run config).1

def after (config : Config) (edit : Edit) : Config :=
  (edit.call.run.run config).2

/-- What calls one after another leave, whether they fail or not. -/
def afterAll (config : Config) (edits : List Edit) : Config :=
  edits.foldl after config

end Config

end LabelQuery
