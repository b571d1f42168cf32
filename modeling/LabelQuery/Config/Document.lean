import LabelQuery.Config.Edit
import LabelQuery.Json.Printer
import LabelQuery.Json.Relaxed.Meaning

/-!
Configurations as documents. They are written as plain data and read as relaxed documents: unknown fields
are passed over, missing ones have their defaults, and an array gives the fields in order.
-/
namespace LabelQuery

open Relaxed

namespace Settings

def toJson (settings : Settings) : Json :=
  .obj [
    ("fuzzy_threshold", .int settings.fuzzyThreshold),
    ("warn_unknown_labels", .bool settings.warnUnknownLabels)]

/-- A threshold, from any number: fractions are dropped and what is out of range goes to its end. -/
def thresholdOf : Node → Except ReadError Nat
  | .number numeral => numeral.double.map (Double.saturate counterLimit)
  | _ => .error .number

def truthOf : Node → Except ReadError Bool
  | .bool value => .ok value
  | other => other.refuse "a boolean"

def ofFields (threshold : Option Nat) (warn : Option Bool) :
    List (List Piece × Node) → Except ReadError Settings
  | [] =>
    let defaults : Settings := {}
    .ok ⟨threshold.getD defaults.fuzzyThreshold, warn.getD defaults.warnUnknownLabels⟩
  | (key, value) :: fields => do
    let key ← stringOf key
    if key = "fuzzy_threshold" then
      if threshold.isSome then throw (.duplicateField key)
      ofFields (some (← thresholdOf value)) warn fields
    else if key = "warn_unknown_labels" then
      if warn.isSome then throw (.duplicateField key)
      ofFields threshold (some (← truthOf value)) fields
    else
      let _ ← value.toJson
      ofFields threshold warn fields

def ofNode : Node → Except ReadError Settings
  | .object fields => ofFields none none fields
  | .array [] => .ok {}
  | .array [threshold] => do return { fuzzyThreshold := ← thresholdOf threshold }
  | .array (threshold :: warn :: _) => do return ⟨← thresholdOf threshold, ← truthOf warn⟩
  | other => other.refuse "struct Settings"

end Settings

namespace Config

def toJson (config : Config) : Json :=
  .obj [
    ("filters", .obj (config.filters.entries.map fun (name, expression) => (name, .str expression))),
    ("settings", config.settings.toJson)]

def document (config : Config) : String :=
  config.toJson.block

def textOf : Node → Except ReadError String
  | .text pieces => stringOf pieces
  | other => other.refuse "a string"

/-- The bindings that fields give, in the order in which they are written. -/
def bindingsOf : List (List Piece × Node) → Except ReadError (List (String × String))
  | [] => .ok []
  | (key, value) :: fields => do
    let key ← stringOf key
    let value ← textOf value
    let bindings ← bindingsOf fields
    return (key, value) :: bindings

/-- The saved filters that a node describes; of two with one name the last stands. -/
def filtersOf : Node → Except ReadError (Dict String)
  | .object fields => (bindingsOf fields).map Dict.ofList
  | other => other.refuse "a map"

def ofFields (filters : Option (Dict String)) (settings : Option Settings) :
    List (List Piece × Node) → Except ReadError Config
  | [] =>
    let defaults : Config := {}
    .ok ⟨filters.getD defaults.filters, settings.getD defaults.settings⟩
  | (key, value) :: fields => do
    let key ← stringOf key
    if key = "filters" then
      if filters.isSome then throw (.duplicateField key)
      ofFields (some (← filtersOf value)) settings fields
    else if key = "settings" then
      if settings.isSome then throw (.duplicateField key)
      ofFields filters (some (← Settings.ofNode value)) fields
    else
      let _ ← value.toJson
      ofFields filters settings fields

def ofNode : Node → Except ReadError Config
  | .object fields => ofFields none none fields
  | .array [] => .ok {}
  | .array [filters] => do return { filters := ← filtersOf filters }
  | .array (filters :: settings :: _) => do return ⟨← filtersOf filters, ← Settings.ofNode settings⟩
  | other => other.refuse "struct Config"

def parse (text : String) : Except ReadError Config := do
  let node ← Relaxed.parse text
  ofNode node

end Config

end LabelQuery
