import LabelQuery.Config.Basic

/-!
Changing and checking a configuration. Only names and expressions that a check passes can be saved.
-/
namespace LabelQuery

inductive NameFault
  | empty
  | marked
  | blank
  deriving DecidableEq, Repr

def NameFault.message : NameFault → String
  | empty => "filter name must not be empty"
  | marked => "filter name must not start with '" ++ String.ofList [savedMark] ++ "'"
  | blank => "filter name must not contain whitespace"

def nameFault? (name : String) : Option NameFault :=
  if name = "" then some .empty
  else if name.toList.head? = some savedMark then some .marked
  else if name.toList.any Text.isBlank then some .blank
  else none

inductive NumberFault
  | empty
  | digit
  | tooLarge
  deriving DecidableEq, Repr

def NumberFault.message : NumberFault → String
  | empty => "cannot parse integer from empty string"
  | digit => "invalid digit found in string"
  | tooLarge => "number too large to fit in target type"

/-- One more than the greatest number that a setting can hold. -/
def counterLimit : Nat := UInt64.size

/-- Reads the digits that follow ones of a given value; the first fault stops it. -/
def readCounter (value : Nat) : List Char → Except NumberFault Nat
  | [] => .ok value
  | c :: rest =>
    if c.isDigit then
      let value := value * 10 + (c.toNat - '0'.toNat)
      if value < counterLimit then readCounter value rest else .error .tooLarge
    else .error .digit

/-- Reads a number: digits, with a plus sign in front at most. -/
def counter? (text : String) : Except NumberFault Nat :=
  match text.toList with
  | [] => .error .empty
  | ['+'] => .error .digit
  | '+' :: digits => readCounter 0 digits
  | digits => readCounter 0 digits

def truth? (text : String) : Option Bool :=
  let word := String.ofList (Text.lowercase text.toList)
  if ["true", "1", "yes", "on"].contains word then some true
  else if ["false", "0", "no", "off"].contains word then some false
  else none

inductive EditError
  | badName (fault : NameFault)
  | badFilter (name : String) (error : FilterError)
  | badNumber (text : String) (fault : NumberFault)
  | badTruth (text : String)
  | unknownKey (key : String)
  | notSaved (name : String)
  deriving DecidableEq, Repr

def EditError.message : EditError → String
  | badName fault => fault.message
  | badFilter name error => "Invalid filter for '" ++ name ++ "': " ++ error.message
  | badNumber text fault => "Invalid number: " ++ text ++ ": " ++ fault.message
  | badTruth text =>
    "Invalid boolean value: " ++ text ++ ". Use true/false, yes/no, 1/0, or on/off"
  | unknownKey key =>
    "Unknown config key: " ++ key ++ ". Valid keys: settings.fuzzy_threshold, " ++
      "settings.warn_unknown_labels, filters.<name>"
  | notSaved name => "No saved filter named '" ++ name ++ "'"

namespace Config

/-- What a key stands in front of a saved filter's name. -/
def filterKey : String := "filters."

/-- The name of the saved filter that a key means, further dots included. -/
def filterName? (key : String) : Option String :=
  if filterKey.toList.isPrefixOf key.toList then
    some (String.ofList (key.toList.drop filterKey.length))
  else none

def save (config : Config) (name expression : String) : Except EditError Config :=
  match nameFault? name with
  | some fault => .error (.badName fault)
  | none =>
    match Filter.compile expression with
    | .error error => .error (.badFilter name error)
    | .ok _ => .ok { config with filters := config.filters.insert name expression }

def set (config : Config) (key value : String) : Except EditError Config :=
  match filterName? key with
  | some name => config.save name value
  | none =>
    if key = "settings.fuzzy_threshold" then
      match counter? value with
      | .ok number => .ok { config with settings.fuzzyThreshold := number }
      | .error fault => .error (.badNumber value fault)
    else if key = "settings.warn_unknown_labels" then
      match truth? value with
      | some answer => .ok { config with settings.warnUnknownLabels := answer }
      | none => .error (.badTruth value)
    else .error (.unknownKey key)

def remove (config : Config) (name : String) : Except EditError (String × Config) :=
  match config.filters.get? name with
  | some expression => .ok (expression, { config with filters := config.filters.erase name })
  | none => .error (.notSaved name)

def faultsOf (name expression : String) : List String :=
  let place := "filters." ++ name ++ ": "
  ((nameFault? name).map (place ++ ·.message)).toList ++
    match Filter.compile expression with
    | .ok _ => []
    | .error error => [place ++ error.message]

/-- What is wrong with the saved filters, in the order of their names. -/
def validate (config : Config) : List String :=
  config.filters.entries.flatMap fun (name, expression) => faultsOf name expression

end Config

end LabelQuery
