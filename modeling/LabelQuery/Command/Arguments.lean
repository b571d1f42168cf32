import LabelQuery.Command.Basic

/-!
Reading the command line. Each command has options, arguments and perhaps subcommands; what is left of the
words after a subcommand's name belongs to that subcommand. An option's value may stand behind it or
be attached to it, and everything after a double dash is an argument.

An option is checked only when the next one, an argument that there is room for or the end of its command's
part follows, so of two faults the one found first is told.
-/
namespace LabelQuery

/-- Why a command line cannot be understood, or that help is asked for instead. -/
inductive UsageError
  /-- A label is no `KEY=VALUE`. -/
  | badLabel (detail : String)
  | missingArgument
  /-- Nothing is given where a subcommand is due. -/
  | nothingGiven
  | missingSubcommand
  | unknownSubcommand
  | unknownArgument
  /-- Two options exclude each other, or one is given twice. -/
  | conflict
  /-- An option lacks its value. -/
  | missingValue
  /-- An option without value has one attached. -/
  | surplusValue
  | helpAsked
  | versionAsked
  deriving DecidableEq, Repr

inductive OptionName
  | config
  | json
  | noJson
  | quiet
  | verbose
  | help
  | version
  | label
  | flag
  | input
  | names
  | format
  deriving DecidableEq, Repr

namespace OptionName

def long : OptionName → String
  | config => "config"
  | json => "json"
  | noJson => "no-json"
  | quiet => "quiet"
  | verbose => "verbose"
  | help => "help"
  | version => "version"
  | label => "label"
  | flag => "flag"
  | input => "input"
  | names => "names"
  | format => "format"

def short? : OptionName → Option Char
  | json => some 'j'
  | quiet => some 'q'
  | verbose => some 'v'
  | help => some 'h'
  | version => some 'V'
  | label => some 'l'
  | flag => some 'L'
  | input => some 'i'
  | config | noJson | names | format => none

def takesValue : OptionName → Bool
  | config | label | flag | input | format => true
  | json | noJson | quiet | verbose | help | version | names => false

def repeats : OptionName → Bool
  | label | flag => true
  | _ => false

/-- Tells whether an option's value is a path; paths are not empty. -/
def takesPath : OptionName → Bool
  | config | input => true
  | _ => false

def everywhere : List OptionName :=
  [config, json, noJson, quiet, verbose, help]

end OptionName

structure CommandForm where
  options : List OptionName
  arguments : Nat := 0
  subcommands : List String := []

/-- A label given on the command line: the key in front of the first equals sign, the value behind
it. -/
def readLabel (text : String) : Except UsageError (String × String) :=
  let key := text.toList.takeWhile (· ≠ '=')
  match text.toList.dropWhile (· ≠ '=') with
  | [] => .error (.badLabel ("expected KEY=VALUE, got '" ++ text ++ "'"))
  | _ :: value =>
    if key = [] then .error (.badLabel ("label key must not be empty in '" ++ text ++ "'"))
    else .ok (String.ofList key, String.ofList value)

structure Reading where
  /-- The options checked so far with their values, in order. -/
  given : List (OptionName × String) := []
  /-- The option that is still to be checked, with its value if it has been read. -/
  open? : Option (OptionName × Option String) := none
  arguments : List String := []

namespace Reading

def has (reading : Reading) (name : OptionName) : Bool :=
  reading.given.any (·.1 == name)

def awaitsValue (reading : Reading) : Bool :=
  match reading.open? with
  | some (_, none) => true
  | _ => false

def take (reading : Reading) (name : OptionName) (value : String) : Except UsageError Reading :=
  let taken : Reading := { reading with given := reading.given ++ [(name, value)] }
  if name = .help then .error .helpAsked
  else if name = .version then .error .versionAsked
  else if reading.has name && !name.repeats then .error .conflict
  else if name.takesPath && value = "" then .error .missingValue
  else if name = .label then (readLabel value).map fun _ => taken
  else .ok taken

def settle (reading : Reading) : Except UsageError Reading :=
  match reading.open? with
  | none => .ok reading
  | some (_, none) => .error .missingValue
  | some (name, some value) => { reading with open? := none }.take name value

def option (reading : Reading) (name : OptionName) (attached : Option String) :
    Except UsageError Reading := do
  let reading ← reading.settle
  match attached with
  | some value => reading.take name value
  | none =>
    if name.takesValue then return { reading with open? := some (name, none) }
    else reading.take name ""

/-- Reads the word behind a double dash, with the value that an equals sign attaches to it. -/
def longOption (form : CommandForm) (reading : Reading) (word : String)
    (attached : Option String) : Except UsageError Reading :=
  match form.options.find? (·.long == word) with
  | none => .error .unknownArgument
  | some name =>
    if attached.isSome && !name.takesValue then .error .surplusValue
    else reading.option name attached

/-- Reads the letters behind a single dash. What follows the letter of an option with a value is its
value, an equals sign in front of it aside. -/
def shortOptions (form : CommandForm) (reading : Reading) : List Char → Except UsageError Reading
  | [] => .ok reading
  | letter :: letters =>
    match form.options.find? (·.short? == some letter) with
    | none => .error .unknownArgument
    | some name =>
      if name.takesValue then
        match letters with
        | [] => reading.option name none
        | '=' :: value => reading.option name (some (String.ofList value))
        | value => reading.option name (some (String.ofList value))
      else do
        let reading ← reading.option name none
        shortOptions form reading letters

/-- Reads an argument; `escaped` tells whether a double dash stands before it. One argument too many is
told before the option in front of it is checked. -/
def argument (form : CommandForm) (reading : Reading) (escaped : Bool) (word : String) :
    Except UsageError Reading := do
  if reading.arguments.length < form.arguments then
    let reading ← reading.settle
    return { reading with arguments := reading.arguments ++ [word] }
  else if form.subcommands.isEmpty || (escaped && form.subcommands.contains word) then
    throw .unknownArgument
  else throw .unknownSubcommand

def splitLong (word : List Char) : String × Option String :=
  match word.dropWhile (· ≠ '=') with
  | [] => (String.ofList word, none)
  | _ :: value => (String.ofList (word.takeWhile (· ≠ '=')), some (String.ofList value))

def word (form : CommandForm) (reading : Reading) (escaped : Bool) (word : String) :
    Except UsageError Reading :=
  if escaped then reading.argument form true word
  else
    match word.toList, reading.open? with
    | '-' :: '-' :: name, _ =>
      let (name, attached) := splitLong name
      reading.longOption form name attached
    | '-' :: letter :: letters, _ => reading.shortOptions form (letter :: letters)
    | _, some (name, none) => .ok { reading with open? := some (name, some word) }
    | _, _ => reading.argument form false word

/-- Reads one command's part of the line, up to a subcommand's name; gives that name and the words
behind it. -/
def words (form : CommandForm) (reading : Reading) (escaped : Bool) :
    List String → Except UsageError (Reading × Option (String × List String))
  | [] => .ok (reading, none)
  | word :: rest =>
    if !escaped && !reading.awaitsValue && form.subcommands.contains word then
      .ok (reading, some (word, rest))
    else if !escaped && word = "--" then words form reading true rest
    else do
      let reading ← reading.word form escaped word
      words form reading escaped rest

def values (reading : Reading) (name : OptionName) : List String :=
  (reading.given.filter (·.1 == name)).map (·.2)

def finish (form : CommandForm) (reading : Reading) (subcommand : Bool) :
    Except UsageError Reading := do
  let reading ← reading.settle
  let excluded (a b : OptionName) : Bool := reading.has a && reading.has b
  if !form.subcommands.isEmpty && !subcommand then
    throw (if reading.given.isEmpty then .nothingGiven else .missingSubcommand)
  else if excluded .json .noJson || excluded .names .format then throw .conflict
  else if reading.arguments.length < form.arguments then throw .missingArgument
  else return reading

end Reading

def programForm : CommandForm where
  options := .version :: OptionName.everywhere
  subcommands := ["match", "select", "explain", "check", "config", "help"]

def configForm : CommandForm where
  options := OptionName.everywhere
  subcommands := ["show", "path", "set", "unset", "reset", "default", "verify", "help"]

def leafForm (options : List OptionName) (arguments : Nat) : CommandForm where
  options := options ++ OptionName.everywhere
  arguments := arguments

def formOf : List String → Option CommandForm
  | [] => some programForm
  | ["match"] => some (leafForm [.label, .flag] 1)
  | ["select"] => some (leafForm [.input, .names, .format] 1)
  | ["explain"] | ["check"] => some (leafForm [] 1)
  | ["config"] => some configForm
  | ["config", "set"] => some (leafForm [] 2)
  | ["config", "unset"] => some (leafForm [] 1)
  | ["config", "show"] | ["config", "path"] | ["config", "reset"] | ["config", "default"]
  | ["config", "verify"] => some (leafForm [] 0)
  | _ => none

/-- What asking for help about commands comes to. -/
def askHelp (above : List String) : List String → UsageError
  | [] => .helpAsked
  | word :: rest =>
    match formOf above with
    | none => .unknownSubcommand
    | some form =>
      if form.subcommands.contains word then askHelp (above ++ [word]) rest else .unknownSubcommand

/-- Reads the parts of the command line from one command's on: the names of its subcommands, and for
each part what was read. A command's own part is checked as a whole after that of its subcommand. There
are at most three parts. -/
def readParts : Nat → List String → List String → Except UsageError (List String × List Reading)
  | 0, _, _ => .error .unknownSubcommand
  | depth + 1, above, line => do
    match formOf above with
    | none => throw .unknownSubcommand
    | some form =>
      let (reading, next) ← Reading.words form {} false line
      match next with
      | none => return (above, [← reading.finish form false])
      | some (name, rest) =>
        if name = "help" then throw (askHelp above rest)
        let (path, readings) ← readParts depth (above ++ [name]) rest
        return (path, (← reading.finish form true) :: readings)

/-- The options that every command takes: a switch may be given in any part, and of the values the
innermost counts. -/
def Options.ofReadings (readings : List Reading) : Options where
  config := (readings.flatMap (·.values .config)).getLast?
  json := readings.any (·.has .json)
  noJson := readings.any (·.has .noJson)
  quiet := readings.any (·.has .quiet)
  verbose := readings.any (·.has .verbose)

/-- The command that names and the innermost part spell. -/
def Command.ofReading? (path : List String) (reading : Reading) : Except UsageError Command :=
  match path, reading.arguments with
  | ["match"], [filter] => do
    return .decide filter (← (reading.values .label).mapM readLabel) (reading.values .flag)
  | ["select"], [filter] =>
    .ok (.select filter (reading.values .input).head? (reading.has .names)
      (reading.values .format).head?)
  | ["explain"], [filter] => .ok (.explain filter)
  | ["check"], [filter] => .ok (.check filter)
  | ["config", "show"], _ => .ok (.config .display)
  | ["config", "path"], _ => .ok (.config .path)
  | ["config", "set"], [key, value] => .ok (.config (.set key value))
  | ["config", "unset"], [name] => .ok (.config (.unset name))
  | ["config", "reset"], _ => .ok (.config .reset)
  | ["config", "default"], _ => .ok (.config .default)
  | ["config", "verify"], _ => .ok (.config .verify)
  | _, _ => .error .missingArgument

def Invocation.parse (line : List String) : Except UsageError Invocation := do
  let (path, readings) ← readParts 3 [] line
  let command ← Command.ofReading? path (readings.getLast?.getD {})
  return ⟨.ofReadings readings, command⟩

end LabelQuery
