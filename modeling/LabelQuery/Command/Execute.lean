import LabelQuery.Command.Basic
import LabelQuery.Command.Run
import LabelQuery.Config.Store
import LabelQuery.Entity.Document
import LabelQuery.Report.Plain
import LabelQuery.Report.Rpc

/-!
Carrying out commands. A command works on the files and sees what else surrounds it, and ends with an exit
code. Only a change of the configuration changes a file.
-/
namespace LabelQuery

open Text

/-- What a command sees besides the files. The environment is taken to say nothing of the level of the log,
which `RUST_LOG` could set instead of the options. -/
structure Surroundings where
  /-- Where the environment says the configuration is. -/
  configVariable : Option String
  home : Option String
  /-- What stands on standard input. -/
  input : ByteArray
  /-- Tells whether standard output is a terminal. -/
  terminal : Bool

namespace Surroundings

def configPath (here : Surroundings) (options : Options) : Except StoreError String :=
  Config.path options.config here.configVariable here.home

def loadConfig (here : Surroundings) (options : Options) : Run Config := do
  let files ← Run.files
  Run.ofExcept (fun error => .ofConfiguration error.message) do
    let path ← here.configPath options
    Config.load files path

def storeConfig (here : Surroundings) (options : Options) (config : Config) : Run Unit := do
  let path ← Run.ofExcept (fun error => .other error.message) (here.configPath options)
  Run.change (fun error => .other error.message) fun files => Config.store files path config

def noteCompiled (filter : Filter) : Run Unit :=
  .note ("compiled filter expression=" ++ filter.expression ++ " program=" ++ filter.program.print)

def compile (expression : String) : Run Filter := do
  let filter ← Run.ofExcept (.ofFilterError expression) (Filter.compile expression)
  noteCompiled filter
  return filter

def compileArgument (config : Config) (argument : String) : Run Filter := do
  let expression ← Run.ofExcept .ofUnknownFilter (config.resolve argument)
  if expression ≠ argument then
    Run.note ("resolved saved filter argument=" ++ quoted argument ++
      " expression=" ++ quoted expression)
  compile expression

/-- Reads the configuration and compiles a filter argument with it. -/
def prepare (here : Surroundings) (options : Options) (argument : String) :
    Run (Config × Filter) := do
  let config ← here.loadConfig options
  let filter ← compileArgument config argument
  return (config, filter)

def ask (filter : Filter) (labels : Labels) : Run Bool :=
  .ofExcept (.ofFilterError filter.expression) (filter.accepts labels)

def inTurn : List (Run Unit) → Run Unit
  | [] => return ()
  | run :: runs => do
    run
    inTurn runs

def present (mode : OutputMode) (result : Json) (lines : List String) : Run Unit :=
  match mode with
  | .json => Run.print (Report.success result).line
  | .quiet => return ()
  | _ => inTurn (lines.map Run.print)

def truthName (answer : Bool) : String :=
  if answer then "true" else "false"

def matchCode (matched : Bool) : Int :=
  if matched then ExitCode.success else ExitCode.noMatch

/-- The labels that the command line gives: of values for one key the last, and an empty value for a key
that is only named. -/
def givenLabels (labels : List (String × String)) (flags : List String) : Dict String :=
  flags.foldl (fun dict key => if dict.contains key then dict else dict.insert key "")
    (Dict.ofList labels)

def decide (here : Surroundings) (options : Options) (argument : String) (labels : Dict String) :
    Run Int := do
  let (_, filter) ← here.prepare options argument
  let matched ← ask filter labels.get?
  Run.note ("evaluated filter matched=" ++ truthName matched ++
    " labels=" ++ toString labels.entries.length)
  present (options.mode false false here.terminal)
    (Report.matchResult filter.expression matched labels) [truthName matched]
  return matchCode matched

/-- Tells whether a path is a single dash, perhaps with slashes and single dots behind it. -/
def isDash (path : String) : Bool :=
  (FileTree.steps path).head? = some "-" && FileTree.names path = ["-"]

def readStandardInput (here : Surroundings) : Run String :=
  .ofExcept
    (fun fault => .ofInput ("Failed to read entities from stdin: " ++ fault.message))
    (FileTree.decode here.input)

/-- Reads a file or, without one or for a single dash, standard input. -/
def readInput (here : Surroundings) (input : Option String) : Run String :=
  match input with
  | none => here.readStandardInput
  | some path =>
    if isDash path then here.readStandardInput
    else do
      let files ← Run.files
      Run.ofExcept
        (fun fault => .ofInput ("Failed to read input file: " ++ path ++ ": " ++ fault.message))
        (files.readText path)

def readEntities (here : Surroundings) (input : Option String) : Run (List Entity) := do
  let text ← here.readInput input
  Run.ofExcept (fun error => .ofInput error.message) (Entity.parse text)

/-- What is said of a label that no entity carries, and of the known ones close to it. -/
def unknownLabelWarning (known : List String) (threshold : Nat) (name : String) : String :=
  let close := suggest name known threshold
  "no entity has label '" ++ name ++ "'" ++
    if close.isEmpty then "" else " (did you mean: " ++ joined ", " close ++ "?)"

/-- The labels that a filter asks for and no entity carries. Without entities there are none. -/
def unknownLabels (filter : Filter) (entities : List Entity) : List String :=
  if entities.isEmpty then []
  else filter.program.referencedLabels.filter fun name =>
    !(Entity.knownLabels entities).contains name

/-- Warns of labels that no entity carries, if the settings ask for it. -/
def warnUnknown (config : Config) (filter : Filter) (entities : List Entity) : Run Unit :=
  if config.settings.warnUnknownLabels then
    inTurn ((unknownLabels filter entities).map fun name =>
      Run.warn (unknownLabelWarning (Entity.knownLabels entities) config.settings.fuzzyThreshold name))
  else return ()

def selectFrom (filter : Filter) : List Entity → Run (List Entity)
  | [] => return []
  | entity :: entities => do
    let matched ← ask filter entity.labels.get?
    Run.note ("evaluated entity entity=" ++ entity.name ++ " matched=" ++ truthName matched)
    let selected ← selectFrom filter entities
    return if matched then entity :: selected else selected

/-- The line that shows a selected entity in a mode that gives each its own. -/
def selectionLine (mode : OutputMode) (format : Option String) (entity : Entity) : String :=
  match mode, format with
  | .names, _ => entity.name
  | .format, some template => Report.renderEntity template entity
  | _, _ => Report.entityLine entity

def select (here : Surroundings) (options : Options) (argument : String) (input : Option String)
    (names : Bool) (format : Option String) : Run Int := do
  let (config, filter) ← here.prepare options argument
  let entities ← here.readEntities input
  warnUnknown config filter entities
  let selected ← selectFrom filter entities
  let mode := options.mode names format.isSome here.terminal
  present mode (Report.selectResult filter.expression entities.length selected)
    (selected.map (selectionLine mode format))
  return matchCode !selected.isEmpty

def explain (here : Surroundings) (options : Options) (argument : String) : Run Int := do
  let (_, filter) ← here.prepare options argument
  present (options.mode false false here.terminal)
    (Report.explainResult filter) (Report.explainLines filter)
  return ExitCode.success

/-- Checks a filter. Whether its operators have their operands does not depend on labels, so it is asked
about none. -/
def check (here : Surroundings) (options : Options) (argument : String) : Run Int := do
  let (_, filter) ← here.prepare options argument
  let _ ← ask filter fun _ => none
  present (options.mode false false here.terminal)
    (Report.checkResult filter) [Report.checkLine filter]
  return ExitCode.success

def noteAll (expressions : List String) : Run Unit :=
  inTurn ((expressions.filterMap fun text => (Filter.compile text).toOption).map noteCompiled)

/-- The expression that a change of the configuration has to compile, if its name is in order. -/
def expressionToSave (key value : String) : List String :=
  match Config.filterName? key with
  | some name => if (nameFault? name).isNone then [value] else []
  | none => []

def configure (here : Surroundings) (options : Options) : ConfigCommand → Run Int
  | .display => do
    let config ← here.loadConfig options
    Run.print config.document
    return ExitCode.success
  | .path => do
    let path ← Run.ofExcept (fun error => .other error.message) (here.configPath options)
    Run.print path
    return ExitCode.success
  | .set key value => do
    let config ← here.loadConfig options
    noteAll (expressionToSave key value)
    let config ← Run.ofExcept (fun error => .ofConfiguration error.message) (config.set key value)
    here.storeConfig options config
    Run.print ("Set " ++ key ++ " = " ++ value)
    return ExitCode.success
  | .unset name => do
    let config ← here.loadConfig options
    let (_, rest) ← Run.ofExcept
      (fun error =>
        { CommandError.ofConfiguration error.message with suggestions := config.suggestFilters name })
      (config.remove name)
    here.storeConfig options rest
    Run.print ("Removed filter '" ++ name ++ "'")
    return ExitCode.success
  | .reset => do
    here.storeConfig options {}
    Run.print "Configuration reset to defaults"
    return ExitCode.success
  | .default => do
    Run.print Config.examples.document
    return ExitCode.success
  | .verify => do
    let path ← Run.ofExcept (fun error => .other error.message) (here.configPath options)
    let files ← Run.files
    let config ← Run.ofExcept (fun error => .ofConfiguration error.message)
      (Config.readToCheck files path)
    noteAll (config.filters.entries.map (·.2))
    let faults := config.validate
    inTurn ((Report.verifyLines path faults).map Run.print)
    if faults.isEmpty then return ExitCode.success
    else Run.fail (.ofConfiguration "configuration validation failed")

def execute (here : Surroundings) (invocation : Invocation) : Run Int :=
  let options := invocation.options
  match invocation.command with
  | .decide argument labels flags => here.decide options argument (givenLabels labels flags)
  | .select argument input names format => here.select options argument input names format
  | .explain argument => here.explain options argument
  | .check argument => here.check options argument
  | .config command => here.configure options command

end Surroundings

structure Outcome where
  code : Int
  output : String
  errors : String
  log : List String
  files : FileTree

def textOfLines (lines : List String) : String :=
  String.join (lines.map (· ++ "\n"))

/-- Runs a command line to its end, started with some files. An error is told as data on standard output
where the common options ask for data, and else in plain lines on standard error. -/
def Surroundings.run (here : Surroundings) (files : FileTree) (invocation : Invocation) : Outcome :=
  let options := invocation.options
  let trace := here.execute invocation files
  let printed := Run.printedLines trace.events
  let log :=
    if options.verbose then Run.logLines true trace.events
    else if options.quiet then []
    else Run.logLines false trace.events
  match trace.result with
  | .ok code => ⟨code, textOfLines printed, "", log, trace.files⟩
  | .error error =>
    if options.mode false false here.terminal = .json then
      ⟨error.code, textOfLines (printed ++ [(Report.failure error).line]), "", log, trace.files⟩
    else
      ⟨error.code, textOfLines printed, textOfLines (Report.errorLines error), log, trace.files⟩

end LabelQuery
