import LabelQuery.Command.Arguments
import LabelQuery.Command.Execute

/-!
The program: it looks at the files that a command line is about, runs it on them and writes back what
has changed.
-/
namespace LabelQuery

/-- What stands at a path: a file with its content, a directory, or nothing. -/
inductive Found
  | file (content : ByteArray)
  | directory
  | nothing

def look (path : String) : IO Found := do
  try
    let resolved ← IO.FS.realPath path
    if ← resolved.isDir then return .directory
    return .file (← IO.FS.readBinFile path)
  catch _ => return .nothing

def observe (tree : FileTree) (path : String) : IO FileTree := do
  let mut tree := tree
  let mut here := []
  for name in FileTree.names path do
    here := FileTree.stepInto here name
    if tree.isDirectory here then continue
    let key := FileTree.key here
    match ← look key with
    | .file content => tree := { tree with files := tree.files.insert key content }
    | .directory => tree := { tree with directories := tree.directories.insert key () }
    | .nothing => return tree
  return tree

def pathsOf (configPath : Except StoreError String) (command : Command) : List String :=
  configPath.toOption.toList ++
    match command with
    | .select _ (some input) _ _ => [input]
    | _ => []

def readsInput : Command → Bool
  | .select _ input _ _ => input.all Surroundings.isDash
  | _ => false

/-- Makes the directories and writes the files that differ from those observed. -/
def writeChanges (observed changed : FileTree) : IO Unit := do
  for directory in changed.directories.keys do
    if !observed.directories.contains directory then IO.FS.createDirAll directory
  for (path, content) in changed.files.entries do
    if observed.files.get? path != some content then IO.FS.writeBinFile path content

def usageText : UsageError → String
  | .badLabel detail => "error: invalid value for '--label <KEY=VALUE>': " ++ detail
  | .missingArgument => "error: a required argument is missing"
  | .nothingGiven | .missingSubcommand => "error: a subcommand is required"
  | .unknownSubcommand => "error: unrecognized subcommand"
  | .unknownArgument => "error: unexpected argument"
  | .conflict => "error: arguments that cannot be used together"
  | .missingValue => "error: an option lacks its value"
  | .surplusValue => "error: unexpected value for an option"
  | .helpAsked | .versionAsked =>
    "Usage: match|select|explain|check <FILTER>, or " ++
      "config show|path|set|unset|reset|default|verify"

/-- The exit code for a command line that asks for help or cannot be understood. -/
def usageCode : UsageError → UInt32
  | .helpAsked | .versionAsked => 0
  | _ => 2

def runInvocation (invocation : Invocation) : IO UInt32 := do
  let output ← IO.getStdout
  let home ← IO.getEnv "HOME"
  let configVariable ← IO.getEnv "LFILTER_CONFIG"
  let configPath := Config.path invocation.options.config configVariable home
  let mut files := FileTree.empty
  for path in pathsOf configPath invocation.command do
    files ← observe files path
  let input ←
    if readsInput invocation.command then (← IO.getStdin).readBinToEnd else pure ByteArray.empty
  let here : Surroundings :=
    { configVariable, home, input, terminal := ← output.isTty }
  let outcome := here.run files invocation
  writeChanges files outcome.files
  for line in outcome.log do
    IO.eprintln line
  output.putStr outcome.output
  IO.eprint outcome.errors
  return outcome.code.toNat.toUInt32

end LabelQuery

def main (arguments : List String) : IO UInt32 :=
  match LabelQuery.Invocation.parse arguments with
  | .ok invocation => LabelQuery.runInvocation invocation
  | .error error => do
    let text := LabelQuery.usageText error
    if LabelQuery.usageCode error = 0 then IO.println text else IO.eprintln text
    return LabelQuery.usageCode error
