import LabelQuery.Config.Document
import LabelQuery.FileTree

/-!
Configuration files: where they are, and reading, writing and checking them.
-/
namespace LabelQuery

inductive StoreError
  | unreadable (path : String) (fault : FileFault)
  | malformed (path : String) (error : Relaxed.ReadError)
  | noDirectory (fault : FileFault)
  | unwritable (path : String) (fault : FileFault)
  /-- There is nothing to check. -/
  | notFound (path : String)
  /-- What is to be checked cannot be read. -/
  | uncheckable (path : String) (fault : FileFault)
  /-- What is to be checked is no configuration. -/
  | invalid (error : Relaxed.ReadError)
  /-- There is no home directory to look in. -/
  | homeless
  deriving DecidableEq, Repr

def StoreError.message : StoreError → String
  | unreadable path fault => "Failed to read config file: " ++ path ++ ": " ++ fault.message
  | malformed path error => "Failed to parse config file: " ++ path ++ ": " ++ error.message
  | noDirectory fault => fault.message
  | unwritable path fault => "Failed to write config file: " ++ path ++ ": " ++ fault.message
  | notFound path => "config file not found: " ++ path
  | uncheckable path fault => "failed to read config file: " ++ path ++ ": " ++ fault.message
  | invalid error => "invalid JSON: " ++ error.message
  | homeless => "Could not find home directory"

namespace Config

/-- Where the configuration is: at the path given, else where the environment says, else in a directory
of its own under the home directory. -/
def path (given environment home : Option String) : Except StoreError String :=
  match given, environment, home with
  | some path, _, _ => .ok path
  | none, some path, _ => .ok path
  | none, none, some home =>
    let slash := if home = "" ∨ home.toList.getLast? = some '/' then "" else "/"
    .ok (home ++ slash ++ ".lfilter/config.json")
  | none, none, none => .error .homeless

def read (tree : FileTree) (path : String) : Except StoreError Config :=
  match tree.readText path with
  | .error fault => .error (.unreadable path fault)
  | .ok text =>
    match parse text with
    | .error error => .error (.malformed path error)
    | .ok config => .ok config

/-- Reads the configuration in a file; without a file it is the default one. -/
def load (tree : FileTree) (path : String) : Except StoreError Config :=
  if tree.holds path then read tree path else .ok {}

/-- Writes a configuration to a file, in directories made for it. Directories that were made stay, also
where the file cannot be written. -/
def store (tree : FileTree) (path : String) (config : Config) :
    FileTree × Except StoreError Unit :=
  match tree.makeParents path with
  | (tree, .error fault) => (tree, .error (.noDirectory fault))
  | (tree, .ok ()) =>
    match tree.write path config.document.toUTF8 with
    | .error fault => (tree, .error (.unwritable path fault))
    | .ok tree => (tree, .ok ())

def readToCheck (tree : FileTree) (path : String) : Except StoreError Config :=
  if tree.holds path then
    match tree.readText path with
    | .error fault => .error (.uncheckable path fault)
    | .ok text =>
      match parse text with
      | .error error => .error (.invalid error)
      | .ok config => .ok config
  else .error (.notFound path)

def verify (tree : FileTree) (path : String) : Except StoreError (List String) :=
  (readToCheck tree path).map validate

end Config

end LabelQuery
