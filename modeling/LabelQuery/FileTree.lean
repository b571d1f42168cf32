import LabelQuery.Dict
import LabelQuery.Text.Joined
import LabelQuery.Text.Lines

/-!
The files that a command can see: contents under their paths, and directories. Paths are read step by
step from the working directory or, if they start with a slash, from the root.
-/
namespace LabelQuery

open Text

inductive FileFault
  | missing
  | occupied
  | notDirectory
  | isDirectory
  | nameTooLong
  /-- A path with a character that no name can have. -/
  | badName
  | notText
  deriving DecidableEq, Repr

def FileFault.message : FileFault → String
  | missing => "No such file or directory (os error 2)"
  | occupied => "File exists (os error 17)"
  | notDirectory => "Not a directory (os error 20)"
  | isDirectory => "Is a directory (os error 21)"
  | nameTooLong => "File name too long (os error 36)"
  | badName => "file name contained an unexpected NUL byte"
  | notText => "stream did not contain valid UTF-8"

/-- Files with their contents, and directories, each under the steps that lead to it. -/
structure FileTree where
  files : Dict ByteArray
  directories : Dict Unit

namespace FileTree

def empty : FileTree := ⟨.empty, .empty⟩

instance : Inhabited FileTree := ⟨empty⟩

inductive Place
  | file (key : String) (content : ByteArray)
  | directory
  /-- Nothing, in a directory that is there. -/
  | vacant (key : String)

/-! ### Paths -/

/-- The steps of a path. An empty first step is the root. -/
def steps (path : String) : List String :=
  let parts := ((cutAt '/' path.toList).map String.ofList).filter (· ≠ "")
  if path.toList.head? = some '/' then "" :: parts else parts

/-- The steps of a path that lead somewhere: all but the single dots. -/
def names (path : String) : List String :=
  (steps path).filter (· ≠ ".")

def endsInSlash (path : String) : Bool :=
  path.toList.getLast? = some '/'

/-- Drops slashes and single dots that are steps from the end of a path, which is read backwards. -/
def dropTail : List Char → List Char
  | '/' :: rest => dropTail rest
  | '.' :: '/' :: rest => dropTail ('/' :: rest)
  | backwards => backwards

def parent (path : String) : String :=
  String.ofList (dropTail ((dropTail path.toList.reverse).dropWhile (· ≠ '/'))).reverse

/-- A path has fewer bytes than this. -/
def pathLimit : Nat := 4096

/-- A step of a path has at most this many bytes. -/
def stepLimit : Nat := 255

def pathFault? (path : String) : Option FileFault :=
  if path.toList.contains '\x00' then some .badName
  else if path = "" then some .missing
  else if pathLimit ≤ path.utf8ByteSize then some .nameTooLong
  else none

def key (steps : List String) : String :=
  joined "/" steps

/-- One step further. A double dot leads back; above the working directory it is kept as a step, and
above the root there is nothing. -/
def stepInto (done : List String) (step : String) : List String :=
  if step ≠ ".." then done ++ [step]
  else if done.all (· = "..") then done ++ [step]
  else if done = [""] then done
  else done.dropLast

/-- Tells whether steps lead to a directory; the working directory, those above it and the root are
always there. -/
def isDirectory (tree : FileTree) (steps : List String) : Bool :=
  steps.all (· = "..") || steps = [""] || tree.directories.contains (key steps)

/-- Follows steps from a directory that is there. A single dot stays where it is, but only a directory has
one. -/
def follow (tree : FileTree) (done : List String) : List String → Except FileFault Place
  | [] => .ok .directory
  | step :: rest =>
    if step = "." then follow tree done rest
    else if stepLimit < step.utf8ByteSize then .error .nameTooLong
    else
      let here := stepInto done step
      match tree.files.get? (key here) with
      | some content => if rest.isEmpty then .ok (.file (key here) content) else .error .notDirectory
      | none =>
        if tree.isDirectory here then follow tree here rest
        else if rest.isEmpty then .ok (.vacant (key here))
        else .error .missing

/-! ### Reading -/

/-- Follows a path. With a slash behind it, it does not lead to a file. -/
def locate (tree : FileTree) (path : String) : Except FileFault Place :=
  match pathFault? path with
  | some fault => .error fault
  | none =>
    match tree.follow [] (steps path) with
    | .ok (.file key content) =>
      if endsInSlash path then .error .notDirectory else .ok (.file key content)
    | place => place

def holds (tree : FileTree) (path : String) : Bool :=
  match tree.locate path with
  | .ok (.file _ _) | .ok .directory => true
  | _ => false

/-- The text of bytes. -/
def decode (content : ByteArray) : Except FileFault String :=
  match String.fromUTF8? content with
  | some text => .ok text
  | none => .error .notText

def readText (tree : FileTree) (path : String) : Except FileFault String :=
  match tree.locate path with
  | .ok (.file _ content) => decode content
  | .ok .directory => .error .isDirectory
  | .ok (.vacant _) => .error .missing
  | .error fault => .error fault

/-! ### Writing -/

/-- Tells whether a path asks for a directory of some name: it ends with a slash, and dots are no names. -/
def namesDirectory (path : String) : Bool :=
  endsInSlash path &&
    match (steps path).getLast? with
    | none => false
    | some last => last ≠ "" && last ≠ "." && last ≠ ".."

/-- The key of the file that is written at a path. A path that asks for a directory is refused wherever
the directory would lie in one that is there. -/
def destination (tree : FileTree) (path : String) : Except FileFault String :=
  match pathFault? path with
  | some fault => .error fault
  | none =>
    let steps := steps path
    match tree.follow [] (if namesDirectory path then steps.dropLast else steps) with
    | .error fault => .error fault
    | .ok .directory => .error .isDirectory
    | .ok (.file key _) => if namesDirectory path then .error .notDirectory else .ok key
    | .ok (.vacant key) => if namesDirectory path then .error .missing else .ok key

def write (tree : FileTree) (path : String) (content : ByteArray) : Except FileFault FileTree :=
  (tree.destination path).map fun key => { tree with files := tree.files.insert key content }

/-- Makes the directories that names lead through, from one that is there, and gives the tree as far as
that went. A file in the way is told as such once a directory was `made` or if it is the last; before that
it is told as no directory. -/
def makeDirectories (made : Bool) (tree : FileTree) (done : List String) :
    List String → FileTree × Except FileFault Unit
  | [] => (tree, .ok ())
  | name :: rest =>
    if stepLimit < name.utf8ByteSize then (tree, .error .nameTooLong)
    else
      let here := stepInto done name
      if tree.files.contains (key here) then
        (tree, .error (if made || rest.isEmpty then .occupied else .notDirectory))
      else if tree.isDirectory here then makeDirectories made tree here rest
      else
        makeDirectories true
          { tree with directories := tree.directories.insert (key here) () } here rest

def makeParents (tree : FileTree) (path : String) : FileTree × Except FileFault Unit :=
  let above := parent path
  if above = "" then (tree, .ok ())
  else
    match pathFault? above with
    | some fault => (tree, .error fault)
    | none => makeDirectories false tree [] (names above)

def place (tree : FileTree) (path : String) (content : ByteArray) : Except FileFault FileTree :=
  match tree.makeParents path with
  | (_, .error fault) => .error fault
  | (tree, .ok ()) => tree.write path content

end FileTree

end LabelQuery
