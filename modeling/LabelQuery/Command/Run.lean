import LabelQuery.Command.Error
import LabelQuery.FileTree
import LabelQuery.Text.Terminal

/-!
Runs of commands: what they print and log on the way, what they do to the files, and how they end. What
was printed or made before an error stays.
-/
namespace LabelQuery

inductive Event
  /-- A line is printed. -/
  | printed (line : String)
  /-- The user is warned. -/
  | warned (text : String)
  /-- A detail is noted. -/
  | noted (text : String)
  deriving DecidableEq, Repr

/-- What a part of a run leaves: its events in order, the files, and a value or an error. -/
structure Trace (α : Type) where
  events : List Event
  files : FileTree
  result : Except CommandError α

/-- A part of a run, which starts with the files that it finds. -/
def Run (α : Type) := FileTree → Trace α

namespace Run

variable {α β : Type}

def done (value : α) : Run α := fun files => ⟨[], files, .ok value⟩

def fail (error : CommandError) : Run α := fun files => ⟨[], files, .error error⟩

def event (event : Event) : Run Unit := fun files => ⟨[event], files, .ok ()⟩

def print (line : String) : Run Unit := event (.printed line)

def warn (text : String) : Run Unit := event (.warned text)

def note (text : String) : Run Unit := event (.noted text)

def files : Run FileTree := fun files => ⟨[], files, .ok files⟩

/-- Goes on with the value at the end of a run; an error ends both. -/
def andThen (run : Run α) (next : α → Run β) : Run β := fun files =>
  let first := run files
  match first.result with
  | .ok value =>
    let second := next value first.files
    ⟨first.events ++ second.events, second.files, second.result⟩
  | .error error => ⟨first.events, first.files, .error error⟩

instance : Monad Run where
  pure := done
  bind := andThen

def ofExcept {ε : Type} (describe : ε → CommandError) : Except ε α → Run α
  | .ok value => done value
  | .error error => fail (describe error)

/-- Changes the files; what was changed stays changed if it ends with an error. -/
def change {ε : Type} (describe : ε → CommandError)
    (change : FileTree → FileTree × Except ε Unit) : Run Unit := fun files =>
  let (files, result) := change files
  ⟨[], files, result.mapError describe⟩

def printedLines (events : List Event) : List String :=
  events.filterMap fun
    | .printed line => some line
    | _ => none

/-- The lines logged: with `details` all notes and warnings, else only warnings. Warnings are made fit for
a terminal, notes give their texts as they are. -/
def logLines (details : Bool) (events : List Event) : List String :=
  events.filterMap fun
    | .warned text => some (" WARN " ++ Text.shown text)
    | .noted text => if details then some ("DEBUG " ++ text) else none
    | .printed _ => none

end Run

end LabelQuery
