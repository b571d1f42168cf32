/-!
What can be asked for on the command line.
-/
namespace LabelQuery

structure Options where
  /-- The configuration file to use. -/
  config : Option String := none
  json : Bool := false
  noJson : Bool := false
  quiet : Bool := false
  verbose : Bool := false
  deriving DecidableEq, Repr

inductive ConfigCommand
  | display
  | path
  | set (key value : String)
  | unset (name : String)
  | reset
  | default
  | verify
  deriving DecidableEq, Repr

/-- What can be done. A filter argument is an expression or names a saved filter. `completions` is left
out: the script that it prints is made by the library that reads the command line, and it looks at no
file and changes none. -/
inductive Command
  /-- Asks whether given labels, and labels with empty values, satisfy a filter. -/
  | decide (filter : String) (labels : List (String × String)) (flags : List String)
  /-- Lists the entities of a document that satisfy a filter. -/
  | select (filter : String) (input : Option String) (names : Bool) (format : Option String)
  /-- Shows the tokens and the program of a filter. -/
  | explain (filter : String)
  /-- Checks that a filter is well formed. -/
  | check (filter : String)
  | config (command : ConfigCommand)
  deriving DecidableEq, Repr

structure Invocation where
  options : Options
  command : Command
  deriving DecidableEq, Repr

inductive OutputMode
  /-- Text for people. -/
  | text
  /-- A line of data for programs. -/
  | json
  /-- Nothing, unless the command fails. -/
  | quiet
  /-- The name of each entity on a line. -/
  | names
  /-- Each entity as a template says. -/
  | format
  deriving DecidableEq, Repr

/-- The mode that options ask for, the first in this order: quiet, names, format, data, text. Without
any of them data goes to everything but a terminal. -/
def Options.mode (options : Options) (names format terminal : Bool) : OutputMode :=
  if options.quiet then .quiet
  else if names then .names
  else if format then .format
  else if options.json then .json
  else if options.noJson then .text
  else if terminal then .text
  else .json

end LabelQuery
