import LabelQuery.Config.Basic

/-!
Errors of whole commands: an exit code, a message, and what helps to mend the matter.
-/
namespace LabelQuery

namespace ExitCode

/-- The command succeeded and, where matching applies, something matched. -/
def success : Int := 0

def failure : Int := 1

def noMatch : Int := 2

def invalidFilter : Int := 3

def invalidArguments : Int := 4

def configuration : Int := 5

def input : Int := 6

end ExitCode

/-- Why a command failed. -/
structure CommandError where
  code : Int
  message : String
  /-- What may have been meant. -/
  suggestions : List String := []
  /-- Lines shown under the message. -/
  details : Option String := none
  deriving DecidableEq, Repr

namespace CommandError

/-- An expression on one line and a caret under one of its characters on the next. -/
def caretLines (expression : String) (position : Nat) : String :=
  expression ++ "\n" ++ String.ofList (List.replicate position ' ') ++ "^"

def ofFilterError (expression : String) (error : FilterError) : CommandError where
  code := ExitCode.invalidFilter
  message := error.message
  details := some (caretLines expression error.position)

def ofUnknownFilter (unknown : UnknownFilter) : CommandError where
  code := ExitCode.invalidArguments
  message := unknown.message
  suggestions := unknown.suggestions

def ofConfiguration (message : String) : CommandError where
  code := ExitCode.configuration
  message := message

def ofInput (message : String) : CommandError where
  code := ExitCode.input
  message := message

def other (message : String) : CommandError where
  code := ExitCode.failure
  message := message

end CommandError

end LabelQuery
