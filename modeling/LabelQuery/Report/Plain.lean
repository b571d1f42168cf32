import LabelQuery.Command.Error
import LabelQuery.Text.Lines

/-!
Reports for people: the text forms of errors, checks and explanations.
-/
namespace LabelQuery.Report

open Text

def errorLines (error : CommandError) : List String :=
  ("Error: " ++ error.message) ::
    ((error.details.map lines).getD []).map ("  " ++ ·) ++
    if error.suggestions.isEmpty then []
    else ["Did you mean: " ++ joined ", " error.suggestions]

def padLeft (width : Nat) (text : String) : String :=
  String.ofList (List.replicate (width - text.length) ' ') ++ text

def padRight (width : Nat) (text : String) : String :=
  text ++ String.ofList (List.replicate (width - text.length) ' ')

def tokenLine (token : Token) : String :=
  "  " ++ padLeft 4 (toString token.offset) ++ "  " ++ padRight 7 token.kind.name ++ " " ++ token.text

def explainLines (filter : Filter) : List String :=
  let labels := filter.program.referencedLabels
  ["filter:  " ++ filter.expression, "tokens:"] ++
    (tokenize filter.expression).map tokenLine ++
    ["program: " ++ filter.program.print,
      "labels:  " ++ if labels.isEmpty then "(none)" else joined ", " labels]

def checkLine (filter : Filter) : String :=
  "✓ Filter is valid: " ++ filter.program.print

def verifyLines (path : String) (faults : List String) : List String :=
  if faults.isEmpty then ["✓ Configuration is valid: " ++ path]
  else
    ("✗ Configuration has " ++ toString faults.length ++ " error(s): " ++ path) ::
      "" :: faults.map ("  - " ++ ·)

end LabelQuery.Report
