import LabelQuery.Command.Error
import LabelQuery.Json.Printer
import LabelQuery.Report.Template

/-!
Reports for programs: one line of data each, in the envelope of JSON-RPC 2.0.
-/
namespace LabelQuery.Report

def success (result : Json) : Json :=
  .obj [("jsonrpc", .str "2.0"), ("result", result), ("id", .null)]

/-- The code of an error: the range for applications lies below -32000. -/
def rpcCode (code : Int) : Int :=
  -32000 - code

def errorData? (error : CommandError) : Option Json :=
  let suggestions :=
    if error.suggestions.isEmpty then [] else [("suggestions", Json.ofStrings error.suggestions)]
  let details := (error.details.map fun text => ("details", Json.str text)).toList
  match suggestions ++ details with
  | [] => none
  | fields => some (.obj fields)

def failure (error : CommandError) : Json :=
  .obj [
    ("jsonrpc", .str "2.0"),
    ("error", .obj ([("code", .int (rpcCode error.code)), ("message", .str error.message)] ++
      ((errorData? error).map fun data => ("data", data)).toList)),
    ("id", .null)]

/-- What a match found: the labels are those that the filter was asked about. -/
def matchResult (filter : String) (matched : Bool) (labels : Dict String) : Json :=
  .obj [("filter", .str filter), ("matched", .bool matched), ("labels", textFields labels)]

def entityResult (entity : Entity) : Json :=
  .obj [("name", .str entity.name), ("labels", textFields entity.labels)]

def selectResult (filter : String) (total : Nat) (selected : List Entity) : Json :=
  .obj [
    ("filter", .str filter),
    ("total", .int total),
    ("matched", .int selected.length),
    ("entities", .arr (selected.map entityResult))]

def checkResult (filter : Filter) : Json :=
  .obj [
    ("filter", .str filter.expression),
    ("valid", .bool true),
    ("program", .str filter.program.print)]

def tokenResult (token : Token) : Json :=
  .obj [
    ("kind", .str token.kind.name),
    ("text", .str token.text),
    ("offset", .int token.offset)]

def explainResult (filter : Filter) : Json :=
  .obj [
    ("filter", .str filter.expression),
    ("tokens", .arr ((tokenize filter.expression).map tokenResult)),
    ("program", Json.ofStrings (filter.program.instructions.map Instruction.print)),
    ("labels", Json.ofStrings filter.program.referencedLabels)]

end LabelQuery.Report
