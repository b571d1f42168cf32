import LabelQuery.Proofs.Command.Selection
import LabelQuery.Proofs.Command.Session
import LabelQuery.Proofs.Json.Line

/-!
What a command that uses a filter writes where data is asked for. Main statement: it writes one
line, which is decoded as a result with all that was found, or as an error whose code tells the exit
code.
-/
namespace LabelQuery

/-! ### Labels and entities in results -/

namespace Entity

theorem labelsOfFields_texts (path : String) (entries : List (String × String)) :
    labelsOfFields path (entries.map fun (key, text) => (key, .str text)) = .ok entries := by
  induction entries with
  | nil => rfl
  | cons entry entries ih =>
    simp only [List.map_cons, labelsOfFields, labelText?, ih]
    rfl

/-- Labels are read as they were reported. -/
theorem labelsOf_textFields (path : String) (labels : Dict String) :
    labelsOf path (Report.textFields labels) = .ok labels := by
  rw [Report.textFields, labelsOf, labelsOfFields_texts]
  exact congrArg Except.ok (Dict.ofList_entries labels)

theorem ofItem_entityResult (path : String) (entity : Entity) :
    ofItem path (Report.entityResult entity) = .ok entity := by
  have read : ofItem path (Report.entityResult entity) =
      (labelsOf (path ++ ".labels") (Report.textFields entity.labels)).map (⟨entity.name, ·⟩) := rfl
  rw [read, labelsOf_textFields]
  rfl

theorem ofItems_entityResult (index : Nat) (entities : List Entity) :
    ofItems index (entities.map Report.entityResult) = .ok entities := by
  induction entities generalizing index with
  | nil => rfl
  | cons entity entities ih =>
    simp only [List.map_cons, ofItems, ofItem_entityResult, ih]
    rfl

/-- Entities that were reported are a document of the same entities. -/
theorem ofJson_entityResult (entities : List Entity) :
    ofJson (.arr (entities.map Report.entityResult)) = .ok entities :=
  ofItems_entityResult 0 entities

end Entity

namespace Report

open Json (IsWhole)

@[simp] theorem isWhole_ofStrings (texts : List String) : IsWhole (Json.ofStrings texts) := by
  simp [Json.ofStrings]

@[simp] theorem isWhole_textFields (labels : Dict String) : IsWhole (textFields labels) :=
  .obj (List.forall_mem_map.2 fun _ _ => .str _)

@[simp] theorem isWhole_entityResult (entity : Entity) : IsWhole (entityResult entity) := by
  simp [entityResult]

@[simp] theorem isWhole_tokenResult (token : Token) : IsWhole (tokenResult token) := by
  simp [tokenResult]

theorem isWhole_matchResult (filter : String) (matched : Bool) (labels : Dict String) :
    IsWhole (matchResult filter matched labels) := by
  simp [matchResult]

theorem isWhole_selectResult (filter : String) (total : Nat) (selected : List Entity) :
    IsWhole (selectResult filter total selected) := by
  simp [selectResult]

theorem isWhole_checkResult (filter : Filter) : IsWhole (checkResult filter) := by
  simp [checkResult]

theorem isWhole_explainResult (filter : Filter) : IsWhole (explainResult filter) := by
  simp [explainResult]

theorem isWhole_success {result : Json} (whole : IsWhole result) : IsWhole (success result) := by
  simp [success, whole]

theorem isWhole_errorData? {error : CommandError} {data : Json}
    (h : errorData? error = some data) : IsWhole data := by
  have suggestions : ∀ field ∈ if error.suggestions.isEmpty then []
      else [("suggestions", Json.ofStrings error.suggestions)], IsWhole field.2 := by
    split <;> simp
  have details : ∀ field ∈ (error.details.map fun text => ("details", Json.str text)).toList,
      IsWhole field.2 := by
    cases error.details <;> simp
  have both := List.forall_mem_append.2 ⟨suggestions, details⟩
  unfold errorData? at h
  dsimp only at h
  split at h
  · contradiction
  · cases h
    exact .obj both

theorem isWhole_failure (error : CommandError) : IsWhole (failure error) := by
  cases data : errorData? error with
  | none => simp [failure, data]
  | some value => simp [failure, data, isWhole_errorData? data]

end Report

/-- The mode in which a command presents its result. -/
def FilterUse.mode (use : FilterUse) (options : Options) (terminal : Bool) : OutputMode :=
  match use with
  | select _ names format => options.mode names format.isSome terminal
  | decide _ _ | explain | check => options.mode false false terminal

namespace Surroundings

open Run

/-- The exit codes of commands that have a result. -/
def answerCodes : List Int :=
  [ExitCode.success, ExitCode.noMatch]

theorem matchCode_mem_answerCodes (matched : Bool) : matchCode matched ∈ answerCodes := by
  cases matched <;> decide

theorem matchCode_eq_success {matched : Bool} :
    matchCode matched = ExitCode.success ↔ matched = true := by
  cases matched <;> decide

/-! ### What comes before a result -/

/-- A part of a run that prints nothing, and if it fails has no exit code of a result. -/
structure Prepares {α : Type} (run : Run α) : Prop where
  silent : Silent run
  refuses : ∀ files error, (run files).result = .error error → error.code ∉ answerCodes

namespace Prepares

variable {α β : Type}

theorem of_succeeds {run : Run α} (silent : Silent run) (succeeds : Succeeds run) :
    Prepares run where
  silent := silent
  refuses files error failed := by
    obtain ⟨value, ended⟩ := succeeds files
    rw [ended] at failed
    contradiction

theorem pure (value : α) : Prepares (Pure.pure value : Run α) :=
  of_succeeds (.pure value) (.pure value)

theorem bind {run : Run α} {next : α → Run β} (hrun : Prepares run)
    (hnext : ∀ value, Prepares (next value)) : Prepares (run >>= next) where
  silent := hrun.silent.bind fun value => (hnext value).silent
  refuses files error failed := by
    rcases result_bind_eq_error failed with first | ⟨value, -, second⟩
    · exact hrun.refuses files error first
    · exact (hnext value).refuses _ error second

theorem prepare (here : Surroundings) (options : Options) (argument : String) :
    Prepares (here.prepare options argument) where
  silent := silent_prepare here options argument
  refuses files error failed := by
    rcases code_of_prepare_error failed with code | code | code <;> rw [code] <;> decide

theorem readEntities (here : Surroundings) (input : Option String) :
    Prepares (here.readEntities input) where
  silent := silent_readEntities here input
  refuses files error failed := by
    rw [code_of_readEntities_error failed]
    decide

theorem ask (filter : Filter) (labels : Labels) : Prepares (ask filter labels) where
  silent := .ofExcept _ _
  refuses files error failed := by
    obtain ⟨fault, -, rfl⟩ := exists_of_result_ofExcept_eq_error failed
    show ExitCode.invalidFilter ∉ answerCodes
    decide

theorem note (text : String) : Prepares (Run.note text) :=
  of_succeeds (.note text) (.event _)

theorem warnUnknown (config : Config) (filter : Filter) (entities : List Entity) :
    Prepares (warnUnknown config filter entities) :=
  of_succeeds (silent_warnUnknown config filter entities)
    (succeeds_warnUnknown config filter entities)

theorem selectFrom (filter : Filter) (entities : List Entity) :
    Prepares (selectFrom filter entities) := by
  induction entities with
  | nil => exact .pure _
  | cons entity rest ih =>
    exact .bind (.ask filter _) fun _ => .bind (.note _) fun _ => .bind ih fun _ => .pure _

end Prepares

/-! ### Runs that print a result -/

/-- A run prints one line with a result that fits its exit code, or fails and has printed nothing.
-/
def Responds (run : Run Int) (files : FileTree) (Fits : Int → List (String × Json) → Prop) :
    Prop :=
  (∃ code fields, code ∈ answerCodes ∧ Fits code fields ∧ Json.IsWhole (.obj fields) ∧
    Ends run files [(Report.success (.obj fields)).line] (.ok code)) ∨
  ∃ error, error.code ∉ answerCodes ∧ FailsSilently run files error

namespace Responds

variable {α : Type} {files : FileTree} {Fits : Int → List (String × Json) → Prop}

theorem after {run : Run α} {next : α → Run Int} (prepares : Prepares run)
    (hnext : ∀ value, (run files).result = .ok value →
      Responds (next value) (run files).files Fits) : Responds (run >>= next) files Fits := by
  cases ended : (run files).result with
  | error error =>
    have refused := prepares.refuses files error ended
    exact .inr ⟨error, refused, .first prepares.silent ended⟩
  | ok value =>
    rcases hnext value ended with ⟨code, fields, answers, fits, whole, ends⟩ | ⟨error, code, fails⟩
    · exact .inl ⟨code, fields, answers, fits, whole, .after prepares.silent ended ends⟩
    · exact .inr ⟨error, code, .second prepares.silent ended fails⟩

theorem present {code : Int} {fields : List (String × Json)} (answers : code ∈ answerCodes)
    (fits : Fits code fields) (whole : Json.IsWhole (.obj fields)) (lines : List String) :
    Responds (Surroundings.present .json (.obj fields) lines >>= fun _ => pure code) files Fits :=
  .inl ⟨code, fields, answers, fits, whole, rfl, rfl⟩

end Responds

section

variable {here : Surroundings} {options : Options} {argument : String} {files : FileTree}
  {config : Config} {filter : Filter}

theorem expression_of_compile {expression : String}
    (h : (compile expression files).result = .ok filter) : filter.expression = expression := by
  obtain ⟨found, compiled, rest⟩ := result_bind_eq_ok h
  obtain ⟨-, -, returned⟩ := result_bind_eq_ok rest
  cases returned
  exact Filter.compile_eq_ok.1 (eq_ok_of_result_ofExcept compiled)

theorem resolve_of_compileArgument
    (h : (compileArgument config argument files).result = .ok filter) :
    config.resolve argument = .ok filter.expression := by
  obtain ⟨expression, resolved, rest⟩ := result_bind_eq_ok h
  have compiled : filter.expression = expression := by
    dsimp only at rest
    split at rest
    · obtain ⟨-, -, compiled⟩ := result_bind_eq_ok rest
      exact expression_of_compile compiled
    · exact expression_of_compile rest
  rw [compiled]
  exact eq_ok_of_result_ofExcept resolved

/-- A filter that is prepared is that of the expression which the argument stands for. -/
theorem resolve_of_prepare
    (h : (here.prepare options argument files).result = .ok (config, filter)) :
    (here.loadConfig options files).result = .ok config ∧
      config.resolve argument = .ok filter.expression := by
  obtain ⟨loaded, load, rest⟩ := result_bind_eq_ok h
  obtain ⟨made, compiled, returned⟩ := result_bind_eq_ok rest
  cases returned
  exact ⟨load, resolve_of_compileArgument compiled⟩

end

end Surroundings

open Surroundings

/-- What a result has to say besides the filter, and with which exit code: what was found, and what
it was found in. -/
def FilterUse.Reports (here : Surroundings) (files : FileTree) (filter : Filter) (code : Int)
    (fields : List (String × Json)) : FilterUse → Prop
  | decide labels flags =>
    let given := givenLabels labels flags
    let shown := Report.textFields given
    ∃ matched, filter.accepts given.get? = .ok matched ∧
      (code = ExitCode.success ↔ matched = true) ∧
      Json.field? fields "matched" = some (.bool matched) ∧
      Json.field? fields "labels" = some shown ∧ Entity.labelsOf "labels" shown = .ok given
  | select input _ _ =>
    ∃ entities, (here.readEntities input files).result = .ok entities ∧
      (∀ entity ∈ entities, filter.accepts entity.labels.get? = .ok (satisfies filter entity)) ∧
      let selected := entities.filter (satisfies filter)
      let shown := Json.arr (selected.map Report.entityResult)
      (code = ExitCode.success ↔ 0 < selected.length) ∧
      Json.field? fields "total" = some (.int entities.length) ∧
      Json.field? fields "matched" = some (.int selected.length) ∧
      Json.field? fields "entities" = some shown ∧ Entity.ofJson shown = .ok selected
  | explain | check => code = ExitCode.success

namespace Surroundings

open Run

section Uses

variable {here : Surroundings} {options : Options} {files : FileTree}

/-- The filter that is used, and what a result of it says. -/
def Answers (here : Surroundings) (options : Options) (files : FileTree) (argument : String)
    (use : FilterUse) (code : Int) (fields : List (String × Json)) : Prop :=
  ∃ config filter, (here.loadConfig options files).result = .ok config ∧
    config.resolve argument = .ok filter.expression ∧
    Json.field? fields "filter" = some (.str filter.expression) ∧
    use.Reports here files filter code fields

variable (argument : String)

theorem responds_decide (data : options.mode false false here.terminal = .json)
    (labels : List (String × String)) (flags : List String) :
    Responds (here.decide options argument (givenLabels labels flags)) files
      (here.Answers options files argument (.decide labels flags)) := by
  refine .after (.prepare here options argument) fun (config, filter) prepared => ?_
  obtain ⟨loaded, resolved⟩ := resolve_of_prepare prepared
  refine .after (.ask filter _) fun matched asked => ?_
  refine .after (.note _) fun _ _ => ?_
  rw [data]
  apply Responds.present (matchCode_mem_answerCodes matched)
  · refine ⟨config, filter, loaded, resolved, rfl, matched, eq_ok_of_result_ofExcept asked, ?_⟩
    exact ⟨matchCode_eq_success, rfl, rfl, Entity.labelsOf_textFields _ _⟩
  · exact Report.isWhole_matchResult _ _ _

theorem responds_select (input : Option String) (names : Bool) (format : Option String)
    (data : options.mode names format.isSome here.terminal = .json) :
    Responds (here.select options argument input names format) files
      (here.Answers options files argument (.select input names format)) := by
  refine .after (.prepare here options argument) fun (config, filter) prepared => ?_
  obtain ⟨loaded, resolved⟩ := resolve_of_prepare prepared
  rw [keepsFiles_prepare]
  refine .after (.readEntities here input) fun entities read => ?_
  refine .after (.warnUnknown config filter entities) fun _ _ => ?_
  refine .after (.selectFrom filter entities) fun selected chosen => ?_
  obtain ⟨rfl, answers⟩ := result_selectFrom chosen
  simp only [data]
  apply Responds.present (matchCode_mem_answerCodes _)
  · refine ⟨config, filter, loaded, resolved, rfl, entities, read, ?_, ?_⟩
    · intro entity mem
      obtain ⟨answer, accepted⟩ := answers entity mem
      simp [satisfies, accepted]
    · refine ⟨?_, rfl, rfl, rfl, Entity.ofJson_entityResult _⟩
      rw [matchCode_eq_success, Bool.not_eq_true', List.isEmpty_eq_false_iff, List.length_pos_iff]
  · exact Report.isWhole_selectResult _ _ _

theorem responds_explain (data : options.mode false false here.terminal = .json) :
    Responds (here.explain options argument) files
      (here.Answers options files argument .explain) := by
  refine .after (.prepare here options argument) fun (config, filter) prepared => ?_
  obtain ⟨loaded, resolved⟩ := resolve_of_prepare prepared
  rw [data]
  apply Responds.present (by decide)
  · exact ⟨config, filter, loaded, resolved, rfl, rfl⟩
  · exact Report.isWhole_explainResult _

theorem responds_check (data : options.mode false false here.terminal = .json) :
    Responds (here.check options argument) files
      (here.Answers options files argument .check) := by
  refine .after (.prepare here options argument) fun (config, filter) prepared => ?_
  obtain ⟨loaded, resolved⟩ := resolve_of_prepare prepared
  refine .after (.ask filter _) fun _ _ => ?_
  rw [data]
  apply Responds.present (by decide)
  · exact ⟨config, filter, loaded, resolved, rfl, rfl⟩
  · exact Report.isWhole_checkResult _

theorem responds_use (use : FilterUse) (data : use.mode options here.terminal = .json) :
    Responds (here.execute ⟨options, use.command argument⟩) files
      (here.Answers options files argument use) := by
  cases use with
  | decide labels flags => exact responds_decide argument data labels flags
  | select input names format => exact responds_select argument input names format data
  | explain => exact responds_explain argument data
  | check => exact responds_check argument data

end Uses

/-- Where a result is presented as data, so is an error. -/
theorem mode_of_use {use : FilterUse} {options : Options} {terminal : Bool}
    (data : use.mode options terminal = .json) : options.mode false false terminal = .json := by
  cases use with
  | decide | explain | check => exact data
  | select input names format =>
    unfold FilterUse.mode Options.mode at *
    grind

/-- Where data is asked for, a command that uses a filter writes one line and tells nothing else.
The line is decoded as a result, which says what was found, if and only if the exit code is that of
a success or of no match. Else it is decoded as an error, and its code is as far below -32000 as the
exit code is above zero. -/
theorem run_responds {here : Surroundings} {options : Options} {use : FilterUse}
    (data : use.mode options here.terminal = .json) (files : FileTree) (argument : String) :
    let outcome := here.run files ⟨options, use.command argument⟩
    ∃ line, outcome.output = line ++ "\n" ∧ '\n' ∉ line.toList ∧ outcome.errors = "" ∧
      (outcome.code ∈ answerCodes ∧
        (∃ fields, here.Answers options files argument use outcome.code fields ∧
          Json.decode? line = some
            (.obj [("jsonrpc", .str "2.0"), ("result", .obj fields), ("id", .null)])) ∨
      outcome.code ∉ answerCodes ∧
        ∃ error info, (here.execute ⟨options, use.command argument⟩ files).result = .error error ∧
          Json.decode? line = some (.obj [
            ("jsonrpc", .str "2.0"),
            ("error", .obj (("code", .int (-32000 - outcome.code)) ::
              ("message", .str error.message) :: info)),
            ("id", .null)])) := by
  intro outcome
  rcases responds_use argument use data with
    ⟨code, fields, answers, fits, whole, ends⟩ | ⟨error, refused, failed⟩
  · obtain ⟨same, output, errors⟩ := run_of_ends ends
    have whole := Report.isWhole_success whole
    refine ⟨_, output.trans (textOfLines_singleton _), Json.newline_not_mem_line whole, errors, ?_⟩
    rw [same]
    exact .inl ⟨answers, fields, fits, Json.decode?_line whole⟩
  · obtain ⟨same, told⟩ := run_of_failsSilently failed
    rw [Surroundings.told, if_pos (mode_of_use data)] at told
    obtain ⟨output, errors⟩ := Prod.mk.inj told
    have whole := Report.isWhole_failure error
    refine ⟨_, output.trans (textOfLines_singleton _), Json.newline_not_mem_line whole, errors, ?_⟩
    rw [same]
    exact .inr ⟨refused, error, _, failed.1, Json.decode?_line whole⟩

/-- A quote and a line feed in what is selected stay inside of the line. -/
theorem run_responds_quoted :
    let document := "[\x7bname:'a\\n',labels:\x7brole:'\"'\x7d\x7d,\x7bname:'b'\x7d]"
    let here : Surroundings := ⟨none, some "/home", document.toUTF8, false⟩
    let use : FilterUse := .select none false none
    let outcome := here.run .empty ⟨{}, use.command "role"⟩
    use.mode {} here.terminal = .json ∧ outcome.code = ExitCode.success ∧
      ∃ line fields, outcome.output = line ++ "\n" ∧ '\n' ∉ line.toList ∧
        here.Answers {} .empty "role" use outcome.code fields ∧
        Json.decode? line = some
          (.obj [("jsonrpc", .str "2.0"), ("result", .obj fields), ("id", .null)]) := by
  intro document here use outcome
  have code : outcome.code = ExitCode.success := by decide +kernel
  have data : use.mode {} here.terminal = .json := by decide
  obtain ⟨line, output, single, -, responds⟩ := run_responds data .empty "role"
  refine ⟨data, code, line, ?_⟩
  rcases responds with ⟨-, fields, answers, decoded⟩ | ⟨refused, -⟩
  · exact ⟨fields, output, single, answers, decoded⟩
  · have refused : outcome.code ∉ answerCodes := refused
    rw [code] at refused
    exact absurd (by decide) refused

end Surroundings

end LabelQuery
