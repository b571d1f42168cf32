import LabelQuery.Proofs.Command.Modes
import LabelQuery.Proofs.Filter.Footprint
import LabelQuery.Proofs.Suggestion

/-!
What a selection warns of. Main statement: there is a warning for each label that the filter asks for and no
entity carries, in ascending order and once each, and none else. Whether the settings ask for warnings
changes neither what is printed nor the exit code.
-/
namespace LabelQuery

namespace Run

variable {α β : Type}

def warnings (events : List Event) : List String :=
  events.filterMap fun
    | .warned text => some text
    | _ => none

def Unwarned (run : Run α) : Prop :=
  Tells (fun event => ∀ text, event ≠ .warned text) run

theorem warnings_append (first second : List Event) :
    warnings (first ++ second) = warnings first ++ warnings second :=
  List.filterMap_append

theorem warnings_map_warned (texts : List String) : warnings (texts.map .warned) = texts := by
  rw [warnings, List.filterMap_map]
  exact List.filterMap_some

theorem Notes.unwarned {run : Run α} (notes : Notes run) : Unwarned run := by
  refine Tells.mono notes ?_
  rintro event ⟨text, rfl⟩ other
  exact Event.noConfusion

namespace Unwarned

variable {run : Run α} {next : α → Run β} {files : FileTree}

theorem warnings_eq_nil (unwarned : Unwarned run) (files : FileTree) :
    warnings (run files).events = [] := by
  apply List.filterMap_eq_nil_iff.2
  intro event mem
  have other := unwarned files event mem
  cases event with
  | warned text => exact absurd rfl (other text)
  | printed line | noted text => rfl

theorem warnings_bind {value : α} (unwarned : Unwarned run) (keeps : KeepsFiles run)
    (h : (run files).result = .ok value) :
    warnings ((run >>= next) files).events = warnings (next value files).events := by
  rw [bind_of_ok h, warnings_append, unwarned.warnings_eq_nil, keeps files, List.nil_append]

end Unwarned

/-- A warning as the log shows it. -/
def warningLine (text : String) : String :=
  " WARN " ++ Text.shown text

/-- Tells a warning in the log from a detail. -/
def isWarning (line : String) : Bool :=
  " WARN ".toList.isPrefixOf line.toList

theorem isWarning_warningLine (text : String) : isWarning (warningLine text) = true := by
  simp [isWarning, warningLine]

theorem isWarning_detail (text : String) : isWarning ("DEBUG " ++ text) = false := by
  simp [isWarning, List.isPrefixOf]

theorem filter_logLines (details : Bool) (events : List Event) :
    (logLines details events).filter isWarning = (warnings events).map warningLine := by
  induction events with
  | nil => rfl
  | cons event rest ih =>
    cases event with
    | printed line => exact ih
    | warned text =>
      calc (warningLine text :: logLines details rest).filter isWarning
        _ = warningLine text :: (logLines details rest).filter isWarning :=
          List.filter_cons_of_pos (isWarning_warningLine text)
        _ = warningLine text :: (warnings rest).map warningLine := by rw [ih]
    | noted text =>
      cases details with
      | false => exact ih
      | true =>
        have detail : ¬isWarning ("DEBUG " ++ text) = true := by simp [isWarning_detail]
        exact (List.filter_cons_of_neg detail).trans ih

theorem logLines_false (events : List Event) :
    logLines false events = (warnings events).map warningLine := by
  rw [logLines, warnings, List.map_filterMap]
  congr
  funext event
  cases event <;> rfl

end Run

def Config.withWarnings (config : Config) (flag : Bool) : Config :=
  { config with settings.warnUnknownLabels := flag }

namespace Entity

theorem mem_knownLabels {name : String} {entities : List Entity} :
    name ∈ knownLabels entities ↔ ∃ entity ∈ entities, entity.labels.contains name = true := by
  simp only [knownLabels, Program.mem_ascendingNames, List.mem_flatMap, Dict.mem_keys]

end Entity

namespace Surroundings

open Run

/-- The texts of the warnings that the settings and the entities call for. -/
def dueWarnings (config : Config) (filter : Filter) (entities : List Entity) : List String :=
  if config.settings.warnUnknownLabels then
    (unknownLabels filter entities).map
      (unknownLabelWarning (Entity.knownLabels entities) config.settings.fuzzyThreshold)
  else []

section Due

variable {filter : Filter} {entities : List Entity} {name : String}

theorem mem_unknownLabels : name ∈ unknownLabels filter entities ↔
    entities ≠ [] ∧ name ∈ filter.program.referencedLabels ∧
      ∀ entity ∈ entities, entity.labels.contains name = false := by
  cases entities with
  | nil => simp [unknownLabels]
  | cons entity rest =>
    simp only [unknownLabels, List.isEmpty_cons, Bool.false_eq_true, if_false, List.mem_filter]
    simp [Entity.mem_knownLabels]

theorem pairwise_unknownLabels (filter : Filter) (entities : List Entity) :
    (unknownLabels filter entities).Pairwise (· < ·) := by
  unfold unknownLabels
  split
  · exact .nil
  · exact (Program.pairwise_ascendingNames _).filter _

theorem exists_dueWarnings (config : Config) (filter : Filter) (entities : List Entity) :
    ∃ missing : List String, missing.Pairwise (· < ·) ∧
      (∀ name, name ∈ missing ↔ config.settings.warnUnknownLabels = true ∧ entities ≠ [] ∧
        name ∈ filter.program.referencedLabels ∧
          ∀ entity ∈ entities, entity.labels.contains name = false) ∧
      dueWarnings config filter entities = missing.map fun name =>
        unknownLabelWarning (Entity.knownLabels entities) config.settings.fuzzyThreshold name := by
  unfold dueWarnings
  cases asked : config.settings.warnUnknownLabels with
  | false => exact ⟨[], .nil, by simp, rfl⟩
  | true =>
    refine ⟨_, pairwise_unknownLabels filter entities, fun name => ?_, rfl⟩
    rw [mem_unknownLabels, and_iff_right rfl]

end Due

theorem events_warnUnknown (config : Config) (filter : Filter) (entities : List Entity)
    (files : FileTree) : (warnUnknown config filter entities files).events =
      (dueWarnings config filter entities).map .warned := by
  unfold warnUnknown dueWarnings
  split
  · rw [List.map_map]
    exact events_inTurn_map _ _ files
  · rfl

theorem unwarned_present (mode : OutputMode) (result : Json) (lines : List String) :
    Unwarned (present mode result lines) := by
  have prints (line : String) : Unwarned (Run.print line) := Tells.event fun _ => Event.noConfusion
  cases mode with
  | json => exact prints _
  | quiet => exact Tells.pure ()
  | text | names | format =>
    exact inTurn_map (Tells.pure ()) (fun hrun hrest => hrun.bind fun _ => hrest) prints lines

theorem unwarned_display (mode : OutputMode) (format : Option String)
    (found : Filter × List Entity × List Entity) : Unwarned (display mode format found) :=
  Tells.bind (unwarned_present _ _ _) fun _ => Tells.pure _

/-- A selection that has its entities warns of what is due, however it ends. -/
theorem warnings_select {here : Surroundings} {options : Options} {argument : String}
    {input : Option String} {files : FileTree} {config : Config} {filter : Filter}
    {entities : List Entity}
    (prepared : (here.prepare options argument files).result = .ok (config, filter))
    (read : (here.readEntities input files).result = .ok entities) (names : Bool)
    (format : Option String) :
    warnings (here.select options argument input names format files).events =
      dueWarnings config filter entities := by
  let mode := options.mode names format.isSome here.terminal
  have prepares := (notes_prepare here options argument).unwarned
  have reads := (notes_readEntities here input).unwarned
  obtain ⟨_, warned⟩ := succeeds_warnUnknown config filter entities files
  have rest : Unwarned (selectFrom filter entities >>= fun selected =>
      display mode format (filter, entities, selected)) :=
    Tells.bind (notes_selectFrom filter entities).unwarned fun _ => unwarned_display _ _ _
  calc warnings (here.select options argument input names format files).events
    _ = warnings ((here.readEntities input >>= fun entities =>
          warnUnknown config filter entities >>= fun _ =>
          selectFrom filter entities >>= fun selected =>
          display mode format (filter, entities, selected)) files).events :=
      prepares.warnings_bind (keepsFiles_prepare here options argument) prepared
    _ = warnings ((warnUnknown config filter entities >>= fun _ =>
          selectFrom filter entities >>= fun selected =>
          display mode format (filter, entities, selected)) files).events :=
      reads.warnings_bind (keepsFiles_readEntities here input) read
    _ = dueWarnings config filter entities := by
      rw [bind_of_ok warned, warnings_append, events_warnUnknown, warnings_map_warned,
        rest.warnings_eq_nil, List.append_nil]

theorem log_run (here : Surroundings) (files : FileTree) (invocation : Invocation) :
    (here.run files invocation).log =
      if invocation.options.verbose then logLines true (here.execute invocation files).events
      else if invocation.options.quiet then []
      else logLines false (here.execute invocation files).events := by
  unfold run
  dsimp only
  split
  · rfl
  · split <;> rfl

section Logging

variable {here : Surroundings} {files : FileTree} {invocation : Invocation}

theorem filter_log_run
    (heard : invocation.options.verbose = true ∨ invocation.options.quiet = false) :
    (here.run files invocation).log.filter isWarning =
      (warnings (here.execute invocation files).events).map warningLine := by
  rw [log_run]
  split
  · exact filter_logLines true _
  · next brief =>
    rw [heard.resolve_left brief]
    exact filter_logLines false _

theorem filter_log_run_of_brief (brief : invocation.options.verbose = false) :
    (here.run files invocation).log.filter isWarning = (here.run files invocation).log := by
  rw [log_run, brief, List.filter_eq_self]
  intro line mem
  cases quiet : invocation.options.quiet with
  | true =>
    rw [quiet] at mem
    exact absurd mem List.not_mem_nil
  | false =>
    rw [quiet] at mem
    have mem : line ∈ logLines false (here.execute invocation files).events := mem
    rw [logLines_false, List.mem_map] at mem
    obtain ⟨text, _, rfl⟩ := mem
    exact isWarning_warningLine text

end Logging

section Switching

variable {here : Surroundings} {config : Option String} {argument : String} {input : Option String}
  {files left : FileTree} {flag : Bool}

theorem result_prepare (here : Surroundings) (options : Options) (argument : String)
    (files : FileTree) : (here.prepare options argument files).result = do
      let config ← (here.loadConfig options files).result
      let filter ← (compileArgument config argument files).result
      return (config, filter) := by
  rw [prepare, (keepsFiles_loadConfig here options).result_bind]
  congr
  funext config
  rw [(keepsFiles_compileArgument config argument).result_bind]
  rfl

/-- Whether there are warnings has no part in how a filter argument is understood. -/
theorem compileArgument_withWarnings (flag : Bool) (config : Config) (argument : String) :
    compileArgument (config.withWarnings flag) argument = compileArgument config argument :=
  rfl

theorem prepare_withWarnings {options : Options} (argument : String)
    (switched : (here.loadConfig options left).result =
      (here.loadConfig options files).result.map (·.withWarnings flag)) :
    (here.prepare options argument left).result = (here.prepare options argument files).result.map
      fun (config, filter) => (config.withWarnings flag, filter) := by
  rw [result_prepare, result_prepare, switched]
  cases (here.loadConfig options files).result with
  | error error => rfl
  | ok config =>
    have same : (compileArgument config argument left).result =
        (compileArgument config argument files).result := by
      rw [result_compileArgument, result_compileArgument]
    show (do
      let filter ← (compileArgument (config.withWarnings flag) argument left).result
      return (config.withWarnings flag, filter)) =
        (do
          let filter ← (compileArgument config argument files).result
          return (config, filter)).map _
    rw [compileArgument_withWarnings, same]
    cases (compileArgument config argument files).result <;> rfl

theorem find_withWarnings
    (switched : (here.loadConfig { config } left).result =
      (here.loadConfig { config } files).result.map (·.withWarnings flag))
    (read : (here.readEntities input left).result = (here.readEntities input files).result) :
    (here.find config argument input left).result =
      (here.find config argument input files).result := by
  rw [result_find, result_find, read, prepare_withWarnings argument switched]
  cases (here.prepare { config } argument files).result <;> rfl

theorem endsLike_of_find {options : Options}
    (same : (here.find options.config argument input left).result =
      (here.find options.config argument input files).result)
    (names : Bool) (format : Option String) :
    EndsLike (here.run files ⟨options, .select argument input names format⟩)
      (here.run left ⟨options, .select argument input names format⟩) := by
  cases found : (here.find options.config argument input files).result with
  | error error =>
    exact endsLike_of_ends rfl (failsSilently_select_of_find options found names format)
      (failsSilently_select_of_find options (same.trans found) names format)
  | ok both =>
    obtain ⟨filter, entities, selected⟩ := both
    exact endsLike_of_ends rfl (ends_select options found names format)
      (ends_select options (same.trans found) names format)

end Switching

/-- A selection that has its entities logs a warning, if the settings ask for it, for each label that the
filter asks for and no entity carries, in ascending order and no other, also where it fails later. The known
labels are those that some entity carries, so only such are suggested. Where the settings differ in
whether they ask for warnings, the same is printed and the exit code is the same. -/
theorem warnings_exact :
    (∀ (here : Surroundings) (files : FileTree) (options : Options) (argument : String)
      (input : Option String) (names : Bool) (format : Option String) (config : Config)
      (filter : Filter) (entities : List Entity),
      options.verbose = true ∨ options.quiet = false →
      (here.prepare options argument files).result = .ok (config, filter) →
      (here.readEntities input files).result = .ok entities →
      let log := (here.run files ⟨options, .select argument input names format⟩).log
      ∃ missing : List String, missing.Pairwise (· < ·) ∧
        (∀ name, name ∈ missing ↔ config.settings.warnUnknownLabels = true ∧ entities ≠ [] ∧
          name ∈ filter.program.referencedLabels ∧
            ∀ entity ∈ entities, entity.labels.contains name = false) ∧
        log.filter isWarning = missing.map (fun name => warningLine (unknownLabelWarning
          (Entity.knownLabels entities) config.settings.fuzzyThreshold name)) ∧
        (options.verbose = false → log.filter isWarning = log)) ∧
    (∀ entities : List Entity,
      (Entity.knownLabels entities).Pairwise (· < ·) ∧
      (∀ name, name ∈ Entity.knownLabels entities ↔
        ∃ entity ∈ entities, entity.labels.contains name = true) ∧
      ∀ name threshold, ∀ close ∈ suggest name (Entity.knownLabels entities) threshold,
        ∃ entity ∈ entities, entity.labels.contains close = true) ∧
    ∀ (here : Surroundings) (files left : FileTree) (options : Options) (argument : String)
      (input : Option String) (names : Bool) (format : Option String) (flag : Bool),
      (here.loadConfig options left).result = (here.loadConfig options files).result.map
        (·.withWarnings flag) →
      (here.readEntities input left).result = (here.readEntities input files).result →
      EndsLike (here.run files ⟨options, .select argument input names format⟩)
        (here.run left ⟨options, .select argument input names format⟩) := by
  refine ⟨?_, ?_, ?_⟩
  · intro here files options argument input names format config filter entities heard prepared read log
    have due : warnings (here.execute ⟨options, .select argument input names format⟩ files).events =
        dueWarnings config filter entities :=
      warnings_select prepared read names format
    obtain ⟨missing, ascending, members, asked⟩ := exists_dueWarnings config filter entities
    refine ⟨missing, ascending, members, ?_, ?_⟩
    · calc log.filter isWarning
        _ = (dueWarnings config filter entities).map warningLine := by
          rw [← due]
          exact filter_log_run heard
        _ = _ := by
          rw [asked, List.map_map]
          rfl
    · exact @filter_log_run_of_brief here files ⟨options, .select argument input names format⟩
  · intro entities
    refine ⟨Program.pairwise_ascendingNames _, fun _ => Entity.mem_knownLabels, ?_⟩
    intro name threshold close suggested
    exact Entity.mem_knownLabels.1 (mem_suggest.1 suggested).1
  · intro here files left options argument input names format flag switched read
    exact endsLike_of_find (find_withWarnings switched read) names format

/-- The filter asks for `role` and the entity has `rol`. Once the settings are changed nothing is said. -/
theorem warnings_exact_typo :
    let here : Surroundings :=
      ⟨none, some "/home", "[\x7bname:'a',labels:\x7brol:'x'\x7d\x7d]".toUTF8, false⟩
    let off := (here.run .empty ⟨{}, .config (.set "settings.warn_unknown_labels" "false")⟩).files
    let asks : Invocation := ⟨{}, .select "role" none true none⟩
    (here.run .empty asks).log = [" WARN no entity has label 'role' (did you mean: rol?)"] ∧
      (∃ (known missing : List String) (threshold : Nat), missing.Pairwise (· < ·) ∧
        (here.run .empty asks).log.filter isWarning =
          missing.map fun name => warningLine (unknownLabelWarning known threshold name)) ∧
      (here.run off asks).log = [] ∧ EndsLike (here.run .empty asks) (here.run off asks) := by
  intro here off asks
  obtain ⟨warns, _, switches⟩ := warnings_exact
  have had : (here.prepare {} "role" .empty).result.toOption.isSome = true := by decide +kernel
  have read : (here.readEntities none .empty).result =
      .ok [⟨"a", .ofList [("rol", "x")]⟩] := by decide +kernel
  have switched : (here.loadConfig {} off).result =
      (here.loadConfig {} .empty).result.map (·.withWarnings false) := by decide +kernel
  have readAlike : (here.readEntities none off).result = (here.readEntities none .empty).result := by
    decide +kernel
  cases prepared : (here.prepare {} "role" .empty).result with
  | error error =>
    rw [prepared] at had
    exact nomatch had
  | ok both =>
    obtain ⟨missing, ascending, _, logged, _⟩ :=
      warns here .empty {} "role" none true none both.1 both.2 _ (.inr rfl) prepared read
    exact ⟨by decide +kernel, ⟨_, missing, _, ascending, logged⟩, by decide +kernel,
      switches here .empty off {} "role" none true none false switched readAlike⟩

end Surroundings

end LabelQuery
