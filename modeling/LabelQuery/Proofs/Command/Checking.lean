import LabelQuery.Command.Execute
import LabelQuery.Proofs.Command.Run
import LabelQuery.Proofs.Filter.Depth

/-!
Checking a filter settles how every later use of it can end. Main statement: a filter that is
found in order never fails as a filter, and one that is not fails in the same way for all labels
and entities.
-/
namespace LabelQuery.Surroundings

open Run

theorem inTurn_map {motive : Run Unit → Prop} {α : Type} {run : α → Run Unit}
    (nothing : motive (pure ()))
    (both : ∀ {first rest : Run Unit}, motive first → motive rest →
      motive (first >>= fun _ => rest))
    (each : ∀ item, motive (run item)) (items : List α) : motive (inTurn (items.map run)) := by
  induction items with
  | nil => exact nothing
  | cons item rest ih => exact both (each item) ih

theorem succeeds_inTurn {α : Type} {run : α → Run Unit} (each : ∀ item, Succeeds (run item))
    (items : List α) : Succeeds (inTurn (items.map run)) :=
  inTurn_map (.pure ()) (fun hrun hrest => hrun.bind fun _ => hrest) each items

theorem keepsFiles_inTurn {α : Type} {run : α → Run Unit} (each : ∀ item, KeepsFiles (run item))
    (items : List α) : KeepsFiles (inTurn (items.map run)) :=
  inTurn_map (.pure ()) (fun hrun hrest => hrun.bind fun _ => hrest) each items

theorem silent_inTurn {α : Type} {run : α → Run Unit} (each : ∀ item, Silent (run item))
    (items : List α) : Silent (inTurn (items.map run)) :=
  inTurn_map (.pure ()) (fun hrun hrest => hrun.bind fun _ => hrest) each items

theorem events_inTurn_map {α : Type} (kind : α → Event) (items : List α) (files : FileTree) :
    (inTurn (items.map fun item => Run.event (kind item)) files).events = items.map kind := by
  induction items generalizing files with
  | nil => rfl
  | cons item rest ih =>
    have told : (Run.event (kind item) files).result = .ok () := rfl
    rw [List.map_cons, inTurn, bind_of_ok told, ih]
    rfl

theorem succeeds_present (mode : OutputMode) (result : Json) (lines : List String) :
    Succeeds (present mode result lines) := by
  cases mode with
  | json => exact .event _
  | quiet => exact .pure ()
  | text | names | format => exact succeeds_inTurn (fun _ => .event _) lines

theorem succeeds_warnUnknown (config : Config) (filter : Filter) (entities : List Entity) :
    Succeeds (warnUnknown config filter entities) := by
  unfold warnUnknown
  split
  · exact succeeds_inTurn (fun _ => .event _) _
  · exact .pure ()

theorem keepsFiles_loadConfig (here : Surroundings) (options : Options) :
    KeepsFiles (here.loadConfig options) :=
  .bind .files fun _ => .ofExcept _ _

theorem keepsFiles_compile (expression : String) : KeepsFiles (compile expression) :=
  .bind (.ofExcept _ _) fun _ => .bind (.event _) fun _ => .pure _

theorem keepsFiles_compileArgument (config : Config) (argument : String) :
    KeepsFiles (compileArgument config argument) := by
  refine .bind (.ofExcept _ _) fun expression => ?_
  split
  · exact .bind (.event _) fun _ => keepsFiles_compile expression
  · exact keepsFiles_compile expression

theorem keepsFiles_prepare (here : Surroundings) (options : Options) (argument : String) :
    KeepsFiles (here.prepare options argument) :=
  .bind (keepsFiles_loadConfig here options) fun config =>
    .bind (keepsFiles_compileArgument config argument) fun _ => .pure _

/-- How a filter argument is understood depends on the options by the configuration alone. -/
theorem prepare_congr {here there : Surroundings} {options other : Options}
    (same : there.configPath other = here.configPath options) (argument : String) :
    there.prepare other argument = here.prepare options argument := by
  have loads : there.loadConfig other = here.loadConfig options := by
    rw [loadConfig, loadConfig, same]
  rw [prepare, prepare, loads]

theorem keepsFiles_readEntities (here : Surroundings) (input : Option String) :
    KeepsFiles (here.readEntities input) := by
  refine .bind ?_ fun _ => .ofExcept _ _
  unfold readInput
  split
  · exact .ofExcept _ _
  · split
    · exact .ofExcept _ _
    · exact .bind .files fun _ => .ofExcept _ _

theorem keepsFiles_warnUnknown (config : Config) (filter : Filter) (entities : List Entity) :
    KeepsFiles (warnUnknown config filter entities) := by
  unfold warnUnknown
  split
  · exact keepsFiles_inTurn (fun _ => .event _) _
  · exact .pure ()

theorem keepsFiles_selectFrom (filter : Filter) (entities : List Entity) :
    KeepsFiles (selectFrom filter entities) := by
  induction entities with
  | nil => exact .pure _
  | cons entity rest ih =>
    exact .bind (.ofExcept _ _) fun _ => .bind (.event _) fun _ => .bind ih fun _ => .pure _

theorem result_compile (expression : String) (files : FileTree) :
    (compile expression files).result =
      (Filter.compile expression).mapError (.ofFilterError expression) := by
  unfold compile
  cases Filter.compile expression <;> rfl

/-- The files have no part in how a filter argument is understood. -/
theorem result_compileArgument (config : Config) (argument : String) (files : FileTree) :
    (compileArgument config argument files).result =
      ((config.resolve argument).mapError .ofUnknownFilter).bind fun expression =>
        (Filter.compile expression).mapError (.ofFilterError expression) := by
  unfold compileArgument
  rw [KeepsFiles.result_bind (.ofExcept _ _), result_ofExcept]
  congr
  funext expression
  dsimp only
  split
  · exact (result_bind_of_ok rfl _).trans (result_compile expression _)
  · exact result_compile expression files

theorem notes_compile (expression : String) : Notes (compile expression) :=
  .bind (.ofExcept _ _) fun _ => .bind (Notes.note _) fun _ => .pure _

theorem notes_compileArgument (config : Config) (argument : String) :
    Notes (compileArgument config argument) := by
  refine .bind (.ofExcept _ _) fun expression => ?_
  split
  · exact .bind (Notes.note _) fun _ => notes_compile expression
  · exact notes_compile expression

theorem notes_prepare (here : Surroundings) (options : Options) (argument : String) :
    Notes (here.prepare options argument) :=
  .bind (.bind .files fun _ => .ofExcept _ _) fun config =>
    .bind (notes_compileArgument config argument) fun _ => .pure _

theorem silent_prepare (here : Surroundings) (options : Options) (argument : String) :
    Silent (here.prepare options argument) :=
  (notes_prepare here options argument).silent

theorem notes_readEntities (here : Surroundings) (input : Option String) :
    Notes (here.readEntities input) := by
  refine .bind ?_ fun _ => .ofExcept _ _
  unfold readInput
  split
  · exact .ofExcept _ _
  · split
    · exact .ofExcept _ _
    · exact .bind .files fun _ => .ofExcept _ _

theorem silent_readEntities (here : Surroundings) (input : Option String) :
    Silent (here.readEntities input) :=
  (notes_readEntities here input).silent

theorem silent_warnUnknown (config : Config) (filter : Filter) (entities : List Entity) :
    Silent (warnUnknown config filter entities) := by
  unfold warnUnknown
  split
  · exact silent_inTurn (fun _ => .warn _) _
  · exact .pure ()

theorem notes_selectFrom (filter : Filter) (entities : List Entity) :
    Notes (selectFrom filter entities) := by
  induction entities with
  | nil => exact .pure _
  | cons entity rest ih =>
    exact .bind (.ofExcept _ _) fun _ => .bind (Notes.note _) fun _ => .bind ih fun _ => .pure _

theorem silent_selectFrom (filter : Filter) (entities : List Entity) :
    Silent (selectFrom filter entities) :=
  (notes_selectFrom filter entities).silent

theorem succeeds_selectFrom {filter : Filter}
    (answers : ∀ labels, ∃ answer, filter.accepts labels = .ok answer) (entities : List Entity) :
    Succeeds (selectFrom filter entities) := by
  induction entities with
  | nil => exact .pure _
  | cons entity rest ih =>
    obtain ⟨answer, asked⟩ := answers entity.labels.get?
    have succeeds : Succeeds (ask filter entity.labels.get?) := by
      rw [ask, asked]
      exact .pure _
    exact .bind succeeds fun _ => .bind (.event _) fun _ => .bind ih fun _ => .pure _

theorem result_ask (filter : Filter) (labels : Labels) (files : FileTree) :
    (ask filter labels files).result =
      (filter.accepts labels).mapError (.ofFilterError filter.expression) :=
  result_ofExcept _ _ files

section

variable {here : Surroundings} {options : Options} {argument : String} {files : FileTree}
  {config : Config} {filter : Filter} {error : CommandError}

theorem code_of_compile_error {expression : String}
    (h : (compile expression files).result = .error error) :
    error.code = ExitCode.invalidFilter := by
  rcases result_bind_eq_error h with compiled | ⟨filter, _, noted⟩
  · obtain ⟨fault, _, rfl⟩ := exists_of_result_ofExcept_eq_error compiled
    rfl
  · cases noted

theorem code_of_compileArgument_error
    (h : (compileArgument config argument files).result = .error error) :
    error.code = ExitCode.invalidArguments ∨ error.code = ExitCode.invalidFilter := by
  rcases result_bind_eq_error h with resolved | ⟨expression, _, rest⟩
  · obtain ⟨fault, _, rfl⟩ := exists_of_result_ofExcept_eq_error resolved
    exact .inl rfl
  · dsimp only at rest
    split at rest
    · rcases result_bind_eq_error rest with noted | ⟨_, _, compiled⟩
      · cases noted
      · exact .inr (code_of_compile_error compiled)
    · exact .inr (code_of_compile_error rest)

/-- Before a filter is asked anything, a command that uses one can fail in three ways. -/
theorem code_of_prepare_error (h : (here.prepare options argument files).result = .error error) :
    error.code = ExitCode.configuration ∨ error.code = ExitCode.invalidArguments ∨
      error.code = ExitCode.invalidFilter := by
  rcases result_bind_eq_error h with load | ⟨config, _, rest⟩
  · rcases result_bind_eq_error load with observed | ⟨tree, _, read⟩
    · cases observed
    · obtain ⟨fault, _, rfl⟩ := exists_of_result_ofExcept_eq_error read
      exact .inl rfl
  · rcases result_bind_eq_error rest with compiled | ⟨filter, _, returned⟩
    · exact .inr (code_of_compileArgument_error compiled)
    · cases returned

theorem code_of_readEntities_error {input : Option String}
    (h : (here.readEntities input files).result = .error error) :
    error.code = ExitCode.input := by
  rcases result_bind_eq_error h with read | ⟨document, _, parsed⟩
  · unfold readInput at read
    split at read
    · obtain ⟨fault, _, rfl⟩ := exists_of_result_ofExcept_eq_error read
      rfl
    · split at read
      · obtain ⟨fault, _, rfl⟩ := exists_of_result_ofExcept_eq_error read
        rfl
      · rcases result_bind_eq_error read with observed | ⟨tree, _, read⟩
        · cases observed
        · obtain ⟨fault, _, rfl⟩ := exists_of_result_ofExcept_eq_error read
          rfl
  · obtain ⟨fault, _, rfl⟩ := exists_of_result_ofExcept_eq_error parsed
    rfl

theorem failsSilently_ask {fault : FilterError} {labels : Labels}
    (asked : filter.accepts labels = .error fault) {α : Type} (next : Bool → Run α) :
    FailsSilently (ask filter labels >>= next) files
      (.ofFilterError filter.expression fault) :=
  .first (.ofExcept _ _) (by rw [result_ask, asked]; rfl)

theorem result_ask_of_answer {labels : Labels} {answer : Bool}
    (asked : filter.accepts labels = .ok answer) :
    (ask filter labels files).result = .ok answer := by
  rw [result_ask, asked]
  rfl

theorem result_check_of_answer {answer : Bool}
    (h : (here.prepare options argument files).result = .ok (config, filter))
    (asked : filter.accepts (fun _ => none) = .ok answer) :
    (here.check options argument files).result = .ok ExitCode.success := by
  rw [check, result_bind_of_ok h, result_bind_of_ok (result_ask_of_answer asked)]
  exact (succeeds_present _ _ _).result_bind (fun _ _ => rfl) _

theorem result_decide_of_answer {labels : Dict String} {answer : Bool}
    (h : (here.prepare options argument files).result = .ok (config, filter))
    (asked : filter.accepts labels.get? = .ok answer) :
    (here.decide options argument labels files).result = .ok (matchCode answer) := by
  rw [decide, result_bind_of_ok h, result_bind_of_ok (result_ask_of_answer asked)]
  refine Succeeds.result_bind (.event _) (fun _ _ => ?_) _
  exact (succeeds_present _ _ _).result_bind (fun _ _ => rfl) _

theorem result_select_of_answer {input : Option String} {entities : List Entity}
    (h : (here.prepare options argument files).result = .ok (config, filter))
    (answers : ∀ labels, ∃ answer, filter.accepts labels = .ok answer)
    (read : (here.readEntities input files).result = .ok entities) (names : Bool)
    (format : Option String) :
    ∃ selected, (here.select options argument input names format files).result =
      .ok (matchCode selected) := by
  rw [select, result_bind_of_ok h, keepsFiles_prepare, result_bind_of_ok read]
  obtain ⟨_, warned⟩ := succeeds_warnUnknown config filter entities
    (here.readEntities input files).files
  rw [result_bind_of_ok warned]
  obtain ⟨selected, chosen⟩ := succeeds_selectFrom answers entities
    (warnUnknown config filter entities (here.readEntities input files).files).files
  rw [result_bind_of_ok chosen]
  exact ⟨_, (succeeds_present _ _ _).result_bind (fun _ _ => rfl) _⟩

theorem result_select_of_unread {input : Option String}
    (h : (here.prepare options argument files).result = .ok (config, filter))
    (unread : (here.readEntities input files).result = .error error) (names : Bool)
    (format : Option String) :
    (here.select options argument input names format files).result = .error error := by
  rw [select, result_bind_of_ok h, keepsFiles_prepare]
  exact result_bind_of_error unread _

theorem failsSilently_selectFrom {fault : FilterError}
    (asked : ∀ labels, filter.accepts labels = .error fault) (entity : Entity)
    (rest : List Entity) :
    FailsSilently (selectFrom filter (entity :: rest)) files
      (.ofFilterError filter.expression fault) :=
  failsSilently_ask (asked entity.labels.get?) _

theorem failsSilently_select {input : Option String} {entities : List Entity}
    {fault : FilterError} (h : (here.prepare options argument files).result = .ok (config, filter))
    (asked : ∀ labels, filter.accepts labels = .error fault)
    (read : (here.readEntities input files).result = .ok entities) (nonempty : entities ≠ [])
    (names : Bool) (format : Option String) :
    FailsSilently (here.select options argument input names format) files
      (.ofFilterError filter.expression fault) := by
  refine .second (silent_prepare here options argument) h ?_
  rw [keepsFiles_prepare]
  refine .second (silent_readEntities here input) read ?_
  obtain ⟨_, warned⟩ := succeeds_warnUnknown config filter entities
    (here.readEntities input files).files
  refine .second (silent_warnUnknown config filter entities) warned ?_
  obtain ⟨entity, rest, rfl⟩ := List.exists_cons_of_ne_nil nonempty
  exact .first (silent_selectFrom filter (entity :: rest))
    (failsSilently_selectFrom asked entity rest).1

end

/-- What is told of an error, on standard output and on standard error. -/
def told (here : Surroundings) (options : Options) (error : CommandError) : String × String :=
  if options.mode false false here.terminal = .json then
    (textOfLines [(Report.failure error).line], "")
  else ("", textOfLines (Report.errorLines error))

/-- A command line fails with an error and tells nothing but this error. -/
def TellsOnly (here : Surroundings) (files : FileTree) (invocation : Invocation)
    (error : CommandError) : Prop :=
  let outcome := here.run files invocation
  outcome.code = error.code ∧ (outcome.output, outcome.errors) = here.told invocation.options error

theorem run_of_failsSilently {here : Surroundings} {files : FileTree} {invocation : Invocation}
    {error : CommandError} (h : FailsSilently (here.execute invocation) files error) :
    here.TellsOnly files invocation error := by
  unfold TellsOnly run told
  simp only [h.1, h.2]
  split <;> exact ⟨rfl, rfl⟩

theorem code_run_of_ok {here : Surroundings} {files : FileTree} {invocation : Invocation}
    {code : Int} (h : (here.execute invocation files).result = .ok code) :
    (here.run files invocation).code = code := by
  unfold run
  simp only [h]

theorem code_run_of_error {here : Surroundings} {files : FileTree} {invocation : Invocation}
    {error : CommandError} (h : (here.execute invocation files).result = .error error) :
    (here.run files invocation).code = error.code := by
  unfold run
  simp only [h]
  split <;> rfl

/-- A command line ends like another: with its exit code, and with the same told of the error. -/
def EndsLike (outcome other : Outcome) : Prop :=
  outcome.code = other.code ∧ outcome.output = other.output ∧ outcome.errors = other.errors

/-- Two command lines fail with the same error, and where errors are told in the same way, they end
alike. -/
structure FailsLike (here there : Surroundings) (files : FileTree) (invocation other : Invocation) :
    Prop where
  error : ∃ error, here.TellsOnly files invocation error ∧ there.TellsOnly files other error
  ends : here.told invocation.options = there.told other.options →
    EndsLike (here.run files invocation) (there.run files other)

theorem failsLike_of_failsSilently {here there : Surroundings} {files : FileTree}
    {invocation other : Invocation} {error : CommandError}
    (h : FailsSilently (here.execute invocation) files error)
    (hother : FailsSilently (there.execute other) files error) :
    FailsLike here there files invocation other where
  error := ⟨error, run_of_failsSilently h, run_of_failsSilently hother⟩
  ends same := by
    obtain ⟨code, shown⟩ := run_of_failsSilently h
    obtain ⟨code', shown'⟩ := run_of_failsSilently hother
    rw [same] at shown
    obtain ⟨output, errors⟩ := Prod.mk.inj (shown.trans shown'.symm)
    exact ⟨code.trans code'.symm, output, errors⟩

section

variable {here : Surroundings} {options : Options} {argument : String} {files : FileTree}

/-- A check ends in one of three ways: the filter cannot be had, it gives answers, or it lacks
operands. -/
theorem check_cases (here : Surroundings) (options : Options) (argument : String)
    (files : FileTree) :
    (∃ error, (here.prepare options argument files).result = .error error ∧
      FailsSilently (here.execute ⟨options, .check argument⟩) files error) ∨
    (∃ config filter, (here.prepare options argument files).result = .ok (config, filter) ∧
      (∀ labels, ∃ answer, filter.accepts labels = .ok answer) ∧
      (here.execute ⟨options, .check argument⟩ files).result = .ok ExitCode.success) ∨
    ∃ config filter fault, (here.prepare options argument files).result = .ok (config, filter) ∧
      (∀ labels, filter.accepts labels = .error fault) ∧
      FailsSilently (here.execute ⟨options, .check argument⟩) files
        (.ofFilterError filter.expression fault) := by
  have silent := silent_prepare here options argument
  cases prepared : (here.prepare options argument files).result with
  | error error => exact .inl ⟨error, rfl, .first silent prepared⟩
  | ok both =>
    obtain ⟨config, filter⟩ := both
    cases asked : filter.accepts fun _ => none with
    | ok answer =>
      refine .inr (.inl ⟨config, filter, rfl, ?_, result_check_of_answer prepared asked⟩)
      exact fun labels => Program.evaluate_ok_of_ok asked labels
    | error fault =>
      refine .inr (.inr ⟨config, filter, fault, rfl, ?_, ?_⟩)
      · exact fun labels => Program.evaluate_error_of_error asked labels
      · exact .second silent prepared (failsSilently_ask asked _)

/-- A filter that passes the check gives answers. -/
theorem answers_of_check
    (passed : (here.run files ⟨options, .check argument⟩).code = ExitCode.success) :
    ∃ config filter, (here.prepare options argument files).result = .ok (config, filter) ∧
      ∀ labels, ∃ answer, filter.accepts labels = .ok answer := by
  rcases check_cases here options argument files with
    ⟨error, prepared, failed⟩ | ⟨config, filter, prepared, answers, _⟩ |
    ⟨config, filter, fault, _, _, failed⟩
  · rw [code_run_of_error failed.1] at passed
    rcases code_of_prepare_error prepared with code | code | code <;>
      exact absurd (code.symm.trans passed) (by decide)
  · exact ⟨config, filter, prepared, answers⟩
  · have code : (here.run files ⟨options, .check argument⟩).code = ExitCode.invalidFilter :=
      code_run_of_error failed.1
    exact absurd (code.symm.trans passed) (by decide)

section

variable {config : Config} {filter : Filter}
  (prepared : (here.prepare options argument files).result = .ok (config, filter))
  (answers : ∀ labels, ∃ answer, filter.accepts labels = .ok answer)

include prepared answers

theorem code_decide_of_answers (labels : List (String × String)) (flags : List String) :
    (here.run files ⟨options, .decide argument labels flags⟩).code ∈
      [ExitCode.success, ExitCode.noMatch] := by
  obtain ⟨answer, asked⟩ := answers (givenLabels labels flags).get?
  have decided : (here.execute ⟨options, .decide argument labels flags⟩ files).result =
      .ok (matchCode answer) := result_decide_of_answer prepared asked
  rw [code_run_of_ok decided]
  cases answer <;> simp [matchCode]

/-- Such a filter selects entities, or these cannot be read. -/
theorem code_select_of_answers (input : Option String) (names : Bool) (format : Option String) :
    (here.run files ⟨options, .select argument input names format⟩).code ≠
      ExitCode.invalidFilter := by
  cases read : (here.readEntities input files).result with
  | ok entities =>
    obtain ⟨selected, ended⟩ := result_select_of_answer prepared answers read names format
    have ended : (here.execute ⟨options, .select argument input names format⟩ files).result =
        .ok (matchCode selected) := ended
    rw [code_run_of_ok ended]
    cases selected <;> decide
  | error error =>
    have unread : (here.execute ⟨options, .select argument input names format⟩ files).result =
        .error error := result_select_of_unread prepared read names format
    rw [code_run_of_error unread, code_of_readEntities_error read]
    decide

end

/-- A command that uses a refused filter fails where the check did: on the way to the filter, or
when it asks it for the first time. -/
theorem failsLike_of_check {there : Surroundings} {other : Options}
    (same : there.configPath other = here.configPath options)
    (refused : (here.run files ⟨options, .check argument⟩).code = ExitCode.invalidFilter)
    {command : Command}
    (unprepared : ∀ {error}, (there.prepare other argument files).result = .error error →
      FailsSilently (there.execute ⟨other, command⟩) files error)
    (asks : ∀ {config filter fault},
      (there.prepare other argument files).result = .ok (config, filter) →
      (∀ labels, filter.accepts labels = .error fault) →
      FailsSilently (there.execute ⟨other, command⟩) files
        (.ofFilterError filter.expression fault)) :
    FailsLike there here files ⟨other, command⟩ ⟨options, .check argument⟩ := by
  rw [prepare_congr same argument] at unprepared asks
  rcases check_cases here options argument files with
    ⟨error, prepared, failed⟩ | ⟨_, _, _, _, ended⟩ |
    ⟨config, filter, fault, prepared, asked, failed⟩
  · exact failsLike_of_failsSilently (unprepared prepared) failed
  · exact absurd ((code_run_of_ok ended).symm.trans refused) (by decide)
  · exact failsLike_of_failsSilently (asks prepared asked) failed

end

/-- Whether and how a program fails is decided by the depths of its stack, for all labels alike. So
a filter that passes the check never fails as a filter afterwards, and one that does not pass it
fails in the same way for any labels and for any entities that can be read. What is asked of the output
has no part in this, only the configuration has. -/
theorem check_foretells :
    (∀ (program : Program) (labels : Labels),
      match firstLack 0 program.instructions with
      | some (op, position) => program.evaluate labels = .error (.missingOperands op position)
      | none => ∃ answer, Program.runAll labels program.instructions [] = .ok [.truth answer] ∧
          program.evaluate labels = .ok answer) ∧
    ∀ (here there : Surroundings) (options other : Options) (files : FileTree) (argument : String),
      there.configPath other = here.configPath options →
      let check : Invocation := ⟨options, .check argument⟩
      ((here.run files check).code = ExitCode.success →
        (∀ labels flags, (there.run files ⟨other, .decide argument labels flags⟩).code ∈
          [ExitCode.success, ExitCode.noMatch]) ∧
        ∀ input names format, (there.run files ⟨other, .select argument input names format⟩).code ≠
          ExitCode.invalidFilter) ∧
      ((here.run files check).code = ExitCode.invalidFilter →
        (∀ labels flags,
          FailsLike there here files ⟨other, .decide argument labels flags⟩ check) ∧
        ∀ input names format entities, (there.readEntities input files).result = .ok entities →
          entities ≠ [] →
          FailsLike there here files ⟨other, .select argument input names format⟩ check) := by
  refine ⟨Program.evaluate_of_firstLack,
    fun here there options other files argument same => ⟨?_, ?_⟩⟩
  · intro passed
    obtain ⟨config, filter, prepared, answers⟩ := answers_of_check passed
    rw [← prepare_congr same argument] at prepared
    exact ⟨code_decide_of_answers prepared answers, code_select_of_answers prepared answers⟩
  · intro refused
    -- nothing is printed before the filter is asked, so all that is told is told of the error
    have silent := silent_prepare there other argument
    refine ⟨fun labels flags => ?_, fun input names format entities read nonempty => ?_⟩
    · apply failsLike_of_check same refused (.first silent)
      intro config filter fault prepared asked
      exact .second silent prepared (failsSilently_ask (asked _) _)
    · apply failsLike_of_check same refused (.first silent)
      intro config filter fault prepared asked
      exact failsSilently_select prepared asked read nonempty names format

/-- The check is made at a terminal and in plain lines, the selection is written as data. Both are told
which configuration to use, so it does not matter that their environments differ. -/
theorem check_foretells_role :
    let here : Surroundings := ⟨none, some "/home", .empty, true⟩
    let there : Surroundings :=
      ⟨some "other.json", some "/home", "[\x7bname:'n'\x7d]".toUTF8, false⟩
    let options : Options := { config := some "c.json", noJson := true }
    let other : Options := { config := some "c.json" }
    let checked := fun argument => here.run .empty ⟨options, .check argument⟩
    there.configPath other = here.configPath options ∧
      (checked "role").code = ExitCode.success ∧
      (there.run .empty ⟨other, .decide "role" [("role", "compute")] []⟩).code ∈
        [ExitCode.success, ExitCode.noMatch] ∧
      (checked "role and").code = ExitCode.invalidFilter ∧
      FailsLike there here .empty ⟨other, .select "role and" none false none⟩
        ⟨options, .check "role and"⟩ ∧
      EndsLike (there.run .empty ⟨other, .select "role and" none false none⟩)
        (there.run .empty ⟨other, .check "role and"⟩) := by
  intro here there options other checked
  have same : there.configPath other = here.configPath options := rfl
  have passed : (checked "role").code = ExitCode.success := by decide +kernel
  have refused : (checked "role and").code = ExitCode.invalidFilter := by decide +kernel
  have refusedThere : (there.run .empty ⟨other, .check "role and"⟩).code = ExitCode.invalidFilter := by
    decide +kernel
  have found : (there.readEntities none .empty).result.toOption.any (· ≠ []) = true := by
    decide +kernel
  have foretells := check_foretells.2 here there options other .empty
  have foretellsThere := check_foretells.2 there there other other .empty "role and" rfl
  refine ⟨same, passed, ((foretells "role" same).1 passed).1 _ _, refused, ?_⟩
  cases read : (there.readEntities none .empty).result with
  | error fault => simp [read, Except.toOption] at found
  | ok entities =>
    have nonempty : entities ≠ [] := by simpa [read, Except.toOption] using found
    exact ⟨((foretells "role and" same).2 refused).2 none false none entities read nonempty,
      ((foretellsThere.2 refusedThere).2 none false none entities read nonempty).ends rfl⟩

end LabelQuery.Surroundings
