import LabelQuery.Proofs.Command.Checking

/-!
What a selection finds, and what it writes where each entity has a line of its own. Main statement: it
writes the lines of the entities that satisfy the filter, in order, or it fails and writes none. The error
is told without regard to these lines, so it goes to standard output where nothing asks for text.
-/
namespace LabelQuery.Surroundings

open Run

/-- The line that shows an entity, where names or a template are asked for. -/
def ownLine? (names : Bool) (format : Option String) : Option (Entity → String) :=
  if names then some Entity.name else format.map Report.renderEntity

/-- The lines that a result takes in some mode. -/
def shownLines (mode : OutputMode) (result : Json) (lines : List String) : List String :=
  match mode with
  | .json => [(Report.success result).line]
  | .quiet => []
  | .text | .names | .format => lines

def satisfies (filter : Filter) (entity : Entity) : Bool :=
  match filter.accepts entity.labels.get? with
  | .ok answer => answer
  | .error _ => false

theorem printedLines_inTurn_print (lines : List String) (files : FileTree) :
    printedLines (inTurn (lines.map Run.print) files).events = lines := by
  have told : (inTurn (lines.map Run.print) files).events = lines.map .printed :=
    events_inTurn_map .printed lines files
  rw [told, printedLines, List.filterMap_map]
  exact List.filterMap_some

section

variable {here : Surroundings} {options : Options} {argument : String} {input : Option String}
  {names : Bool} {format : Option String} {files : FileTree} {config : Config} {filter : Filter}
  {entities selected : List Entity} {line : Entity → String} {error : CommandError}

theorem mode_of_ownLine (loud : options.quiet = false) (own : ownLine? names format = some line) :
    options.mode names format.isSome here.terminal = if names then .names else .format := by
  cases names with
  | true => simp [Options.mode, loud]
  | false =>
    obtain ⟨template, rfl, _⟩ := Option.map_eq_some_iff.1 own
    simp [Options.mode, loud]

theorem selectionLine_of_ownLine (own : ownLine? names format = some line) :
    selectionLine (if names then .names else .format) format = line := by
  cases names with
  | true =>
    cases Option.some.inj own
    rfl
  | false =>
    obtain ⟨template, rfl, rfl⟩ := Option.map_eq_some_iff.1 own
    rfl

theorem ends_present (mode : OutputMode) (result : Json) (lines : List String) (code : Int) :
    Ends (present mode result lines >>= fun _ => pure code) files (shownLines mode result lines)
      (.ok code) := by
  obtain ⟨_, succeeds⟩ := succeeds_present mode result lines files
  constructor
  · rw [result_bind_of_ok succeeds]
    rfl
  · rw [bind_of_ok succeeds, printedLines_append]
    cases mode with
    | json | quiet => rfl
    | text | names | format =>
      exact (List.append_nil _).trans (printedLines_inTurn_print lines files)

theorem result_selectFrom (h : (selectFrom filter entities files).result = .ok selected) :
    selected = entities.filter (satisfies filter) ∧
      ∀ entity ∈ entities, ∃ answer, filter.accepts entity.labels.get? = .ok answer := by
  induction entities generalizing selected files with
  | nil =>
    cases h
    simp
  | cons entity rest ih =>
    obtain ⟨answer, asked, h⟩ := result_bind_eq_ok h
    obtain ⟨_, _, h⟩ := result_bind_eq_ok h
    obtain ⟨others, chosen, h⟩ := result_bind_eq_ok h
    obtain ⟨rfl, answers⟩ := ih chosen
    have accepted : filter.accepts entity.labels.get? = .ok answer :=
      eq_ok_of_result_ofExcept asked
    have satisfied : satisfies filter entity = answer := by simp [satisfies, accepted]
    constructor
    · cases h
      cases answer <;> simp [satisfied]
    · exact List.forall_mem_cons.2 ⟨⟨answer, accepted⟩, answers⟩

theorem result_selectFrom_of_answers
    (answers : ∀ entity ∈ entities, ∃ answer, filter.accepts entity.labels.get? = .ok answer) :
    ∃ selected, (selectFrom filter entities files).result = .ok selected := by
  induction entities generalizing files with
  | nil => exact ⟨[], rfl⟩
  | cons entity rest ih =>
    obtain ⟨⟨answer, accepted⟩, later⟩ := List.forall_mem_cons.1 answers
    have asked : (ask filter entity.labels.get? files).result = .ok answer :=
      result_ask_of_answer accepted
    obtain ⟨others, chosen⟩ := @ih (ask filter entity.labels.get? files).files later
    refine ⟨if answer then entity :: others else others, ?_⟩
    rw [selectFrom, result_bind_of_ok asked, result_bind_of_ok rfl]
    exact result_bind_of_ok chosen _

/-- The filter and the entities can be had, and the filter has an answer for each of them. -/
structure Selects (here : Surroundings) (options : Options) (argument : String)
    (input : Option String) (files : FileTree) (filter : Filter) (entities : List Entity) :
    Prop where
  prepared : ∃ config, (here.prepare options argument files).result = .ok (config, filter)
  read : (here.readEntities input files).result = .ok entities
  answers : ∀ entity ∈ entities, ∃ answer, filter.accepts entity.labels.get? = .ok answer

/-- The entities that satisfy a filter, unless there are entities and the filter cannot be asked. -/
def chosen (filter : Filter) (entities : List Entity) : Except CommandError (List Entity) :=
  match filter.accepts fun _ => none with
  | .ok _ => .ok (entities.filter (satisfies filter))
  | .error fault =>
    if entities = [] then .ok [] else .error (.ofFilterError filter.expression fault)

/-- The part of a selection that comes before anything is shown: the filter, all entities and those that
are chosen. -/
def find (here : Surroundings) (config : Option String) (argument : String)
    (input : Option String) : Run (Filter × List Entity × List Entity) := do
  let (config, filter) ← here.prepare { config } argument
  let entities ← here.readEntities input
  warnUnknown config filter entities
  let selected ← selectFrom filter entities
  return (filter, entities, selected)

def display (mode : OutputMode) (format : Option String) :
    Filter × List Entity × List Entity → Run Int
  | (filter, entities, selected) => do
    present mode (Report.selectResult filter.expression entities.length selected)
      (selected.map (selectionLine mode format))
    return matchCode !selected.isEmpty

theorem result_selectFrom_eq (filter : Filter) (entities : List Entity) (files : FileTree) :
    (selectFrom filter entities files).result = chosen filter entities := by
  unfold chosen
  cases asked : filter.accepts fun _ => none with
  | ok answer =>
    have answers : ∀ entity ∈ entities, ∃ answer, filter.accepts entity.labels.get? = .ok answer :=
      fun entity _ => Program.evaluate_ok_of_ok asked _
    obtain ⟨selected, selects⟩ := @result_selectFrom_of_answers files _ _ answers
    rw [selects, (result_selectFrom selects).1]
  | error fault =>
    cases entities with
    | nil => rfl
    | cons entity rest =>
      have lacks : ∀ labels, filter.accepts labels = .error fault :=
        Program.evaluate_error_of_error asked
      exact (failsSilently_selectFrom lacks entity rest).1

theorem select_eq_find (here : Surroundings) (options : Options) (argument : String)
    (input : Option String) (names : Bool) (format : Option String) :
    here.select options argument input names format =
      here.find options.config argument input >>=
        display (options.mode names format.isSome here.terminal) format := by
  simp only [select, find, bind_assoc, pure_bind]
  rfl

theorem silent_find (here : Surroundings) (config : Option String) (argument : String)
    (input : Option String) : Silent (here.find config argument input) := by
  apply Silent.bind (silent_prepare here _ argument)
  intro (config, filter)
  apply Silent.bind (silent_readEntities here input)
  intro entities
  apply Silent.bind (silent_warnUnknown config filter entities)
  intro _
  exact .bind (silent_selectFrom filter entities) fun _ => .pure _

theorem result_find (here : Surroundings) (config : Option String) (argument : String)
    (input : Option String) (files : FileTree) :
    (here.find config argument input files).result = do
      let (_, filter) ← (here.prepare { config } argument files).result
      let entities ← (here.readEntities input files).result
      let selected ← chosen filter entities
      return (filter, entities, selected) := by
  rw [find, (keepsFiles_prepare here _ argument).result_bind]
  congr
  funext (config, filter)
  dsimp only
  rw [(keepsFiles_readEntities here input).result_bind]
  congr
  funext entities
  rw [(keepsFiles_warnUnknown config filter entities).result_bind]
  obtain ⟨_, warned⟩ := succeeds_warnUnknown config filter entities files
  rw [warned]
  dsimp only [Except.bind]
  rw [(keepsFiles_selectFrom filter entities).result_bind, result_selectFrom_eq]
  rfl

theorem selects_of_find (options : Options)
    (found : (here.find options.config argument input files).result =
      .ok (filter, entities, selected)) :
    here.Selects options argument input files filter entities ∧
      selected = entities.filter (satisfies filter) := by
  obtain ⟨⟨config', filter'⟩, prepared, rest⟩ := result_bind_eq_ok found
  rw [keepsFiles_prepare] at rest
  obtain ⟨entities', read, rest⟩ := result_bind_eq_ok rest
  obtain ⟨_, _, rest⟩ := result_bind_eq_ok rest
  obtain ⟨selected', selects, rest⟩ := result_bind_eq_ok rest
  cases rest
  obtain ⟨same, answers⟩ := result_selectFrom selects
  exact ⟨⟨⟨config', prepared⟩, read, answers⟩, same⟩

theorem find_of_selects (selects : here.Selects options argument input files filter entities) :
    (here.find options.config argument input files).result =
      .ok (filter, entities, entities.filter (satisfies filter)) := by
  obtain ⟨⟨config, prepared⟩, read, answers⟩ := selects
  have prepared : (here.prepare { config := options.config } argument files).result =
    .ok (config, filter) := prepared
  obtain ⟨selected, chooses⟩ := @result_selectFrom_of_answers files _ _ answers
  have all := (result_selectFrom chooses).1
  rw [result_selectFrom_eq] at chooses
  rw [result_find, prepared, read, ← all]
  show (do let selected ← chosen filter entities; return (filter, entities, selected)) = _
  rw [chooses]
  rfl

/-- Once it is found what is selected, it is shown and the exit code tells whether it is anything. -/
theorem ends_select (options : Options)
    (found : (here.find options.config argument input files).result =
      .ok (filter, entities, selected)) (names : Bool) (format : Option String) :
    let mode := options.mode names format.isSome here.terminal
    Ends (here.execute ⟨options, .select argument input names format⟩) files
      (shownLines mode (Report.selectResult filter.expression entities.length selected)
        (selected.map (selectionLine mode format)))
      (.ok (matchCode !selected.isEmpty)) := by
  intro mode
  show Ends (here.select options argument input names format) files _ _
  rw [select_eq_find]
  apply Ends.after (silent_find here _ argument input) found
  exact ends_present _ _ _ _

theorem failsSilently_select_of_find (options : Options)
    (failed : (here.find options.config argument input files).result = .error error)
    (names : Bool) (format : Option String) :
    FailsSilently (here.execute ⟨options, .select argument input names format⟩) files error := by
  show FailsSilently (here.select options argument input names format) files error
  rw [select_eq_find]
  exact .first (silent_find here _ argument input) failed

/-- A selection prints a line for each entity that satisfies the filter, or what it needs cannot be
had and it fails before it has printed anything. -/
theorem select_cases (here : Surroundings) (argument : String) (input : Option String)
    (files : FileTree) (loud : options.quiet = false) (own : ownLine? names format = some line) :
    (∃ filter entities, here.Selects options argument input files filter entities ∧
      Ends (here.select options argument input names format) files
        ((entities.filter (satisfies filter)).map line)
        (.ok (matchCode !(entities.filter (satisfies filter)).isEmpty))) ∨
    (¬∃ filter entities, here.Selects options argument input files filter entities) ∧
      ∃ error, FailsSilently (here.select options argument input names format) files error := by
  cases found : (here.find options.config argument input files).result with
  | error error =>
    refine .inr ⟨?_, error, failsSilently_select_of_find options found names format⟩
    rintro ⟨filter, entities, selects⟩
    rw [find_of_selects selects] at found
    contradiction
  | ok both =>
    obtain ⟨filter, entities, selected⟩ := both
    obtain ⟨selects, rfl⟩ := selects_of_find options found
    refine .inl ⟨filter, entities, selects, ?_⟩
    have ends := ends_select options found names format
    simp only [mode_of_ownLine loud own, selectionLine_of_ownLine own] at ends
    cases names <;> exact ends

theorem told_of_silent (loud : options.quiet = false) (plain : options.json = false) :
    here.told options error =
      if options.noJson || here.terminal then ("", textOfLines (Report.errorLines error))
      else (textOfLines [(Report.failure error).line], "") := by
  unfold told Options.mode
  cases asked : options.noJson <;> cases shown : here.terminal <;> simp [loud, plain]

theorem textOfLines_singleton (line : String) : textOfLines [line] = line ++ "\n" := by
  simp [textOfLines]

theorem run_of_ends {invocation : Invocation} {printed : List String} {code : Int}
    (h : Ends (here.execute invocation) files printed (.ok code)) :
    (here.run files invocation).code = code ∧
      (here.run files invocation).output = textOfLines printed ∧
      (here.run files invocation).errors = "" := by
  unfold run
  simp only [h.1, h.2, and_self]

end

/-- Where names or a template are asked for, standard output holds the lines of the entities that
satisfy the filter, in order, and nothing else, unless what is needed cannot be had and the run
fails. The error goes to standard error if text is asked for or there is a terminal. Else it is told
as data on standard output. -/
theorem output_select {here : Surroundings} {options : Options} {argument : String}
    {input : Option String} {names : Bool} {format : Option String} {files : FileTree}
    {line : Entity → String} (loud : options.quiet = false) (plain : options.json = false)
    (own : ownLine? names format = some line) :
    let outcome := here.run files ⟨options, .select argument input names format⟩
    (∃ filter entities, here.Selects options argument input files filter entities ∧
      outcome.code = matchCode !(entities.filter (satisfies filter)).isEmpty ∧
      outcome.output = textOfLines ((entities.filter (satisfies filter)).map line) ∧
      outcome.errors = "") ∨
    (¬∃ filter entities, here.Selects options argument input files filter entities) ∧
      ∃ error, (here.select options argument input names format files).result = .error error ∧
        outcome.code = error.code ∧
        (outcome.output, outcome.errors) =
          if options.noJson || here.terminal then ("", textOfLines (Report.errorLines error))
          else (textOfLines [(Report.failure error).line], "") := by
  rcases select_cases here argument input files loud own with
    ⟨filter, entities, selects, ends⟩ | ⟨lacks, error, failed⟩
  · have ends : Ends (here.execute ⟨options, .select argument input names format⟩) files _ _ := ends
    exact .inl ⟨filter, entities, selects, run_of_ends ends⟩
  · have failed : FailsSilently
        (here.execute ⟨options, .select argument input names format⟩) files error := failed
    obtain ⟨code, told⟩ := run_of_failsSilently failed
    exact .inr ⟨lacks, error, failed.1, code, told.trans (told_of_silent loud plain)⟩

theorem output_select_nodes :
    let document := "[\x7bname:'a',labels:\x7brole:'x'\x7d\x7d,\x7bname:'b'\x7d]"
    let here : Surroundings := ⟨none, some "/home", document.toUTF8, false⟩
    let options : Options := { noJson := true }
    let outcome := here.run .empty ⟨options, .select "not role" none true none⟩
    options.quiet = false ∧ options.json = false ∧ ownLine? true none = some Entity.name ∧
      outcome.output = "b\n" ∧
      ∃ filter entities, here.Selects options "not role" none .empty filter entities ∧
        outcome.output = textOfLines ((entities.filter (satisfies filter)).map Entity.name) := by
  intro document here options outcome
  have succeeds : (here.select options "not role" none true none .empty).result.toOption.isSome =
      true := by
    decide +kernel
  refine ⟨rfl, rfl, rfl, by decide +kernel, ?_⟩
  have outcomes :=
    @output_select here options "not role" none true none .empty Entity.name rfl rfl rfl
  rcases outcomes with ⟨filter, entities, selects, _, output, _⟩ | ⟨_, error, failed, _⟩
  · exact ⟨filter, entities, selects, output⟩
  · rw [failed] at succeeds
    contradiction

/-- `role and` is no filter. Without a terminal the report of it stands among the names. -/
theorem output_select_malformed :
    let here : Surroundings := ⟨none, some "/home", "[\x7bname:'n'\x7d]".toUTF8, false⟩
    let outcome := here.run .empty ⟨{}, .select "role and" none true none⟩
    outcome.code = ExitCode.invalidFilter ∧ outcome.output ≠ "" ∧ outcome.errors = "" := by
  decide +kernel

end LabelQuery.Surroundings
