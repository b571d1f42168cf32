import LabelQuery.Proofs.Command.Checking
import LabelQuery.Proofs.Config.Edit
import LabelQuery.Proofs.Config.Store

/-!
Command lines one after another that use one configuration file, where there was none at first. Main
statement: what is saved is what the successful changes since then make of no filters, and it is
found again unless a saved expression holds a line separator beyond ASCII. Then every command that
reads the file fails until the configuration is reset.
-/
namespace LabelQuery

open Text

/-- A command that uses a filter, but for its filter argument. -/
inductive FilterUse
  | decide (labels : List (String × String)) (flags : List String)
  | select (input : Option String) (names : Bool) (format : Option String)
  | explain
  | check

def FilterUse.command (argument : String) : FilterUse → Command
  | decide labels flags => .decide argument labels flags
  | select input names format => .select argument input names format
  | explain => .explain argument
  | check => .check argument

/-- Tells whether a command is one that stores a configuration. -/
def Command.edits : Command → Bool
  | .config (.set _ _) | .config (.unset _) | .config .reset => true
  | _ => false

/-- What a command is expected to make of the saved filters. It changes them only if it succeeds. -/
def Command.remember (command : Command) (code : Int) (saved : Dict String) : Dict String :=
  if code = ExitCode.success then
    match command with
    | .config (.set key value) =>
      match Config.filterName? key with
      | some name => saved.insert name value
      | none => saved
    | .config (.unset name) => saved.erase name
    | .config .reset => .empty
    | _ => saved
  else saved

/-- Command lines that use the configuration at a path: the files that they leave, and the saved
filters that are expected then. -/
inductive Session (path : String) (start : FileTree) : FileTree → Dict String → Prop
  | start : Session path start start .empty
  | next {files : FileTree} {saved : Dict String} {here : Surroundings} {options : Options}
      {command : Command} : Session path start files saved → here.configPath options = .ok path →
      Session path start (here.run files ⟨options, command⟩).files
        (command.remember (here.run files ⟨options, command⟩).code saved)

/-- Nothing is at a path, and a file can be written there. -/
structure FileTree.Fresh (tree : FileTree) (path : String) : Prop where
  sound : tree.Sound
  vacant : tree.holds path = false
  writable : ∃ content written, tree.place path content = .ok written

theorem FileTree.fresh_empty : FileTree.empty.Fresh "c.json" where
  sound := fun _ _ _ => rfl
  vacant := by decide +kernel
  writable := ⟨.empty, _, rfl⟩

/-- A file was written at a path, and no other file has changed. -/
def FileTree.Rewritten (path : String) (files after : FileTree) : Prop :=
  ∃ last content, after.files = files.files.insert last content ∧
    after.locate path = .ok (.file last content)

namespace Config

/-- The files hold a configuration, or are those of the start and it is the default one. -/
inductive Kept (path : String) (start : FileTree) : FileTree → Config → Prop
  | default : Kept path start start {}
  | stored {files : FileTree} {last : String} {config : Config} :
      files.Stands path last config.document.toUTF8 → Kept path start files config

variable {path : String} {start files : FileTree} {config : Config}

theorem Kept.load (kept : Kept path start files config) (fresh : start.Fresh path)
    (small : config.settings.fuzzyThreshold < counterLimit) :
    load files path =
      if config.isLegible then .ok config.reread else .error (.malformed path .grammar) := by
  cases kept with
  | default =>
    have same : reread {} = {} := by decide
    rw [Config.load, fresh.vacant, same]
    rfl
  | stored stands =>
    have there : files.holds path = true := by rw [FileTree.holds, stands.located]
    rw [Config.load, if_pos there]
    exact read_of_stands stands small

/-- Storing never fails, and changes one file. -/
theorem Kept.store (kept : Kept path start files config) (fresh : start.Fresh path)
    (other : Config) :
    ∃ written, Config.store files path other = (written, .ok ()) ∧
      FileTree.Rewritten path files written ∧ Kept path start written other := by
  cases kept with
  | default =>
    obtain ⟨content, _, placed⟩ := fresh.writable
    obtain ⟨written, last, again, files, stands⟩ :=
      FileTree.place_again fresh.sound placed other.document.toUTF8
    exact ⟨written, store_eq_ok.2 again, ⟨last, _, files, stands.located⟩, .stored stands⟩
  | stored stands =>
    have stood := stands.withFile other.document.toUTF8
    refine ⟨_, store_eq_ok.2 (stands.place _), ?_, .stored stood⟩
    exact ⟨_, _, rfl, stood.located⟩

end Config

namespace Surroundings

open Run

/-! ### Commands that store nothing -/

theorem keepsFiles_present (mode : OutputMode) (result : Json) (lines : List String) :
    KeepsFiles (present mode result lines) := by
  cases mode with
  | json => exact .event _
  | quiet => exact .pure ()
  | text | names | format => exact keepsFiles_inTurn (fun _ => .event _) lines

theorem keepsFiles_noteAll (expressions : List String) : KeepsFiles (noteAll expressions) :=
  keepsFiles_inTurn (fun _ => .event _) _

theorem succeeds_noteAll (expressions : List String) : Succeeds (noteAll expressions) :=
  succeeds_inTurn (fun _ => .event _) _

/-- Commands that store nothing leave the files as they are. -/
theorem keepsFiles_execute (here : Surroundings) (options : Options) {command : Command}
    (h : command.edits = false) : KeepsFiles (here.execute ⟨options, command⟩) := by
  have prepares := keepsFiles_prepare here options
  have presents := fun result lines =>
    keepsFiles_present (options.mode false false here.terminal) result lines
  cases command with
  | decide argument labels flags =>
    exact .bind (prepares argument) fun _ => .bind (.ofExcept _ _) fun _ =>
      .bind (.event _) fun _ => .bind (presents _ _) fun _ => .pure _
  | select argument input names format =>
    exact .bind (prepares argument) fun _ => .bind (keepsFiles_readEntities here input) fun _ =>
      .bind (keepsFiles_warnUnknown _ _ _) fun _ => .bind (keepsFiles_selectFrom _ _) fun _ =>
        .bind (keepsFiles_present _ _ _) fun _ => .pure _
  | explain argument =>
    exact .bind (prepares argument) fun _ => .bind (presents _ _) fun _ => .pure _
  | check argument =>
    exact .bind (prepares argument) fun _ => .bind (.ofExcept _ _) fun _ =>
      .bind (presents _ _) fun _ => .pure _
  | config command =>
    cases command with
    | set | unset | reset => contradiction
    | display =>
      exact .bind (keepsFiles_loadConfig here options) fun _ => .bind (.event _) fun _ => .pure _
    | path => exact .bind (.ofExcept _ _) fun _ => .bind (.event _) fun _ => .pure _
    | default => exact .bind (.event _) fun _ => .pure _
    | verify =>
      refine .bind (.ofExcept _ _) fun path => .bind .files fun _ =>
        .bind (.ofExcept _ _) fun config => .bind (keepsFiles_noteAll _) fun _ =>
          .bind (keepsFiles_inTurn (fun _ => .event _) _) fun _ => ?_
      split
      · exact .pure _
      · exact fun _ => rfl

/-! ### Commands that store a configuration -/

/-- A run that ends well and leaves a configuration at a path. -/
def Stores (path : String) (start files : FileTree) (run : Run Int) (changed : Config) : Prop :=
  ∃ written, files.Rewritten path written ∧ changed.Kept path start written ∧
    Leaves run files (.ok ExitCode.success) written

/-- A run that fails for the configuration's sake and changes no file. -/
def Refuses (files : FileTree) (run : Run Int) : Prop :=
  ∃ error, error.code = ExitCode.configuration ∧ Leaves run files (.error error) files

/-- A run stores what an edit gives, or refuses if the edit is refused. -/
def Commits (path : String) (start files : FileTree) (run : Run Int)
    (edit : Except EditError Config) : Prop :=
  match edit with
  | .ok changed => Stores path start files run changed
  | .error _ => Refuses files run

section After

variable {α : Type} {run : Run α} {next : α → Run Int} {value : α} {path : String}
  {start files : FileTree} {changed : Config}

theorem stores_bind (hrun : Leaves run files (.ok value) files)
    (hnext : Stores path start files (next value) changed) :
    Stores path start files (run >>= next) changed := by
  obtain ⟨written, rewritten, keeps, leaves⟩ := hnext
  exact ⟨written, rewritten, keeps, hrun.bind leaves⟩

theorem refuses_bind (hrun : Leaves run files (.ok value) files)
    (hnext : Refuses files (next value)) : Refuses files (run >>= next) := by
  obtain ⟨error, code, leaves⟩ := hnext
  exact ⟨error, code, hrun.bind leaves⟩

end After

section Edits

variable {here : Surroundings} {options : Options} {path : String} {start files : FileTree}
  {config : Config} (atPath : here.configPath options = .ok path) (fresh : start.Fresh path)
  (kept : config.Kept path start files)

include atPath fresh kept

theorem leaves_loadConfig (small : config.settings.fuzzyThreshold < counterLimit) :
    Leaves (here.loadConfig options) files
      (if config.isLegible then .ok config.reread
        else .error (.ofConfiguration (StoreError.malformed path .grammar).message)) files := by
  apply (keepsFiles_loadConfig here options).leaves
  have result : (here.loadConfig options files).result =
      (Config.load files path).mapError fun error => .ofConfiguration error.message := by
    unfold loadConfig
    rw [atPath]
    exact result_ofExcept _ _ files
  rw [result, kept.load fresh small]
  split <;> rfl

/-- What is left to do once the configuration to store is there never fails. -/
theorem stores_storeConfig (changed : Config) (text : String) :
    Stores path start files
      (do here.storeConfig options changed; Run.print text; return ExitCode.success) changed := by
  obtain ⟨written, stored, rewritten, keeps⟩ := kept.store fresh changed
  have stores : Leaves (here.storeConfig options changed) files (.ok ()) written := by
    unfold storeConfig
    rw [atPath]
    have changes : Leaves (Run.change (fun error : StoreError => .other error.message)
        fun files => Config.store files path changed) files (.ok ()) written := by
      simp only [Leaves, Run.change, stored, and_true]
      rfl
    have named : Leaves (Run.ofExcept (fun error : StoreError => .other error.message) (.ok path))
      files (.ok path) files := ⟨rfl, rfl⟩
    exact named.bind changes
  have prints : Leaves (Run.print text) written (.ok ()) written := ⟨rfl, rfl⟩
  exact ⟨written, rewritten, keeps, stores.bind (prints.bind ⟨rfl, rfl⟩)⟩

theorem execute_reset :
    Stores path start files (here.execute ⟨options, .config .reset⟩) {} :=
  stores_storeConfig atPath fresh kept {} _

theorem refuses_of_illegible (small : config.settings.fuzzyThreshold < counterLimit)
    (illegible : config.isLegible = false) (next : Config → Run Int) :
    Refuses files (here.loadConfig options >>= next) := by
  have loads := leaves_loadConfig atPath fresh kept small
  rw [if_neg (by simp [illegible])] at loads
  exact ⟨_, rfl, loads.fails next⟩

theorem execute_set (small : config.settings.fuzzyThreshold < counterLimit)
    (legible : config.isLegible = true) (key value : String) :
    Commits path start files (here.execute ⟨options, .config (.set key value)⟩)
      (config.reread.set key value) := by
  have loads := leaves_loadConfig atPath fresh kept small
  rw [if_pos legible] at loads
  obtain ⟨_, noted⟩ := succeeds_noteAll (expressionToSave key value) files
  have notes := (keepsFiles_noteAll (expressionToSave key value)).leaves noted
  cases edited : config.reread.set key value with
  | ok changed =>
    have stores := stores_storeConfig atPath fresh kept changed ("Set " ++ key ++ " = " ++ value)
    exact stores_bind loads (stores_bind notes (stores_bind (leaves_of_ok edited _ files) stores))
  | error error =>
    exact refuses_bind loads (refuses_bind notes ⟨_, rfl, (leaves_of_error edited _ files).fails _⟩)

theorem execute_unset (small : config.settings.fuzzyThreshold < counterLimit)
    (legible : config.isLegible = true) (name : String) :
    Commits path start files (here.execute ⟨options, .config (.unset name)⟩)
      ((config.reread.remove name).map (·.2)) := by
  have loads := leaves_loadConfig atPath fresh kept small
  rw [if_pos legible] at loads
  cases edited : config.reread.remove name with
  | ok both =>
    have stores := stores_storeConfig atPath fresh kept both.2 ("Removed filter '" ++ name ++ "'")
    exact stores_bind loads (stores_bind (leaves_of_ok edited _ files) stores)
  | error error =>
    exact refuses_bind loads ⟨_, rfl, (leaves_of_error edited _ files).fails _⟩

end Edits

/-! ### One command line -/

theorem files_run (here : Surroundings) (files : FileTree) (invocation : Invocation) :
    (here.run files invocation).files = (here.execute invocation files).files := by
  unfold run
  dsimp only
  split
  · rfl
  · split <;> rfl

section Step

variable {here : Surroundings} {options : Options} {command : Command} {path : String}
  {start files : FileTree} {config changed : Config}

theorem run_of_stores (h : Stores path start files (here.execute ⟨options, command⟩) changed) :
    let outcome := here.run files ⟨options, command⟩
    outcome.code = ExitCode.success ∧ files.Rewritten path outcome.files ∧
      changed.Kept path start outcome.files := by
  obtain ⟨written, rewritten, keeps, result, rfl⟩ := h
  dsimp only
  rw [files_run, code_run_of_ok result]
  exact ⟨rfl, rewritten, keeps⟩

theorem run_of_refuses (h : Refuses files (here.execute ⟨options, command⟩)) :
    let outcome := here.run files ⟨options, command⟩
    outcome.code = ExitCode.configuration ∧ outcome.files = files := by
  obtain ⟨error, code, result, kept⟩ := h
  dsimp only
  rw [files_run, code_run_of_error result, code]
  exact ⟨rfl, kept⟩

theorem code_iff_of_commits {edit : Except EditError Config}
    (h : Commits path start files (here.execute ⟨options, command⟩) edit) :
    (here.run files ⟨options, command⟩).code = ExitCode.success ↔
      ∃ changed, edit = .ok changed := by
  cases edit with
  | ok changed => exact iff_of_true (run_of_stores h).1 ⟨changed, rfl⟩
  | error error =>
    have code := (run_of_refuses h).1
    constructor
    · intro success
      exact absurd (code.symm.trans success) (by decide)
    · rintro ⟨changed, edited⟩
      contradiction

theorem remember_of_not_success {code : Int} (failed : code ≠ ExitCode.success)
    (saved : Dict String) : command.remember code saved = saved :=
  if_neg failed

theorem remember_of_not_edits (h : command.edits = false) (code : Int) (saved : Dict String) :
    command.remember code saved = saved := by
  unfold Command.remember
  split
  · cases command with
    | decide | select | explain | check => rfl
    | config command =>
      cases command with
      | set | unset | reset => contradiction
      | display | path | default | verify => rfl
  · rfl

/-- A command that stores a configuration stores one with the filters that are expected, or it is
refused. -/
theorem stores_or_refuses (atPath : here.configPath options = .ok path) (fresh : start.Fresh path)
    (kept : config.Kept path start files) (sane : config.Sane) (edits : command.edits = true) :
    Refuses files (here.execute ⟨options, command⟩) ∨
    ∃ changed : Config, changed.Sane ∧
      changed.filters = command.remember ExitCode.success config.filters ∧
      Stores path start files (here.execute ⟨options, command⟩) changed := by
  cases command with
  | decide | select | explain | check => contradiction
  | config command =>
    cases command with
    | display | path | default | verify => contradiction
    | reset => exact .inr ⟨{}, Config.sane_default, rfl, execute_reset atPath fresh kept⟩
    | set key value =>
      cases legible : config.isLegible with
      | false => exact .inl (refuses_of_illegible atPath fresh kept sane.small legible _)
      | true =>
        have commits := execute_set atPath fresh kept sane.small legible key value
        cases edited : config.reread.set key value with
        | error error =>
          rw [edited] at commits
          exact .inl commits
        | ok changed =>
          -- what is edited was read back, so its threshold may differ, but not its filters
          rw [edited] at commits
          refine .inr ⟨changed, sane.reread.set edited, ?_, commits⟩
          rw [Config.filters_of_set edited]
          show _ = match Config.filterName? key with
            | some name => config.filters.insert name value
            | none => config.filters
          cases Config.filterName? key <;> rfl
    | unset name =>
      cases legible : config.isLegible with
      | false => exact .inl (refuses_of_illegible atPath fresh kept sane.small legible _)
      | true =>
        have commits := execute_unset atPath fresh kept sane.small legible name
        cases edited : config.reread.remove name with
        | error error =>
          rw [edited] at commits
          exact .inl commits
        | ok both =>
          rw [edited] at commits
          obtain ⟨-, erased⟩ := Config.remove_eq_ok.1 edited
          exact .inr ⟨both.2, sane.reread.remove edited, by rw [erased]; rfl, commits⟩

/-- One command line either leaves the files and what is expected of them as they are, or stores
what is expected. -/
theorem run_cases (atPath : here.configPath options = .ok path) (fresh : start.Fresh path)
    (kept : config.Kept path start files) (sane : config.Sane) (command : Command) :
    let outcome := here.run files ⟨options, command⟩
    (outcome.files = files ∧ command.remember outcome.code config.filters = config.filters) ∨
    (command.edits = true ∧ outcome.code = ExitCode.success ∧ files.Rewritten path outcome.files ∧
      ∃ changed : Config, changed.Sane ∧ changed.Kept path start outcome.files ∧
        changed.filters = command.remember outcome.code config.filters) := by
  intro outcome
  cases edits : command.edits with
  | false =>
    have same : outcome.files = files :=
      (files_run here files _).trans (keepsFiles_execute here options edits files)
    exact .inl ⟨same, remember_of_not_edits edits _ _⟩
  | true =>
    rcases stores_or_refuses atPath fresh kept sane edits with
      refuses | ⟨changed, saneChanged, expected, stores⟩
    · obtain ⟨code, same⟩ := run_of_refuses refuses
      have failed : outcome.code ≠ ExitCode.success := by
        rw [code]
        decide
      exact .inl ⟨same, remember_of_not_success failed _⟩
    · obtain ⟨code, rewritten, keeps⟩ := run_of_stores stores
      refine .inr ⟨rfl, code, rewritten, changed, saneChanged, keeps, ?_⟩
      rw [expected]
      exact congrArg (command.remember · config.filters) code.symm

end Step

/-! ### What a command finds -/

section Finds

variable {here : Surroundings} {options : Options} {path : String} {start files : FileTree}
  {config : Config} (atPath : here.configPath options = .ok path) (fresh : start.Fresh path)
  (kept : config.Kept path start files) (sane : config.Sane)

/-- A filter argument is used to prepare the filter and for nothing else. -/
theorem execute_use (here : Surroundings) (options : Options) (use : FilterUse) :
    ∃ next : Config × Filter → Run Int, ∀ argument,
      here.execute ⟨options, use.command argument⟩ = here.prepare options argument >>= next := by
  cases use with
  | decide | select | explain | check =>
    apply Exists.intro
    intro argument
    dsimp only [FilterUse.command, execute, Surroundings.decide, select, explain, check]

theorem code_of_unprepared {argument : String} {error : CommandError} (use : FilterUse)
    (h : (here.prepare options argument files).result = .error error) :
    (here.run files ⟨options, use.command argument⟩).code = error.code := by
  obtain ⟨next, uses⟩ := execute_use here options use
  apply code_run_of_error
  rw [uses]
  exact result_bind_of_error h next

theorem endsLike_of_ends {invocation other : Invocation} {left : FileTree} {printed : List String}
    {result : Except CommandError Int} (same : invocation.options = other.options)
    (h : Ends (here.execute invocation) files printed result)
    (hother : Ends (here.execute other) left printed result) :
    EndsLike (here.run files invocation) (here.run left other) := by
  unfold EndsLike run
  simp only [h.1, h.2, hother.1, hother.2, same]
  split
  · exact ⟨rfl, rfl, rfl⟩
  · split <;> exact ⟨rfl, rfl, rfl⟩

/-- Two arguments that are prepared alike are told apart only by what is noted. -/
theorem endsLike_of_prepared {argument other : String} {both : Config × Filter} (use : FilterUse)
    (h : (here.prepare options argument files).result = .ok both)
    (hother : (here.prepare options other files).result = .ok both) :
    EndsLike (here.run files ⟨options, use.command argument⟩)
      (here.run files ⟨options, use.command other⟩) := by
  obtain ⟨next, uses⟩ := execute_use here options use
  have ends {argument : String} (h : (here.prepare options argument files).result = .ok both) :
      Ends (here.execute ⟨options, use.command argument⟩) files
        (printedLines (next both files).events) (next both files).result := by
    rw [uses]
    apply Ends.after (silent_prepare here options argument) h
    rw [keepsFiles_prepare]
    exact ⟨rfl, rfl⟩
  exact endsLike_of_ends rfl (ends h) (ends hother)

theorem result_compileArgument_of_ok {argument expression : String} {filter : Filter}
    (resolved : config.resolve argument = .ok expression)
    (compiled : Filter.compile expression = .ok filter) :
    (compileArgument config argument files).result = .ok filter := by
  rw [result_compileArgument, resolved]
  show (Filter.compile expression).mapError _ = _
  rw [compiled]
  rfl

include atPath fresh kept sane

theorem prepare_of_resolve (legible : config.isLegible = true) {argument expression : String}
    {filter : Filter} (resolved : config.reread.resolve argument = .ok expression)
    (compiled : Filter.compile expression = .ok filter) :
    (here.prepare options argument files).result = .ok (config.reread, filter) := by
  have loads := leaves_loadConfig atPath fresh kept sane.small
  rw [if_pos legible] at loads
  have compiles : Leaves (compileArgument config.reread argument) files (.ok filter) files :=
    (keepsFiles_compileArgument _ _).leaves (result_compileArgument_of_ok resolved compiled)
  have returns : Leaves (pure (config.reread, filter)) files (.ok (config.reread, filter)) files :=
    ⟨rfl, rfl⟩
  exact (loads.bind (compiles.bind returns)).1

theorem prepare_saved (legible : config.isLegible = true) {name expression : String}
    (found : config.filters.get? name = some expression) :
    ∃ filter, Filter.compile expression = .ok filter ∧
      (here.prepare options ("@" ++ name) files).result = .ok (config.reread, filter) := by
  obtain ⟨filter, compiled⟩ := sane.compiles name expression found
  have found : config.reread.filters.get? name = some expression := found
  have resolved : config.reread.resolve ("@" ++ name) = .ok expression := by
    rw [Config.resolve_marked, found]
  exact ⟨filter, compiled, prepare_of_resolve atPath fresh kept sane legible resolved compiled⟩

/-- A saved expression is used like the expression itself. -/
theorem endsLike_saved (legible : config.isLegible = true) {name expression : String}
    (found : config.filters.get? name = some expression)
    (unmarked : expression.toList.head? ≠ some '@') (use : FilterUse) :
    EndsLike (here.run files ⟨options, use.command ("@" ++ name)⟩)
      (here.run files ⟨options, use.command expression⟩) := by
  obtain ⟨filter, compiled, prepared⟩ := prepare_saved atPath fresh kept sane legible found
  have itself := Config.resolve_unmarked config.reread unmarked
  exact endsLike_of_prepared use prepared
    (prepare_of_resolve atPath fresh kept sane legible itself compiled)

theorem prepare_unsaved (legible : config.isLegible = true) {name : String}
    (missing : config.filters.get? name = none) :
    (here.prepare options ("@" ++ name) files).result =
      .error (.ofUnknownFilter ⟨name, config.reread.suggestFilters name⟩) := by
  have loads := leaves_loadConfig atPath fresh kept sane.small
  rw [if_pos legible] at loads
  have missing : config.reread.filters.get? name = none := missing
  have resolved := Config.resolve_marked config.reread name
  rw [missing] at resolved
  exact (loads.bind (((leaves_of_error resolved _ files).fails _).fails _)).1

theorem code_set_iff (legible : config.isLegible = true) {name expression : String} :
    (here.run files ⟨options, .config (.set ("filters." ++ name) expression)⟩).code =
        ExitCode.success ↔
      name ≠ "" ∧ name.toList.head? ≠ some '@' ∧ (∀ c ∈ name.toList, isBlank c = false) ∧
        Balanced (tokenize expression) := by
  have saves : config.reread.set ("filters." ++ name) expression =
      config.reread.save name expression := by
    unfold Config.set
    rw [show "filters." ++ name = Config.filterKey ++ name from rfl, Config.filterName?_filterKey]
  have commits := execute_set atPath fresh kept sane.small legible ("filters." ++ name) expression
  rw [code_iff_of_commits commits, saves]
  constructor
  · rintro ⟨changed, saved⟩
    obtain ⟨faultless, balanced, -⟩ := Config.save_eq_ok.1 saved
    obtain ⟨nonempty, unmarked, solid⟩ := nameFault?_eq_none.1 faultless
    exact ⟨nonempty, unmarked, solid, balanced⟩
  · rintro ⟨nonempty, unmarked, solid, balanced⟩
    have faultless := nameFault?_eq_none.2 ⟨nonempty, unmarked, solid⟩
    exact ⟨_, Config.save_eq_ok.2 ⟨faultless, balanced, rfl⟩⟩

theorem code_unset_iff (legible : config.isLegible = true) {name : String} :
    (here.run files ⟨options, .config (.unset name)⟩).code = ExitCode.success ↔
      config.filters.contains name = true := by
  rw [code_iff_of_commits (execute_unset atPath fresh kept sane.small legible name)]
  unfold Config.remove Dict.contains
  show _ ↔ (config.reread.filters.get? name).isSome = true
  cases config.reread.filters.get? name <;> simp [Except.map]

/-- A malformed file stops every command that reads it. -/
theorem prepare_illegible (illegible : config.isLegible = false) (argument : String) :
    ∃ error, error.code = ExitCode.configuration ∧
      (here.prepare options argument files).result = .error error := by
  have loads := leaves_loadConfig atPath fresh kept sane.small
  rw [if_neg (by simp [illegible])] at loads
  exact ⟨_, rfl, (loads.fails _).1⟩

end Finds

end Surroundings

open Surroundings

/-- At every point of a session the files hold a configuration with the filters that are
expected. -/
theorem Session.kept {path : String} {start files : FileTree} {saved : Dict String}
    (session : Session path start files saved) (fresh : start.Fresh path) :
    ∃ config : Config, config.filters = saved ∧ config.Sane ∧ config.Kept path start files := by
  -- the filters alone would not do: the next line loads and stores the settings with them, and a
  -- saved expression has to compile where it is used
  induction session with
  | start => exact ⟨{}, rfl, Config.sane_default, .default⟩
  | @next _ _ _ _ command _ atPath ih =>
    obtain ⟨config, rfl, sane, kept⟩ := ih
    rcases run_cases atPath fresh kept sane command with
      ⟨same, unchanged⟩ | ⟨-, -, -, changed, saneChanged, keeps, expected⟩
    · rw [same, unchanged]
      exact ⟨config, rfl, sane, kept⟩
    · exact ⟨changed, expected, saneChanged, keeps⟩

/-- What is saved is found: the file holds it, a marked argument stands for the expression saved
under its name, which is compiled as it is, and a change succeeds if and only if it is in order. -/
structure Recalls (here : Surroundings) (options : Options) (files : FileTree)
    (saved : Dict String) : Prop where
  loaded : ∃ config, (here.loadConfig options files).result = .ok config ∧ config.filters = saved
  prepared : ∀ name expression, saved.get? name = some expression →
    ∃ config filter, config.filters = saved ∧ Filter.compile expression = .ok filter ∧
      (here.prepare options ("@" ++ name) files).result = .ok (config, filter)
  alike : ∀ name expression (use : FilterUse), saved.get? name = some expression →
    expression.toList.head? ≠ some '@' →
    EndsLike (here.run files ⟨options, use.command ("@" ++ name)⟩)
      (here.run files ⟨options, use.command expression⟩)
  unknown : ∀ name (use : FilterUse), saved.get? name = none →
    (here.run files ⟨options, use.command ("@" ++ name)⟩).code = ExitCode.invalidArguments
  set_iff : ∀ name expression,
    (here.run files ⟨options, .config (.set ("filters." ++ name) expression)⟩).code =
        ExitCode.success ↔
      name ≠ "" ∧ name.toList.head? ≠ some '@' ∧ (∀ c ∈ name.toList, isBlank c = false) ∧
        Balanced (tokenize expression)
  unset_iff : ∀ name, (here.run files ⟨options, .config (.unset name)⟩).code = ExitCode.success ↔
    saved.contains name = true

/-- What is saved cannot be read, nor changed one by one. -/
structure Stuck (here : Surroundings) (options : Options) (files : FileTree) : Prop where
  uses : ∀ (use : FilterUse) argument,
    (here.run files ⟨options, use.command argument⟩).code = ExitCode.configuration
  set : ∀ key value,
    (here.run files ⟨options, .config (.set key value)⟩).code = ExitCode.configuration
  unset : ∀ name, (here.run files ⟨options, .config (.unset name)⟩).code = ExitCode.configuration

section Tracking

variable {path : String} {start files : FileTree} {saved : Dict String}
  (session : Session path start files saved) (fresh : start.Fresh path) {here : Surroundings}
  {options : Options} (atPath : here.configPath options = .ok path)

include session fresh atPath

theorem Session.recalls (legible : Config.isLegible { filters := saved } = true) :
    Recalls here options files saved := by
  obtain ⟨config, rfl, sane, kept⟩ := session.kept fresh
  have legible : config.isLegible = true := legible
  constructor
  · have loads := leaves_loadConfig atPath fresh kept sane.small
    rw [if_pos legible] at loads
    exact ⟨config.reread, loads.1, rfl⟩
  · intro name expression found
    obtain ⟨filter, compiled, prepared⟩ := prepare_saved atPath fresh kept sane legible found
    exact ⟨config.reread, filter, rfl, compiled, prepared⟩
  · intro name expression use found unmarked
    exact endsLike_saved atPath fresh kept sane legible found unmarked use
  · intro name use missing
    exact code_of_unprepared use (prepare_unsaved atPath fresh kept sane legible missing)
  · intro name expression
    exact code_set_iff atPath fresh kept sane legible
  · intro name
    exact code_unset_iff atPath fresh kept sane legible

theorem Session.stuck (illegible : Config.isLegible { filters := saved } = false) :
    Stuck here options files := by
  obtain ⟨config, rfl, sane, kept⟩ := session.kept fresh
  have illegible : config.isLegible = false := illegible
  constructor
  · intro use argument
    obtain ⟨error, code, unprepared⟩ := prepare_illegible atPath fresh kept sane illegible argument
    rw [code_of_unprepared use unprepared, code]
  · intro key value
    have refuses : Refuses files (here.execute ⟨options, .config (.set key value)⟩) :=
      refuses_of_illegible atPath fresh kept sane.small illegible _
    exact (run_of_refuses refuses).1
  · intro name
    have refuses : Refuses files (here.execute ⟨options, .config (.unset name)⟩) :=
      refuses_of_illegible atPath fresh kept sane.small illegible _
    exact (run_of_refuses refuses).1

/-- A session saves what its successful changes say, and finds it again as long as no name and no
expression in it holds a line separator beyond ASCII. Else what reads the file fails, and only a
reset mends it. Whatever is saved, only a change that succeeds writes a file, and it writes that of
the configuration. -/
theorem Session.tracks_saved :
    (Config.isLegible { filters := saved } = true → Recalls here options files saved) ∧
    (Config.isLegible { filters := saved } = false → Stuck here options files) ∧
    (here.run files ⟨options, .config .reset⟩).code = ExitCode.success ∧
    ∀ command, let outcome := here.run files ⟨options, command⟩
      outcome.files = files ∨
        command.edits = true ∧ outcome.code = ExitCode.success ∧
          files.Rewritten path outcome.files := by
  obtain ⟨config, rfl, sane, kept⟩ := session.kept fresh
  refine ⟨session.recalls fresh atPath, session.stuck fresh atPath, ?_, fun command => ?_⟩
  · exact (run_of_stores (execute_reset atPath fresh kept)).1
  · rcases run_cases atPath fresh kept sane command with
      ⟨same, -⟩ | ⟨edits, code, rewritten, -⟩
    · exact .inl same
    · exact .inr ⟨edits, code, rewritten⟩

end Tracking

/-- A filter that is saved under a name is found under it, and no other is. -/
theorem Session.tracks_saved_role :
    let here : Surroundings := ⟨none, none, .empty, false⟩
    let options : Options := { config := some "c.json" }
    let outcome := here.run .empty ⟨options, .config (.set "filters.a" "role")⟩
    outcome.code = ExitCode.success ∧ here.configPath options = .ok "c.json" ∧
      FileTree.empty.Fresh "c.json" ∧
      Session "c.json" .empty outcome.files (.ofList [("a", "role")]) ∧
      EndsLike (here.run outcome.files ⟨options, .check "@a"⟩)
        (here.run outcome.files ⟨options, .check "role"⟩) ∧
      (here.run outcome.files ⟨options, .check "@b"⟩).code = ExitCode.invalidArguments := by
  intro here options outcome
  have code : outcome.code = ExitCode.success := by decide +kernel
  have session : Session "c.json" .empty outcome.files (.ofList [("a", "role")]) := by
    have after : Session "c.json" .empty outcome.files _ := .next .start rfl
    rwa [show here.run .empty ⟨options, .config (.set "filters.a" "role")⟩ = outcome from rfl, code]
      at after
  have tracks := @Session.tracks_saved _ _ _ _ session FileTree.fresh_empty here options rfl
  have recalls := tracks.1 (by decide +kernel)
  refine ⟨code, rfl, FileTree.fresh_empty, session, ?_, ?_⟩
  · exact recalls.alike "a" "role" .check (by decide) (by decide)
  · exact recalls.unknown "b" .check (by decide)

/-- A line separator is saved, and then nothing that reads the file succeeds. -/
theorem Session.stuck_separator :
    let here : Surroundings := ⟨none, none, .empty, false⟩
    let options : Options := { config := some "c.json" }
    let outcome := here.run .empty ⟨options, .config (.set "filters.a" "x\u2028y")⟩
    outcome.code = ExitCode.success ∧
      (here.run outcome.files ⟨options, .decide "@a" [("x", "1")] []⟩).code =
        ExitCode.configuration := by
  decide +kernel

end LabelQuery
