import LabelQuery.Proofs.Command.Selection
import LabelQuery.Proofs.Command.Session
import LabelQuery.Proofs.Number.Nearest

/-!
The threshold in a configuration file, from the command line that sets it to the one that sets it
again. Main statement: whatever comes between, also with other files, what reads the file finds the
threshold that a double made of the one that was set.
-/
namespace LabelQuery

open Config

theorem Settings.writeBlock_toJson (settings : Settings) :
    ∃ rest, Json.writeBlock 1 settings.toJson =
      '\x7b' :: "\n    \"fuzzy_threshold\": ".toList ++ (toString settings.fuzzyThreshold).toList ++
        ",\n".toList ++ rest := by
  have name : "\n    \"fuzzy_threshold\": ".toList =
      Json.newline 2 ++ Json.writeText "fuzzy_threshold" ++ [':', ' '] := by decide
  have next : Json.newline 2 = '\n' :: "    ".toList := by decide
  have comma : ",\n".toList = [',', '\n'] := by decide
  refine ⟨"    ".toList ++ (Json.writeText "warn_unknown_labels" ++ ':' :: ' ' ::
    Json.writeScalar (.bool settings.warnUnknownLabels) ++ Json.newline 1 ++ ['\x7d']), ?_⟩
  simp [toJson, Json.writeBlock, Json.writeBlockFields, Json.writeScalar_int, name, comma, next]

/-- The number that is shown ends its line. -/
theorem Config.document_threshold (config : Config) :
    ∃ before after : String, config.document =
      before ++ "\n    \"fuzzy_threshold\": " ++ toString config.settings.fuzzyThreshold ++ ",\n" ++
        after := by
  obtain ⟨rest, settings⟩ := config.settings.writeBlock_toJson
  have split (filters : Json) : ∃ before after,
      Json.writeBlock 0 (.obj [("filters", filters), ("settings", config.settings.toJson)]) =
        before ++ Json.writeBlock 1 config.settings.toJson ++ after := by
    refine ⟨'\x7b' :: (Json.newline 1 ++ Json.writeText "filters" ++ ':' :: ' ' ::
      Json.writeBlock 1 filters ++ ',' ::
        (Json.newline 1 ++ Json.writeText "settings" ++ [':', ' '])),
      Json.newline 0 ++ ['\x7d'], ?_⟩
    simp [Json.writeBlock, Json.writeBlockFields]
  obtain ⟨before, after, whole⟩ :=
    split (.obj (config.filters.entries.map fun entry => (entry.1, .str entry.2)))
  refine ⟨String.ofList (before ++ ['\x7b']), String.ofList (rest ++ after), String.toList_inj.1 ?_⟩
  rw [document, Json.block, String.toList_ofList, toJson, whole, settings]
  simp

/-- The file under a key holds a configuration that is read with some threshold. -/
def FileTree.Retains (tree : FileTree) (last : String) (threshold : Nat) : Prop :=
  ∃ config : Config, tree.files.get? last = some config.document.toUTF8 ∧
    config.settings.fuzzyThreshold < counterLimit ∧
    storedThreshold config.settings.fuzzyThreshold = threshold

section Retains

variable {tree : FileTree} {path last : String} {threshold : Nat} {content : ByteArray}

/-- What the file holds is read back with the threshold, if it can be read. -/
theorem Config.load_of_retains (retains : tree.Retains last threshold)
    (located : tree.locate path = .ok (.file last content)) :
    ∃ stored : Config, content = stored.document.toUTF8 ∧
      stored.reread.settings.fuzzyThreshold = threshold ∧ threshold < counterLimit ∧
      storedThreshold threshold = threshold ∧
      load tree path =
        if stored.isLegible then .ok stored.reread else .error (.malformed path .grammar) := by
  obtain ⟨stored, holds, small, rfl⟩ := retains
  have there : tree.holds path = true := by rw [FileTree.holds, located]
  obtain rfl : content = stored.document.toUTF8 :=
    Option.some.inj ((FileTree.get?_of_locate located).symm.trans holds)
  have text : tree.readText path = .ok stored.document := by
    rw [FileTree.readText, located]
    exact FileTree.decode_toUTF8 stored.document
  refine ⟨stored, rfl, rfl, storedThreshold_lt small, storedThreshold_again small, ?_⟩
  rw [load, if_pos there, read, text]
  by_cases legible : stored.isLegible = true <;> simp [parse_document small, legible]

end Retains

namespace Surroundings

open Run

/-! ### Commands that edit, started with any files -/

/-- What a command stores that edits the configuration which it has found. -/
inductive Makes (found : Except StoreError Config) : Command → Config → Prop
  | reset : Makes found (.config .reset) {}
  | set {config changed : Config} {key value : String} (loaded : found = .ok config)
      (edited : config.set key value = .ok changed) : Makes found (.config (.set key value)) changed
  | unset {config changed : Config} {name text : String} (loaded : found = .ok config)
      (edited : config.remove name = .ok (text, changed)) :
      Makes found (.config (.unset name)) changed

/-- A run fails and leaves the files. -/
def Fails (files : FileTree) (run : Run Int) : Prop :=
  ∃ error, error.code ≠ ExitCode.success ∧ Leaves run files (.error error) files

/-- A run stores a configuration, if it can be stored. -/
def Saves (files : FileTree) (run : Run Int) (path : String) (config : Config) : Prop :=
  ∃ written,
    Config.store files path config = (written, .ok ()) ∧
        Leaves run files (.ok ExitCode.success) written ∨
      ∃ error, Config.store files path config = (written, .error error) ∧
        Leaves run files (.error (.other error.message)) written

section After

variable {α : Type} {run : Run α} {next : α → Run Int} {value : α} {files : FileTree}
  {path : String} {config : Config} {error : CommandError}

theorem fails_bind (hrun : Leaves run files (.ok value) files) (hnext : Fails files (next value)) :
    Fails files (run >>= next) := by
  obtain ⟨error, code, leaves⟩ := hnext
  exact ⟨error, code, hrun.bind leaves⟩

theorem fails_first (hrun : Leaves run files (.error error) files)
    (code : error.code ≠ ExitCode.success) : Fails files (run >>= next) :=
  ⟨error, code, hrun.fails next⟩

theorem saves_bind (hrun : Leaves run files (.ok value) files)
    (hnext : Saves files (next value) path config) : Saves files (run >>= next) path config := by
  obtain ⟨written, ⟨stored, leaves⟩ | ⟨error, stored, leaves⟩⟩ := hnext
  · exact ⟨written, .inl ⟨stored, hrun.bind leaves⟩⟩
  · exact ⟨written, .inr ⟨error, stored, hrun.bind leaves⟩⟩

end After

section Edit

variable {here : Surroundings} {options : Options} {path last : String} {files : FileTree}
  {command : Command}

/-- The configuration that a command finds. -/
def found (here : Surroundings) (options : Options) (files : FileTree) :
    Except StoreError Config := do
  let path ← here.configPath options
  Config.load files path

theorem found_of_path (atPath : here.configPath options = .ok path) (files : FileTree) :
    here.found options files = Config.load files path := by
  rw [found, atPath]
  rfl

theorem leaves_found (here : Surroundings) (options : Options) (files : FileTree) :
    Leaves (here.loadConfig options) files
      ((here.found options files).mapError fun error => .ofConfiguration error.message) files :=
  (keepsFiles_loadConfig here options).leaves (result_ofExcept _ _ files)

theorem loads_or_fails (here : Surroundings) (options : Options) (files : FileTree) :
    (∃ path config, here.configPath options = .ok path ∧ Config.load files path = .ok config ∧
      Leaves (here.loadConfig options) files (.ok config) files) ∨
    ∀ next, Fails files (here.loadConfig options >>= next) := by
  have code : ExitCode.configuration ≠ ExitCode.success := by decide
  have leaves := leaves_found here options files
  cases loads : here.found options files with
  | error error =>
    rw [loads] at leaves
    exact .inr fun next => fails_first leaves code
  | ok config =>
    rw [loads] at leaves
    cases named : here.configPath options with
    | error error =>
      rw [found, named] at loads
      contradiction
    | ok path =>
      have loaded := (found_of_path named files).symm.trans loads
      exact .inl ⟨path, config, rfl, loaded, leaves⟩

theorem storeConfig_of_homeless {error : StoreError}
    (homeless : here.configPath options = .error error) (files : FileTree) (changed : Config)
    (next : Unit → Run Int) : Fails files (here.storeConfig options changed >>= next) := by
  have fails : Leaves (here.storeConfig options changed) files (.error (.other error.message))
      files := by
    unfold storeConfig
    rw [homeless]
    exact ⟨rfl, rfl⟩
  have code : ExitCode.failure ≠ ExitCode.success := by decide
  exact fails_first fails code

theorem saves_storeConfig (atPath : here.configPath options = .ok path) (files : FileTree)
    (changed : Config) (text : String) :
    Saves files
      (do here.storeConfig options changed; Run.print text; return ExitCode.success)
      path changed := by
  rcases stored : Config.store files path changed with ⟨written, result⟩
  have stores : Leaves (here.storeConfig options changed) files
      (result.mapError fun error => .other error.message) written := by
    unfold storeConfig
    rw [atPath]
    have named : Leaves (Run.ofExcept (fun error : StoreError => .other error.message) (.ok path))
      files (.ok path) files := ⟨rfl, rfl⟩
    have changes :=
      @leaves_change _ (fun files => Config.store files path changed) _ _ _ stored
    exact named.bind (changes _)
  cases result with
  | error error => exact ⟨written, .inr ⟨error, stored, stores.fails _⟩⟩
  | ok done =>
    have prints : Leaves (Run.print text) written (.ok ()) written := ⟨rfl, rfl⟩
    exact ⟨written, .inl ⟨stored, stores.bind (prints.bind ⟨rfl, rfl⟩)⟩⟩

/-- A command that edits fails and leaves the files, or it stores what the edit makes of the
configuration it has found. -/
theorem execute_edits (here : Surroundings) (options : Options) (files : FileTree)
    (edits : command.edits = true) :
    Fails files (here.execute ⟨options, command⟩) ∨
    ∃ path changed, here.configPath options = .ok path ∧
      Makes (Config.load files path) command changed ∧
      Saves files (here.execute ⟨options, command⟩) path changed := by
  have code : ExitCode.configuration ≠ ExitCode.success := by decide
  cases command with
  | decide | select | explain | check => contradiction
  | config command =>
    cases command with
    | display | path | default | verify => contradiction
    | reset =>
      cases named : here.configPath options with
      | error error => exact .inl (storeConfig_of_homeless named files {} _)
      | ok path => exact .inr ⟨path, {}, rfl, .reset, saves_storeConfig named files {} _⟩
    | set key value =>
      rcases loads_or_fails here options files with ⟨path, config, named, found, loads⟩ | fails
      · obtain ⟨_, noted⟩ := succeeds_noteAll (expressionToSave key value) files
        have notes := (keepsFiles_noteAll (expressionToSave key value)).leaves noted
        cases edited : config.set key value with
        | error error =>
          exact .inl (fails_bind loads (fails_bind notes
            (fails_first (leaves_of_error edited _ files) code)))
        | ok changed =>
          have saves := saves_storeConfig named files changed ("Set " ++ key ++ " = " ++ value)
          exact .inr ⟨path, changed, named, .set found edited,
            saves_bind loads (saves_bind notes (saves_bind (leaves_of_ok edited _ files) saves))⟩
      · exact .inl (fails _)
    | unset name =>
      rcases loads_or_fails here options files with ⟨path, config, named, found, loads⟩ | fails
      · cases edited : config.remove name with
        | error error =>
          exact .inl (fails_bind loads (fails_first (leaves_of_error edited _ files) code))
        | ok both =>
          have saves := saves_storeConfig named files both.2 ("Removed filter '" ++ name ++ "'")
          exact .inr ⟨path, both.2, named, .unset found edited,
            saves_bind loads (saves_bind (leaves_of_ok edited _ files) saves)⟩
      · exact .inl (fails _)

/-- A command line that edits fails, or it writes one file; what was there stays there. -/
theorem run_edits (here : Surroundings) (options : Options) (files : FileTree)
    (edits : command.edits = true) :
    let outcome := here.run files ⟨options, command⟩
    (outcome.code ≠ ExitCode.success ∧ outcome.files.files = files.files ∧
        files.Grows outcome.files ∧ (files.Sound → outcome.files.Sound)) ∨
    ∃ path changed last, here.configPath options = .ok path ∧
      Makes (Config.load files path) command changed ∧
      (files.makeParents path).1.destination path = .ok last ∧ outcome.code = ExitCode.success ∧
      outcome.files = (files.makeParents path).1.withFile last changed.document.toUTF8 := by
  dsimp only
  rw [files_run]
  rcases execute_edits here options files edits with ⟨error, code, result, same⟩ |
    ⟨path, changed, named, makes, saves⟩
  · rw [code_run_of_error result, same]
    exact .inl ⟨code, rfl, .refl files, id⟩
  · obtain ⟨written, ⟨stored, result, same⟩ | ⟨error, stored, result, same⟩⟩ := saves
    · obtain ⟨last, leads, rfl⟩ := Config.written_of_store stored
      exact .inr ⟨path, changed, last, named, makes, leads, code_run_of_ok result, same⟩
    · obtain rfl := Config.opened_of_store stored
      obtain ⟨files, grows, sound⟩ := files.makeParents_grows path
      have code : ExitCode.failure ≠ ExitCode.success := by decide
      rw [code_run_of_error result, same]
      exact .inl ⟨code, files, grows, sound⟩

theorem run_not_edits (here : Surroundings) (options : Options) (files : FileTree)
    (edits : command.edits = false) : (here.run files ⟨options, command⟩).files = files :=
  (files_run here files _).trans (keepsFiles_execute here options edits files)

/-- Whatever a command line does, it takes nothing away. -/
theorem run_grows (here : Surroundings) (options : Options) (files : FileTree) (command : Command) :
    let outcome := here.run files ⟨options, command⟩
    files.Grows outcome.files ∧ (files.Sound → outcome.files.Sound) := by
  dsimp only
  cases edits : command.edits with
  | false =>
    rw [run_not_edits here options files edits]
    exact ⟨.refl files, id⟩
  | true =>
    rcases run_edits here options files edits with ⟨-, -, grows, sound⟩ |
      ⟨path, changed, last, -, -, leads, -, written⟩
    · exact ⟨grows, sound⟩
    · obtain ⟨-, grows, sound⟩ := files.makeParents_grows path
      rw [written]
      refine ⟨grows.trans (FileTree.grows_withFile _ _ _), fun before => ?_⟩
      exact (sound before).write leads _

end Edit

end Surroundings

/-! ### One command line after another -/

/-- Tells whether a command sets the threshold, to a number or to what it is at first. -/
def Command.setsThreshold : Command → Bool
  | .config (.set key _) => key = "settings.fuzzy_threshold"
  | .config .reset => true
  | _ => false

/-- The configuration file of a command line is the one under a key. -/
def Surroundings.Finds (here : Surroundings) (options : Options) (files : FileTree)
    (last : String) : Prop :=
  ∃ path content, here.configPath options = .ok path ∧ files.locate path = .ok (.file last content)

/-- A command line that stores a configuration stores it under a key. -/
def Surroundings.Writes (here : Surroundings) (options : Options) (files : FileTree)
    (last : String) : Prop :=
  ∃ path, here.configPath options = .ok path ∧
    (files.makeParents path).1.destination path = .ok last

/-- Any command lines, of which those that write the file under a key have found it and do not set
its threshold. -/
inductive Later (last : String) (start : FileTree) : FileTree → Prop
  | start : Later last start start
  | next {files : FileTree} {here : Surroundings} {options : Options} {command : Command} :
      Later last start files →
      (command.edits = true → (here.run files ⟨options, command⟩).code = ExitCode.success →
        here.Writes options files last →
        here.Finds options files last ∧ command.setsThreshold = false) →
      Later last start (here.run files ⟨options, command⟩).files

theorem Surroundings.Makes.threshold {found : Except StoreError Config} {changed : Config}
    {command : Command} (makes : Makes found command changed)
    (other : command.setsThreshold = false) :
    ∃ config, found = .ok config ∧
      changed.settings.fuzzyThreshold = config.settings.fuzzyThreshold := by
  cases makes with
  | reset => contradiction
  | set loaded edited =>
    rcases set_cases edited with ⟨_, -, -, -, rfl⟩ | ⟨rfl, -⟩ | ⟨-, _, -, rfl⟩
    · exact ⟨_, loaded, rfl⟩
    · contradiction
    · exact ⟨_, loaded, rfl⟩
  | unset loaded edited =>
    obtain ⟨-, rfl⟩ := remove_eq_ok.1 edited
    exact ⟨_, loaded, rfl⟩

namespace Later

open Surroundings

variable {here : Surroundings} {options : Options} {command : Command} {last : String}
  {start files : FileTree} {threshold : Nat}

theorem grows (later : Later last start files) :
    start.Grows files ∧ (start.Sound → files.Sound) := by
  induction later with
  | start => exact ⟨.refl start, id⟩
  | @next files here options command _ _ ih =>
    obtain ⟨grows, sound⟩ := run_grows here options files command
    exact ⟨ih.1.trans grows, fun before => sound (ih.2 before)⟩

/-- One command line keeps what it does not set. -/
theorem retains_run (retains : files.Retains last threshold)
    (keeps : command.edits = true → (here.run files ⟨options, command⟩).code = ExitCode.success →
      here.Writes options files last →
      here.Finds options files last ∧ command.setsThreshold = false) :
    (here.run files ⟨options, command⟩).files.Retains last threshold := by
  cases edits : command.edits with
  | false => rwa [run_not_edits here options files edits]
  | true =>
    rcases run_edits here options files edits with ⟨-, same, -⟩ |
      ⟨path, changed, other, named, makes, leads, success, written⟩
    · unfold FileTree.Retains
      rwa [same]
    · obtain ⟨same, -⟩ := files.makeParents_grows path
      rw [written]
      by_cases here' : last = other
      · subst here'
        obtain ⟨⟨_, content, named', located⟩, sets⟩ := keeps edits success ⟨path, named, leads⟩
        obtain rfl := Except.ok.inj (named.symm.trans named')
        obtain ⟨stored, -, rfl, small, again, loads⟩ := load_of_retains retains located
        obtain ⟨found, loaded, kept⟩ := makes.threshold sets
        obtain rfl : stored.reread = found := by
          rw [loads] at loaded
          split at loaded
          · exact Except.ok.inj loaded
          · cases loaded
        refine ⟨changed, ?_, by rwa [kept], by rw [kept, again]⟩
        rw [FileTree.get?_withFile, if_pos rfl]
      · obtain ⟨config, holds, small, stored⟩ := retains
        refine ⟨config, ?_, small, stored⟩
        rw [FileTree.get?_withFile, if_neg here', same]
        exact holds

theorem retains (later : Later last start files) (held : start.Retains last threshold) :
    files.Retains last threshold := by
  induction later with
  | start => exact held
  | next _ keeps ih => exact retains_run ih keeps

end Later

namespace Surroundings

open Run

/-- The file that a command line has for its configuration holds one that is read back with a threshold. A
command that shows the configuration shows this one, with the threshold on a line of its own, unless the
file cannot be read for a line separator beyond ASCII. -/
def Shows (here : Surroundings) (options : Options) (files : FileTree) (threshold : Nat) : Prop :=
  ∃ path last, ∃ stored : Config, here.configPath options = .ok path ∧
    files.locate path = .ok (.file last stored.document.toUTF8) ∧
    stored.reread.settings.fuzzyThreshold = threshold ∧
    let shown := here.run files ⟨options, .config .display⟩
    if stored.isLegible then
      (here.loadConfig options files).result = .ok stored.reread ∧ shown.code = ExitCode.success ∧
        shown.output = stored.reread.document ++ "\n" ∧
        ∃ before after, shown.output =
          before ++ "\n    \"fuzzy_threshold\": " ++ toString threshold ++ ",\n" ++ after
    else shown.code = ExitCode.configuration

variable {here : Surroundings} {options : Options} {files : FileTree} {last value : String}
  {threshold : Nat}

theorem shows_of_finds (retains : files.Retains last threshold)
    (finds : here.Finds options files last) : here.Shows options files threshold := by
  obtain ⟨path, content, named, located⟩ := finds
  obtain ⟨stored, rfl, rfl, -, -, loads⟩ := load_of_retains retains located
  have leaves := leaves_found here options files
  rw [found_of_path named, loads] at leaves
  refine ⟨path, last, stored, named, located, rfl, ?_⟩
  dsimp only
  split
  · next legible =>
    rw [if_pos legible] at leaves
    have silent : Silent (here.loadConfig options) := .bind .files fun _ => .ofExcept _ _
    have prints : Ends (here.execute ⟨options, .config .display⟩) files [stored.reread.document]
        (.ok ExitCode.success) := .after silent leaves.1 ⟨rfl, rfl⟩
    obtain ⟨code, output, -⟩ := run_of_ends prints
    obtain ⟨before, after, line⟩ := stored.reread.document_threshold
    have shown := textOfLines_singleton stored.reread.document
    refine ⟨leaves.1, code, output.trans shown, before, after ++ "\n", ?_⟩
    rw [output, shown, line, String.append_assoc]
  · next illegible =>
    rw [if_neg illegible] at leaves
    have fails : (here.execute ⟨options, .config .display⟩ files).result = .error _ :=
      result_bind_of_error leaves.1 _
    exact code_run_of_error fails

/-- What sets the threshold puts the number under the key of its file. -/
theorem set_threshold {config changed : Config}
    (edited : config.set "settings.fuzzy_threshold" value = .ok changed) :
    counter? value = .ok changed.settings.fuzzyThreshold := by
  rcases set_cases edited with ⟨name, named, -⟩ | ⟨-, n, read, rfl⟩ | ⟨other, -⟩
  · rw [show filterName? "settings.fuzzy_threshold" = none by decide] at named
    contradiction
  · exact read
  · exact absurd other (by decide)

/-- Once a command line has set a threshold, every later one that has this file for its
configuration finds the threshold that a double made of it, whatever comes between, until the file's
threshold is set or the file is written by a command that did not find it. A double makes the same
of it if and only if it has no more than 53 bits, zeros at its end apart, or is the greatest of all.
-/
theorem threshold_stays (sound : files.Sound)
    (set : (here.run files ⟨options, .config (.set "settings.fuzzy_threshold" value)⟩).code =
      ExitCode.success) :
    ∃ n path last, counter? value = .ok n ∧ here.configPath options = .ok path ∧
      (∀ later, Later last
          (here.run files ⟨options, .config (.set "settings.fuzzy_threshold" value)⟩).files later →
        (∃ content, later.locate path = .ok (.file last content)) ∧
        ∀ (there : Surroundings) (options : Options), there.Finds options later last →
          there.Shows options later (storedThreshold n)) ∧
      (storedThreshold n = n ↔ Binary64.Short n ∨ n = counterLimit - 1) := by
  have edits : (Command.config (.set "settings.fuzzy_threshold" value)).edits = true := rfl
  rcases run_edits here options files edits with ⟨failed, -⟩ |
    ⟨path, changed, last, named, makes, leads, -, written⟩
  · exact absurd set failed
  · cases makes with
    | set loaded edited =>
      have read := set_threshold edited
      have small := counter?_lt read
      obtain ⟨-, -, soundOpened⟩ := files.makeParents_grows path
      rw [written]
      generalize (files.makeParents path).1 = opened at leads soundOpened
      have held : (opened.withFile last changed.document.toUTF8).Retains last
          (storedThreshold changed.settings.fuzzyThreshold) := by
        refine ⟨changed, ?_, small, rfl⟩
        rw [FileTree.get?_withFile, if_pos rfl]
      refine ⟨_, path, last, read, named, fun later passed => ⟨?_, fun there options finds => ?_⟩,
        storedThreshold_eq_self small⟩
      · obtain ⟨grows, soundLater⟩ := passed.grows
        have soundWritten := (soundOpened sound).write leads changed.document.toUTF8
        exact grows.locate (soundLater soundWritten)
          (FileTree.locate_withFile (soundOpened sound) leads _)
      · exact shows_of_finds (passed.retains held) finds

theorem threshold_stays_seven :
    let here : Surroundings := ⟨none, none, .empty, false⟩
    let options : Options := { config := some "c.json" }
    let outcome := here.run .empty ⟨options, .config (.set "settings.fuzzy_threshold" "7")⟩
    let next := here.run outcome.files ⟨options, .config (.set "filters.a" "role")⟩
    FileTree.empty.Sound ∧ outcome.code = ExitCode.success ∧ here.Shows options outcome.files 7 ∧
      here.Shows options next.files 7 := by
  intro here options outcome next
  have sound : FileTree.empty.Sound := FileTree.fresh_empty.sound
  have set : outcome.code = ExitCode.success := by decide +kernel
  obtain ⟨n, path, last, read, named, stays, exactly⟩ := threshold_stays sound set
  obtain rfl : 7 = n := Except.ok.inj read
  have seven : storedThreshold 7 = 7 := exactly.2 (.inl ⟨7, 0, by decide, rfl⟩)
  rw [seven] at stays
  obtain ⟨⟨content, located⟩, shows⟩ := stays _ .start
  have finds : here.Finds options outcome.files last := ⟨path, content, named, located⟩
  have later : Later last outcome.files next.files := .next .start fun _ _ _ => ⟨finds, rfl⟩
  obtain ⟨⟨content, located⟩, shows'⟩ := stays _ later
  exact ⟨sound, set, shows here options finds, shows' here options ⟨path, content, named, located⟩⟩

/-- The least number that is no double comes back as another one. -/
theorem threshold_changes :
    let here : Surroundings := ⟨none, none, .empty, false⟩
    let options : Options := { config := some "c.json" }
    let outcome := here.run .empty
      ⟨options, .config (.set "settings.fuzzy_threshold" "9007199254740993")⟩
    let shown := here.run outcome.files ⟨options, .config .display⟩
    outcome.code = ExitCode.success ∧
      (counter? "9007199254740993").toOption = some 9007199254740993 ∧
      shown.code = ExitCode.success ∧
      shown.output = "\x7b\n  \"filters\": \x7b\x7d,\n  \"settings\": \x7b\n" ++
        "    \"fuzzy_threshold\": 9007199254740992,\n    \"warn_unknown_labels\": true\n" ++
        "  \x7d\n\x7d\n" := by
  decide +kernel

end Surroundings

end LabelQuery
