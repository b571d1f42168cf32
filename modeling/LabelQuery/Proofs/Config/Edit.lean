import LabelQuery.Proofs.Config.Document
import LabelQuery.Proofs.Filter.Conservation

/-!
What can be saved in a configuration. Main statements: an expression compiles if and only if its
brackets balance, and edits keep a configuration fit for being stored.
-/
namespace LabelQuery

open Text

theorem Filter.exists_compile_iff {expression : String} :
    (∃ filter, Filter.compile expression = .ok filter) ↔ Balanced (tokenize expression) := by
  rw [← Program.ofTokens_ok_iff]
  constructor
  · rintro ⟨filter, compiled⟩
    exact ⟨filter.program, Filter.compile_eq_ok.1 compiled ▸ filter.compiled⟩
  · rintro ⟨program, compiled⟩
    exact ⟨⟨expression, program, compiled⟩, Filter.compile_eq_ok.2 rfl⟩

theorem nameFault?_eq_none {name : String} :
    nameFault? name = none ↔
      name ≠ "" ∧ name.toList.head? ≠ some savedMark ∧ ∀ c ∈ name.toList, isBlank c = false := by
  unfold nameFault?
  by_cases empty : name = ""
  · simp [empty]
  · by_cases marked : name.toList.head? = some savedMark
    · simp [empty, marked]
    · by_cases blank : name.toList.any isBlank = true <;> simp_all

theorem readCounter_lt {digits : List Char} {value number : Nat} (small : value < counterLimit)
    (h : readCounter value digits = .ok number) : number < counterLimit := by
  induction digits generalizing value with
  | nil =>
    cases h
    exact small
  | cons c rest ih =>
    rw [readCounter] at h
    split at h
    · dsimp only at h
      split at h
      · next below => exact ih below h
      · contradiction
    · contradiction

theorem counter?_lt {text : String} {number : Nat} (h : counter? text = .ok number) :
    number < counterLimit := by
  have zero : 0 < counterLimit := by decide
  unfold counter? at h
  split at h
  · contradiction
  · contradiction
  · exact readCounter_lt zero h
  · exact readCounter_lt zero h

namespace Config

variable {config changed : Config} {key value name expression : String}

theorem filterName?_filterKey (name : String) : filterName? (filterKey ++ name) = some name := by
  have begins : filterKey.toList.isPrefixOf (filterKey ++ name).toList = true :=
    List.isPrefixOf_iff_prefix.2 ⟨name.toList, String.toList_append.symm⟩
  rw [filterName?, if_pos begins, String.toList_append, ← String.length_toList, List.drop_left,
    String.ofList_toList]

theorem resolve_marked (config : Config) (name : String) :
    config.resolve ("@" ++ name) =
      match config.filters.get? name with
      | some expression => .ok expression
      | none => .error ⟨name, config.suggestFilters name⟩ := by
  have marked : ("@" ++ name).toList = savedMark :: name.toList := String.toList_append
  rw [resolve, marked]
  cases found : config.filters.get? name <;> simp [found]

theorem resolve_unmarked (config : Config) (unmarked : expression.toList.head? ≠ some savedMark) :
    config.resolve expression = .ok expression := by
  unfold resolve
  split
  · next c rest text =>
    have other : c ≠ savedMark := by simpa [text] using unmarked
    rw [if_neg other]
  · rfl

/-- A configuration that can be stored and whose saved filters can be used. -/
structure Sane (config : Config) : Prop where
  small : config.settings.fuzzyThreshold < counterLimit
  compiles : ∀ name expression, config.filters.get? name = some expression →
    ∃ filter, Filter.compile expression = .ok filter

theorem save_eq_ok : config.save name expression = .ok changed ↔
    nameFault? name = none ∧ Balanced (tokenize expression) ∧
      changed = { config with filters := config.filters.insert name expression } := by
  rw [← Filter.exists_compile_iff]
  unfold save
  cases nameFault? name with
  | some fault => simp
  | none =>
    cases Filter.compile expression with
    | error error => simp
    | ok filter => simp [eq_comm]

theorem remove_eq_ok : config.remove name = .ok (expression, changed) ↔
    config.filters.get? name = some expression ∧
      changed = { config with filters := config.filters.erase name } := by
  unfold remove
  cases config.filters.get? name with
  | none => simp
  | some saved => simp [eq_comm]

/-- An edit by key saves a filter or changes one of the settings. -/
theorem set_cases (h : config.set key value = .ok changed) :
    (∃ name, filterName? key = some name ∧ nameFault? name = none ∧ Balanced (tokenize value) ∧
      changed = { config with filters := config.filters.insert name value }) ∨
    (key = "settings.fuzzy_threshold" ∧ ∃ number, counter? value = .ok number ∧
      changed = { config with settings.fuzzyThreshold := number }) ∨
    (key = "settings.warn_unknown_labels" ∧ ∃ answer, truth? value = some answer ∧
      changed = { config with settings.warnUnknownLabels := answer }) := by
  unfold set at h
  cases named : filterName? key with
  | some name =>
    rw [named] at h
    exact .inl ⟨name, rfl, save_eq_ok.1 h⟩
  | none =>
    simp only [named] at h
    split at h
    · next threshold =>
      cases read : counter? value with
      | error fault => simp [read] at h
      | ok number =>
        rw [read] at h
        cases h
        exact .inr (.inl ⟨threshold, number, rfl, rfl⟩)
    · split at h
      · next warning =>
        cases read : truth? value with
        | none => simp [read] at h
        | some answer =>
          rw [read] at h
          cases h
          exact .inr (.inr ⟨warning, answer, rfl, rfl⟩)
      · contradiction

theorem filters_of_set (h : config.set key value = .ok changed) :
    changed.filters =
      ((filterName? key).map (config.filters.insert · value)).getD config.filters := by
  have threshold : filterName? "settings.fuzzy_threshold" = none := by decide
  have warning : filterName? "settings.warn_unknown_labels" = none := by decide
  rcases set_cases h with ⟨name, named, -, -, rfl⟩ | ⟨rfl, _, -, rfl⟩ | ⟨rfl, _, -, rfl⟩
  · rw [named]
    rfl
  · rw [threshold]
    rfl
  · rw [warning]
    rfl

theorem sane_default : Sane {} where
  small := by decide
  compiles := fun _ _ found => nomatch found

theorem Sane.reread (sane : config.Sane) : config.reread.Sane where
  small := storedThreshold_lt sane.small
  compiles := sane.compiles

theorem Sane.set (sane : config.Sane) (h : config.set key value = .ok changed) : changed.Sane := by
  rcases set_cases h with ⟨name, -, -, balanced, rfl⟩ | ⟨-, number, read, rfl⟩ | ⟨-, _, -, rfl⟩
  · refine ⟨sane.small, fun other expression found => ?_⟩
    rw [Dict.get?_insert] at found
    split at found
    · cases found
      exact Filter.exists_compile_iff.2 balanced
    · exact sane.compiles other expression found
  · exact ⟨counter?_lt read, sane.compiles⟩
  · exact ⟨sane.small, sane.compiles⟩

theorem Sane.remove (sane : config.Sane) (h : config.remove name = .ok (expression, changed)) :
    changed.Sane := by
  obtain ⟨-, rfl⟩ := remove_eq_ok.1 h
  refine ⟨sane.small, fun other expression found => ?_⟩
  rw [Dict.get?_erase] at found
  split at found
  · contradiction
  · exact sane.compiles other expression found

end Config

end LabelQuery
