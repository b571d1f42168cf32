import LabelQuery.Config.InPlace
import LabelQuery.Proofs.Config.Edit
import LabelQuery.Proofs.Dict

/-!
What edits in place do to a configuration. Main statement: an edit changes what it names and nothing
else, one that fails changes nothing, and no edits make the saved filters of a new configuration
faulty.
-/
namespace LabelQuery

open Text

/-! ### Calls and the edits they make -/

namespace Editing

variable {config : Config} {key value name expression : String}

theorem run_save :
    (save name expression).run.run config =
      match config.save name expression with
      | .ok changed => (.ok (), changed)
      | .error error => (.error error, config) := by
  unfold save Config.save
  cases nameFault? name with
  | some fault => rfl
  | none =>
    cases Filter.compile expression with
    | error error => rfl
    | ok filter => rfl

theorem run_set :
    (set key value).run.run config =
      match config.set key value with
      | .ok changed => (.ok (), changed)
      | .error error => (.error error, config) := by
  unfold set Config.set
  cases Config.filterName? key with
  | some name => simp [run_save]
  | none =>
    dsimp only
    split
    · cases counter? value <;> rfl
    · split
      · cases truth? value <;> rfl
      · rfl

theorem run_get_bind {α : Type} (f : Config → Editing α) :
    (get >>= f).run.run config = (f config).run.run config := rfl

theorem run_remove :
    (remove name).run.run config =
      match config.remove name with
      | .ok (expression, changed) => (.ok expression, changed)
      | .error error => (.error error, config) := by
  rw [remove, Config.remove, run_get_bind]
  cases config.filters.get? name with
  | none => rfl
  | some expression => rfl

theorem run_map {α β : Type} (f : α → β) (call : Editing α) :
    (f <$> call).run.run config =
      ((call.run.run config).1.map f, (call.run.run config).2) := by
  rw [ExceptT.run_map, StateT.run_map]
  rfl

end Editing

namespace Config

variable {config changed : Config} {key value name expression : String}

/-- A call fails and leaves the configuration, or it makes the edit that it stands for. -/
theorem edit_cases (config : Config) (edit : Edit) :
    (∃ error, config.outcome edit = .error error ∧ config.after edit = config) ∨
    (∃ key value, edit = .set key value ∧ config.outcome edit = .ok none ∧
      config.set key value = .ok (config.after edit)) ∨
    (∃ name expression, edit = .remove name ∧ config.outcome edit = .ok (some expression) ∧
      config.remove name = .ok (expression, config.after edit)) := by
  unfold outcome after
  cases edit with
  | set key value =>
    rw [Edit.call, Editing.run_map, Editing.run_set]
    cases edited : config.set key value with
    | error error => exact .inl ⟨error, rfl, rfl⟩
    | ok changed => exact .inr (.inl ⟨key, value, rfl, rfl, edited⟩)
  | remove name =>
    rw [Edit.call, Editing.run_map, Editing.run_remove]
    cases edited : config.remove name with
    | error error => exact .inl ⟨error, rfl, rfl⟩
    | ok result => exact .inr (.inr ⟨name, result.1, rfl, rfl, edited⟩)

end Config

/-! ### What an edit changes -/

/-- Two configurations differ in one saved filter at most. -/
structure Config.SameBut (name : String) (before after : Config) : Prop where
  others : ∀ other, other ≠ name → after.filters.get? other = before.filters.get? other
  settings : after.settings = before.settings

/-- Two configurations differ in one setting at most, the one with the key. -/
def Config.SetTo (key value : String) (before after : Config) : Prop :=
  after.filters = before.filters ∧
    (key = "settings.fuzzy_threshold" ∧ counter? value = .ok after.settings.fuzzyThreshold ∧
        after.settings.warnUnknownLabels = before.settings.warnUnknownLabels ∨
      key = "settings.warn_unknown_labels" ∧ truth? value = some after.settings.warnUnknownLabels ∧
        after.settings.fuzzyThreshold = before.settings.fuzzyThreshold)

/-- What a call with some outcome leaves of a configuration. -/
inductive Edit.Frame (before : Config) : Edit → Except EditError (Option String) → Config → Prop
  | failed (edit error) : Frame before edit (.error error) before
  | saved {name value after} (same : before.SameBut name after)
      (bound : after.filters.get? name = some value) :
      Frame before (.set (Config.filterKey ++ name) value) (.ok none) after
  | setting {key value after} (other : ∀ name, key ≠ Config.filterKey ++ name)
      (set : before.SetTo key value after) : Frame before (.set key value) (.ok none) after
  | removed {name expression after} (same : before.SameBut name after)
      (old : before.filters.get? name = some expression) (gone : after.filters.get? name = none) :
      Frame before (.remove name) (.ok (some expression)) after

namespace Config

variable {config changed : Config} {key value name expression : String}

theorem filterName?_eq_some : filterName? key = some name ↔ key = filterKey ++ name := by
  constructor
  · intro named
    unfold filterName? at named
    split at named
    · next begins =>
      obtain ⟨rest, whole⟩ := List.isPrefixOf_iff_prefix.1 begins
      cases named
      rw [← String.toList_inj, String.toList_append, String.toList_ofList, ← whole,
        ← String.length_toList, List.drop_left]
    · contradiction
  · rintro rfl
    exact filterName?_filterKey name

theorem sameBut_insert :
    config.SameBut name { config with filters := config.filters.insert name value } where
  others other different := by rw [Dict.get?_insert, if_neg different]
  settings := rfl

theorem sameBut_erase :
    config.SameBut name { config with filters := config.filters.erase name } where
  others other different := by rw [Dict.get?_erase, if_neg different]
  settings := rfl

theorem frame_set (edited : config.set key value = .ok changed) :
    Edit.Frame config (.set key value) (.ok none) changed := by
  rcases set_cases edited with ⟨name, named, -, -, rfl⟩ | ⟨rfl, number, read, rfl⟩ |
    ⟨rfl, answer, read, rfl⟩
  · obtain rfl := filterName?_eq_some.1 named
    apply Edit.Frame.saved sameBut_insert
    rw [Dict.get?_insert, if_pos rfl]
  · have named : filterName? "settings.fuzzy_threshold" = none := by decide
    refine .setting (fun name same => ?_) ⟨rfl, .inl ⟨rfl, read, rfl⟩⟩
    simp [filterName?_eq_some.2 same] at named
  · have named : filterName? "settings.warn_unknown_labels" = none := by decide
    refine .setting (fun name same => ?_) ⟨rfl, .inr ⟨rfl, read, rfl⟩⟩
    simp [filterName?_eq_some.2 same] at named

theorem frame_remove (edited : config.remove name = .ok (expression, changed)) :
    Edit.Frame config (.remove name) (.ok (some expression)) changed := by
  obtain ⟨old, rfl⟩ := remove_eq_ok.1 edited
  apply Edit.Frame.removed sameBut_erase old
  rw [Dict.get?_erase, if_pos rfl]

theorem frame_edit (config : Config) (edit : Edit) :
    Edit.Frame config edit (config.outcome edit) (config.after edit) := by
  rcases edit_cases config edit with ⟨error, failed, same⟩ | ⟨key, value, rfl, done, edited⟩ |
    ⟨name, expression, rfl, done, edited⟩
  · rw [failed, same]
    exact .failed edit error
  · rw [done]
    exact frame_set edited
  · rw [done]
    exact frame_remove edited

/-! ### Validity -/

/-- Every saved filter has a name that can be asked for, and compiles. -/
def Valid (config : Config) : Prop :=
  ∀ name expression, config.filters.get? name = some expression →
    (name ≠ "" ∧ name.toList.head? ≠ some savedMark ∧ ∀ c ∈ name.toList, isBlank c = false) ∧
      ∃ filter, Filter.compile expression = .ok filter

theorem faultsOf_eq_nil : faultsOf name expression = [] ↔
    nameFault? name = none ∧ ∃ filter, Filter.compile expression = .ok filter := by
  unfold faultsOf
  cases nameFault? name <;> cases Filter.compile expression <;> simp

theorem validate_eq_nil : config.validate = [] ↔ config.Valid := by
  unfold validate Valid
  rw [List.flatMap_eq_nil_iff]
  constructor
  · intro faultless name expression found
    have none := faultless (name, expression) (Dict.mem_entries.2 found)
    rwa [faultsOf_eq_nil, nameFault?_eq_none] at none
  · rintro valid ⟨name, expression⟩ mem
    rw [faultsOf_eq_nil, nameFault?_eq_none]
    exact valid name expression (Dict.mem_entries.1 mem)

theorem valid_default : Valid {} :=
  fun _ _ found => nomatch found

theorem valid_examples : Valid examples := by
  apply validate_eq_nil.1
  decide +kernel

theorem Valid.set (valid : config.Valid) (edited : config.set key value = .ok changed) :
    changed.Valid := by
  rcases set_cases edited with ⟨name, -, faultless, balanced, rfl⟩ | ⟨-, _, -, rfl⟩ | ⟨-, _, -, rfl⟩
  · intro other expression found
    rw [Dict.get?_insert] at found
    split at found
    · next same =>
      cases same
      cases found
      exact ⟨nameFault?_eq_none.1 faultless, Filter.exists_compile_iff.2 balanced⟩
    · exact valid other expression found
  · exact valid
  · exact valid

theorem Valid.remove (valid : config.Valid)
    (edited : config.remove name = .ok (expression, changed)) : changed.Valid := by
  obtain ⟨-, rfl⟩ := remove_eq_ok.1 edited
  intro other expression found
  rw [Dict.get?_erase] at found
  split at found
  · contradiction
  · exact valid other expression found

theorem Valid.after (valid : config.Valid) (edit : Edit) : (config.after edit).Valid := by
  rcases edit_cases config edit with ⟨_, -, same⟩ | ⟨_, _, -, -, edited⟩ | ⟨_, _, -, -, edited⟩
  · rwa [same]
  · exact valid.set edited
  · exact valid.remove edited

theorem Valid.afterAll (valid : config.Valid) (edits : List Edit) :
    (config.afterAll edits).Valid := by
  induction edits generalizing config with
  | nil => exact valid
  | cons edit rest ih => exact ih (valid.after edit)

/-- Edits change what they name and nothing else, the ones that fail change nothing, and after any
edits of a new configuration, also failing ones, the check of the saved filters finds nothing. It
finds nothing if and only if each of them has a proper name and compiles. -/
theorem edits_framed (config : Config) :
    (∀ edit, Edit.Frame config edit (config.outcome edit) (config.after edit)) ∧
      (config = {} ∨ config = examples → ∀ edits, (config.afterAll edits).validate = []) ∧
      (config.validate = [] ↔ config.Valid) := by
  refine ⟨frame_edit config, ?_, validate_eq_nil⟩
  intro new edits
  apply validate_eq_nil.2
  rcases new with rfl | rfl
  · exact valid_default.afterAll edits
  · exact valid_examples.afterAll edits

theorem edits_framed_mixed :
    let edits := [.set "filters.rack.2" "rack=2", .set "filters.@x" "a", .set "filters.x" "(a",
      .remove "gone", .set "settings.fuzzy_threshold" "7", .remove "active"]
    (examples.afterAll edits).validate = [] ∧
      (examples.afterAll edits).filters.keys = ["controllers", "rack.2", "rack1-controllers"] :=
  ⟨(edits_framed examples).2.1 (.inr rfl) _, by decide +kernel⟩

end Config

end LabelQuery
