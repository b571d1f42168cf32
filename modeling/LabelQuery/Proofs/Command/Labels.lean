import LabelQuery.Command.Execute
import LabelQuery.Proofs.Command.Reading
import LabelQuery.Proofs.Dict

/-!
Labels on a command line: how a text is split into key and value, and what labels and flags in a certain
order say of a key. The last label with the key counts, and a flag only where there is none.
-/
namespace LabelQuery

/-- A text that gives a label: the key ends at the first equals sign. -/
structure SpellsLabel (text key value : String) : Prop where
  whole : text = key ++ "=" ++ value
  named : key ≠ ""
  first : '=' ∉ key.toList

/-- The last label with a key among some options, and its value. -/
def EndsWithLabel (given : List (OptionName × String)) (key value : String) : Prop :=
  ∃ before text after, given = before ++ (.label, text) :: after ∧ SpellsLabel text key value ∧
    ∀ later other, (.label, later) ∈ after → ¬SpellsLabel later key other

/-- What options in a certain order say of a key. Its last label counts, and a flag only without any. -/
inductive Yields (given : List (OptionName × String)) (key : String) : String → Prop
  | label {value : String} : EndsWithLabel given key value → Yields given key value
  | flag : (.flag, key) ∈ given →
      (∀ text other, (.label, text) ∈ given → ¬SpellsLabel text key other) → Yields given key ""

section Labels

variable {text key value other : String} {texts flags : List String}
  {labels : List (String × String)} {given : List (OptionName × String)}

theorem readLabel_of_not_mem (absent : '=' ∉ text.toList) :
    readLabel text = .error (.badLabel ("expected KEY=VALUE, got '" ++ text ++ "'")) := by
  rw [readLabel, List.dropWhile_eq_nil_iff.2 (Reading.all_ne_of_not_mem absent)]

theorem readLabel_append (key value : String) (first : '=' ∉ key.toList) :
    readLabel (key ++ "=" ++ value) =
      if key = "" then
        .error (.badLabel ("label key must not be empty in '" ++ (key ++ "=" ++ value) ++ "'"))
      else .ok (key, value) := by
  have within := Reading.all_ne_of_not_mem first
  have whole : (key ++ "=" ++ value).toList = key.toList ++ '=' :: value.toList := by simp
  rw [readLabel, whole, List.dropWhile_append_of_pos within, List.takeWhile_append_of_pos within]
  simp

theorem exists_split (mem : '=' ∈ text.toList) :
    ∃ key value : String, text = key ++ "=" ++ value ∧ '=' ∉ key.toList := by
  obtain ⟨key, value, whole, first⟩ := List.eq_append_cons_of_mem mem
  refine ⟨String.ofList key, String.ofList value, ?_, by simpa using first⟩
  simp [← String.toList_inj, whole]

theorem readLabel_eq_ok : readLabel text = .ok (key, value) ↔ SpellsLabel text key value := by
  constructor
  · intro read
    by_cases mem : '=' ∈ text.toList
    · obtain ⟨first, rest, rfl, absent⟩ := exists_split mem
      rw [readLabel_append _ _ absent] at read
      split at read
      · contradiction
      · next named =>
        cases read
        exact ⟨rfl, named, absent⟩
    · rw [readLabel_of_not_mem mem] at read
      contradiction
  · rintro ⟨rfl, named, first⟩
    rw [readLabel_append key value first, if_neg named]

theorem readLabel_eq_error : (∃ detail, readLabel text = .error (.badLabel detail)) ↔
    '=' ∉ text.toList ∨ ∃ value, text = "=" ++ value := by
  constructor
  · rintro ⟨detail, read⟩
    by_cases mem : '=' ∈ text.toList
    · obtain ⟨key, value, rfl, first⟩ := exists_split mem
      rw [readLabel_append key value first] at read
      split at read
      · next unnamed => exact .inr ⟨value, by rw [unnamed, String.empty_append]⟩
      · contradiction
    · exact .inl mem
  · rintro (absent | ⟨value, rfl⟩)
    · exact ⟨_, readLabel_of_not_mem absent⟩
    · exact ⟨_, readLabel_append "" value (by decide)⟩

theorem SpellsLabel.inj {key' value' : String} (one : SpellsLabel text key value)
    (two : SpellsLabel text key' value') : key' = key ∧ value' = value := by
  have same := (readLabel_eq_ok.2 two).symm.trans (readLabel_eq_ok.2 one)
  exact Prod.mk.inj (Except.ok.inj same)

theorem mapM_readLabel : texts.mapM readLabel = .ok labels ↔
    List.Forall₂ (fun text label => SpellsLabel text label.1 label.2) texts labels := by
  induction texts generalizing labels with
  | nil => simp [pure, Except.pure, eq_comm]
  | cons text texts ih =>
    rw [List.mapM_cons, List.forall₂_cons_left_iff, bind_eq_ok]
    constructor
    · rintro ⟨label, read, rest⟩
      obtain ⟨later, reads, rfl⟩ := map_eq_ok.1 rest
      exact ⟨label, later, readLabel_eq_ok.1 read, ih.1 reads, rfl⟩
    · rintro ⟨label, later, spells, rest, rfl⟩
      exact ⟨label, readLabel_eq_ok.2 spells, map_eq_ok.2 ⟨later, ih.2 rest, rfl⟩⟩

/-- The texts of the labels among some options. -/
def labelTexts (given : List (OptionName × String)) : List String :=
  (given.filter (·.1 == .label)).map (·.2)

theorem mem_labelTexts : text ∈ labelTexts given ↔ (.label, text) ∈ given := by
  simp [labelTexts]

theorem endsWithLabel_cons {option : OptionName × String} :
    EndsWithLabel (option :: given) key value ↔ EndsWithLabel given key value ∨
      ∃ text, option = (.label, text) ∧ SpellsLabel text key value ∧
        ∀ later other, (.label, later) ∈ given → ¬SpellsLabel later key other := by
  constructor
  · rintro ⟨before, text, after, whole, spells, last⟩
    cases before with
    | nil =>
      cases whole
      exact .inr ⟨text, rfl, spells, last⟩
    | cons first before =>
      cases whole
      exact .inl ⟨before, text, after, rfl, spells, last⟩
  · rintro (⟨before, text, after, rfl, spells, last⟩ | ⟨text, rfl, spells, last⟩)
    · exact ⟨option :: before, text, after, rfl, spells, last⟩
    · exact ⟨[], text, given, rfl, spells, last⟩

theorem exists_endsWithLabel : (∃ value, EndsWithLabel given key value) ↔
    ∃ text value, (.label, text) ∈ given ∧ SpellsLabel text key value := by
  constructor
  · rintro ⟨value, before, text, after, rfl, spells, -⟩
    exact ⟨text, value, by simp, spells⟩
  · rintro ⟨text, value, mem, spells⟩
    induction given generalizing text value with
    | nil => contradiction
    | cons option given ih =>
      simp only [endsWithLabel_cons]
      by_cases later : ∃ text value, (.label, text) ∈ given ∧ SpellsLabel text key value
      · obtain ⟨text, value, mem, spells⟩ := later
        obtain ⟨last, ends⟩ := ih text value mem spells
        exact ⟨last, .inl ends⟩
      · have here : option = (.label, text) := by
          rcases List.mem_cons.1 mem with here | behind
          · exact here.symm
          · exact absurd ⟨text, value, behind, spells⟩ later
        exact ⟨value, .inr ⟨text, here, spells, fun text value mem spells =>
          later ⟨text, value, mem, spells⟩⟩⟩

/-- One more label in front: its value counts if no later label has its key. -/
theorem endsWithLabel_label {first found : String} (spells : SpellsLabel text first found) :
    EndsWithLabel ((.label, text) :: given) key value ↔ EndsWithLabel given key value ∨
      (¬∃ other, EndsWithLabel given key other) ∧ key = first ∧ value = found := by
  rw [endsWithLabel_cons]
  apply or_congr_right
  constructor
  · rintro ⟨_, same, spellsKey, noLater⟩
    cases same
    refine ⟨?_, spells.inj spellsKey⟩
    intro later
    obtain ⟨text, other, mem, spellsLater⟩ := exists_endsWithLabel.1 later
    exact noLater text other mem spellsLater
  · rintro ⟨noLater, rfl, rfl⟩
    refine ⟨text, rfl, spells, ?_⟩
    intro later other mem spellsLater
    exact noLater (exists_endsWithLabel.2 ⟨later, other, mem, spellsLater⟩)

theorem endsWithLabel_other {name : OptionName} (other : name ≠ .label) :
    EndsWithLabel ((name, text) :: given) key value ↔ EndsWithLabel given key value := by
  rw [endsWithLabel_cons]
  apply or_iff_left
  rintro ⟨_, same, -⟩
  exact other (congrArg Prod.fst same)

theorem lookup_reverse_labels (key value : String)
    (all : List.Forall₂ (fun text label => SpellsLabel text label.1 label.2) (labelTexts given) labels) :
    labels.reverse.lookup key = some value ↔ EndsWithLabel given key value := by
  induction given generalizing labels value with
  | nil =>
    cases all
    simp [EndsWithLabel]
  | cons option given ih =>
    obtain ⟨name, text⟩ := option
    by_cases isLabel : name = .label
    · subst isLabel
      have texts : labelTexts ((.label, text) :: given) = text :: labelTexts given := rfl
      rw [texts] at all
      obtain ⟨⟨first, found⟩, later, spells, rest, rfl⟩ := List.forall₂_cons_left_iff.1 all
      have unknown : later.reverse.lookup key = none ↔ ¬∃ other, EndsWithLabel given key other := by
        rw [Option.eq_none_iff_forall_ne_some, not_exists]
        exact forall_congr' fun other => not_congr (ih other rest)
      have here : [(first, found)].lookup key = some value ↔ key = first ∧ value = found := by
        by_cases same : key = first
        · simp [same, eq_comm]
        · simp [List.lookup_cons, beq_eq_false_iff_ne.2 same, same]
      rw [endsWithLabel_label spells, List.reverse_cons, List.lookup_append, Option.or_eq_some_iff,
        ih value rest, unknown, here]
    · have texts : labelTexts ((name, text) :: given) = labelTexts given := by
        simp [labelTexts, isLabel]
      rw [texts] at all
      rw [ih value all, endsWithLabel_other isLabel]

theorem get?_foldl_flag (flags : List String) (dict : Dict String) (key : String) :
    (flags.foldl (fun dict key => if dict.contains key then dict else dict.insert key "") dict).get? key =
      (dict.get? key).or (if key ∈ flags then some "" else none) := by
  induction flags generalizing dict with
  | nil => simp
  | cons flag flags ih =>
    rw [List.foldl_cons, ih]
    by_cases same : key = flag
    · subst same
      cases known : dict.get? key with
      | some value => simp [Dict.contains, known]
      | none => simp [Dict.contains, known, Dict.get?_insert]
    · have unchanged :
          (if dict.contains flag then dict else dict.insert flag "").get? key = dict.get? key := by
        split
        · rfl
        · rw [Dict.get?_insert, if_neg same]
      simp [unchanged, same]

/-- The labels that are given for a match are those that the options yield in their order. -/
theorem get?_givenLabels
    (all : List.Forall₂ (fun text label => SpellsLabel text label.1 label.2) (labelTexts given) labels)
    (named : ∀ key, key ∈ flags ↔ (.flag, key) ∈ given) :
    (Surroundings.givenLabels labels flags).get? key = some value ↔ Yields given key value := by
  have counts (value : String) := lookup_reverse_labels key value all
  rw [Surroundings.givenLabels, get?_foldl_flag, Dict.get?_ofList, Option.or_eq_some_iff]
  constructor
  · rintro (last | ⟨unknown, here⟩)
    · exact .label ((counts value).1 last)
    · split at here
      · next mem =>
        cases here
        refine .flag ((named key).1 mem) ?_
        intro text other inside spells
        obtain ⟨last, ends⟩ := exists_endsWithLabel.2 ⟨text, other, inside, spells⟩
        rw [(counts last).2 ends] at unknown
        contradiction
      · contradiction
  · intro yields
    cases yields with
    | label ends => exact .inl ((counts value).2 ends)
    | flag mem noLabel =>
      refine .inr ⟨?_, if_pos ((named key).2 mem)⟩
      rw [Option.eq_none_iff_forall_ne_some]
      intro last known
      obtain ⟨text, other, inside, spells⟩ := exists_endsWithLabel.1 ⟨last, (counts last).1 known⟩
      exact noLabel text other inside spells

/-- How often and where flags are given makes no difference. -/
theorem givenLabels_congr {flags' : List String} (same : ∀ key, key ∈ flags' ↔ key ∈ flags) :
    Surroundings.givenLabels labels flags' = Surroundings.givenLabels labels flags := by
  apply Dict.ext_get?
  intro key
  rw [Surroundings.givenLabels, Surroundings.givenLabels, get?_foldl_flag, get?_foldl_flag]
  simp only [same]

end Labels

end LabelQuery
