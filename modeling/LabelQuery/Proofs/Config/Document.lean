import Mathlib.Algebra.Group.Nat.Defs
import LabelQuery.Config.Document
import LabelQuery.Proofs.Dict
import LabelQuery.Proofs.Json.Reading

/-!
Configurations read from their documents. Main statement: the saved filters and the warning setting
come back as they were, unless a line separator beyond ASCII stands in a name or an expression.
-/
namespace LabelQuery

open Relaxed

namespace Json

theorem exists_pieces {text : String} (legible : isLegible text = true) :
    ∃ pieces, pieces? text.toList = some pieces ∧ stringOf pieces = .ok text := by
  have readable : (pieces? text.toList).isSome = true := (isSome_pieces? _).trans legible
  obtain ⟨pieces, hpieces⟩ := Option.isSome_iff_exists.1 readable
  exact ⟨pieces, hpieces, stringOf_pieces hpieces⟩

theorem pieces?_eq_none {text : String} (illegible : isLegible text = false) :
    pieces? text.toList = none := by
  have unreadable : (pieces? text.toList).isSome = false := (isSome_pieces? _).trans illegible
  simpa using unreadable

end Json

namespace Binary64

theorem binaryOrder_le (num : Nat) : binaryOrder num 1 ≤ num.log2 := by
  have one : Nat.log2 1 = 0 := by decide
  simp only [binaryOrder, one]
  split <;> omega

/-- A whole number below a power of two that is far below the greatest is not beyond all finite
numbers. -/
theorem nearest?_of_lt {num : Nat} (small : num < counterLimit) :
    ∃ value, nearest? false num 1 = some value := by
  by_cases zero : num = 0
  · exact ⟨_, if_pos zero⟩
  · have order : num.log2 < 64 := (Nat.log2_lt zero).2 small
    have bound := binaryOrder_le num
    have fits : max (binaryOrder num 1 - 52) leastExponent + 1 ≤ greatestExponent := by
      simp only [leastExponent, greatestExponent]
      omega
    have lower : max (binaryOrder num 1 - 52) leastExponent ≤ greatestExponent := by omega
    simp only [nearest?, if_neg zero]
    -- rounding up can carry into one more bit, for which there is room as well
    generalize roundDiv _ _ = significand
    by_cases carries : significand = 1 <<< 53
    · simp only [if_pos carries, if_pos fits]
      exact ⟨_, rfl⟩
    · simp only [if_neg carries, if_pos lower]
      exact ⟨_, rfl⟩

theorem ofDecimal?_of_lt {n : Nat} (small : n < counterLimit) :
    ∃ value, ofDecimal? false n 0 = some value := by
  have digits : (Nat.toDigits 10 n).length ≤ 20 :=
    (Nat.length_toDigits_le_iff (by decide) (by decide)).2 (Nat.lt_trans small (by decide))
  have fewPlaces : ¬mostPlaces < ((Nat.toDigits 10 n).length : Int) + 0 := by
    simp only [mostPlaces]
    omega
  simp only [ofDecimal?, if_neg fewPlaces]
  split
  · exact ⟨_, rfl⟩
  · simpa using nearest?_of_lt small

end Binary64

namespace Config

/-- Tells whether the document of a configuration can be read. -/
def isLegible (config : Config) : Bool :=
  config.filters.entries.all fun (name, expression) =>
    Json.isLegible name && Json.isLegible expression

/-- The threshold that is read where a threshold was written: digits are read as a double. -/
def storedThreshold (threshold : Nat) : Nat :=
  match Binary64.ofDecimal? false threshold 0 with
  | some value => Double.saturate counterLimit (.finite value)
  | none => threshold

/-- What a configuration is once its document was written and read. -/
def reread (config : Config) : Config :=
  { config with settings.fuzzyThreshold := storedThreshold config.settings.fuzzyThreshold }

theorem storedThreshold_lt {threshold : Nat} (small : threshold < counterLimit) :
    storedThreshold threshold < counterLimit := by
  have positive : 0 < counterLimit := by decide
  unfold storedThreshold
  split
  · simp only [Double.saturate]
    omega
  · exact small

theorem isWhole_toJson (config : Config) : config.toJson.IsWhole := by
  apply Json.IsWhole.obj
  intro field mem
  simp only [List.mem_cons, List.not_mem_nil, or_false] at mem
  rcases mem with rfl | rfl
  · apply Json.IsWhole.obj
    intro field mem
    obtain ⟨entry, -, rfl⟩ := List.mem_map.1 mem
    exact .str _
  · apply Json.IsWhole.obj
    intro field mem
    simp only [List.mem_cons, List.not_mem_nil, or_false] at mem
    rcases mem with rfl | rfl
    · exact .int _
    · exact .bool _

/-- The saved filters are read one by one, or not at all. -/
theorem fieldNodes?_entries (entries : List (String × String)) :
    let fields := entries.map fun (name, expression) => (name, Json.str expression)
    if entries.all fun (name, expression) => Json.isLegible name && Json.isLegible expression then
      ∃ nodes, Json.fieldNodes? fields = some nodes ∧ bindingsOf nodes = .ok entries
    else Json.fieldNodes? fields = none := by
  induction entries with
  | nil => exact ⟨[], rfl, rfl⟩
  | cons entry entries ih =>
    obtain ⟨name, expression⟩ := entry
    simp only [List.map_cons, List.all_cons, Json.fieldNodes?_cons, Json.node?] at ih ⊢
    cases hname : Json.isLegible name with
    | false => simp [Json.pieces?_eq_none hname]
    | true =>
      obtain ⟨key, hkey, keyText⟩ := Json.exists_pieces hname
      cases hexpression : Json.isLegible expression with
      | false => simp [hkey, Json.pieces?_eq_none hexpression]
      | true =>
        obtain ⟨value, hvalue, valueText⟩ := Json.exists_pieces hexpression
        split at ih
        · next legible =>
          obtain ⟨nodes, hnodes, bindings⟩ := ih
          have whole : bindingsOf ((key, .text value) :: nodes) =
              .ok ((name, expression) :: entries) := by
            simp [bindingsOf, keyText, textOf, valueText, bindings, bind, Except.bind, pure,
              Except.pure]
          rw [if_pos (by simp [legible])]
          exact ⟨(key, .text value) :: nodes, by simp [hkey, hvalue, hnodes], whole⟩
        · next illegible =>
          rw [if_neg (by simp [illegible])]
          simp [hkey, hvalue, ih]

theorem nearestDouble_counter {n : Nat} (small : n < counterLimit) :
    Settings.thresholdOf (.number ⟨.none, .decimal (Nat.toDigits 10 n) none none⟩) =
      .ok (storedThreshold n) := by
  obtain ⟨value, hvalue⟩ := Binary64.ofDecimal?_of_lt small
  simp [Settings.thresholdOf, Numeral.double, nearestDouble, Json.valueOf_toDigits, hvalue,
    storedThreshold, Except.map]

theorem settings_reread {settings : Settings} (small : settings.fuzzyThreshold < counterLimit) :
    ∃ node, settings.toJson.node? = some node ∧ Settings.ofNode node =
      .ok { settings with fuzzyThreshold := storedThreshold settings.fuzzyThreshold } := by
  obtain ⟨first, hfirst, firstText⟩ := @Json.exists_pieces "fuzzy_threshold" (by decide)
  obtain ⟨second, hsecond, secondText⟩ := @Json.exists_pieces "warn_unknown_labels" (by decide)
  have threshold := nearestDouble_counter small
  refine ⟨_, by
    simp only [Settings.toJson, Json.node?, hfirst, hsecond, Json.fieldNodes?]
    rfl, ?_⟩
  have positive : ¬(settings.fuzzyThreshold : Int) < 0 := by omega
  simp [Settings.ofNode, Settings.ofFields, firstText, secondText, positive, threshold,
    Settings.truthOf, bind, Except.bind]

/-- A document is read as the configuration that was written, up to the threshold, or is malformed.
-/
theorem parse_document {config : Config} (small : config.settings.fuzzyThreshold < counterLimit) :
    parse config.document =
      if config.isLegible then .ok config.reread else .error .grammar := by
  have document : readDocument config.document.toList = config.toJson.node? :=
    Json.readDocument_block (isWhole_toJson config)
  obtain ⟨first, hfirst, firstText⟩ := @Json.exists_pieces "filters" (by decide)
  obtain ⟨second, hsecond, secondText⟩ := @Json.exists_pieces "settings" (by decide)
  obtain ⟨settings, hsettings, settingsRead⟩ := settings_reread small
  have entries := fieldNodes?_entries config.filters.entries
  have whole : config.toJson.node? = (Json.fieldNodes? (config.filters.entries.map
      fun (name, expression) => (name, Json.str expression))).map
        fun nodes => .object [(first, .object nodes), (second, settings)] := by
    simp only [toJson, Json.node?, Json.fieldNodes?, hfirst, hsecond, hsettings]
    cases Json.fieldNodes? _ <;> rfl
  by_cases legible : config.isLegible = true
  · have readable := legible
    unfold isLegible at readable
    simp only [readable, if_true] at entries
    obtain ⟨nodes, hnodes, bindings⟩ := entries
    have filters : filtersOf (.object nodes) = .ok config.filters := by
      rw [filtersOf, bindings]
      exact congrArg Except.ok (Dict.ofList_entries config.filters)
    simp only [parse, Relaxed.parse, document, whole, hnodes, Option.map_some, if_pos legible]
    simp [ofNode, ofFields, firstText, secondText, filters, settingsRead, bind, Except.bind, reread]
  · have unreadable := legible
    unfold isLegible at unreadable
    simp only [unreadable, Bool.false_eq_true, if_false] at entries
    simp only [parse, Relaxed.parse, document, whole, entries, if_neg legible]
    rfl

end Config

end LabelQuery
