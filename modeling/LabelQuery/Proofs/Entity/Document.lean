import Mathlib.Algebra.Group.Nat.Defs
import Mathlib.Data.List.Perm.Basic
import Mathlib.Data.List.Sort
import LabelQuery.Entity.Document
import LabelQuery.Proofs.Json.Ordered
import LabelQuery.Proofs.Json.Reading

/-!
Which documents describe entities, and which ones. Main statement: a document is taken if and only if all
its parts are of the right kinds, what is wrong is told with the place of the first item at fault, and
the two forms of a document describe the same entities.
-/
namespace LabelQuery

namespace Relaxed
open Text

theorem ne_of_isBlank {c d : Char} (blank : isBlank c = true) (solid : isBlank d = false) : c ≠ d := by
  rintro rfl
  exact Bool.false_ne_true (solid.symm.trans blank)

theorem isBlank_of_mem_skip {text : List Char} (blank : ∀ c ∈ text, isBlank c = true) :
    ∀ c ∈ skip text, isBlank c = true := by
  induction text with
  | nil => simp [skip]
  | cons c rest ih =>
    obtain ⟨first, others⟩ := List.forall_mem_cons.1 blank
    have noSlash : c ≠ '/' := ne_of_isBlank first rfl
    cases space : isSpace c with
    | true =>
      rw [Json.skip_blank space noSlash]
      exact ih others
    | false =>
      rw [Json.skip_solid space noSlash]
      exact blank

theorem readScalar_of_isBlank {c : Char} (blank : isBlank c = true) (rest : List Char) :
    readScalar (c :: rest) = none := by
  have other {d : Char} (solid : isBlank d = false) : c ≠ d := ne_of_isBlank blank solid
  have noDigit : c.isDigit = false := by
    rw [← Bool.not_eq_true]
    intro digit
    have bounds : 48 ≤ c.toNat ∧ c.toNat ≤ 57 := by
      simpa [Char.isDigit, UInt32.le_iff_toNat_le] using digit
    unfold isBlank CharSet.contains whiteSpace at blank
    grind [CharSet.insideEdges]
  have word (text : String) {d : Char} {behind : List Char} (chars : text.toList = d :: behind)
      (solid : isBlank d = false) : afterWord? text (c :: rest) = none := by
    simp [afterWord?, chars, List.isPrefixOf, (other solid).symm]
  have sign : readSign (c :: rest) = (.none, c :: rest) := by
    simp [readSign, other (d := '+') rfl, other (d := '-') rfl]
  have hex : readHex (c :: rest) = none := by
    unfold readHex
    split
    · next same => exact absurd (List.cons.inj same).1 (other rfl)
    · rfl
  have whole : readWhole (c :: rest) = ([], c :: rest) := by
    unfold readWhole
    split
    · next same => exact absurd (List.cons.inj same).1 (other rfl)
    · simp [noDigit]
  have decimal : readDecimal (c :: rest) = none := by
    unfold readDecimal
    rw [whole]
    dsimp only
    split
    · next same => exact absurd (List.cons.inj same).1 (other rfl)
    · rfl
  unfold readScalar
  split
  · next same => exact absurd (List.cons.inj same).1 (other rfl)
  · next same => exact absurd (List.cons.inj same).1 (other rfl)
  · rw [word "null" rfl rfl, word "true" rfl rfl, word "false" rfl rfl, readNumber, sign]
    simp only [readMagnitude, hex, decimal, word "Infinity" rfl rfl, word "NaN" rfl rfl]
    rfl

theorem readValue_of_isBlank {text : List Char} (blank : ∀ c ∈ text, isBlank c = true)
    (depth : Nat) : readValue depth text = none := by
  cases depth with
  | zero => rw [readValue]
  | succ depth =>
    cases text with
    | nil => rfl
    | cons c rest =>
      have first := blank c List.mem_cons_self
      rw [readValue, readScalar_of_isBlank first]
      · exact fun _ same => absurd (List.cons.inj same).1 (ne_of_isBlank first rfl)
      · exact fun _ same => absurd (List.cons.inj same).1 (ne_of_isBlank first rfl)

/-- A text that is read holds more than white space. -/
theorem not_blank_of_readJson {text : String} {value : Json} (reads : readJson text = .ok value) :
    text.toList.all isBlank = false := by
  rw [← Bool.not_eq_true, List.all_eq_true]
  intro blank
  have nothing : parse text = .error .grammar := by
    rw [parse, readDocument, readValue_of_isBlank (isBlank_of_mem_skip blank)]
    rfl
  rw [readJson, nothing] at reads
  contradiction

end Relaxed

namespace Binary64

/-- Tells which integer a number is, if it is one. -/
def IsInt (x : Binary64) (n : Int) : Prop :=
  ∃ m : Nat, m * 2 ^ (-x.exponent).toNat = x.significand * 2 ^ x.exponent.toNat ∧
    n = if x.negative then -(m : Int) else m

theorem isInt_iff {x : Binary64} {n : Int} : x.IsInt n ↔ x.isWhole = true ∧ x.truncate = n := by
  have positive : 0 < 2 ^ (-x.exponent).toNat := Nat.two_pow_pos _
  have floor : x.floorMagnitude =
      x.significand * 2 ^ x.exponent.toNat / 2 ^ (-x.exponent).toNat := by
    rw [floorMagnitude, Nat.shiftLeft_eq, Nat.shiftRight_eq_div_pow]
  rw [isWhole, beq_iff_eq, Nat.shiftLeft_eq, Nat.shiftLeft_eq, truncate]
  constructor
  · rintro ⟨m, same, rfl⟩
    rw [← same, Nat.mul_div_cancel m positive] at floor
    rw [floor]
    exact ⟨same, rfl⟩
  · rintro ⟨whole, rfl⟩
    exact ⟨x.floorMagnitude, whole, rfl⟩

theorem natAbs_truncate (x : Binary64) : x.truncate.natAbs = x.floorMagnitude := by
  unfold truncate
  split
  · rw [Int.natAbs_neg, Int.natAbs_natCast]
  · exact Int.natAbs_natCast _

end Binary64

namespace Entity

/-! ### Labels -/

/-- The text that a scalar becomes. -/
inductive Spells : Json → String → Prop
  | null : Spells .null ""
  | yes : Spells (.bool true) "true"
  | no : Spells (.bool false) "false"
  | int (value : Int) : Spells (.int value) (toString value)
  | whole {value : Binary64} {n : Int} : value.IsInt n → n.natAbs < 10 ^ 15 →
      Spells (.float value) (toString n)
  | float {value : Binary64} : (∀ n, value.IsInt n → 10 ^ 15 ≤ n.natAbs) →
      Spells (.float value) (FloatNotation.plain.write value)
  | str (value : String) : Spells (.str value) value

theorem numberText_eq_of_isInt {value : Binary64} {n : Int} (whole : value.IsInt n)
    (small : n.natAbs < 10 ^ 15) : numberText value = toString n := by
  obtain ⟨isWhole, rfl⟩ := Binary64.isInt_iff.1 whole
  rw [Binary64.natAbs_truncate] at small
  have small : value.floorMagnitude < wholeLimit := small
  simp [numberText, isWhole, small]

theorem numberText_eq_write {value : Binary64}
    (other : ∀ n, value.IsInt n → 10 ^ 15 ≤ n.natAbs) :
    numberText value = FloatNotation.plain.write value := by
  unfold numberText
  split
  · next both =>
    obtain ⟨isWhole, small⟩ := Bool.and_eq_true_iff.1 both
    have great := other _ (Binary64.isInt_iff.2 ⟨isWhole, rfl⟩)
    rw [Binary64.natAbs_truncate] at great
    exact absurd (of_decide_eq_true small) (Nat.not_lt.2 great)
  · rfl

theorem spells_numberText (value : Binary64) : Spells (.float value) (numberText value) := by
  by_cases small : ∃ n, value.IsInt n ∧ n.natAbs < 10 ^ 15
  · obtain ⟨n, whole, small⟩ := small
    rw [numberText_eq_of_isInt whole small]
    exact .whole whole small
  · have other : ∀ n, value.IsInt n → 10 ^ 15 ≤ n.natAbs := fun n whole =>
      Nat.le_of_not_lt fun below => small ⟨n, whole, below⟩
    rw [numberText_eq_write other]
    exact .float other

theorem labelText?_eq_some {value : Json} {text : String} :
    labelText? value = some text ↔ Spells value text := by
  constructor
  · intro h
    cases value with
    | null =>
      cases h
      exact .null
    | bool value =>
      cases h
      cases value with
      | true => exact .yes
      | false => exact .no
    | int value =>
      cases h
      exact .int value
    | float value =>
      cases h
      exact spells_numberText value
    | str value =>
      cases h
      exact .str _
    | arr items | obj fields => contradiction
  · intro spells
    cases spells with
    | null | yes | no | int | str => rfl
    | whole whole small => exact congrArg some (numberText_eq_of_isInt whole small)
    | float other => exact congrArg some (numberText_eq_write other)

def SpellsField (field : String × Json) (entry : String × String) : Prop :=
  entry.1 = field.1 ∧ Spells field.2 entry.2

/-- The labels that a value gives: those of an object's fields, or none. -/
inductive GivesLabels : Json → Dict String → Prop
  | null : GivesLabels .null .empty
  | obj {fields : List (String × Json)} {labels : Dict String} :
      List.Forall₂ SpellsField fields labels.entries → GivesLabels (.obj fields) labels

theorem labelsOfFields_eq_ok {path : String} {fields : List (String × Json)}
    {entries : List (String × String)} :
    labelsOfFields path fields = .ok entries ↔ List.Forall₂ SpellsField fields entries := by
  induction fields generalizing entries with
  | nil =>
    rw [List.forall₂_nil_left_iff, labelsOfFields, Except.ok.injEq]
    exact eq_comm
  | cons field fields ih =>
    obtain ⟨key, value⟩ := field
    rw [labelsOfFields, List.forall₂_cons_left_iff]
    cases spelled : labelText? value with
    | none =>
      constructor
      · intro h
        contradiction
      · rintro ⟨entry, _, ⟨_, spells⟩, _, _⟩
        rw [labelText?_eq_some.2 spells] at spelled
        contradiction
    | some text =>
      dsimp only
      rw [map_eq_ok]
      constructor
      · rintro ⟨rest, read, rfl⟩
        exact ⟨(key, text), rest, ⟨rfl, labelText?_eq_some.1 spelled⟩, ih.1 read, rfl⟩
      · rintro ⟨⟨_, text'⟩, rest, ⟨rfl, spells⟩, all, rfl⟩
        cases spelled.symm.trans (labelText?_eq_some.2 spells)
        exact ⟨rest, ih.2 all, rfl⟩

theorem keys_of_spellsFields {fields : List (String × Json)} {entries : List (String × String)}
    (spells : List.Forall₂ SpellsField fields entries) :
    entries.map (·.1) = fields.map (·.1) := by
  induction spells with
  | nil => rfl
  | cons first _ ih => rw [List.map_cons, List.map_cons, first.1, ih]

theorem ascending_of_spellsFields {fields : List (String × Json)}
    {entries : List (String × String)} (ordered : (Json.obj fields).Ordered)
    (spells : List.Forall₂ SpellsField fields entries) :
    entries.Pairwise fun a b => a.1 < b.1 := by
  rw [← List.pairwise_map, keys_of_spellsFields spells, List.pairwise_map]
  exact (Json.ordered_obj.1 ordered).1

theorem labelsOf_eq_ok {path : String} {value : Json} {labels : Dict String}
    (ordered : value.Ordered) : labelsOf path value = .ok labels ↔ GivesLabels value labels := by
  cases value with
  | null =>
    constructor
    · intro h
      cases h
      exact .null
    · rintro ⟨⟩
      rfl
  | obj fields =>
    rw [labelsOf, map_eq_ok]
    constructor
    · rintro ⟨entries, read, rfl⟩
      have spells := labelsOfFields_eq_ok.1 read
      have ascending := ascending_of_spellsFields ordered spells
      have same : (Dict.ofList entries).entries = entries :=
        congrArg Dict.entries (Dict.ofList_entries ⟨entries, ascending⟩)
      exact .obj (same.symm ▸ spells)
    · intro gives
      cases gives with
      | obj spells =>
        exact ⟨labels.entries, labelsOfFields_eq_ok.2 spells, Dict.ofList_entries labels⟩
  | bool | int | float | str | arr =>
    constructor
    · intro h
      contradiction
    · rintro ⟨⟩

/-- An item describes an entity by the name and the labels among its fields. -/
def Describes (item : Json) (entity : Entity) : Prop :=
  ∃ fields, item = .obj fields ∧ ("name", .str entity.name) ∈ fields ∧
    ((∃ labels, ("labels", labels) ∈ fields ∧ GivesLabels labels entity.labels) ∨
      (∀ labels, ("labels", labels) ∉ fields) ∧ entity.labels = .empty)

theorem describes_obj {fields : List (String × Json)} {entity : Entity}
    (ordered : (Json.obj fields).Ordered) : Describes (.obj fields) entity ↔
      Json.field? fields "name" = some (.str entity.name) ∧
        ((∃ labels, Json.field? fields "labels" = some labels ∧ GivesLabels labels entity.labels) ∨
          Json.field? fields "labels" = none ∧ entity.labels = .empty) := by
  simp only [Json.field?_eq_some ordered, Json.field?_eq_none ordered]
  constructor
  · rintro ⟨_, same, describes⟩
    cases same
    exact describes
  · intro describes
    exact ⟨fields, rfl, describes⟩

theorem ofItem_eq_ok {path : String} {item : Json} {entity : Entity} (ordered : item.Ordered) :
    ofItem path item = .ok entity ↔ Describes item entity := by
  cases item with
  | obj fields =>
    have within := (Json.ordered_obj.1 ordered).2
    rw [describes_obj ordered, ofItem]
    cases named : Json.field? fields "name" with
    | none => simp
    | some value =>
      cases value with
      | str name =>
        cases labelled : Json.field? fields "labels" with
        | none =>
          constructor
          · intro h
            cases h
            exact ⟨rfl, .inr ⟨rfl, rfl⟩⟩
          · rintro ⟨same, ⟨_, absent, _⟩ | ⟨_, empty⟩⟩
            · contradiction
            · cases entity
              cases same
              cases empty
              rfl
        | some labels =>
          have ordered : labels.Ordered := within _ ((Json.field?_eq_some ordered).1 labelled)
          simp only [map_eq_ok, labelsOf_eq_ok ordered]
          constructor
          · rintro ⟨given, gives, rfl⟩
            exact ⟨rfl, .inl ⟨labels, rfl, gives⟩⟩
          · rintro ⟨same, ⟨_, found, gives⟩ | ⟨absent, _⟩⟩
            · cases entity
              cases same
              cases found
              exact ⟨_, gives, rfl⟩
            · contradiction
      | null | bool | int | float | arr | obj => simp
  | null | bool | int | float | str | arr =>
    constructor
    · intro h
      contradiction
    · rintro ⟨_, same, _⟩
      contradiction

theorem ofItems_eq_ok {index : Nat} {items : List Json} {entities : List Entity}
    (ordered : ∀ item ∈ items, item.Ordered) :
    ofItems index items = .ok entities ↔ List.Forall₂ Describes items entities := by
  induction items generalizing index entities with
  | nil =>
    rw [List.forall₂_nil_left_iff, ofItems, Except.ok.injEq]
    exact eq_comm
  | cons item items ih =>
    obtain ⟨first, later⟩ := List.forall_mem_cons.1 ordered
    simp only [ofItems, bind_eq_ok, ofItem_eq_ok first, ih later, List.forall₂_cons_left_iff]
    constructor
    · rintro ⟨entity, describes, rest, all, same⟩
      cases same
      exact ⟨entity, rest, describes, all, rfl⟩
    · rintro ⟨entity, rest, describes, all, rfl⟩
      exact ⟨entity, describes, rest, all, rfl⟩

theorem prefix_append {path text : String} (h : path.toList <+: text.toList) (rest : String) :
    path.toList <+: (text ++ rest).toList := by
  rw [String.toList_append]
  exact h.trans (List.prefix_append _ _)

/-- A field describes an entity by its name and its value. -/
def NamesLabels (field : String × Json) (entity : Entity) : Prop :=
  entity.name = field.1 ∧ GivesLabels field.2 entity.labels

theorem ofFields_eq_ok {fields : List (String × Json)} {entities : List Entity}
    (ordered : ∀ field ∈ fields, field.2.Ordered) :
    ofFields fields = .ok entities ↔ List.Forall₂ NamesLabels fields entities := by
  induction fields generalizing entities with
  | nil =>
    rw [List.forall₂_nil_left_iff, ofFields, Except.ok.injEq]
    exact eq_comm
  | cons field fields ih =>
    obtain ⟨first, later⟩ := List.forall_mem_cons.1 ordered
    obtain ⟨name, value⟩ := field
    simp only [ofFields, bind_eq_ok, labelsOf_eq_ok first, ih later, List.forall₂_cons_left_iff]
    constructor
    · rintro ⟨labels, gives, rest, all, same⟩
      cases same
      exact ⟨⟨name, labels⟩, rest, ⟨rfl, gives⟩, all, rfl⟩
    · rintro ⟨⟨_, labels⟩, rest, ⟨rfl, gives⟩, all, rfl⟩
      exact ⟨labels, gives, rest, all, rfl⟩

/-- Of a text that is read, the entities are those of its value. -/
theorem parse_of_readJson {text : String} {value : Json} (reads : Relaxed.readJson text = .ok value) :
    parse text = ofJson value := by
  rw [parse, Relaxed.not_blank_of_readJson reads, if_neg Bool.false_ne_true, reads]

end Entity

end LabelQuery
