import LabelQuery.Json.Relaxed.Meaning
import LabelQuery.Proofs.Dict
import LabelQuery.Proofs.Result

/-!
Values in which every object lists its fields in ascending order and each once. Main statement: every value
that a document is read as is of this kind.
-/
namespace LabelQuery

theorem Dict.mem_of_mem_ofList {α : Type} {bindings : List (String × α)} {binding : String × α}
    (mem : binding ∈ (Dict.ofList bindings).entries) : binding ∈ bindings := by
  have general (rest : List (String × α)) (done : Dict α)
      (mem : binding ∈ (rest.foldl (fun dict binding => dict.insert binding.1 binding.2) done).entries) :
      binding ∈ done.entries ∨ binding ∈ rest := by
    induction rest generalizing done with
    | nil => exact .inl mem
    | cons next rest ih =>
      rcases ih _ mem with early | late
      · rcases Dict.mem_insertInto early with rfl | early
        · exact .inr List.mem_cons_self
        · exact .inl early
      · exact .inr (List.mem_cons_of_mem _ late)
  exact (general bindings .empty mem).resolve_left List.not_mem_nil

namespace Json

inductive Ordered : Json → Prop
  | null : Ordered null
  | bool (value : Bool) : Ordered (bool value)
  | int (value : Int) : Ordered (int value)
  | float (value : Binary64) : Ordered (float value)
  | str (value : String) : Ordered (str value)
  | arr {items : List Json} : (∀ item ∈ items, Ordered item) → Ordered (arr items)
  | obj {fields : List (String × Json)} : fields.Pairwise (fun a b => a.1 < b.1) →
      (∀ field ∈ fields, Ordered field.2) → Ordered (obj fields)

theorem ordered_arr {items : List Json} : Ordered (arr items) ↔ ∀ item ∈ items, Ordered item :=
  ⟨fun | .arr each => each, .arr⟩

theorem ordered_obj {fields : List (String × Json)} : Ordered (obj fields) ↔
    fields.Pairwise (fun a b => a.1 < b.1) ∧ ∀ field ∈ fields, Ordered field.2 :=
  ⟨fun | .obj ascending each => ⟨ascending, each⟩, fun ⟨ascending, each⟩ => .obj ascending each⟩

theorem field?_eq_some {fields : List (String × Json)} {name : String} {value : Json}
    (ordered : Ordered (obj fields)) : field? fields name = some value ↔ (name, value) ∈ fields :=
  Dict.lookup_eq_some_iff (ordered_obj.1 ordered).1

theorem field?_eq_none {fields : List (String × Json)} {name : String}
    (ordered : Ordered (obj fields)) : field? fields name = none ↔ ∀ value, (name, value) ∉ fields := by
  rw [Option.eq_none_iff_forall_ne_some]
  exact forall_congr' fun value => not_congr (field?_eq_some ordered)

end Json

namespace Relaxed

open Json (Ordered)

theorem ordered_toJson_quantity (quantity : Quantity) : Ordered quantity.toJson := by
  cases quantity with
  | int value => exact .int value
  | double value =>
    cases value with
    | finite value => exact .float value
    | infinite negative | nan => exact .null

mutual

theorem Node.ordered_toJson : ∀ {node : Node} {value : Json}, node.toJson = .ok value → Ordered value
  | .null, _, h => by
    cases h
    exact .null
  | .bool given, _, h => by
    cases h
    exact .bool given
  | .text pieces, _, h => by
    obtain ⟨text, _, rfl⟩ := map_eq_ok.1 h
    exact .str text
  | .number numeral, _, h => by
    obtain ⟨quantity, _, rfl⟩ := map_eq_ok.1 h
    exact ordered_toJson_quantity quantity
  | .array nodes, _, h => by
    obtain ⟨items, read, rfl⟩ := map_eq_ok.1 h
    exact .arr (ordered_itemsToJson read)
  | .object nodes, _, h => by
    obtain ⟨fields, read, rfl⟩ := map_eq_ok.1 h
    apply Ordered.obj (Dict.ascending _)
    intro field mem
    exact ordered_fieldsToJson read field (Dict.mem_of_mem_ofList mem)

theorem ordered_itemsToJson : ∀ {nodes : List Node} {items : List Json},
    itemsToJson nodes = .ok items → ∀ item ∈ items, Ordered item
  | [], _, h => by
    cases h
    exact List.forall_mem_nil _
  | node :: nodes, _, h => by
    obtain ⟨item, first, h⟩ := bind_eq_ok.1 h
    obtain ⟨items, rest, h⟩ := bind_eq_ok.1 h
    cases h
    exact List.forall_mem_cons.2 ⟨Node.ordered_toJson first, ordered_itemsToJson rest⟩

theorem ordered_fieldsToJson : ∀ {nodes : List (List Piece × Node)} {fields : List (String × Json)},
    fieldsToJson nodes = .ok fields → ∀ field ∈ fields, Ordered field.2
  | [], _, h => by
    cases h
    exact List.forall_mem_nil _
  | (pieces, node) :: nodes, _, h => by
    obtain ⟨key, _, h⟩ := bind_eq_ok.1 h
    obtain ⟨value, first, h⟩ := bind_eq_ok.1 h
    obtain ⟨fields, rest, h⟩ := bind_eq_ok.1 h
    cases h
    exact List.forall_mem_cons.2 ⟨Node.ordered_toJson first, ordered_fieldsToJson rest⟩

end

theorem ordered_readJson {text : String} {value : Json} (h : readJson text = .ok value) :
    Ordered value := by
  obtain ⟨node, _, meant⟩ := bind_eq_ok.1 h
  exact Node.ordered_toJson meant

end Relaxed

end LabelQuery
