import LabelQuery.Dict
import Mathlib.Data.List.Sort

/-!
Which keys a dictionary has after it is built and what they are bound to, and its bindings as a list.
-/
namespace LabelQuery.Dict

variable {α : Type}

theorem mem_map_insertInto {key other : String} {value : α} {entries : List (String × α)} :
    other ∈ (insertInto key value entries).map (·.1) ↔
      other = key ∨ other ∈ entries.map (·.1) := by
  induction entries with
  | nil => simp [insertInto]
  | cons binding rest ih =>
    obtain ⟨k, v⟩ := binding
    rw [insertInto]
    split
    · simp
    · split
      · next same => subst same; simp
      · rw [List.map_cons, List.mem_cons, ih, List.map_cons, List.mem_cons]
        exact or_left_comm

theorem mem_keys_insert {dict : Dict α} {key other : String} {value : α} :
    other ∈ (dict.insert key value).keys ↔ other = key ∨ other ∈ dict.keys :=
  mem_map_insertInto

theorem mem_keys_foldl_insert {bindings : List (String × α)} {dict : Dict α} {key : String} :
    key ∈ (bindings.foldl (fun dict binding => dict.insert binding.1 binding.2) dict).keys ↔
      key ∈ dict.keys ∨ key ∈ bindings.map (·.1) := by
  induction bindings generalizing dict with
  | nil => simp
  | cons binding rest ih =>
    rw [List.foldl_cons, ih, mem_keys_insert, List.map_cons, List.mem_cons, or_assoc]
    exact or_left_comm

theorem mem_keys_ofList {bindings : List (String × α)} {key : String} :
    key ∈ (ofList bindings).keys ↔ key ∈ bindings.map (·.1) := by
  rw [ofList, mem_keys_foldl_insert]
  exact or_iff_right List.not_mem_nil

theorem lookup_eq_some_iff {key : String} {value : α} {entries : List (String × α)}
    (ascending : entries.Pairwise fun a b => a.1 < b.1) :
    entries.lookup key = some value ↔ (key, value) ∈ entries := by
  induction entries with
  | nil => simp
  | cons binding rest ih =>
    obtain ⟨k, v⟩ := binding
    obtain ⟨first, ascending⟩ := List.pairwise_cons.1 ascending
    rw [List.lookup_cons, List.mem_cons]
    by_cases same : key = k
    · subst same
      have once : (key, value) ∉ rest := fun later => String.lt_irrefl key (first _ later)
      simp [once, eq_comm]
    · have other : (key == k) = false := beq_eq_false_iff_ne.2 same
      simp [other, same, ih ascending]

theorem mem_entries {dict : Dict α} {key : String} {value : α} :
    (key, value) ∈ dict.entries ↔ dict.get? key = some value :=
  (lookup_eq_some_iff dict.ascending).symm

theorem mem_keys {dict : Dict α} {key : String} :
    key ∈ dict.keys ↔ dict.contains key = true := by
  rw [contains, Option.isSome_iff_exists, keys, List.mem_map]
  constructor
  · rintro ⟨⟨_, value⟩, mem, rfl⟩
    exact ⟨value, mem_entries.1 mem⟩
  · rintro ⟨value, found⟩
    exact ⟨(key, value), mem_entries.2 found, rfl⟩

theorem nodup_keys (dict : Dict α) : dict.keys.Nodup :=
  List.pairwise_map.2 (dict.ascending.imp String.ne_of_lt)

theorem insertInto_of_last {key : String} {value : α} {entries : List (String × α)}
    (last : ∀ entry ∈ entries, entry.1 < key) :
    insertInto key value entries = entries ++ [(key, value)] := by
  induction entries with
  | nil => rfl
  | cons entry rest ih =>
    obtain ⟨first, later⟩ := List.forall_mem_cons.1 last
    have notBelow : ¬key < entry.1 := String.lt_asymm first
    have other : key ≠ entry.1 := fun same => String.lt_irrefl _ (same ▸ first)
    rw [insertInto, if_neg notBelow, if_neg other, ih later, List.cons_append]

/-- Bindings that are in order already stay as they are. -/
theorem ofList_entries (dict : Dict α) : ofList dict.entries = dict := by
  have general (rest : List (String × α)) (done : Dict α)
      (ascending : (done.entries ++ rest).Pairwise fun a b => a.1 < b.1) :
      (rest.foldl (fun dict binding => dict.insert binding.1 binding.2) done).entries =
        done.entries ++ rest := by
    induction rest generalizing done with
    | nil => simp
    | cons binding rest ih =>
      have last : ∀ entry ∈ done.entries, entry.1 < binding.1 := fun entry mem =>
        (List.pairwise_append.1 ascending).2.2 entry mem binding (by simp)
      have inserted : (done.insert binding.1 binding.2).entries = done.entries ++ [binding] :=
        insertInto_of_last last
      rw [List.foldl_cons, ih]
      · rw [inserted, List.append_assoc, List.singleton_append]
      · rwa [inserted, List.append_assoc, List.singleton_append]
  exact Dict.ext (general dict.entries .empty dict.ascending)

theorem get?_foldl_insert (bindings : List (String × α)) (dict : Dict α) (key : String) :
    (bindings.foldl (fun dict binding => dict.insert binding.1 binding.2) dict).get? key =
      (bindings.reverse.lookup key).or (dict.get? key) := by
  induction bindings generalizing dict with
  | nil => rfl
  | cons binding rest ih =>
    obtain ⟨first, value⟩ := binding
    rw [List.foldl_cons, ih, get?_insert, List.reverse_cons, List.lookup_append]
    cases rest.reverse.lookup key with
    | some value => rfl
    | none =>
      by_cases same : key = first
      · simp [same]
      · simp [same, List.lookup_cons, beq_eq_false_iff_ne.2 same]

/-- Of several bindings of a key the last counts. -/
theorem get?_ofList (bindings : List (String × α)) (key : String) :
    (ofList bindings).get? key = bindings.reverse.lookup key :=
  (get?_foldl_insert bindings .empty key).trans Option.or_none

/-- Dictionaries are equal if look-up is. -/
theorem ext_get? {a b : Dict α} (same : ∀ key, a.get? key = b.get? key) : a = b := by
  have irreflexive : Std.Irrefl fun a b : String × α => a.1 < b.1 :=
    ⟨fun binding => String.lt_irrefl binding.1⟩
  apply Dict.ext
  apply a.ascending.eq_of_mem_iff b.ascending
  rintro ⟨key, value⟩
  rw [mem_entries, mem_entries, same]

end LabelQuery.Dict
