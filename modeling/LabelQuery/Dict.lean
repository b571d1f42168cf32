/-!
Dictionaries from text to values, kept in ascending order of their keys. The order is part of the
type, so two dictionaries with the same bindings are equal and every listing is sorted.
-/
namespace LabelQuery

/-- A finite map from text: bindings in strictly ascending order of their keys. -/
structure Dict (α : Type) where
  entries : List (String × α)
  ascending : entries.Pairwise fun a b => a.1 < b.1

namespace Dict

variable {α : Type}

/-- Puts a binding into an ascending list, in place of the one that its key has. -/
def insertInto (key : String) (value : α) : List (String × α) → List (String × α)
  | [] => [(key, value)]
  | (k, v) :: rest =>
    if key < k then (key, value) :: (k, v) :: rest
    else if key = k then (key, value) :: rest
    else (k, v) :: insertInto key value rest

theorem mem_insertInto {key : String} {value : α} {a : String × α} {entries : List (String × α)}
    (h : a ∈ insertInto key value entries) : a = (key, value) ∨ a ∈ entries := by
  induction entries with
  | nil => simpa [insertInto] using h
  | cons b rest ih =>
    obtain ⟨k, v⟩ := b
    rw [insertInto] at h
    split at h
    · simpa using h
    · split at h <;> grind

theorem pairwise_insertInto (key : String) (value : α) {entries : List (String × α)}
    (h : entries.Pairwise fun a b => a.1 < b.1) :
    (insertInto key value entries).Pairwise fun a b => a.1 < b.1 := by
  induction entries with
  | nil => simp [insertInto]
  | cons b rest ih =>
    obtain ⟨k, v⟩ := b
    have hrest := (List.pairwise_cons.1 h).2
    have hk := (List.pairwise_cons.1 h).1
    rw [insertInto]
    split
    · next below =>
      refine List.pairwise_cons.2 ⟨fun a ha => ?_, h⟩
      rcases List.mem_cons.1 ha with rfl | ha
      · exact below
      · exact String.lt_trans below (hk a ha)
    · next notBelow =>
      split
      · next same => subst same; exact List.pairwise_cons.2 ⟨hk, hrest⟩
      · next other =>
        refine List.pairwise_cons.2 ⟨fun a ha => ?_, ih hrest⟩
        rcases mem_insertInto ha with rfl | ha
        · exact String.not_le.1 fun le =>
            other (String.le_antisymm le (String.not_lt.1 notBelow))
        · exact hk a ha

def empty : Dict α := ⟨[], .nil⟩

instance : EmptyCollection (Dict α) := ⟨empty⟩

instance : Inhabited (Dict α) := ⟨empty⟩

def insert (dict : Dict α) (key : String) (value : α) : Dict α :=
  ⟨insertInto key value dict.entries, pairwise_insertInto key value dict.ascending⟩

def erase (dict : Dict α) (key : String) : Dict α :=
  ⟨dict.entries.filter (·.1 ≠ key), dict.ascending.filter _⟩

def get? (dict : Dict α) (key : String) : Option α :=
  dict.entries.lookup key

def contains (dict : Dict α) (key : String) : Bool :=
  (dict.get? key).isSome

/-- Binds each key in turn, so the last binding of a key stands. -/
def ofList (bindings : List (String × α)) : Dict α :=
  bindings.foldl (fun dict binding => dict.insert binding.1 binding.2) empty

def keys (dict : Dict α) : List String :=
  dict.entries.map (·.1)

def isEmpty (dict : Dict α) : Bool :=
  dict.entries.isEmpty

@[ext] theorem ext {a b : Dict α} (h : a.entries = b.entries) : a = b := by
  cases a; cases b; cases h; rfl

instance [DecidableEq α] : DecidableEq (Dict α) := fun a b =>
  decidable_of_iff (a.entries = b.entries) ⟨ext, congrArg entries⟩

@[simp] theorem entries_empty : (empty : Dict α).entries = [] := rfl

@[simp] theorem get?_empty (key : String) : (empty : Dict α).get? key = none := rfl

theorem lookup_insertInto (key other : String) (value : α) (entries : List (String × α)) :
    (insertInto key value entries).lookup other =
      if other = key then some value else entries.lookup other := by
  induction entries with
  | nil => grind [insertInto]
  | cons b rest ih =>
    obtain ⟨k, v⟩ := b
    rw [insertInto]
    split <;> grind

/-- A key just bound has its new value, and every other key has what it had. -/
theorem get?_insert (dict : Dict α) (key other : String) (value : α) :
    (dict.insert key value).get? other = if other = key then some value else dict.get? other :=
  lookup_insertInto key other value dict.entries

theorem lookup_filter_ne (key other : String) (entries : List (String × α)) :
    (entries.filter (·.1 ≠ key)).lookup other =
      if other = key then none else entries.lookup other := by
  induction entries with
  | nil => simp
  | cons b rest ih =>
    obtain ⟨k, v⟩ := b
    grind

theorem get?_erase (dict : Dict α) (key other : String) :
    (dict.erase key).get? other = if other = key then none else dict.get? other :=
  lookup_filter_ne key other dict.entries

end Dict

end LabelQuery
