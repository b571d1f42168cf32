import Mathlib.Data.List.Forall2

/-!
Results of what may fail: when they are there, and two that are there or fail together. Lists of items
that are related one by one.
-/
namespace LabelQuery

variable {ε α β γ δ : Type}

theorem map_eq_ok {f : α → β} {result : Except ε α} {value : β} :
    result.map f = .ok value ↔ ∃ first, result = .ok first ∧ f first = value := by
  cases result <;> simp [Except.map]

theorem bind_eq_ok {next : α → Except ε β} {result : Except ε α} {value : β} :
    result >>= next = .ok value ↔ ∃ first, result = .ok first ∧ next first = .ok value := by
  cases result <;> simp [bind, Except.bind]

theorem exists_forall₂ {related : α → β → Prop} {items : List α} :
    (∃ values, List.Forall₂ related items values) ↔ ∀ item ∈ items, ∃ value, related item value := by
  induction items with
  | nil => simp
  | cons item items ih =>
    rw [List.forall_mem_cons, ← ih]
    constructor
    · rintro ⟨_, both⟩
      obtain ⟨value, values, first, rest, rfl⟩ := List.forall₂_cons_left_iff.1 both
      exact ⟨⟨value, first⟩, values, rest⟩
    · rintro ⟨⟨value, first⟩, values, rest⟩
      exact ⟨value :: values, .cons first rest⟩

theorem forall₂_getElem? {related : α → β → Prop} {index : Nat} {first : List α} {second : List β}
    (all : List.Forall₂ related first second) {b : β} (found : second[index]? = some b) :
    ∃ a, first[index]? = some a ∧ related a b := by
  induction all generalizing index with
  | nil => contradiction
  | @cons a _ _ _ here _ ih =>
    cases index with
    | zero =>
      cases found
      exact ⟨a, rfl, here⟩
    | succ index => exact ih found

/-- Two results with related values, or the same error. -/
inductive Corresponds (related : α → β → Prop) : Except ε α → Except ε β → Prop
  | ok {a : α} {b : β} : related a b → Corresponds related (.ok a) (.ok b)
  | error (error : ε) : Corresponds related (.error error) (.error error)

namespace Corresponds

variable {related : α → β → Prop} {relatedNext : γ → δ → Prop} {first : Except ε α}
  {second : Except ε β}

theorem bind (corresponds : Corresponds related first second) {next : α → Except ε γ}
    {next' : β → Except ε δ}
    (each : ∀ a b, related a b → Corresponds relatedNext (next a) (next' b)) :
    Corresponds relatedNext (first >>= next) (second >>= next') := by
  cases corresponds with
  | ok both => exact each _ _ both
  | error error => exact .error error

theorem of_left_ok (corresponds : Corresponds related first second) {a : α}
    (h : first = .ok a) : ∃ b, second = .ok b ∧ related a b := by
  subst h
  cases corresponds with
  | ok both => exact ⟨_, rfl, both⟩

theorem of_right_ok (corresponds : Corresponds related first second) {b : β}
    (h : second = .ok b) : ∃ a, first = .ok a ∧ related a b := by
  subst h
  cases corresponds with
  | ok both => exact ⟨_, rfl, both⟩

end Corresponds

end LabelQuery
