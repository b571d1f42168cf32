import Mathlib.Data.List.Destutter
import Mathlib.Data.List.Sort
import LabelQuery.Suggestion
import LabelQuery.Proofs.Text.EditDistance

/-!
Suggestions are ranked by one strict order, in which no two of them are level. So what is suggested
depends only on which names are known, and a greater threshold only adds to the end.
-/
namespace LabelQuery

open Text

namespace Suggestion

/-- A candidate begins with the query, upper and lower case taken as the same. -/
def CompletedBy (query candidate : String) : Prop :=
  lowercase query.toList ≠ [] ∧ lowercase query.toList <+: lowercase candidate.toList

/-- How far a candidate is from a query: not at all if it begins with it, else as far as the least number
of edits says. -/
structure Scores (query candidate : String) (score : Nat) : Prop where
  begins : CompletedBy query candidate → score = 0
  edits : ¬CompletedBy query candidate →
    LeastEdits (lowercase query.toList) (lowercase candidate.toList) score

def Before (a b : Suggestion) : Prop :=
  a.before b = true

def scoreOf (query candidate : String) : Nat :=
  distance (lowercase query.toList) (lowercase candidate.toList)

/-- What is suggested, with its scores. -/
def ranking (query : String) (candidates : List String) (threshold : Nat) : List Suggestion :=
  (candidates.filterMap (rank? query threshold)).foldl (fun list suggestion => suggestion.place list)
    []

section Order

variable {a b c : Suggestion}

theorem before_iff : Before a b ↔ a.score < b.score ∨ a.score = b.score ∧ a.name < b.name := by
  simp [Before, before]

theorem Before.trans (first : Before a b) (second : Before b c) : Before a c := by
  rw [before_iff] at *
  rcases first with less | ⟨same, less⟩ <;> rcases second with less' | ⟨same', less'⟩
  · exact .inl (by omega)
  · exact .inl (by omega)
  · exact .inl (by omega)
  · exact .inr ⟨same.trans same', String.lt_trans less less'⟩

theorem not_before_self (a : Suggestion) : ¬Before a a := by
  rw [before_iff]
  rintro (less | ⟨_, less⟩)
  · exact Nat.lt_irrefl _ less
  · exact String.lt_irrefl _ less

theorem Before.asymm (h : Before a b) : ¬Before b a :=
  fun back => not_before_self a (h.trans back)

/-- Suggestions that do not rank before each other are the same. -/
theorem eq_of_not_before (first : ¬Before a b) (second : ¬Before b a) : a = b := by
  obtain ⟨score, name⟩ := a
  obtain ⟨score', name'⟩ := b
  simp only [before_iff, not_or, not_and, String.not_lt] at first second
  have same : score = score' := Nat.le_antisymm (Nat.le_of_not_lt second.1) (Nat.le_of_not_lt first.1)
  have sameName : name = name' := String.le_antisymm (second.2 same.symm) (first.2 same)
  rw [same, sameName]

instance : Std.Irrefl Before := ⟨not_before_self⟩

instance : Std.Antisymm Before := ⟨fun _ _ first second => absurd second first.asymm⟩

end Order

section Placing

variable {suggestion other : Suggestion} {list suggestions : List Suggestion}

theorem mem_place : other ∈ suggestion.place list ↔ other = suggestion ∨ other ∈ list := by
  induction list with
  | nil => simp [place]
  | cons first rest ih =>
    rw [place]
    split
    · simp
    · split
      · next same => simp [same]
      · rw [List.mem_cons, ih, List.mem_cons]
        exact or_left_comm

theorem pairwise_place (ranked : list.Pairwise Before) :
    (suggestion.place list).Pairwise Before := by
  induction list with
  | nil => exact List.pairwise_singleton _ _
  | cons first rest ih =>
    obtain ⟨ahead, ranked'⟩ := List.pairwise_cons.1 ranked
    rw [place]
    split
    · next precedes =>
      refine List.pairwise_cons.2 ⟨fun other mem => ?_, ranked⟩
      rcases List.mem_cons.1 mem with rfl | mem
      · exact precedes
      · exact Before.trans precedes (ahead other mem)
    · next notAhead =>
      split
      · exact ranked
      · next differs =>
        refine List.pairwise_cons.2 ⟨fun other mem => ?_, ih ranked'⟩
        rcases mem_place.1 mem with rfl | mem
        · exact Classical.byContradiction fun behind => differs (eq_of_not_before notAhead behind)
        · exact ahead other mem

theorem mem_foldl_place :
    other ∈ suggestions.foldl (fun list suggestion => suggestion.place list) list ↔
      other ∈ suggestions ∨ other ∈ list := by
  induction suggestions generalizing list with
  | nil => simp
  | cons suggestion rest ih =>
    rw [List.foldl_cons, ih, mem_place, List.mem_cons, or_assoc]
    exact or_left_comm

theorem pairwise_foldl_place (ranked : list.Pairwise Before) :
    (suggestions.foldl (fun list suggestion => suggestion.place list) list).Pairwise Before := by
  induction suggestions generalizing list with
  | nil => exact ranked
  | cons suggestion rest ih => exact ih (pairwise_place ranked)

end Placing

section Ranking

variable {query : String} {candidates : List String} {threshold : Nat} {suggestion : Suggestion}

theorem rank?_eq_some {candidate : String} : rank? query threshold candidate = some suggestion ↔
    (candidate ≠ query ∧ scoreOf query candidate ≤ threshold) ∧
      ⟨scoreOf query candidate, candidate⟩ = suggestion := by
  simp only [rank?, Option.ite_none_right_eq_some, Option.some.injEq]
  exact Iff.rfl

theorem mem_ranking : suggestion ∈ ranking query candidates threshold ↔
    suggestion.name ∈ candidates ∧ suggestion.name ≠ query ∧
      suggestion.score = scoreOf query suggestion.name ∧ suggestion.score ≤ threshold := by
  rw [ranking, mem_foldl_place, List.mem_filterMap]
  constructor
  · rintro (⟨candidate, mem, ranked⟩ | mem)
    · obtain ⟨⟨other, close⟩, rfl⟩ := rank?_eq_some.1 ranked
      exact ⟨mem, other, rfl, close⟩
    · contradiction
  · rintro ⟨mem, other, scored, close⟩
    refine .inl ⟨suggestion.name, mem, rank?_eq_some.2 ⟨⟨other, scored ▸ close⟩, ?_⟩⟩
    rw [← scored]

theorem pairwise_ranking : (ranking query candidates threshold).Pairwise Before :=
  pairwise_foldl_place .nil

/-- A ranked list of the same suggestions is the ranking. -/
theorem eq_ranking {list : List Suggestion} (ranked : list.Pairwise Before)
    (same : ∀ suggestion, suggestion ∈ list ↔
      suggestion.name ∈ candidates ∧ suggestion.name ≠ query ∧
        suggestion.score = scoreOf query suggestion.name ∧ suggestion.score ≤ threshold) :
    list = ranking query candidates threshold :=
  ranked.eq_of_mem_iff pairwise_ranking fun suggestion => (same suggestion).trans mem_ranking.symm

theorem ranking_congr {others : List String} (same : ∀ name, name ∈ others ↔ name ∈ candidates) :
    ranking query others threshold = ranking query candidates threshold := by
  apply eq_ranking pairwise_ranking
  intro suggestion
  rw [mem_ranking, same]

/-- The suggestions up to a score are the first ones of a ranked list. -/
theorem isPrefix_filter_score {list : List Suggestion} (ranked : list.Pairwise Before) :
    list.filter (·.score ≤ threshold) <+: list := by
  induction list with
  | nil => exact List.prefix_refl []
  | cons first rest ih =>
    obtain ⟨ahead, ranked⟩ := List.pairwise_cons.1 ranked
    by_cases close : first.score ≤ threshold
    · rw [List.filter_cons_of_pos (by simpa using close)]
      exact List.prefix_cons_inj first |>.2 (ih ranked)
    · have none : (first :: rest).filter (·.score ≤ threshold) = [] := by
        apply List.filter_eq_nil_iff.2
        intro other mem
        rw [decide_eq_true_eq]
        rcases List.mem_cons.1 mem with rfl | mem
        · exact close
        · have := before_iff.1 (ahead other mem)
          omega
      rw [none]
      exact List.nil_prefix

theorem isPrefix_ranking {more : Nat} (within : threshold ≤ more) :
    ranking query candidates threshold <+: ranking query candidates more := by
  have first : (ranking query candidates more).filter (·.score ≤ threshold) =
      ranking query candidates threshold := by
    apply eq_ranking (pairwise_ranking.filter _)
    intro suggestion
    rw [List.mem_filter, mem_ranking, decide_eq_true_eq]
    constructor
    · rintro ⟨⟨mem, other, scored, _⟩, close⟩
      exact ⟨mem, other, scored, close⟩
    · rintro ⟨mem, other, scored, close⟩
      exact ⟨⟨mem, other, scored, Nat.le_trans close within⟩, close⟩
  rw [← first]
  exact isPrefix_filter_score pairwise_ranking

theorem pairwise_mergeSort_not_before (suggestions : List Suggestion) :
    (suggestions.mergeSort fun a b => !b.before a).Pairwise fun a b => ¬Before b a := by
  have sorted := @List.pairwise_mergeSort _ (fun a b : Suggestion => !b.before a) ?_ ?_ suggestions
  · exact sorted.imp fun {a b} upTo => by simpa [Before] using upTo
  · intro a b c first second
    simp only [Bool.not_eq_true', ← Bool.not_eq_true] at *
    intro back
    by_cases precedes : Before b c
    · exact first (precedes.trans back)
    · exact first (eq_of_not_before precedes second ▸ back)
  · intro a b
    cases precedes : b.before a with
    | false => rfl
    | true => simpa [Before] using Before.asymm precedes

/-- To sort all that is close, and to keep one of each run of equal suggestions, comes to the same. -/
theorem ranking_eq_destutter (query : String) (candidates : List String) (threshold : Nat) :
    ranking query candidates threshold =
      ((candidates.filterMap (rank? query threshold)).mergeSort fun a b => !b.before a).destutter
        (· ≠ ·) := by
  have antisymm : Std.Antisymm fun a b => ¬Before b a :=
    ⟨fun _ _ first second => eq_of_not_before second first⟩
  have sorted := pairwise_mergeSort_not_before (candidates.filterMap (rank? query threshold))
  rw [sorted.destutter_eq_dedup]
  symm
  apply eq_ranking
  · have distinct := List.nodup_dedup
      ((candidates.filterMap (rank? query threshold)).mergeSort fun a b => !b.before a)
    have ordered := sorted.sublist (List.dedup_sublist _)
    apply (ordered.and distinct).imp
    rintro a b ⟨behind, differs⟩
    exact Classical.byContradiction fun ahead => differs (eq_of_not_before ahead behind)
  · intro suggestion
    rw [List.mem_dedup, List.mem_mergeSort, ← mem_ranking, ranking, mem_foldl_place]
    simp

end Ranking

theorem begins_iff {query candidate : String} : CompletedBy query candidate ↔
    (!(lowercase query.toList).isEmpty &&
      (lowercase query.toList).isPrefixOf (lowercase candidate.toList)) = true := by
  simp [CompletedBy]

theorem scores_scoreOf (query candidate : String) : Scores query candidate (scoreOf query candidate) := by
  unfold scoreOf distance
  constructor
  · intro begins
    rw [if_pos (begins_iff.1 begins)]
  · intro differs
    rw [if_neg (mt begins_iff.2 differs)]
    exact leastEdits_editDistance _ _

end Suggestion

open Suggestion

theorem suggest_eq_ranking (query : String) (candidates : List String) (threshold : Nat) :
    suggest query candidates threshold = (ranking query candidates threshold).map name :=
  rfl

theorem mem_suggest {query name : String} {candidates : List String} {threshold : Nat} :
    name ∈ suggest query candidates threshold ↔
      name ∈ candidates ∧ name ≠ query ∧ scoreOf query name ≤ threshold := by
  rw [suggest_eq_ranking, List.mem_map]
  constructor
  · rintro ⟨suggestion, mem, rfl⟩
    obtain ⟨mem, other, scored, close⟩ := mem_ranking.1 mem
    exact ⟨mem, other, scored ▸ close⟩
  · rintro ⟨mem, other, close⟩
    exact ⟨⟨scoreOf query name, name⟩, mem_ranking.2 ⟨mem, other, rfl, close⟩, rfl⟩

theorem pairwise_suggest (query : String) (candidates : List String) (threshold : Nat) :
    (suggest query candidates threshold).Pairwise fun a b =>
      scoreOf query a < scoreOf query b ∨ scoreOf query a = scoreOf query b ∧ a < b := by
  rw [suggest_eq_ranking, List.pairwise_map]
  apply pairwise_ranking.imp_of_mem
  intro a b ha hb precedes
  obtain ⟨_, _, scored, _⟩ := mem_ranking.1 ha
  obtain ⟨_, _, scored', _⟩ := mem_ranking.1 hb
  rw [← scored, ← scored']
  exact before_iff.1 precedes

/-- What is suggested are the known names other than the query that begin with it or are close enough, each
once, in the strict order of their scores and then of the names themselves. So the order and the number
of times in which the names are given do not matter, and a greater threshold adds names at the end. -/
theorem suggest_ranked (query : String) :
    ∃ score : String → Nat, (∀ candidate, Scores query candidate (score candidate)) ∧
      ∀ (candidates : List String) (threshold : Nat),
        (∀ name, name ∈ suggest query candidates threshold ↔
          name ∈ candidates ∧ name ≠ query ∧ (CompletedBy query name ∨ score name ≤ threshold)) ∧
        (suggest query candidates threshold).Nodup ∧
        (suggest query candidates threshold).Pairwise
          (fun a b => score a < score b ∨ score a = score b ∧ a < b) ∧
        (∀ others, (∀ name, name ∈ others ↔ name ∈ candidates) →
          suggest query others threshold = suggest query candidates threshold) ∧
        ∀ more, threshold ≤ more →
          suggest query candidates threshold <+: suggest query candidates more := by
  refine ⟨scoreOf query, scores_scoreOf query, fun candidates threshold => ⟨?_, ?_, ?_, ?_, ?_⟩⟩
  · intro name
    have near : CompletedBy query name → scoreOf query name ≤ threshold := by
      intro begins
      rw [(scores_scoreOf query name).begins begins]
      exact Nat.zero_le threshold
    rw [mem_suggest, or_iff_right_of_imp near]
  · apply (pairwise_suggest query candidates threshold).imp
    rintro a b precedes rfl
    rcases precedes with less | ⟨_, less⟩
    · exact Nat.lt_irrefl _ less
    · exact String.lt_irrefl _ less
  · exact pairwise_suggest query candidates threshold
  · intro others same
    rw [suggest_eq_ranking, suggest_eq_ranking, ranking_congr same]
  · intro more within
    exact (isPrefix_ranking within).map name

/-- Two names begin with `rol` and are level; a third is three edits away. -/
theorem suggest_ranked_rol :
    let known := ["roles", "rack", "role", "role"]
    let others := ["rack", "role", "roles"]
    (∀ name, name ∈ others ↔ name ∈ known) ∧ 1 ≤ 3 ∧
      suggest "rol" known 1 = ["role", "roles"] ∧
      suggest "rol" known 3 = ["role", "roles", "rack"] ∧
      suggest "rol" others 1 = suggest "rol" known 1 ∧
      suggest "rol" known 1 <+: suggest "rol" known 3 := by
  intro known others
  have same : ∀ name, name ∈ others ↔ name ∈ known := by
    simp [known, others]
    grind
  obtain ⟨score, _, ranked⟩ := suggest_ranked "rol"
  obtain ⟨_, _, _, permuted, longer⟩ := ranked known 1
  exact ⟨same, by decide, by decide +kernel, by decide +kernel, permuted others same,
    longer 3 (by decide)⟩

end LabelQuery
