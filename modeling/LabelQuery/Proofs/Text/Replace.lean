import LabelQuery.Text.Replace
import Mathlib.Data.List.Infix

/-!
Replacing occurrences: what happens at an occurrence and elsewhere, and that a replacement by another
text always shows.
-/
namespace LabelQuery.Text

variable {pattern replacement text rest front : List Char} {c : Char}

theorem replaceFrom_eq_drop (skip : Nat) (text : List Char) :
    replaceFrom pattern replacement skip text = replaceAll pattern replacement (text.drop skip) := by
  induction text generalizing skip with
  | nil => cases skip <;> rfl
  | cons c text ih =>
    cases skip with
    | zero => rfl
    | succ skip => exact ih skip

theorem replaceAll_occurrence (nonempty : pattern ≠ []) (rest : List Char) :
    replaceAll pattern replacement (pattern ++ rest) =
      replacement ++ replaceAll pattern replacement rest := by
  obtain ⟨c, pattern, rfl⟩ := List.exists_cons_of_ne_nil nonempty
  have here : (c :: pattern).isPrefixOf (c :: (pattern ++ rest)) = true :=
    List.isPrefixOf_iff_prefix.2 (List.prefix_append _ rest)
  rw [List.cons_append, replaceAll, replaceFrom, if_pos here, replaceFrom_eq_drop]
  simp

theorem replaceAll_cons (elsewhere : ¬pattern <+: c :: text) :
    replaceAll pattern replacement (c :: text) = c :: replaceAll pattern replacement text := by
  have notHere : ¬pattern.isPrefixOf (c :: text) = true := fun here =>
    elsewhere (List.isPrefixOf_iff_prefix.1 here)
  rw [replaceAll, replaceFrom, if_neg notHere]
  rfl

/-- Text as the replacement goes through it: an occurrence is left behind whole, anything else
character by character. -/
@[elab_as_elim]
theorem occurrence_induction {motive : List Char → Prop} (nonempty : pattern ≠ []) (nil : motive [])
    (occurrence : ∀ rest, motive rest → motive (pattern ++ rest))
    (cons : ∀ c text, ¬pattern <+: c :: text → motive text → motive (c :: text))
    (text : List Char) : motive text := by
  induction known : text.length using Nat.strong_induction_on generalizing text with
  | _ length ih =>
    subst known
    by_cases here : pattern <+: text
    · obtain ⟨rest, rfl⟩ := here
      have shorter : rest.length < (pattern ++ rest).length := by
        have := List.length_pos_of_ne_nil nonempty
        rw [List.length_append]
        omega
      exact occurrence rest (ih rest.length shorter rest rfl)
    · cases text with
      | nil => exact nil
      | cons c text => exact cons c text here (ih text.length (Nat.lt_succ_self _) text rfl)

/-- Text in which no occurrence begins stays as it is, whatever is behind it. -/
theorem replaceAll_append (none : ∀ tail, tail <:+ front → tail ≠ [] → ¬pattern <+: tail ++ rest) :
    replaceAll pattern replacement (front ++ rest) = front ++ replaceAll pattern replacement rest := by
  induction front with
  | nil => rfl
  | cons c front ih =>
    have elsewhere : ¬pattern <+: c :: (front ++ rest) :=
      none (c :: front) (List.suffix_refl _) (List.cons_ne_nil _ _)
    rw [List.cons_append, replaceAll_cons elsewhere]
    congr 1
    apply ih
    intro tail behind
    exact none tail (behind.trans (List.suffix_cons c front))

theorem replaceAll_self (nonempty : pattern ≠ []) (text : List Char) :
    replaceAll pattern pattern text = text := by
  induction text using occurrence_induction nonempty with
  | nil => rfl
  | occurrence rest ih => rw [replaceAll_occurrence nonempty, ih]
  | cons c text elsewhere ih => rw [replaceAll_cons elsewhere, ih]

theorem length_replaceAll (replacement : List Char) (nonempty : pattern ≠ []) (text : List Char) :
    ∃ count, (replaceAll pattern replacement text).length + count * pattern.length =
      text.length + count * replacement.length := by
  induction text using occurrence_induction nonempty with
  | nil => exact ⟨0, by simp [replaceAll, replaceFrom]⟩
  | occurrence rest ih =>
    obtain ⟨count, balance⟩ := ih
    refine ⟨count + 1, ?_⟩
    rw [replaceAll_occurrence nonempty, List.length_append, List.length_append, Nat.add_mul,
      Nat.add_mul]
    omega
  | cons c text elsewhere ih =>
    obtain ⟨count, balance⟩ := ih
    refine ⟨count, ?_⟩
    rw [replaceAll_cons elsewhere, List.length_cons, List.length_cons]
    omega

/-- Putting another text for an occurrence always changes the text: with equal lengths at the first
occurrence, and else by the length of the whole. -/
theorem replaceAll_ne (nonempty : pattern ≠ []) (other : replacement ≠ pattern)
    (occurs : pattern <:+: text) : replaceAll pattern replacement text ≠ text := by
  induction text using occurrence_induction nonempty with
  | nil => exact absurd (List.infix_nil.1 occurs) nonempty
  | occurrence rest ih =>
    obtain ⟨count, balance⟩ := length_replaceAll replacement nonempty rest
    rw [replaceAll_occurrence nonempty]
    intro same
    have whole := congrArg List.length same
    rw [List.length_append, List.length_append] at whole
    have multiple : (count + 1) * replacement.length = (count + 1) * pattern.length := by
      rw [Nat.add_mul, Nat.add_mul]
      omega
    have lengths := Nat.eq_of_mul_eq_mul_left (Nat.succ_pos count) multiple
    exact other (List.append_inj same lengths).1
  | cons c text elsewhere ih =>
    rw [replaceAll_cons elsewhere]
    intro same
    have later : pattern <:+: text := (List.infix_cons_iff.1 occurs).resolve_left elsewhere
    exact ih later (List.cons.inj same).2

end LabelQuery.Text
