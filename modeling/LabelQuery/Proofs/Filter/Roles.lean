import LabelQuery.Proofs.Filter.Conversion
import LabelQuery.Proofs.Filter.Footprint

/-!
The labels that a program asks for, read off the tree. What an operand is there for shows only when a
later step takes it off the stack, so a tree that is a mere text may still be asked for by what follows.
Main statement: a program asks for the operands that are conditions or keys, wherever they stand.
-/
namespace LabelQuery

namespace Expr

/-- The text that a tree leaves on the stack, if it is an operand. -/
def text? : Expr → Option String
  | operand text => some text
  | _ => none

/-- Tells whether a tree in some role asks for a label: as a condition or as a key. -/
def Names (role : Role) (e : Expr) (name : String) : Prop :=
  (.condition, name) ∈ e.operands role ∨ (.key, name) ∈ e.operands role

section Names

variable {e key value left right part : Expr} {name : String} {role : Role} {position : Nat}

theorem names_equal : (equal position key value).Names role name ↔
    key.Names .key name ∨ value.Names .value name := by
  simp only [Names, operands, List.mem_append]
  exact or_or_or_comm

theorem names_not : (not position part).Names role name ↔ part.Names .condition name :=
  Iff.rfl

theorem names_and : (and position left right).Names role name ↔
    left.Names .condition name ∨ right.Names .condition name := by
  simp only [Names, operands, List.mem_append]
  exact or_or_or_comm

theorem names_or : (or position left right).Names role name ↔
    left.Names .condition name ∨ right.Names .condition name := by
  simp only [Names, operands, List.mem_append]
  exact or_or_or_comm

/-- As a value a tree asks for what is inside it, in any other role also for the text that it is. -/
theorem names_iff (asked : role ≠ .value) :
    e.Names role name ↔ e.Names .value name ∨ e.text? = some name := by
  cases e with
  | operand text =>
    cases role with
    | value => contradiction
    | condition | key => simp [Names, operands, text?, eq_comm]
  | equal | not | and | or | beside => simp [Names, operands, text?]

theorem names_condition :
    e.Names .condition name ↔ e.Names .value name ∨ e.text? = some name :=
  names_iff (by decide)

theorem names_key : e.Names .key name ↔ e.Names .value name ∨ e.text? = some name :=
  names_iff (by decide)

end Names

section Asking

variable {name : String} {rest : List Instruction} {stack : List (Option String)}
  {part key value left right : Option String}

theorem mem_asksAll_equal (position : Nat) :
    name ∈ asksAll (.operator .equal position :: rest) (value :: key :: stack) ↔
      key = some name ∨ name ∈ asksAll rest (none :: stack) := by
  cases key <;> simp [asksAll, Instruction.asks, eq_comm]

theorem mem_asksAll_not (position : Nat) :
    name ∈ asksAll (.operator .not position :: rest) (part :: stack) ↔
      part = some name ∨ name ∈ asksAll rest (none :: stack) := by
  cases part <;> simp [asksAll, Instruction.asks, eq_comm]

theorem mem_asksAll_join {op : Operator} (joins : op = .and ∨ op = .or) (position : Nat) :
    name ∈ asksAll (.operator op position :: rest) (right :: left :: stack) ↔
      right = some name ∨ left = some name ∨ name ∈ asksAll rest (none :: stack) := by
  rcases joins with rfl | rfl <;> cases left <;> cases right <;>
    simp [asksAll, Instruction.asks, eq_comm]

end Asking

/-- The steps of a tree ask for the names that it has as a value, and its own text is left to what
follows. -/
theorem mem_asksAll_postorder {e : Expr} (explicit : e.isExplicit = true) (name : String)
    (rest : List Instruction) (stack : List (Option String)) :
    name ∈ asksAll (e.postorder ++ rest) stack ↔
      e.Names .value name ∨ name ∈ asksAll rest (e.text? :: stack) := by
  induction e generalizing rest stack with
  | operand text => simp [postorder, asksAll, Instruction.asks, Names, operands, text?]
  | equal position key value hkey hvalue =>
    obtain ⟨explicitKey, explicitValue⟩ := Bool.and_eq_true_iff.1 explicit
    simp only [postorder, List.append_assoc, List.singleton_append, hkey explicitKey,
      hvalue explicitValue, mem_asksAll_equal, names_equal, names_key]
    grind [text?]
  | not position part hpart =>
    simp only [postorder, List.append_assoc, List.singleton_append, hpart explicit,
      mem_asksAll_not, names_not, names_condition]
    grind [text?]
  | and position left right hleft hright =>
    obtain ⟨explicitLeft, explicitRight⟩ := Bool.and_eq_true_iff.1 explicit
    simp only [postorder, List.append_assoc, List.singleton_append, hleft explicitLeft,
      hright explicitRight, mem_asksAll_join (.inl rfl), names_and, names_condition]
    grind [text?]
  | or position left right hleft hright =>
    obtain ⟨explicitLeft, explicitRight⟩ := Bool.and_eq_true_iff.1 explicit
    simp only [postorder, List.append_assoc, List.singleton_append, hleft explicitLeft,
      hright explicitRight, mem_asksAll_join (.inr rfl), names_or, names_condition]
    grind [text?]
  | beside => contradiction

end Expr

theorem Program.referencedLabels_ascending (program : Program) :
    program.referencedLabels.Pairwise (· < ·) :=
  pairwise_ascendingNames _

/-- A program made of an expression without juxtaposition asks, in ascending order and once each, for
the operands that are conditions and for those that are keys: a value is among them only if it is one of
these elsewhere, and what is inside a compound key or value has its own role. -/
theorem Derives.mem_referencedLabels {level : Level} {tokens : List Token} {e : Expr}
    (h : Derives level tokens e) (explicit : e.isExplicit = true) :
    ∃ program, Program.ofTokens tokens = .ok program ∧
      program.referencedLabels.Pairwise (· < ·) ∧
      ∀ name, name ∈ program.referencedLabels ↔
        (.condition, name) ∈ e.operands .condition ∨ (.key, name) ∈ e.operands .condition := by
  have becomes : Pending.Becomes level.floor tokens [] e.postorder :=
    h.becomes explicit (by simp [Pending.HoldsBack])
  obtain ⟨last, hlast, notFin⟩ := e.postorder_getLast?
  refine ⟨_, Program.ofTokens_of_becomes becomes, Program.referencedLabels_ascending _, ?_⟩
  intro name
  rw [Program.referencedLabels, Program.mem_ascendingNames, Program.instructions_close _ hlast notFin]
  have atEnd : name ∈ asksAll [.operator .fin (Program.stopOf tokens)] [e.text?] ↔
      e.text? = some name := by
    cases e.text? <;> simp [asksAll, Instruction.asks, eq_comm]
  calc name ∈ asksAll (e.postorder ++ [.operator .fin (Program.stopOf tokens)]) []
    _ ↔ e.Names .value name ∨ e.text? = some name := by
      rw [Expr.mem_asksAll_postorder explicit, atEnd]
    _ ↔ e.Names .condition name := Expr.names_condition.symm

/-- In `role=rack and flag=(a or not role)` the value `rack` is not asked for, `a` in a value is. -/
theorem Derives.mem_referencedLabels_flag :
    ∃ program, Program.compile "role=rack and flag=(a or not role)" = .ok program ∧
      program.referencedLabels.Pairwise (· < ·) ∧
      ∀ name, name ∈ program.referencedLabels ↔ name ∈ ["a", "flag", "role"] := by
  have read : tokenize "role=rack and flag=(a or not role)" = [⟨.word, "role", 0⟩,
      ⟨.symbol, "=", 4⟩, ⟨.word, "rack", 5⟩, ⟨.word, "and", 10⟩, ⟨.word, "flag", 14⟩,
      ⟨.symbol, "=", 18⟩, ⟨.symbol, "(", 19⟩, ⟨.word, "a", 20⟩, ⟨.word, "or", 22⟩,
      ⟨.word, "not", 25⟩, ⟨.word, "role", 29⟩, ⟨.symbol, ")", 33⟩] := by
    decide +kernel
  have role : Derives .negation [⟨.word, "role", 0⟩, ⟨.symbol, "=", 4⟩, ⟨.word, "rack", 5⟩]
      (.equal 4 (.operand "role") (.operand "rack")) :=
    .comparison (.equal (.operand (by decide)) (by decide) (.operand (by decide)))
  have flag : Derives .negation [⟨.word, "flag", 14⟩, ⟨.symbol, "=", 18⟩, ⟨.symbol, "(", 19⟩,
      ⟨.word, "a", 20⟩, ⟨.word, "or", 22⟩, ⟨.word, "not", 25⟩, ⟨.word, "role", 29⟩,
      ⟨.symbol, ")", 33⟩]
      (.equal 18 (.operand "flag") (.or 22 (.operand "a") (.not 25 (.operand "role")))) :=
    .comparison (.equal (.operand (by decide)) (by decide)
      (.group (by decide)
        (.alternatives (.or
          (.requirements (.negation (.comparison (.atom (.operand (by decide))))))
          (by decide)
          (.negation (.not (by decide) (.atom (.operand (by decide)))))))
        (by decide)))
  have sign : Token.operator? ⟨.word, "and", 10⟩ = some .and := by decide
  obtain ⟨program, compiled, ascending, mem⟩ :=
    Derives.mem_referencedLabels (.and (.negation role) sign flag) rfl
  refine ⟨program, ?_, ascending, ?_⟩
  · rw [Program.compile, read]
    exact compiled
  · intro name
    rw [mem]
    simp [Expr.operands]
    grind

end LabelQuery
