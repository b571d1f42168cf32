import LabelQuery.Proofs.Filter.Running

/-!
Whether a program fails is decided by counting. How many data lie on the stack does not depend on
labels, and an operator fails only when it needs more of them than there are.
-/
namespace LabelQuery

open Datum

namespace Operator

def need (op : Operator) : Nat :=
  match op.arity with
  | .fixed count => count
  | .grouping | .reduce => 0

/-- How many data an operator leaves on a stack of some depth that meets its need. -/
def depthAfter (op : Operator) (depth : Nat) : Nat :=
  match op with
  | openParen | closeParen | not => depth
  | equal | and | or => depth - 1
  | fin => 1

end Operator

/-- The first operator of some steps whose need is not met, with its place, when the steps start
from a stack of some depth. -/
def firstLack : Nat → List Instruction → Option (Operator × Nat)
  | _, [] => none
  | depth, .operand _ :: rest => firstLack (depth + 1) rest
  | depth, .operator op position :: rest =>
    if depth < op.need then some (op, position) else firstLack (op.depthAfter depth) rest

theorem Instruction.run_of_lack {op : Operator} {position : Nat} {stack : List Datum}
    (labels : Labels) (lack : stack.length < op.need) :
    (Instruction.operator op position).run labels stack =
      .error (.missingOperands op position) := by
  cases op with
  | openParen | closeParen | fin => contradiction
  | not =>
    match stack, lack with
    | [], _ => rfl
  | equal | and | or =>
    match stack, lack with
    | [], _ | [_], _ => rfl
    | _ :: _ :: _, lack =>
      simp only [List.length_cons, Operator.need, Operator.arity] at lack
      omega

theorem Instruction.run_of_need {op : Operator} {stack : List Datum} (labels : Labels)
    (position : Nat) (met : op.need ≤ stack.length) :
    ∃ next, (Instruction.operator op position).run labels stack = .ok next ∧
      next.length = op.depthAfter stack.length := by
  cases op with
  | openParen | closeParen => exact ⟨stack, rfl, rfl⟩
  | fin => exact ⟨_, Program.run_fin labels position stack, rfl⟩
  | not =>
    match stack, met with
    | a :: rest, _ => exact ⟨_, rfl, rfl⟩
  | equal | and | or =>
    match stack, met with
    | [_], met => simp [Operator.need, Operator.arity] at met
    | a :: b :: rest, _ => exact ⟨_, rfl, by simp [Operator.depthAfter]⟩

namespace Program

theorem runAll_of_firstLack (labels : Labels) (instructions : List Instruction)
    (stack : List Datum) :
    match firstLack stack.length instructions with
    | some (op, position) =>
      runAll labels instructions stack = .error (.missingOperands op position)
    | none => ∃ next, runAll labels instructions stack = .ok next := by
  induction instructions generalizing stack with
  | nil => exact ⟨stack, rfl⟩
  | cons instruction rest ih =>
    cases instruction with
    | operand word => exact ih (text word :: stack)
    | operator op position =>
      by_cases lack : stack.length < op.need
      · rw [firstLack, if_pos lack, runAll_cons, Instruction.run_of_lack labels lack]
        rfl
      · obtain ⟨next, step, depth⟩ :=
          Instruction.run_of_need labels position (Nat.le_of_not_lt lack)
        rw [firstLack, if_neg lack, runAll_cons, step, ← depth]
        exact ih next

/-- Whether a program fails, and how, depends on the depths of its stack alone. -/
theorem evaluate_of_firstLack (program : Program) (labels : Labels) :
    match firstLack 0 program.instructions with
    | some (op, position) => program.evaluate labels = .error (.missingOperands op position)
    | none => ∃ answer, runAll labels program.instructions [] = .ok [truth answer] ∧
        program.evaluate labels = .ok answer := by
  have run := runAll_of_firstLack labels program.instructions []
  rw [List.length_nil] at run
  split at run
  · exact evaluate_of_error run
  · obtain ⟨stack, hstack⟩ := run
    obtain ⟨answer, rfl⟩ := eq_truth_of_runAll hstack
    exact ⟨answer, hstack, evaluate_of_runAll hstack⟩

theorem evaluate_error_of_error {program : Program} {labels : Labels} {fault : FilterError}
    (h : program.evaluate labels = .error fault) (others : Labels) :
    program.evaluate others = .error fault := by
  have first := program.evaluate_of_firstLack labels
  have second := program.evaluate_of_firstLack others
  split at first
  · next op position lack =>
    rw [lack] at second
    rw [second, ← first, h]
  · obtain ⟨answer, _, ok⟩ := first
    rw [ok] at h
    contradiction

theorem evaluate_ok_of_ok {program : Program} {labels : Labels} {answer : Bool}
    (h : program.evaluate labels = .ok answer) (others : Labels) :
    ∃ other, program.evaluate others = .ok other := by
  cases result : program.evaluate others with
  | ok other => exact ⟨other, rfl⟩
  | error fault =>
    rw [evaluate_error_of_error result labels] at h
    contradiction

end Program

end LabelQuery
