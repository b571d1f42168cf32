import LabelQuery.Filter.Grammar

/-!
Running steps part by part, and what a tree leaves on the stack when its steps are run. Main
statement: the steps of a tree without juxtaposition put one datum on whatever stack they start
from.
-/
namespace LabelQuery

open Datum

namespace Program

theorem runAll_cons (labels : Labels) (instruction : Instruction) (rest : List Instruction)
    (stack : List Datum) :
    runAll labels (instruction :: rest) stack =
      instruction.run labels stack >>= runAll labels rest :=
  rfl

theorem runAll_append (labels : Labels) (first second : List Instruction) (stack : List Datum) :
    runAll labels (first ++ second) stack = runAll labels first stack >>= runAll labels second := by
  induction first generalizing stack with
  | nil => rfl
  | cons instruction rest ih =>
    rw [List.cons_append, runAll_cons, runAll_cons]
    cases instruction.run labels stack with
    | error fault => rfl
    | ok next => exact ih next

theorem runAll_append_of_ok {labels : Labels} {first : List Instruction} {stack next : List Datum}
    (h : runAll labels first stack = .ok next) (second : List Instruction) :
    runAll labels (first ++ second) stack = runAll labels second next := by
  rw [runAll_append, h]
  rfl

/-- The answer that the last step of a program makes of a stack. -/
def settle (labels : Labels) (stack : List Datum) : Bool :=
  stack.isEmpty || stack.any (holds labels)

theorem run_fin (labels : Labels) (position : Nat) (stack : List Datum) :
    (Instruction.operator .fin position).run labels stack = .ok [truth (settle labels stack)] := by
  cases stack <;> rfl

theorem runAll_fin (labels : Labels) (position : Nat) (stack : List Datum) :
    runAll labels [.operator .fin position] stack = .ok [truth (settle labels stack)] := by
  rw [runAll_cons, run_fin]
  rfl

theorem eq_append_fin {instructions : List Instruction}
    (h : instructions.getLast?.any Instruction.isFin = true) :
    ∃ before position, instructions = before ++ [.operator .fin position] := by
  obtain ⟨last, hlast, isFin⟩ := (Option.any_eq_true _ _).1 h
  obtain ⟨before, rfl⟩ := List.getLast?_eq_some_iff.1 hlast
  unfold Instruction.isFin at isFin
  split at isFin
  · next position => exact ⟨before, position, rfl⟩
  · contradiction

theorem eq_truth_of_runAll {program : Program} {labels : Labels} {stack : List Datum}
    (h : runAll labels program.instructions [] = .ok stack) : ∃ answer, stack = [truth answer] := by
  obtain ⟨before, position, heq⟩ := eq_append_fin program.ends_fin
  rw [heq, runAll_append] at h
  cases hbefore : runAll labels before [] with
  | error fault => rw [hbefore] at h; contradiction
  | ok middle =>
    rw [hbefore] at h
    exact ⟨_, (Except.ok.inj ((runAll_fin labels position middle).symm.trans h)).symm⟩

theorem evaluate_of_runAll {program : Program} {labels : Labels} {answer : Bool}
    (h : runAll labels program.instructions [] = .ok [truth answer]) :
    program.evaluate labels = .ok answer := by
  rw [evaluate, h]
  rfl

theorem evaluate_of_error {program : Program} {labels : Labels} {fault : FilterError}
    (h : runAll labels program.instructions [] = .error fault) :
    program.evaluate labels = .error fault := by
  rw [evaluate, h]
  rfl

theorem evaluate_close {labels : Labels} {instructions : List Instruction} {stack : List Datum}
    (h : runAll labels instructions [] = .ok stack) (stop : Nat) :
    (close instructions stop).evaluate labels = .ok (settle labels stack) := by
  unfold close
  split
  · next ends =>
    have whole : runAll labels (Program.mk instructions ends).instructions [] = .ok stack := h
    obtain ⟨answer, rfl⟩ := eq_truth_of_runAll whole
    rw [evaluate_of_runAll h]
    simp [settle, holds]
  · apply evaluate_of_runAll
    rw [runAll_append_of_ok h]
    exact runAll_fin labels stop stack

end Program

@[simp] theorem Datum.holds_truth (labels : Labels) (answer : Bool) :
    (truth answer).holds labels = answer :=
  rfl

namespace Expr

/-- What a tree leaves on the stack: an operand its text, any other tree its answer. -/
def datum (labels : Labels) : Expr → Datum
  | operand word => text word
  | e => truth (e.holds labels)

@[simp] theorem holds_datum (labels : Labels) (e : Expr) :
    (e.datum labels).holds labels = e.holds labels := by
  cases e <;> rfl

theorem labelEquals_datum (labels : Labels) (position : Nat) (key value : Expr) :
    labelEquals labels (key.datum labels) (value.datum labels) =
      (equal position key value).holds labels := by
  cases key with
  | operand word => cases value <;> rfl
  | equal | not | and | or | beside => rfl

/-- The steps of a tree without juxtaposition put its datum on the stack. -/
theorem runAll_postorder (labels : Labels) {e : Expr} (explicit : e.isExplicit = true)
    (stack : List Datum) :
    Program.runAll labels e.postorder stack = .ok (e.datum labels :: stack) := by
  induction e generalizing stack with
  | operand word => rfl
  | equal position key value hkey hvalue =>
    rw [isExplicit, Bool.and_eq_true] at explicit
    rw [postorder, List.append_assoc, Program.runAll_append_of_ok (hkey explicit.1 stack),
      Program.runAll_append_of_ok (hvalue explicit.2 _)]
    simp only [Program.runAll_cons, Instruction.run, labelEquals_datum labels position]
    rfl
  | not position part hpart =>
    rw [postorder, Program.runAll_append_of_ok (hpart explicit stack)]
    simp only [Program.runAll_cons, Instruction.run, holds_datum]
    rfl
  | and position left right hleft hright =>
    rw [isExplicit, Bool.and_eq_true] at explicit
    rw [postorder, List.append_assoc, Program.runAll_append_of_ok (hleft explicit.1 stack),
      Program.runAll_append_of_ok (hright explicit.2 _)]
    simp only [Program.runAll_cons, Instruction.run, holds_datum, Bool.and_comm]
    rfl
  | or position left right hleft hright =>
    rw [isExplicit, Bool.and_eq_true] at explicit
    rw [postorder, List.append_assoc, Program.runAll_append_of_ok (hleft explicit.1 stack),
      Program.runAll_append_of_ok (hright explicit.2 _)]
    simp only [Program.runAll_cons, Instruction.run, holds_datum, Bool.or_comm]
    rfl
  | beside => contradiction

end Expr

end LabelQuery
