import LabelQuery.Filter.Footprint
import LabelQuery.Proofs.Dict
import LabelQuery.Proofs.Filter.Running

/-!
The labels that a program asks for are all that its answer depends on. The analysis keeps for each
datum on the stack the text that it still is, so one stack serves two runs on labels that agree.
-/
namespace LabelQuery

namespace Datum

/-- The text that a datum still is; an answer is none. -/
def text? : Datum → Option String
  | text word => some word
  | truth _ => none

theorem holds_congr {labels others : Labels} {datum : Datum}
    (agree : ∀ name ∈ datum.text?, labels name = others name) :
    datum.holds labels = datum.holds others := by
  cases datum with
  | text word => rw [holds, holds, agree word rfl]
  | truth answer => rfl

theorem labelEquals_congr {labels others : Labels} {key value : Datum}
    (agree : ∀ name ∈ key.text?, labels name = others name) :
    labelEquals labels key value = labelEquals others key value := by
  cases key with
  | text word => rw [labelEquals, labelEquals, agree word rfl]
  | truth answer => rfl

end Datum

open Datum

theorem any_holds_congr {labels others : Labels} {stack : List Datum}
    (agree : ∀ name ∈ (stack.map text?).filterMap id, labels name = others name) :
    stack.any (holds labels) = stack.any (holds others) := by
  induction stack with
  | nil => rfl
  | cons top rest ih =>
    have htop : top.holds labels = top.holds others :=
      holds_congr fun name mem => agree name (by simp_all)
    have hrest : rest.any (holds labels) = rest.any (holds others) :=
      ih fun name mem => agree name (by rw [List.map_cons, List.filterMap_cons]; split <;> simp_all)
    rw [List.any_cons, List.any_cons, htop, hrest]

theorem Instruction.run_congr {labels others : Labels} {instruction : Instruction}
    {stack : List Datum}
    (agree : ∀ name ∈ (instruction.asks (stack.map text?)).1, labels name = others name) :
    instruction.run labels stack = instruction.run others stack := by
  cases instruction with
  | operand word => rfl
  | operator op position =>
    cases op with
    | openParen | closeParen => rfl
    | not =>
      cases stack with
      | nil => rfl
      | cons a rest =>
        have ha : a.holds labels = a.holds others :=
          holds_congr fun name mem => agree name (by simp_all [asks])
        rw [run, run, ha]
    | and | or =>
      rcases stack with _ | ⟨a, _ | ⟨b, rest⟩⟩
      · rfl
      · rfl
      · have ha : a.holds labels = a.holds others :=
          holds_congr fun name mem => agree name (by simp_all [asks])
        have hb : b.holds labels = b.holds others :=
          holds_congr fun name mem => agree name (by simp_all [asks])
        rw [run, run, ha, hb]
    | equal =>
      rcases stack with _ | ⟨value, _ | ⟨key, rest⟩⟩
      · rfl
      · rfl
      · have hkey : labelEquals labels key value = labelEquals others key value :=
          labelEquals_congr fun name mem => agree name (by simp_all [asks])
        rw [run, run, hkey]
    | fin =>
      have hall : stack.any (holds labels) = stack.any (holds others) := any_holds_congr agree
      rw [Program.run_fin, Program.run_fin, Program.settle, Program.settle, hall]

/-- A step that succeeds leaves a stack of the shape that the analysis foretells. -/
theorem Instruction.shape_run {labels : Labels} {instruction : Instruction}
    {stack next : List Datum} (h : instruction.run labels stack = .ok next) :
    next.map text? = (instruction.asks (stack.map text?)).2 := by
  cases instruction with
  | operand word => cases h; rfl
  | operator op position =>
    cases op with
    | openParen | closeParen => cases h; rfl
    | not =>
      match stack, h with
      | a :: rest, h => cases h; rfl
    | and | or =>
      match stack, h with
      | a :: b :: rest, h => cases h; rfl
    | equal =>
      match stack, h with
      | value :: key :: rest, h => cases h; rfl
    | fin =>
      rw [Program.run_fin] at h
      cases h
      rfl

namespace Program

theorem runAll_congr {labels others : Labels} {instructions : List Instruction}
    {stack : List Datum}
    (agree : ∀ name ∈ asksAll instructions (stack.map text?), labels name = others name) :
    runAll labels instructions stack = runAll others instructions stack := by
  -- after a step that agrees both runs go on from one stack, so the next step is like the first
  induction instructions generalizing stack with
  | nil => rfl
  | cons instruction rest ih =>
    rw [runAll_cons, runAll_cons]
    have now : instruction.run labels stack = instruction.run others stack :=
      Instruction.run_congr fun name mem => agree name (List.mem_append_left _ mem)
    cases step : instruction.run labels stack with
    | error fault => rw [← now, step]; rfl
    | ok next =>
      rw [← now, step]
      apply ih
      intro name mem
      rw [Instruction.shape_run step] at mem
      exact agree name (List.mem_append_right _ mem)

theorem mem_ascendingNames {name : String} {names : List String} :
    name ∈ ascendingNames names ↔ name ∈ names := by
  simp [ascendingNames, Dict.mem_keys_ofList]

theorem pairwise_ascendingNames (names : List String) :
    (ascendingNames names).Pairwise (· < ·) :=
  List.pairwise_map.2 (Dict.ascending _)

/-- A program's answer, or its failure, is the same for all labels that agree on the names that it
refers to. So a label of any other name can be added, removed or changed. -/
theorem evaluate_eq_of_agree (program : Program) :
    (∀ labels others : Labels,
      (∀ name ∈ program.referencedLabels, labels name = others name) →
        program.evaluate labels = program.evaluate others) ∧
    ∀ (labels : Dict String) (name value : String), name ∉ program.referencedLabels →
      program.evaluate (labels.insert name value).get? = program.evaluate labels.get? ∧
        program.evaluate (labels.erase name).get? = program.evaluate labels.get? := by
  have same (labels others : Labels)
      (agree : ∀ name ∈ program.referencedLabels, labels name = others name) :
      program.evaluate labels = program.evaluate others := by
    have run : runAll labels program.instructions [] = runAll others program.instructions [] :=
      runAll_congr fun name mem => agree name (mem_ascendingNames.2 mem)
    cases h : runAll labels program.instructions [] with
    | error fault => rw [evaluate_of_error h, evaluate_of_error (run.symm.trans h)]
    | ok stack =>
      obtain ⟨answer, rfl⟩ := eq_truth_of_runAll h
      rw [evaluate_of_runAll h, evaluate_of_runAll (run.symm.trans h)]
  refine ⟨same, fun labels name value unused => ⟨?_, ?_⟩⟩
  · apply same
    intro other used
    rw [Dict.get?_insert, if_neg (ne_of_mem_of_not_mem used unused)]
  · apply same
    intro other used
    rw [Dict.get?_erase, if_neg (ne_of_mem_of_not_mem used unused)]

theorem evaluate_eq_of_agree_role :
    let program := close [.operand "role", .operand "compute", .operator .equal 4] 12
    let labels := Dict.ofList [("role", "compute")]
    (∀ name ∈ program.referencedLabels, labels.get? name = some "compute") ∧
      program.evaluate labels.get? = program.evaluate (fun _ => some "compute") ∧
      "rack" ∉ program.referencedLabels ∧
      program.evaluate (labels.insert "rack" "1").get? = program.evaluate labels.get? := by
  intro program labels
  have agree : ∀ name ∈ program.referencedLabels, labels.get? name = some "compute" := by
    decide +kernel
  have unused : "rack" ∉ program.referencedLabels := by decide +kernel
  exact ⟨agree, (evaluate_eq_of_agree program).1 _ _ agree, unused,
    ((evaluate_eq_of_agree program).2 labels "rack" "1" unused).1⟩

end Program

end LabelQuery
