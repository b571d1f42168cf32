import LabelQuery.Proofs.Filter.Supply

/-!
Expressions with `;` between them. A `;` that waits is the loosest of all operators, so nothing of one
alternative is still there when the next begins. Main statement: the steps of the alternatives follow
each other undivided, and the answer is whether one of them holds.
-/
namespace LabelQuery

open Pending

/-- An expression of the grammar without juxtaposition. -/
structure Alternative where
  tokens : List Token
  tree : Expr
  derives : Derives .sequence tokens tree
  explicit : tree.isExplicit = true

/-- Alternatives with at least one `;` between any two of them, and any number behind the last. -/
inductive Separated : List Alternative → List Token → Prop
  | single (alternative : Alternative) : Separated [alternative] alternative.tokens
  | pause {alternatives : List Alternative} {tokens : List Token} {sign : Token} :
      Separated alternatives tokens → sign.operator? = some .fin →
      Separated alternatives (tokens ++ [sign])
  | next {alternatives : List Alternative} {tokens : List Token} {sign : Token} :
      Separated alternatives tokens → sign.operator? = some .fin → (alternative : Alternative) →
      Separated (alternatives ++ [alternative]) (tokens ++ sign :: alternative.tokens)

/-- The steps of some trees, each undivided, and any number of `fin` between them or at the end. -/
inductive Consecutive : List Expr → List Instruction → Prop
  | single (e : Expr) : Consecutive [e] e.postorder
  | fin {trees : List Expr} {steps : List Instruction} (position : Nat) :
      Consecutive trees steps → Consecutive trees (steps ++ [.operator .fin position])
  | next {trees : List Expr} {steps : List Instruction} (e : Expr) :
      Consecutive trees steps → Consecutive (trees ++ [e]) (steps ++ e.postorder)

/-- Whatever waits below is looser than any operator of an alternative. -/
theorem Alternative.becomes (alternative : Alternative) {waiting : List Pending}
    (hwaiting : HoldsBack Operator.or.precedence waiting) :
    Becomes Operator.fin.precedence alternative.tokens waiting alternative.tree.postorder :=
  (alternative.derives.becomes alternative.explicit hwaiting).mono (by decide)

theorem Separated.becomes {alternatives : List Alternative} {tokens : List Token}
    (h : Separated alternatives tokens) :
    ∃ steps, Becomes Operator.fin.precedence tokens [] steps ∧
      Consecutive (alternatives.map Alternative.tree) steps := by
  induction h with
  | single alternative => exact ⟨_, alternative.becomes .nil, .single alternative.tree⟩
  | @pause _ _ sign _ hop ih =>
    obtain ⟨steps, becomes, consecutive⟩ := ih
    have nothing : Becomes Operator.fin.precedence [] [⟨.fin, sign.offset⟩] [] :=
      ⟨[], [], .nil, .nil, rfl⟩
    have whole := Becomes.binary hop (by decide) (by decide) .nil becomes nothing
    rw [List.append_nil] at whole
    exact ⟨_, whole, consecutive.fin sign.offset⟩
  | @next _ _ sign _ hop alternative ih =>
    obtain ⟨steps, becomes, consecutive⟩ := ih
    have looser : HoldsBack Operator.or.precedence [⟨.fin, sign.offset⟩] :=
      holdsBack_cons (.inr (by decide))
    have after := alternative.becomes looser
    have whole := Becomes.binary hop (by decide) (by decide) .nil becomes after
    rw [List.map_append]
    exact ⟨_, whole, (consecutive.next alternative.tree).fin sign.offset⟩

theorem Consecutive.close {trees : List Expr} {steps : List Instruction} (h : Consecutive trees steps)
    (stop : Nat) : Consecutive trees (Program.close steps stop).instructions := by
  unfold Program.close
  split
  · exact h
  · exact h.fin stop

/-- Each `fin` folds the answers so far into one, and each tree adds its own. -/
theorem Consecutive.runAll {trees : List Expr} {steps : List Instruction}
    (h : Consecutive trees steps) (labels : Labels) (explicit : ∀ e ∈ trees, e.isExplicit = true) :
    ∃ stack, Program.runAll labels steps [] = .ok stack ∧ stack ≠ [] ∧
      stack.any (Datum.holds labels) = trees.any (Expr.holds labels) := by
  induction h with
  | single e =>
    have pushed := e.runAll_postorder labels (explicit e (by simp)) []
    exact ⟨_, pushed, by simp, by simp⟩
  | fin position _ ih =>
    obtain ⟨stack, run, nonempty, answers⟩ := ih explicit
    refine ⟨[.truth (Program.settle labels stack)], ?_, by simp, ?_⟩
    · rw [Program.runAll_append_of_ok run]
      exact Program.runAll_fin labels position stack
    · rw [List.any_cons, Datum.holds_truth, Program.settle, answers]
      simp [nonempty]
  | next e _ ih =>
    obtain ⟨others, last⟩ := List.forall_mem_append.1 explicit
    obtain ⟨stack, run, -, answers⟩ := ih others
    refine ⟨e.datum labels :: stack, ?_, by simp, ?_⟩
    · rw [Program.runAll_append_of_ok run]
      exact e.runAll_postorder labels (last e (by simp)) stack
    · rw [List.any_cons, answers, List.any_append]
      simp [Bool.or_comm]

theorem Separated.judge {alternatives : List Alternative} {tokens : List Token}
    (h : Separated alternatives tokens) (labels : Labels) :
    Program.judge tokens labels =
      .ok (alternatives.any fun alternative => alternative.tree.holds labels) := by
  obtain ⟨steps, becomes, consecutive⟩ := h.becomes
  have explicit : ∀ e ∈ alternatives.map Alternative.tree, e.isExplicit = true := by
    simpa using fun alternative _ => alternative.explicit
  obtain ⟨stack, run, nonempty, answers⟩ := consecutive.runAll labels explicit
  calc Program.judge tokens labels
    _ = (Program.close steps (Program.stopOf tokens)).evaluate labels := by
      rw [Program.judge, Program.ofTokens_of_becomes becomes]
      rfl
    _ = .ok (Program.settle labels stack) := Program.evaluate_close run _
    _ = .ok (alternatives.any fun alternative => alternative.tree.holds labels) := by
      rw [Program.settle, answers, List.any_map]
      simp [nonempty, Function.comp_def]

/-- Alternatives with `;` between them are a program, whose steps are those of one alternative after
the other. Those of each work on top of whatever the others have left there, and the answer is
whether one of the alternatives holds, as each of them would tell alone. -/
theorem Separated.ofTokens {alternatives : List Alternative} {tokens : List Token}
    (h : Separated alternatives tokens) :
    ∃ program, Program.ofTokens tokens = .ok program ∧
      Consecutive (alternatives.map Alternative.tree) program.instructions ∧
      ∀ labels,
        (∀ alternative ∈ alternatives,
          Program.judge alternative.tokens labels = .ok (alternative.tree.holds labels) ∧
          ∀ stack, Program.runAll labels alternative.tree.postorder stack =
            .ok (alternative.tree.datum labels :: stack)) ∧
        program.evaluate labels =
          .ok (alternatives.any fun alternative => alternative.tree.holds labels) := by
  obtain ⟨steps, becomes, consecutive⟩ := h.becomes
  have compiled := Program.ofTokens_of_becomes becomes
  refine ⟨_, compiled, consecutive.close _, fun labels => ⟨?_, ?_⟩⟩
  · intro alternative _
    constructor
    · simpa using (Separated.single alternative).judge labels
    · exact alternative.tree.runAll_postorder labels alternative.explicit
  · have whole := h.judge labels
    rw [Program.judge, compiled] at whole
    exact whole

end LabelQuery
