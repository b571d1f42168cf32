import LabelQuery.Filter.Evaluation
import LabelQuery.Filter.Footprint
import LabelQuery.Filter.Postfix

/-!
Filters: expressions with the programs they stand for.
-/
namespace LabelQuery

structure Filter where
  expression : String
  program : Program
  compiled : Program.compile expression = .ok program

namespace Filter

/-- Compiles an expression. Whether every operator has its operands shows when the filter is used. -/
def compile (expression : String) : Except FilterError Filter :=
  match h : Program.compile expression with
  | .ok program => .ok ⟨expression, program, h⟩
  | .error error => .error error

theorem compile_eq_ok {expression : String} {filter : Filter} :
    compile expression = .ok filter ↔ filter.expression = expression := by
  unfold compile
  constructor
  · intro h
    split at h
    · cases h
      rfl
    · contradiction
  · rintro rfl
    split
    · next program compiled =>
      have same : program = filter.program := Except.ok.inj (compiled.symm.trans filter.compiled)
      cases same
      rfl
    · next compiled => exact absurd (compiled.symm.trans filter.compiled) (by simp)

theorem compile_eq_error {expression : String} {fault : FilterError} :
    compile expression = .error fault ↔ Program.compile expression = .error fault := by
  unfold compile
  constructor
  · intro h
    split at h
    · contradiction
    · next compiled =>
      cases h
      exact compiled
  · intro h
    split
    · next compiled => exact absurd (compiled.symm.trans h) (by simp)
    · next compiled => rw [Except.error.inj (compiled.symm.trans h)]

/-- The filter of the empty expression, which every entity satisfies. -/
def matchAll : Filter where
  expression := ""
  program := Program.close [] 0
  compiled := by simp [Program.compile, tokenize, scan, Program.ofTokens, Pending.convert,
    Pending.drain, Program.stopOf, bind, Except.bind, pure, Except.pure]

def accepts (filter : Filter) (labels : Labels) : Except FilterError Bool :=
  filter.program.evaluate labels

end Filter

end LabelQuery
