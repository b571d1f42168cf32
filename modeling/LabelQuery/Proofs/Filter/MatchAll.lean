import LabelQuery.Proofs.Filter.Faults
import LabelQuery.Proofs.Filter.Footprint

/-!
Filters that accept everything. A program that has no step but `fin` never looks at a label. Main
statement: such programs are those of the expressions that are made of `;` and brackets alone, and
they answer yes to all labels.
-/
namespace LabelQuery

/-- A bracket or a `;`, as a symbol of its own. -/
def Token.IsPause (token : Token) : Prop :=
  token.kind = .symbol ∧ (token.text = "(" ∨ token.text = ")" ∨ token.text = ";")

/-! ### Tokens -/

theorem Operator.lookup?_eq_some_symbol {word : String} {op : Operator}
    (symbol : op = .openParen ∨ op = .closeParen ∨ op = .fin) (h : lookup? word = some op) :
    word = "(" ∨ word = ")" ∨ word = ";" := by
  unfold lookup? at h
  grind

/-- A token of an expression that reads as a symbol is one: words hold no symbol. -/
theorem isPause_of_operator? {expression : String} {token : Token} {op : Operator}
    (mem : token ∈ tokenize expression) (symbol : op = .openParen ∨ op = .closeParen ∨ op = .fin)
    (h : token.operator? = some op) : token.IsPause := by
  have tiles : TilesFrom expression.toList 0 (tokenize expression) := (tilesFrom_iff rfl).2 rfl
  obtain ⟨-, -, shape⟩ := tiles.fits token mem
  obtain ⟨kind, text, offset⟩ := token
  cases kind with
  | quoted => contradiction
  | symbol => exact ⟨rfl, Operator.lookup?_eq_some_symbol symbol h⟩
  | word =>
    obtain ⟨-, plain, -⟩ := shape
    have written := Operator.lookup?_eq_some_symbol symbol h
    rcases written with rfl | rfl | rfl <;> simp [isSymbol] at plain

theorem Token.IsPause.isFin {token : Token} (h : token.IsPause) :
    ∀ step ∈ token.instruction?, step.isFin = true := by
  obtain ⟨kind, text, offset⟩ := token
  obtain ⟨rfl, rfl | rfl | rfl⟩ := h
  · have opens : Operator.lookup? "(" = some .openParen := by decide
    simp [instruction?, operator?, opens]
  · have closes : Operator.lookup? ")" = some .closeParen := by decide
    simp [instruction?, operator?, closes]
  · have ends : Operator.lookup? ";" = some .fin := by decide
    simp [instruction?, operator?, ends, Instruction.isFin]

/-- A token of an expression is a bracket or a `;` exactly if it leaves no step but a `fin`. -/
theorem isPause_iff {expression : String} {token : Token} (mem : token ∈ tokenize expression) :
    token.IsPause ↔ ∀ step ∈ token.instruction?, step.isFin = true := by
  constructor
  · exact Token.IsPause.isFin
  · intro ends
    unfold Token.instruction? at ends
    split at ends
    · simp [Instruction.isFin] at ends
    · next opens => exact isPause_of_operator? mem (.inl rfl) opens
    · next closes => exact isPause_of_operator? mem (.inr (.inl rfl)) closes
    · next op notOpen notClose hop =>
      cases op with
      | fin => exact isPause_of_operator? mem (.inr (.inr rfl)) hop
      | openParen | closeParen => contradiction
      | equal | not | and | or => simp [Instruction.isFin] at ends

namespace Program

/-! ### Programs of `fin` alone -/

theorem isMatchAll_close {steps : List Instruction} {stop : Nat} :
    (close steps stop).isMatchAll = true ↔ ∀ step ∈ steps, step.isFin = true := by
  rw [isMatchAll, instructions_close_ite, List.all_append, Bool.and_eq_true, List.all_eq_true]
  apply and_iff_left
  split <;> rfl

/-- The steps of a program, but for a last `fin`, are those of its tokens. -/
theorem isMatchAll_ofTokens {tokens : List Token} {program : Program}
    (h : ofTokens tokens = .ok program) : program.isMatchAll = true ↔
      ∀ token ∈ tokens, ∀ step ∈ token.instruction?, step.isFin = true := by
  obtain ⟨steps, rfl, perm⟩ := ofTokens_perm h
  have same : (∀ step ∈ steps, step.isFin = true) ↔
      ∀ step ∈ tokens.filterMap Token.instruction?, step.isFin = true := by
    simp only [perm.mem_iff]
  simp only [isMatchAll_close, same, List.mem_filterMap]
  constructor
  · intro all token mem step own
    exact all step ⟨token, mem, own⟩
  · rintro all step ⟨token, mem, own⟩
    exact all token mem step own

/-- What a run of `fin` makes of a stack: nothing asked counts as yes, and yes stays yes. -/
theorem runAll_fins (labels : Labels) {steps : List Instruction}
    (fins : ∀ step ∈ steps, step.isFin = true) {stack : List Datum}
    (yes : settle labels stack = true) (nonempty : steps ≠ []) :
    runAll labels steps stack = .ok [.truth true] := by
  induction steps generalizing stack with
  | nil => contradiction
  | cons step rest ih =>
    obtain ⟨first, later⟩ := List.forall_mem_cons.1 fins
    unfold Instruction.isFin at first
    split at first
    · rw [runAll_cons, run_fin, yes]
      cases rest with
      | nil => rfl
      | cons next others =>
        exact ih later (by simp [settle]) (List.cons_ne_nil _ _)
    · contradiction

theorem asksAll_fins {steps : List Instruction} (fins : ∀ step ∈ steps, step.isFin = true)
    {stack : List (Option String)} (silent : stack.filterMap id = []) :
    asksAll steps stack = [] := by
  induction steps generalizing stack with
  | nil => rfl
  | cons step rest ih =>
    obtain ⟨first, later⟩ := List.forall_mem_cons.1 fins
    unfold Instruction.isFin at first
    split at first
    · show stack.filterMap id ++ asksAll rest [none] = []
      rw [silent, List.nil_append]
      exact ih later rfl
    · contradiction

theorem evaluate_of_isMatchAll {program : Program} (h : program.isMatchAll = true)
    (labels : Labels) : program.evaluate labels = .ok true := by
  have fins : ∀ step ∈ program.instructions, step.isFin = true := List.all_eq_true.1 h
  have nonempty : program.instructions ≠ [] := by
    obtain ⟨before, position, whole⟩ := eq_append_fin program.ends_fin
    simp [whole]
  exact evaluate_of_runAll (runAll_fins labels fins rfl nonempty)

theorem referencedLabels_of_isMatchAll {program : Program} (h : program.isMatchAll = true) :
    program.referencedLabels = [] := by
  have fins : ∀ step ∈ program.instructions, step.isFin = true := List.all_eq_true.1 h
  rw [referencedLabels, asksAll_fins fins rfl]
  rfl

end Program

/-- A filter is known to accept everything exactly if its expression is made of `;` and brackets
alone. Then it asks for no label and its answer is yes, whatever the labels are. -/
theorem Filter.isMatchAll_exact {expression : String} {filter : Filter}
    (compiled : compile expression = .ok filter) :
    (filter.program.isMatchAll = true ↔ ∀ token ∈ tokenize expression, token.IsPause) ∧
      (filter.program.isMatchAll = true → filter.program.referencedLabels = [] ∧
        ∀ labels, filter.accepts labels = .ok true) := by
  obtain rfl := compile_eq_ok.1 compiled
  constructor
  · rw [Program.isMatchAll_ofTokens filter.compiled]
    constructor
    · intro ends token mem
      exact (isPause_iff mem).2 (ends token mem)
    · intro pauses token mem
      exact (isPause_iff mem).1 (pauses token mem)
  · intro all
    exact ⟨Program.referencedLabels_of_isMatchAll all, Program.evaluate_of_isMatchAll all⟩

/-- In `;(;)` one `fin` closes a group that has nothing in it. -/
theorem Filter.isMatchAll_exact_group :
    ∃ filter, compile ";(;)" = .ok filter ∧ (∀ token ∈ tokenize ";(;)", token.IsPause) ∧
      filter.program.isMatchAll = true ∧ filter.program.referencedLabels = [] ∧
      ∀ labels, filter.accepts labels = .ok true := by
  have read : tokenize ";(;)" =
      [⟨.symbol, ";", 0⟩, ⟨.symbol, "(", 1⟩, ⟨.symbol, ";", 2⟩, ⟨.symbol, ")", 3⟩] := by
    decide +kernel
  have built : Program.compile ";(;)" = .ok ⟨[.operator .fin 2, .operator .fin 0], rfl⟩ := by
    rw [Program.compile, read]
    rfl
  let filter : Filter := ⟨";(;)", _, built⟩
  have compiled : compile ";(;)" = .ok filter := compile_eq_ok.2 rfl
  obtain ⟨characterised, sound⟩ := isMatchAll_exact compiled
  have all : filter.program.isMatchAll = true := rfl
  exact ⟨filter, compiled, characterised.1 all, all, sound all⟩

end LabelQuery
