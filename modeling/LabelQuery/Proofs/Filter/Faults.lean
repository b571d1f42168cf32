import LabelQuery.Filter.Basic
import LabelQuery.Proofs.Filter.Arrangement
import LabelQuery.Proofs.Filter.Depth
import LabelQuery.Proofs.Filter.Tiling

/-!
Where errors point. A place goes from the lexer with its token onto the stack of waiting operators, into
the program and out of a run that fails there. Main statement: each error points at a token of the
expression, and at one that can be at fault.
-/
namespace LabelQuery

/-- A token that an error is about: a bracket, or the operator that lacks operands, which no bracket and
no `fin` ever does. -/
def FilterError.Blames (fault : FilterError) (token : Token) : Prop :=
  match fault with
  | unmatchedClose _ => token.operator? = some .closeParen
  | unclosedOpen _ => token.operator? = some .openParen
  | missingOperands op _ => token.operator? = some op ∧ op ∈ [.equal, .not, .and, .or]

/-- One of the tokens is where an error points, and what it is about. -/
def FilterError.PointsInto (fault : FilterError) (tokens : List Token) : Prop :=
  ∃ token ∈ tokens, token.offset = fault.position ∧ fault.Blames token

variable {token : Token} {tokens : List Token} {fault : FilterError}

/-! ### Brackets -/

theorem Token.nest_eq_ok {opened nested : List Nat} (h : token.nest opened = .ok nested) :
    ∀ place ∈ nested, place ∈ opened ∨
      token.operator? = some .openParen ∧ token.offset = place := by
  intro place mem
  unfold nest at h
  split at h
  · next opens =>
    cases h
    rcases List.mem_cons.1 mem with rfl | mem
    · exact .inr ⟨opens, rfl⟩
    · exact .inl mem
  · contradiction
  · cases h
    exact .inl (List.mem_cons_of_mem _ mem)
  · cases h
    exact .inl mem

theorem Token.nest_eq_error {opened : List Nat} (h : token.nest opened = .error fault) :
    token.operator? = some .closeParen ∧ fault = .unmatchedClose token.offset := by
  unfold nest at h
  split at h
  · contradiction
  · next closes =>
    cases h
    exact ⟨closes, rfl⟩
  · contradiction
  · contradiction

/-- What is wrong with brackets is one of them, or a group that was open before. -/
theorem pointsInto_of_bracketFault? {opened : List Nat}
    (h : bracketFault? tokens opened = some fault) :
    fault.PointsInto tokens ∨ ∃ place ∈ opened, fault = .unclosedOpen place := by
  induction tokens generalizing opened with
  | nil =>
    obtain ⟨place, first, rfl⟩ := Option.map_eq_some_iff.1 h
    exact .inr ⟨place, List.mem_of_head? first, rfl⟩
  | cons token tokens ih =>
    rw [bracketFault?] at h
    cases step : token.nest opened with
    | error other =>
      rw [step] at h
      obtain rfl := Option.some.inj h
      obtain ⟨closes, rfl⟩ := Token.nest_eq_error step
      exact .inl ⟨token, List.mem_cons_self, rfl, closes⟩
    | ok nested =>
      rw [step] at h
      rcases ih h with ⟨found, mem, points⟩ | ⟨place, mem, rfl⟩
      · exact .inl ⟨found, List.mem_cons_of_mem _ mem, points⟩
      · rcases Token.nest_eq_ok step place mem with outer | ⟨opens, rfl⟩
        · exact .inr ⟨place, outer, rfl⟩
        · exact .inl ⟨token, List.mem_cons_self, rfl, opens⟩

/-! ### Operands -/

theorem Operator.need_pos {op : Operator} : 0 < op.need ↔ op ∈ [equal, not, and, or] := by
  cases op <;> decide

theorem mem_of_firstLack {depth : Nat} {steps : List Instruction} {op : Operator} {position : Nat}
    (h : firstLack depth steps = some (op, position)) :
    .operator op position ∈ steps ∧ 0 < op.need := by
  induction steps generalizing depth with
  | nil => contradiction
  | cons step rest ih =>
    cases step with
    | operand text =>
      obtain ⟨mem, need⟩ := ih h
      exact ⟨List.mem_cons_of_mem _ mem, need⟩
    | operator other place =>
      rw [firstLack] at h
      split at h
      · next lack =>
        cases h
        exact ⟨List.mem_cons_self, Nat.zero_lt_of_lt lack⟩
      · obtain ⟨mem, need⟩ := ih h
        exact ⟨List.mem_cons_of_mem _ mem, need⟩

theorem Token.instruction?_eq_operator {op : Operator} {position : Nat}
    (h : token.instruction? = some (.operator op position)) :
    token.operator? = some op ∧ token.offset = position := by
  unfold instruction? at h
  split at h
  · cases h
  · contradiction
  · contradiction
  · next hop =>
    cases h
    exact ⟨hop, rfl⟩

namespace Program

theorem exists_token {program : Program} (h : ofTokens tokens = .ok program) {op : Operator}
    {position : Nat} (mem : .operator op position ∈ program.instructions) (notFin : op ≠ .fin) :
    ∃ token ∈ tokens, token.offset = position ∧ token.operator? = some op := by
  obtain ⟨steps, rfl, perm⟩ := ofTokens_perm h
  have emitted : .operator op position ∈ steps := by
    rw [instructions_close_ite, List.mem_append] at mem
    refine mem.resolve_right fun last => ?_
    split at last
    · contradiction
    · cases List.mem_singleton.1 last
      contradiction
  obtain ⟨token, mem, own⟩ := List.mem_filterMap.1 (perm.mem_iff.1 emitted)
  obtain ⟨hop, place⟩ := Token.instruction?_eq_operator own
  exact ⟨token, mem, place, hop⟩

theorem pointsInto_of_ofTokens (h : ofTokens tokens = .error fault) : fault.PointsInto tokens := by
  rcases pointsInto_of_bracketFault? (ofTokens_eq_error.1 h) with points | ⟨place, mem, -⟩
  · exact points
  · contradiction

theorem pointsInto_of_evaluate {program : Program} {labels : Labels}
    (h : ofTokens tokens = .ok program) (fails : program.evaluate labels = .error fault) :
    fault.PointsInto tokens := by
  have counted := program.evaluate_of_firstLack labels
  split at counted
  · next op position lack =>
    obtain rfl := Except.error.inj (fails.symm.trans counted)
    obtain ⟨mem, need⟩ := mem_of_firstLack lack
    obtain ⟨token, mem, place, hop⟩ := exists_token h mem (by rintro rfl; contradiction)
    exact ⟨token, mem, place, hop, Operator.need_pos.1 need⟩
  · obtain ⟨answer, -, ok⟩ := counted
    rw [ok] at fails
    contradiction

end Program

theorem offset_lt_of_mem_tokenize {expression : String} (mem : token ∈ tokenize expression) :
    token.offset < expression.length := by
  have tiles : TilesFrom expression.toList 0 (tokenize expression) := (tilesFrom_iff rfl).2 rfl
  have fits := tiles.fits token mem
  calc token.offset
    _ < token.stop := fits.starts.1
    _ ≤ expression.toList.length := fits.1
    _ = expression.length := String.length_toList

/-- An error of a filter, made or used, points at a token of its expression: a `)` that is unmatched, a
`(` that is unclosed, or the very operator that lacks operands, one of `=`, `not`, `and` and `or`. -/
theorem Filter.position_of_error {expression : String} {labels : Labels}
    (h : compile expression = .error fault ∨
      ∃ filter, compile expression = .ok filter ∧ filter.accepts labels = .error fault) :
    fault.position < expression.length ∧
      ∃ token ∈ tokenize expression, token.offset = fault.position ∧ fault.Blames token := by
  have points : fault.PointsInto (tokenize expression) := by
    rcases h with refused | ⟨filter, compiled, fails⟩
    · exact Program.pointsInto_of_ofTokens (compile_eq_error.1 refused)
    · obtain rfl := compile_eq_ok.1 compiled
      exact Program.pointsInto_of_evaluate filter.compiled fails
  obtain ⟨token, mem, place, blamed⟩ := points
  exact ⟨place ▸ offset_lt_of_mem_tokenize mem, token, mem, place, blamed⟩

/-- `zoné (and` has an unclosed `(`; behind `zoné` the `and` lacks an operand. -/
theorem Filter.position_of_error_and :
    (∃ token ∈ tokenize "zoné (and", token.offset = 5 ∧ token.operator? = some .openParen) ∧
      ∃ filter, compile "zoné and" = .ok filter ∧ ∀ labels,
        filter.accepts labels = .error (.missingOperands .and 5) ∧
        ∃ token ∈ tokenize "zoné and", token.offset = 5 ∧ token.operator? = some .and := by
  have unclosed : tokenize "zoné (and" =
      [⟨.word, "zoné", 0⟩, ⟨.symbol, "(", 5⟩, ⟨.word, "and", 6⟩] := by
    decide +kernel
  have lacking : tokenize "zoné and" = [⟨.word, "zoné", 0⟩, ⟨.word, "and", 5⟩] := by
    decide +kernel
  have refused : compile "zoné (and" = .error (.unclosedOpen 5) := by
    rw [compile_eq_error, Program.compile, unclosed]
    rfl
  have compiled : Program.compile "zoné and" =
      .ok ⟨[.operand "zoné", .operator .and 5, .operator .fin 8], rfl⟩ := by
    rw [Program.compile, lacking]
    rfl
  constructor
  · obtain ⟨-, token, mem, place, opens⟩ := @position_of_error _ _ (fun _ => none) (.inl refused)
    exact ⟨token, mem, place, opens⟩
  · refine ⟨⟨_, _, compiled⟩, compile_eq_ok.2 rfl, fun labels => ⟨rfl, ?_⟩⟩
    obtain ⟨-, token, mem, place, hop, -⟩ :=
      @position_of_error _ _ labels (.inr ⟨⟨_, _, compiled⟩, compile_eq_ok.2 rfl, rfl⟩)
    exact ⟨token, mem, place, hop⟩

end LabelQuery
