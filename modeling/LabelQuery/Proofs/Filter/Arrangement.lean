import LabelQuery.Proofs.Filter.Brackets

/-!
Which step of a program comes from which token. Tokens are given ranks, so that two of them differ
even if they have the same text and place. Main statement: the steps of a program are those of its
tokens, each once, with the operands in their order and each operator behind all operands that were
before it.
-/
namespace LabelQuery

/-- The text that a step puts on the stack. -/
def Instruction.operand? : Instruction → Option String
  | operand text => some text
  | operator _ _ => none

def withoutBrackets (tokens : List (Token × Nat)) : List (Token × Nat) :=
  tokens.filter fun ranked => !ranked.1.isBracket

/-- Steps are those of ranked tokens in the order `order`. An operand has behind it whatever has a
greater rank, so the operands keep their order and operators only move back. -/
structure Arranged (tokens : List (Token × Nat)) (steps : List Instruction)
    (order : List (Token × Nat)) : Prop where
  kept : order.Perm (withoutBrackets tokens)
  own : order.map (fun ranked => ranked.1.instruction?) = steps.map some
  behind : order.Pairwise fun first second => second.1.operator? = none → first.2 < second.2

theorem withoutBrackets_append (first second : List (Token × Nat)) :
    withoutBrackets (first ++ second) = withoutBrackets first ++ withoutBrackets second :=
  List.filter_append ..

theorem withoutBrackets_bracket {token : Token} (h : token.isBracket = true) (rank : Nat)
    (tokens : List (Token × Nat)) :
    withoutBrackets ((token, rank) :: tokens) = withoutBrackets tokens := by
  simp [withoutBrackets, h]

theorem withoutBrackets_other {token : Token} (h : token.isBracket = false) (rank : Nat)
    (tokens : List (Token × Nat)) :
    withoutBrackets ((token, rank) :: tokens) = (token, rank) :: withoutBrackets tokens := by
  simp [withoutBrackets, h]

theorem Token.isBracket_operator {token : Token} {op : Operator} (hop : token.operator? = some op)
    (notOpen : op ≠ .openParen) (notClose : op ≠ .closeParen) : token.isBracket = false := by
  simp [isBracket, hop, notOpen, notClose]

namespace Pending

/-- The tokens of the operators that wait. Their ranks are below `next`. -/
inductive Holds (next : Nat) : List (Token × Nat) → List Pending → Prop
  | nil : Holds next [] []
  | cons {token : Token} {rank : Nat} {op : Operator} {held : List (Token × Nat)}
      {waiting : List Pending} :
      token.operator? = some op → op ≠ .closeParen → rank < next → Holds next held waiting →
      Holds next ((token, rank) :: held) (⟨op, token.offset⟩ :: waiting)

namespace Holds

variable {next : Nat} {held : List (Token × Nat)} {waiting inside outside : List Pending}

theorem later (h : Holds next held waiting) : Holds (next + 1) held waiting := by
  induction h with
  | nil => exact .nil
  | cons hop notClose before _ ih => exact .cons hop notClose (Nat.lt_succ_of_lt before) ih

theorem split (h : Holds next held (inside ++ outside)) :
    ∃ heldInside heldOutside, held = heldInside ++ heldOutside ∧
      Holds next heldInside inside ∧ Holds next heldOutside outside := by
  induction inside generalizing held with
  | nil => exact ⟨[], held, rfl, .nil, h⟩
  | cons top below ih =>
    cases h with
    | cons hop notClose before rest =>
      obtain ⟨heldInside, heldOutside, rfl, hinside, houtside⟩ := ih rest
      exact ⟨_ :: heldInside, heldOutside, rfl, .cons hop notClose before hinside, houtside⟩

theorem operator_of_mem (h : Holds next held waiting) :
    ∀ ranked ∈ held, ranked.1.operator? ≠ none ∧ ranked.2 < next := by
  induction h with
  | nil => simp
  | cons hop _ before _ ih => exact List.forall_mem_cons.2 ⟨⟨by simp [hop], before⟩, ih⟩

theorem pairwise (h : Holds next held waiting) :
    held.Pairwise fun first second => second.1.operator? = none → first.2 < second.2 :=
  List.pairwise_of_forall_mem_list fun _ _ ranked mem notOp =>
    absurd notOp (h.operator_of_mem ranked mem).1

/-- Outside groups, what waits is what the tokens are. -/
theorem released (h : Holds next held inside) (noMark : ∀ pending ∈ inside, pending.op ≠ .openParen) :
    withoutBrackets held = held ∧
      held.map (fun ranked => ranked.1.instruction?) = (inside.map emit).map some := by
  induction h with
  | nil => exact ⟨rfl, rfl⟩
  | @cons token rank op held waiting hop notClose before _ ih =>
    obtain ⟨notOpen, noMark⟩ := List.forall_mem_cons.1 noMark
    obtain ⟨solid, own⟩ := ih noMark
    have other := Token.isBracket_operator hop notOpen notClose
    have step : token.instruction? = some (.operator op token.offset) := by
      cases op <;> simp_all [Token.instruction?]
    constructor
    · rw [withoutBrackets_other other, solid]
    · simp [own, step, emit]

end Holds

/-- What a token emits now, the tokens that wait then, and nothing else, were there before. -/
theorem advance_arranged {next : Nat} {token : Token} {held : List (Token × Nat)}
    {waiting left : List Pending} {emitted : List Instruction} (holds : Holds next held waiting)
    (h : advance token waiting = .ok (emitted, left)) :
    ∃ now still, Holds (next + 1) still left ∧
      (now ++ withoutBrackets still).Perm (withoutBrackets (held ++ [(token, next)])) ∧
      now.map (fun ranked => ranked.1.instruction?) = emitted.map some ∧
      now.Pairwise (fun first second => second.1.operator? = none → first.2 < second.2) ∧
      ∀ ranked ∈ now, ranked.2 ≤ next := by
  rw [withoutBrackets_append]
  rcases advance_eq_ok h with ⟨notOp, rfl, rfl⟩ | ⟨hopen, rfl, rfl⟩ |
    ⟨inside, position, hclose, rfl, noMark, rfl⟩ |
    ⟨op, inside, outside, hop, notOpen, notClose, rfl, noMark, rfl, rfl⟩
  · have other : token.isBracket = false := by simp [Token.isBracket, notOp]
    refine ⟨[(token, next)], held, holds.later, ?_, ?_, List.pairwise_singleton .., by simp⟩
    · rw [withoutBrackets_other other]
      exact List.perm_append_comm
    · simp [Token.instruction?, notOp]
  · have bracket : token.isBracket = true := by simp [Token.isBracket, hopen]
    refine ⟨[], (token, next) :: held, .cons hopen (by decide) (Nat.lt_succ_self next) holds.later,
      ?_, rfl, .nil, by simp⟩
    rw [withoutBrackets_bracket bracket, withoutBrackets_bracket bracket]
    exact List.perm_append_comm
  · obtain ⟨now, others, rfl, hnow, hothers⟩ := holds.split
    obtain ⟨solid, own⟩ := hnow.released noMark
    cases hothers with
    | @cons opening rank _ still _ hopen _ _ hstill =>
      refine ⟨now, still, hstill.later, ?_, own, hnow.pairwise, fun ranked mem =>
        Nat.le_of_lt (hnow.operator_of_mem ranked mem).2⟩
      have mark : opening.isBracket = true := by simp [Token.isBracket, hopen]
      have bracket : token.isBracket = true := by simp [Token.isBracket, hclose]
      rw [withoutBrackets_append, withoutBrackets_bracket mark, withoutBrackets_bracket bracket, solid]
      exact .of_eq (List.append_nil _).symm
  · obtain ⟨now, others, rfl, hnow, hothers⟩ := holds.split
    obtain ⟨solid, own⟩ := hnow.released noMark
    have other := Token.isBracket_operator hop notOpen notClose
    refine ⟨now, (token, next) :: others, .cons hop notClose (Nat.lt_succ_self next) hothers.later,
      ?_, own, hnow.pairwise, fun ranked mem => Nat.le_of_lt (hnow.operator_of_mem ranked mem).2⟩
    rw [withoutBrackets_append, withoutBrackets_other other, withoutBrackets_other other, solid,
      List.append_assoc]
    exact (List.perm_append_singleton _ _).symm.append_left now

theorem convert_arranged {next : Nat} {tokens : List Token} {held : List (Token × Nat)}
    {waiting : List Pending} {emitted : List Instruction} (holds : Holds next held waiting)
    (h : convert tokens waiting = .ok emitted) :
    ∃ order, Arranged (held ++ tokens.zipIdx next) emitted order := by
  induction tokens generalizing next held waiting emitted with
  | nil =>
    obtain ⟨none, rfl⟩ := drain_eq_ok h
    have noMark : ∀ pending ∈ waiting, pending.op ≠ .openParen := by
      simpa [opens, List.countP_eq_zero] using none
    obtain ⟨solid, own⟩ := holds.released noMark
    refine ⟨held, ⟨?_, ?_, holds.pairwise⟩⟩
    · rw [List.zipIdx_nil, List.append_nil, solid]
    · rw [own, steps_inside noMark]
  | cons token tokens ih =>
    obtain ⟨first, left, following, step, rest, rfl⟩ := convert_cons_eq_ok h
    obtain ⟨now, still, hstill, kept, own, sorted, early⟩ := advance_arranged holds step
    obtain ⟨order, arranged⟩ := ih hstill rest
    refine ⟨now ++ order, ⟨?_, ?_, ?_⟩⟩
    · have later := arranged.kept.append_left now
      rw [withoutBrackets_append, ← List.append_assoc] at later
      rw [List.zipIdx_cons, List.append_cons, withoutBrackets_append]
      exact later.trans (kept.append_right _)
    · rw [List.map_append, List.map_append, own, arranged.own]
    · refine List.pairwise_append.2 ⟨sorted, arranged.behind, fun now mem after memAfter notOp => ?_⟩
      -- an operand still to come has a greater rank than all that is there
      have later := (List.mem_filter.1 (arranged.kept.mem_iff.1 memAfter)).1
      rcases List.mem_append.1 later with waits | comes
      · exact absurd notOp (hstill.operator_of_mem after waits).1
      · have := early now mem
        have := (List.mem_zipIdx comes).1
        omega

theorem convert_operands {tokens : List Token} {waiting : List Pending} {emitted : List Instruction}
    (h : convert tokens waiting = .ok emitted) :
    emitted.filterMap Instruction.operand? =
      (tokens.filter fun token => token.operator? = none).map Token.value := by
  have silent (inside : List Pending) : (inside.map emit).filterMap Instruction.operand? = [] := by
    simp [List.filterMap_eq_nil_iff, Instruction.operand?, emit]
  induction tokens generalizing waiting emitted with
  | nil =>
    obtain ⟨-, rfl⟩ := drain_eq_ok h
    exact silent _
  | cons token tokens ih =>
    obtain ⟨first, left, following, step, rest, rfl⟩ := convert_cons_eq_ok h
    rw [List.filterMap_append, ih rest]
    rcases advance_eq_ok step with ⟨notOp, rfl, rfl⟩ | ⟨hop, rfl, -⟩ | ⟨_, _, hop, -, -, rfl⟩ |
      ⟨_, _, _, hop, -, -, -, -, rfl, -⟩
    · simp [notOp, Instruction.operand?]
    · simp [hop]
    · simp [hop, silent]
    · simp [hop, silent]

end Pending

namespace Program

theorem instructions_close_ite (steps : List Instruction) (stop : Nat) :
    (close steps stop).instructions =
      steps ++ if steps.getLast?.any Instruction.isFin then [] else [.operator .fin stop] := by
  unfold close
  split
  · exact (List.append_nil steps).symm
  · rfl

/-- A program has one step for each token that is no bracket, in an order that keeps operands as they
were and never moves an operator before an operand it was behind. Only a `fin` just past the last token
comes to these, and only if the last of them is not one already. -/
theorem ofTokens_arranged {tokens : List Token} {program : Program}
    (h : ofTokens tokens = .ok program) :
    (∃ steps order, Pending.convert tokens [] = .ok steps ∧
      Arranged tokens.zipIdx steps order ∧
      program.instructions = steps ++
        if steps.getLast?.any Instruction.isFin then [] else [.operator .fin (stopOf tokens)]) ∧
    program.instructions.filterMap Instruction.operand? =
      (tokens.filter fun token => token.operator? = none).map Token.value ∧
    (∀ position, .operator .openParen position ∉ program.instructions ∧
      .operator .closeParen position ∉ program.instructions) ∧
    ∃ before position, program.instructions = before ++ [.operator .fin position] := by
  obtain ⟨steps, converted, rfl⟩ := ofTokens_eq_ok h
  have empty : Pending.Holds 0 [] [] := .nil
  obtain ⟨order, arranged⟩ := Pending.convert_arranged empty converted
  have whole := instructions_close_ite steps (stopOf tokens)
  refine ⟨⟨steps, order, converted, arranged, whole⟩, ?_, fun position => ?_,
    eq_append_fin (close steps (stopOf tokens)).ends_fin⟩
  · rw [whole, List.filterMap_append, Pending.convert_operands converted]
    split <;> simp [Instruction.operand?]
  · have solid : ∀ op place, .operator op place ∈ (close steps (stopOf tokens)).instructions →
        op ≠ .openParen ∧ op ≠ .closeParen := by
      intro op place mem
      rw [whole, List.mem_append] at mem
      rcases mem with mem | mem
      · have image : some (.operator op place) ∈ steps.map some := List.mem_map_of_mem mem
        rw [← arranged.own] at image
        obtain ⟨ranked, -, own⟩ := List.mem_map.1 image
        unfold Token.instruction? at own
        split at own <;> simp_all
      · split at mem <;> simp_all
    exact ⟨fun mem => (solid _ _ mem).1 rfl, fun mem => (solid _ _ mem).2 rfl⟩

/-- In `x and (a ; b)` the `;` ends its group, and the `and` comes behind it. -/
theorem ofTokens_arranged_group :
    ofTokens (tokenize "x and (a ; b)") = .ok (close [.operand "x", .operand "a", .operand "b",
      .operator .fin 9, .operator .and 2] 13) ∧
    ∃ order, Arranged (tokenize "x and (a ; b)").zipIdx [.operand "x", .operand "a", .operand "b",
      .operator .fin 9, .operator .and 2] order := by
  have tokens : tokenize "x and (a ; b)" = [⟨.word, "x", 0⟩, ⟨.word, "and", 2⟩, ⟨.symbol, "(", 6⟩,
      ⟨.word, "a", 7⟩, ⟨.symbol, ";", 9⟩, ⟨.word, "b", 11⟩, ⟨.symbol, ")", 12⟩] := by
    decide +kernel
  have compiled : ofTokens (tokenize "x and (a ; b)") = .ok (close [.operand "x", .operand "a",
      .operand "b", .operator .fin 9, .operator .and 2] 13) := by
    rw [tokens]
    rfl
  obtain ⟨steps, order, converted, arranged, -⟩ := (ofTokens_arranged compiled).1
  rw [tokens] at converted
  cases converted
  exact ⟨compiled, order, arranged⟩

end Program

end LabelQuery
