import LabelQuery.Proofs.Filter.Unambiguous

/-!
What postfix order keeps of an expression. The converter only moves steps: each operand and each
operator comes out once, and brackets leave nothing. Main statement: tokens become a program if and
only if their brackets balance, and its steps are those of the tokens in another order.
-/
namespace LabelQuery

/-- The step of a token; a bracket has none. -/
def Token.instruction? (token : Token) : Option Instruction :=
  match token.operator? with
  | none => some (.operand token.value)
  | some .openParen | some .closeParen => none
  | some op => some (.operator op token.offset)

namespace Pending

/-- The steps that wait; the mark of an open group is none. -/
def steps (waiting : List Pending) : List Instruction :=
  (waiting.filter fun pending => pending.op ≠ .openParen).map emit

/-- How many groups are open. -/
def opens (waiting : List Pending) : Nat :=
  waiting.countP fun pending => pending.op = .openParen

theorem steps_append (first second : List Pending) :
    steps (first ++ second) = steps first ++ steps second := by
  simp [steps]

theorem opens_append (first second : List Pending) :
    opens (first ++ second) = opens first + opens second :=
  List.countP_append

theorem steps_open (position : Nat) (waiting : List Pending) :
    steps (⟨.openParen, position⟩ :: waiting) = steps waiting := by
  simp [steps]

theorem steps_operator {op : Operator} (notOpen : op ≠ .openParen) (position : Nat)
    (waiting : List Pending) :
    steps (⟨op, position⟩ :: waiting) = .operator op position :: steps waiting := by
  simp [steps, notOpen, emit]

theorem opens_open (position : Nat) (waiting : List Pending) :
    opens (⟨.openParen, position⟩ :: waiting) = opens waiting + 1 := by
  simp [opens]

theorem opens_operator {op : Operator} (notOpen : op ≠ .openParen) (position : Nat)
    (waiting : List Pending) : opens (⟨op, position⟩ :: waiting) = opens waiting := by
  simp [opens, notOpen]

section Inside

variable {inside : List Pending} (noMark : ∀ pending ∈ inside, pending.op ≠ .openParen)
include noMark

theorem steps_inside : steps inside = inside.map emit := by
  have all : ∀ pending ∈ inside, decide (pending.op ≠ .openParen) = true :=
    fun pending mem => decide_eq_true (noMark pending mem)
  rw [steps, List.filter_eq_self.2 all]

theorem opens_inside : opens inside = 0 :=
  List.countP_eq_zero.2 fun pending mem => by simpa using noMark pending mem

end Inside

theorem closeGroup?_eq_some {waiting inside outside : List Pending}
    (h : closeGroup? waiting = some (inside, outside)) :
    (∃ position, waiting = inside ++ ⟨.openParen, position⟩ :: outside) ∧
      ∀ pending ∈ inside, pending.op ≠ .openParen := by
  induction waiting generalizing inside with
  | nil => contradiction
  | cons top below ih =>
    rw [closeGroup?] at h
    split at h
    · next mark =>
      cases h
      exact ⟨⟨top.position, by simp [← mark]⟩, by simp⟩
    · next other =>
      obtain ⟨⟨found, rest⟩, hfound, heq⟩ := Option.map_eq_some_iff.1 h
      cases heq
      obtain ⟨⟨position, rfl⟩, noMark⟩ := ih hfound
      exact ⟨⟨position, rfl⟩, List.forall_mem_cons.2 ⟨other, noMark⟩⟩

theorem closeGroup?_eq_none {waiting : List Pending} :
    closeGroup? waiting = none ↔ opens waiting = 0 := by
  induction waiting with
  | nil => simp [closeGroup?, opens]
  | cons top below ih =>
    obtain ⟨op, position⟩ := top
    by_cases mark : op = .openParen
    · subst mark
      simp [closeGroup?, opens_open]
    · simp [closeGroup?, mark, ih, opens_operator mark]

/-- What one token can do to the operators that wait. -/
theorem advance_eq_ok {token : Token} {waiting left : List Pending} {emitted : List Instruction}
    (h : advance token waiting = .ok (emitted, left)) :
    (token.operator? = none ∧ emitted = [.operand token.value] ∧ left = waiting) ∨
    (token.operator? = some .openParen ∧ emitted = [] ∧
      left = ⟨.openParen, token.offset⟩ :: waiting) ∨
    (∃ inside position, token.operator? = some .closeParen ∧
      waiting = inside ++ ⟨.openParen, position⟩ :: left ∧
      (∀ pending ∈ inside, pending.op ≠ .openParen) ∧ emitted = inside.map emit) ∨
    (∃ op inside outside, token.operator? = some op ∧ op ≠ .openParen ∧ op ≠ .closeParen ∧
      waiting = inside ++ outside ∧ (∀ pending ∈ inside, pending.op ≠ .openParen) ∧
      emitted = inside.map emit ∧ left = ⟨op, token.offset⟩ :: outside) := by
  unfold advance at h
  split at h
  · next notOp =>
    cases h
    exact .inl ⟨notOp, rfl, rfl⟩
  · next hopen =>
    cases h
    exact .inr (.inl ⟨hopen, rfl, rfl⟩)
  · next hclose =>
    split at h
    · contradiction
    · next inside outside found =>
      cases h
      obtain ⟨⟨position, hwaiting⟩, noMark⟩ := closeGroup?_eq_some found
      exact .inr (.inr (.inl ⟨inside, position, hclose, hwaiting, noMark, rfl⟩))
  · next op notOpen notClose hop =>
    cases h
    refine .inr (.inr (.inr ⟨op, _, _, hop, notOpen, notClose,
      List.takeWhile_append_dropWhile.symm, ?_, rfl, rfl⟩))
    intro pending mem
    exact (goesBefore_iff.1 (List.all_eq_true.1 List.all_takeWhile pending mem)).1

theorem advance_perm {token : Token} {waiting left : List Pending} {emitted : List Instruction}
    (h : advance token waiting = .ok (emitted, left)) :
    (emitted ++ steps left).Perm (token.instruction?.toList ++ steps waiting) := by
  rcases advance_eq_ok h with ⟨notOp, rfl, rfl⟩ | ⟨hopen, rfl, rfl⟩ |
    ⟨inside, position, hclose, rfl, noMark, rfl⟩ |
    ⟨op, inside, outside, hop, notOpen, notClose, rfl, noMark, rfl, rfl⟩
  · simp [Token.instruction?, notOp]
  · simp [Token.instruction?, hopen, steps_open]
  · simp [Token.instruction?, hclose, steps_append, steps_open, steps_inside noMark]
  · have step : token.instruction? = some (.operator op token.offset) := by
      cases op <;> simp_all [Token.instruction?]
    rw [step, steps_operator notOpen, steps_append, steps_inside noMark]
    exact List.perm_middle

theorem advance_opens {token : Token} {waiting left : List Pending} {emitted : List Instruction}
    (h : advance token waiting = .ok (emitted, left)) :
    (opens left : Int) = opens waiting + token.nesting := by
  rcases advance_eq_ok h with ⟨notOp, rfl, rfl⟩ | ⟨hopen, rfl, rfl⟩ |
    ⟨inside, position, hclose, rfl, noMark, rfl⟩ |
    ⟨op, inside, outside, hop, notOpen, notClose, rfl, noMark, rfl, rfl⟩
  · simp [Token.nesting_operand notOp]
  · simp [Token.nesting_open hopen, opens_open]
  · rw [Token.nesting_close hclose, opens_append, opens_open, opens_inside noMark]
    omega
  · have flat : token.nesting = 0 := by cases op <;> simp_all [Token.nesting]
    simp [flat, opens_append, opens_operator notOpen, opens_inside noMark]

/-- Only a `)` can go wrong, and only outside all groups. -/
theorem advance_ok_iff {token : Token} {waiting : List Pending} :
    (∃ result, advance token waiting = .ok result) ↔ 0 ≤ opens waiting + token.nesting := by
  constructor
  · rintro ⟨⟨emitted, left⟩, h⟩
    rw [← advance_opens h]
    exact Int.natCast_nonneg _
  · intro enough
    unfold advance
    split
    · exact ⟨_, rfl⟩
    · exact ⟨_, rfl⟩
    · next hclose =>
      rw [Token.nesting_close hclose] at enough
      cases found : closeGroup? waiting with
      | none =>
        rw [closeGroup?_eq_none.1 found] at enough
        contradiction
      | some parts => exact ⟨_, rfl⟩
    · exact ⟨_, rfl⟩

theorem drain_eq_ok {waiting : List Pending} {emitted : List Instruction}
    (h : drain waiting = .ok emitted) : opens waiting = 0 ∧ emitted = steps waiting := by
  induction waiting generalizing emitted with
  | nil =>
    cases h
    exact ⟨rfl, rfl⟩
  | cons top below ih =>
    obtain ⟨op, position⟩ := top
    rw [drain] at h
    split at h
    · contradiction
    · next notOpen =>
      cases hbelow : drain below with
      | error fault => rw [hbelow] at h; contradiction
      | ok following =>
        rw [hbelow] at h
        cases h
        obtain ⟨none, rfl⟩ := ih hbelow
        exact ⟨by rw [opens_operator notOpen, none], by rw [steps_operator notOpen]; rfl⟩

theorem drain_ok_iff {waiting : List Pending} :
    (∃ emitted, drain waiting = .ok emitted) ↔ opens waiting = 0 := by
  constructor
  · rintro ⟨emitted, h⟩
    exact (drain_eq_ok h).1
  · intro none
    induction waiting with
    | nil => exact ⟨_, rfl⟩
    | cons top below ih =>
      obtain ⟨op, position⟩ := top
      by_cases mark : op = .openParen
      · subst mark
        rw [opens_open] at none
        contradiction
      · rw [opens_operator mark] at none
        obtain ⟨emitted, h⟩ := ih none
        exact ⟨_, by rw [drain, if_neg mark, h]; rfl⟩

theorem convert_cons_eq_ok {token : Token} {tokens : List Token} {waiting : List Pending}
    {emitted : List Instruction} (h : convert (token :: tokens) waiting = .ok emitted) :
    ∃ first left following, advance token waiting = .ok (first, left) ∧
      convert tokens left = .ok following ∧ emitted = first ++ following := by
  rw [convert] at h
  cases step : advance token waiting with
  | error fault => rw [step] at h; contradiction
  | ok result =>
    obtain ⟨first, left⟩ := result
    rw [step] at h
    cases rest : convert tokens left with
    | error fault => simp [bind, Except.bind, rest] at h
    | ok following =>
      simp only [bind, Except.bind, rest, pure, Except.pure] at h
      cases h
      exact ⟨first, left, following, rfl, rest, rfl⟩

/-- What comes out is what went in. -/
theorem convert_perm {tokens : List Token} {waiting : List Pending} {emitted : List Instruction}
    (h : convert tokens waiting = .ok emitted) :
    emitted.Perm (tokens.filterMap Token.instruction? ++ steps waiting) := by
  induction tokens generalizing waiting emitted with
  | nil =>
    obtain ⟨-, rfl⟩ := drain_eq_ok h
    exact .refl _
  | cons token tokens ih =>
    obtain ⟨first, left, following, step, rest, rfl⟩ := convert_cons_eq_ok h
    have own : (token :: tokens).filterMap Token.instruction? =
        token.instruction?.toList ++ tokens.filterMap Token.instruction? := by
      rw [List.filterMap_cons]
      cases token.instruction? <;> rfl
    rw [own]
    calc (first ++ following).Perm
          (first ++ (tokens.filterMap Token.instruction? ++ steps left)) := (ih rest).append_left _
      _ |>.Perm (tokens.filterMap Token.instruction? ++ (first ++ steps left)) := by
          simpa using List.perm_append_comm_assoc _ _ _
      _ |>.Perm (tokens.filterMap Token.instruction? ++
            (token.instruction?.toList ++ steps waiting)) := (advance_perm step).append_left _
      _ |>.Perm _ := by simpa using List.perm_append_comm_assoc _ _ _

theorem convert_ok_iff {tokens : List Token} {waiting : List Pending} :
    (∃ emitted, convert tokens waiting = .ok emitted) ↔
      opens waiting + nesting tokens = 0 ∧
        ∀ first second, tokens = first ++ second → 0 ≤ opens waiting + nesting first := by
  -- of what waits only the open groups count: the depth so far is theirs and that of the tokens
  induction tokens generalizing waiting with
  | nil =>
    have depth : (0 : Int) ≤ opens waiting := Int.natCast_nonneg _
    constructor
    · intro ok
      refine ⟨by simpa using drain_ok_iff.1 ok, ?_⟩
      intro first second cut
      obtain ⟨rfl, -⟩ := List.append_eq_nil_iff.1 cut.symm
      exact depth
    · rintro ⟨none, -⟩
      exact drain_ok_iff.2 (by simpa using none)
  | cons token tokens ih =>
    constructor
    · rintro ⟨emitted, h⟩
      obtain ⟨first, left, following, step, rest, rfl⟩ := convert_cons_eq_ok h
      have depth := advance_opens step
      obtain ⟨closed, opened⟩ := ih.1 ⟨following, rest⟩
      refine ⟨by rw [nesting_cons]; omega, ?_⟩
      intro before after cut
      cases before with
      | nil => simp
      | cons head tail =>
        obtain ⟨rfl, inside⟩ := List.cons.inj cut
        have := opened tail after inside
        rw [nesting_cons]
        omega
    · rintro ⟨closed, opened⟩
      have enough : 0 ≤ opens waiting + token.nesting := by simpa using opened [token] tokens rfl
      obtain ⟨⟨first, left⟩, step⟩ := advance_ok_iff.2 enough
      have depth := advance_opens step
      rw [nesting_cons] at closed
      obtain ⟨following, rest⟩ : ∃ following, convert tokens left = .ok following := by
        refine ih.2 ⟨by omega, ?_⟩
        intro before after cut
        have := opened (token :: before) after (by rw [cut]; rfl)
        rw [nesting_cons] at this
        omega
      refine ⟨first ++ following, ?_⟩
      rw [convert, step]
      simp only [bind, Except.bind, rest, pure, Except.pure]

end Pending

namespace Program

/-- Tokens are a program as soon as their brackets balance. -/
theorem ofTokens_ok_iff {tokens : List Token} :
    (∃ program, ofTokens tokens = .ok program) ↔ Balanced tokens := by
  have converts : (∃ emitted, Pending.convert tokens [] = .ok emitted) ↔ Balanced tokens := by
    rw [Pending.convert_ok_iff]
    constructor
    · rintro ⟨closed, opened⟩
      exact ⟨by simpa [Pending.opens] using closed, by simpa [Pending.opens] using opened⟩
    · rintro ⟨closed, opened⟩
      exact ⟨by simpa [Pending.opens] using closed, by simpa [Pending.opens] using opened⟩
  rw [← converts, ofTokens]
  cases Pending.convert tokens [] with
  | error fault =>
    constructor <;> (rintro ⟨_, h⟩; contradiction)
  | ok emitted => exact ⟨fun _ => ⟨emitted, rfl⟩, fun _ => ⟨_, rfl⟩⟩

theorem ofTokens_eq_ok {tokens : List Token} {program : Program}
    (h : ofTokens tokens = .ok program) :
    ∃ emitted, Pending.convert tokens [] = .ok emitted ∧
      program = close emitted (stopOf tokens) := by
  rw [ofTokens] at h
  cases converted : Pending.convert tokens [] with
  | error fault => rw [converted] at h; contradiction
  | ok emitted =>
    rw [converted] at h
    cases h
    exact ⟨emitted, rfl, rfl⟩

/-- A program has the steps of its tokens, each once, and a `fin` of its own unless they end with
one. -/
theorem ofTokens_perm {tokens : List Token} {program : Program}
    (h : ofTokens tokens = .ok program) :
    ∃ emitted, program = close emitted (stopOf tokens) ∧
      emitted.Perm (tokens.filterMap Token.instruction?) := by
  obtain ⟨emitted, converted, hprogram⟩ := ofTokens_eq_ok h
  refine ⟨emitted, hprogram, ?_⟩
  simpa [Pending.steps] using Pending.convert_perm converted

end Program

end LabelQuery
