import Mathlib.Data.List.Chain
import Mathlib.Data.List.Sort
import Mathlib.Logic.Relation
import LabelQuery.Proofs.Filter.Conservation

/-!
The stack of operators that wait for their right operands. Reading a token is taken apart into moves, each
of which takes one operator off the stack or is done with the token. Main statement: at every point of a
conversion, what waits between two open groups binds more and more tightly from the bottom to the top,
so that the stack grows with the depth of the groups and not with the number of tokens.
-/
namespace LabelQuery

/-- The operators that can wait together inside one group, from the bottom to the top. -/
def Operator.waitingOrder : List Operator :=
  [fin, or, and, not, equal]

theorem Operator.mem_waitingOrder {op : Operator} :
    op ∈ waitingOrder ↔ op ≠ openParen ∧ op ≠ closeParen := by
  cases op <;> decide

/-- A point of a conversion: the tokens to come, the operators that wait and the steps so far. -/
structure Conversion where
  coming : List Token
  waiting : List Pending
  emitted : List Instruction

namespace Conversion

open Pending

def start (tokens : List Token) : Conversion :=
  ⟨tokens, [], []⟩

/-- The moves of a conversion. A `)` and an arriving operator send operators away one at a time before
they are done. -/
inductive Move : Conversion → Conversion → Prop
  | operand {token : Token} {rest : List Token} {waiting : List Pending}
      {emitted : List Instruction} : token.operator? = none →
      Move ⟨token :: rest, waiting, emitted⟩ ⟨rest, waiting, emitted ++ [.operand token.value]⟩
  | opening {token : Token} {rest : List Token} {waiting : List Pending}
      {emitted : List Instruction} : token.operator? = some .openParen →
      Move ⟨token :: rest, waiting, emitted⟩ ⟨rest, ⟨.openParen, token.offset⟩ :: waiting, emitted⟩
  | releases {token : Token} {rest : List Token} {top : Pending} {below : List Pending}
      {emitted : List Instruction} : token.operator? = some .closeParen → top.op ≠ .openParen →
      Move ⟨token :: rest, top :: below, emitted⟩ ⟨token :: rest, below, emitted ++ [top.emit]⟩
  | closing {token : Token} {rest : List Token} {position : Nat} {below : List Pending}
      {emitted : List Instruction} : token.operator? = some .closeParen →
      Move ⟨token :: rest, ⟨.openParen, position⟩ :: below, emitted⟩ ⟨rest, below, emitted⟩
  | yields {token : Token} {rest : List Token} {op : Operator} {top : Pending}
      {below : List Pending} {emitted : List Instruction} : token.operator? = some op →
      op ≠ .openParen → op ≠ .closeParen → goesBefore op top = true →
      Move ⟨token :: rest, top :: below, emitted⟩ ⟨token :: rest, below, emitted ++ [top.emit]⟩
  | waits {token : Token} {rest : List Token} {op : Operator} {waiting : List Pending}
      {emitted : List Instruction} : token.operator? = some op →
      op ≠ .openParen → op ≠ .closeParen → HoldsBack op.precedence waiting →
      Move ⟨token :: rest, waiting, emitted⟩ ⟨rest, ⟨op, token.offset⟩ :: waiting, emitted⟩

/-- One point comes after another, with any number of moves between them. -/
abbrev Reaches : Conversion → Conversion → Prop :=
  Relation.ReflTransGen Move

/-- What a conversion comes to in the end, seen from one of its points. -/
def outcome (point : Conversion) : Except FilterError (List Instruction) :=
  (convert point.coming point.waiting).map (point.emitted ++ ·)

end Conversion

variable {token : Token} {tokens rest : List Token} {op : Operator} {top : Pending}
  {waiting left below : List Pending} {emitted : List Instruction}

/-! ### The moves are those of the conversion -/

namespace Pending

/-- A token sends the topmost operator away and goes on as if that had not waited. -/
def Sends (token : Token) (top : Pending) (below : List Pending) : Prop :=
  advance token (top :: below) =
    (advance token below).map fun (emitted, left) => (top.emit :: emitted, left)

theorem sends_close (closes : token.operator? = some .closeParen) (other : top.op ≠ .openParen) :
    Sends token top below := by
  simp only [Sends, advance, closes, closeGroup?, if_neg other]
  cases closeGroup? below <;> rfl

theorem sends_operator (hop : token.operator? = some op) (notOpen : op ≠ .openParen)
    (notClose : op ≠ .closeParen) (goes : goesBefore op top = true) :
    Sends token top below := by
  cases op <;> simp_all [Sends, advance, Except.map]

theorem convert_of_advance (h : advance token waiting = .ok (emitted, left)) :
    convert (token :: tokens) waiting = (convert tokens left).map (emitted ++ ·) := by
  rw [convert, h]
  rfl

theorem advance_of_sends (sends : Sends token top below)
    (h : advance token (top :: below) = .ok (emitted, left)) :
    ∃ others, advance token below = .ok (others, left) ∧ emitted = top.emit :: others := by
  rw [Sends] at sends
  rw [sends] at h
  cases step : advance token below with
  | error fault => rw [step] at h; contradiction
  | ok result =>
    rw [step] at h
    cases h
    exact ⟨result.1, rfl, rfl⟩

theorem convert_of_sends (sends : Sends token top below) :
    convert (token :: tokens) (top :: below) =
      (convert (token :: tokens) below).map (top.emit :: ·) := by
  rw [Sends] at sends
  cases step : advance token below with
  | error fault =>
    rw [step] at sends
    rw [convert, convert, sends, step]
    rfl
  | ok result =>
    rw [step] at sends
    rw [convert_of_advance sends, convert_of_advance step]
    cases convert tokens result.2 <;> rfl

end Pending

namespace Conversion

open Pending

variable {point next : Conversion}

theorem outcome_sent (sends : Sends token top below) :
    outcome ⟨token :: rest, top :: below, emitted⟩ =
      outcome ⟨token :: rest, below, emitted ++ [top.emit]⟩ := by
  rw [outcome, outcome, convert_of_sends sends]
  cases convert (token :: rest) below <;> simp [Except.map]

theorem outcome_advanced {own : List Instruction} (h : advance token waiting = .ok (own, left)) :
    outcome ⟨token :: rest, waiting, emitted⟩ = outcome ⟨rest, left, emitted ++ own⟩ := by
  rw [outcome, outcome, convert_of_advance h]
  cases convert rest left <;> simp [Except.map]

/-- A move is done with a token, or the token sends the topmost operator away. -/
theorem Move.advances_or_sends (move : Move ⟨token :: rest, waiting, emitted⟩ next) :
    (∃ own left, advance token waiting = .ok (own, left) ∧ next = ⟨rest, left, emitted ++ own⟩) ∨
    ∃ top below, waiting = top :: below ∧ top.op ≠ .openParen ∧ Sends token top below ∧
      next = ⟨token :: rest, below, emitted ++ [top.emit]⟩ := by
  cases move with
  | operand notOp => exact .inl ⟨_, _, advance_operand notOp _, rfl⟩
  | opening hopen => exact .inl ⟨_, _, advance_open hopen _, by simp⟩
  | releases hclose other => exact .inr ⟨_, _, rfl, other, sends_close hclose other, rfl⟩
  | @closing _ _ _ below _ hclose =>
    exact .inl ⟨[], below, by simp [advance, hclose, closeGroup?], by simp⟩
  | yields hop notOpen notClose goes =>
    exact .inr ⟨_, _, rfl, (goesBefore_iff.1 goes).1, sends_operator hop notOpen notClose goes, rfl⟩
  | @waits _ _ op _ _ hop notOpen notClose back =>
    have nothing : Above op.precedence [] := by simp [Above]
    exact .inl ⟨_, _, advance_operator hop notOpen notClose nothing back, by simp⟩

theorem Move.outcome_eq (move : Move point next) : point.outcome = next.outcome := by
  obtain ⟨_ | ⟨token, rest⟩, waiting, emitted⟩ := point
  · cases move
  · rcases move.advances_or_sends with ⟨own, left, step, rfl⟩ | ⟨top, below, rfl, -, sends, rfl⟩
    · exact outcome_advanced step
    · exact outcome_sent sends

/-- Groups open and close with tokens only. -/
theorem Move.depth (move : Move point next) :
    ∃ read, point.coming = read ++ next.coming ∧
      (opens next.waiting : Int) = opens point.waiting + nesting read := by
  obtain ⟨_ | ⟨token, rest⟩, waiting, emitted⟩ := point
  · cases move
  · rcases move.advances_or_sends with ⟨own, left, step, rfl⟩ | ⟨top, below, rfl, other, -, rfl⟩
    · exact ⟨[token], rfl, by simpa using advance_opens step⟩
    · exact ⟨[], rfl, by simp [opens, other]⟩

/-- Unless it is a `)` and nothing waits, there is a move for the next token. -/
theorem exists_move (token : Token) (rest : List Token) (waiting : List Pending)
    (emitted : List Instruction) :
    (∃ next, Move ⟨token :: rest, waiting, emitted⟩ next) ∨
      token.operator? = some .closeParen ∧ waiting = [] := by
  cases hop : token.operator? with
  | none => exact .inl ⟨_, .operand hop⟩
  | some op =>
    by_cases notOpen : op = .openParen
    · subst notOpen
      exact .inl ⟨_, .opening hop⟩
    · cases waiting with
      | nil =>
        by_cases notClose : op = .closeParen
        · exact .inr ⟨congrArg some notClose, rfl⟩
        · exact .inl ⟨_, .waits hop notOpen notClose (by simp [HoldsBack])⟩
      | cons top below =>
        obtain ⟨upper, position⟩ := top
        by_cases notClose : op = .closeParen
        · subst notClose
          by_cases mark : upper = .openParen
          · subst mark
            exact .inl ⟨_, .closing hop⟩
          · exact .inl ⟨_, .releases hop mark⟩
        · by_cases goes : goesBefore op ⟨upper, position⟩ = true
          · exact .inl ⟨_, .yields hop notOpen notClose goes⟩
          · rw [goesBefore_iff, not_and_or, not_not, not_le] at goes
            exact .inl ⟨_, .waits hop notOpen notClose (holdsBack_cons goes)⟩

/-- What a token does at once is what its moves do one after the other. -/
theorem reaches_of_advance {waiting : List Pending} {emitted own : List Instruction}
    (h : advance token waiting = .ok (own, left)) :
    Reaches ⟨token :: rest, waiting, emitted⟩ ⟨rest, left, emitted ++ own⟩ := by
  rcases exists_move token rest waiting emitted with ⟨next, move⟩ | ⟨closes, rfl⟩
  · rcases move.advances_or_sends with ⟨_, _, step, rfl⟩ | ⟨top, below, rfl, -, sends, rfl⟩
    · cases h.symm.trans step
      exact .single move
    · obtain ⟨others, step, rfl⟩ := advance_of_sends sends h
      rw [List.append_cons]
      exact .head move (reaches_of_advance step)
  · simp [advance, closes, closeGroup?] at h
termination_by waiting.length

/-- The stacks between two tokens are among those of the moves. -/
theorem reaches_of_feeds {own : List Instruction} (h : Feeds tokens waiting own left) :
    Reaches ⟨tokens ++ rest, waiting, emitted⟩ ⟨rest, left, emitted ++ own⟩ := by
  induction h generalizing emitted with
  | nil => simpa using Relation.ReflTransGen.refl
  | cons step _ ih =>
    rw [← List.append_assoc]
    exact (reaches_of_advance step).trans ih

end Conversion

/-! ### Neighbours on the stack -/

namespace Pending

/-- The upper of two neighbours on a stack binds more tightly, unless one of them marks a group. -/
def Tighter (upper lower : Pending) : Prop :=
  upper.op = .openParen ∨ lower.op = .openParen ∨ lower.op.precedence < upper.op.precedence

/-- What can wait at some point of a conversion. -/
structure Layered (waiting : List Pending) : Prop where
  noClose : ∀ pending ∈ waiting, pending.op ≠ .closeParen
  tighter : waiting.IsChain Tighter

namespace Layered

theorem nil : Layered [] where
  noClose := by simp
  tighter := .nil

theorem tail (h : Layered (top :: waiting)) : Layered waiting where
  noClose := fun pending mem => h.noClose pending (List.mem_cons_of_mem _ mem)
  tighter := h.tighter.tail

theorem cons {position : Nat} (h : Layered waiting) (notClose : op ≠ .closeParen)
    (onTop : ∀ lower ∈ waiting.head?, Tighter ⟨op, position⟩ lower) :
    Layered (⟨op, position⟩ :: waiting) where
  noClose := List.forall_mem_cons.2 ⟨notClose, h.noClose⟩
  tighter := h.tighter.cons onTop

variable {segment : List Pending}

theorem pairwise (h : Layered waiting) (inside : segment <:+: waiting)
    (noMark : ∀ pending ∈ segment, pending.op ≠ .openParen) :
    segment.Pairwise fun upper lower => lower.op.precedence < upper.op.precedence := by
  have chained : segment.IsChain Tighter := List.IsChain.infix h.tighter inside
  have strict : segment.IsChain fun upper lower => lower.op.precedence < upper.op.precedence := by
    refine chained.imp_of_mem_imp fun upper lower memUpper memLower tighter => ?_
    exact (tighter.resolve_left (noMark upper memUpper)).resolve_left (noMark lower memLower)
  have chain : (segment.map fun pending => pending.op.precedence).IsChain (· > ·) :=
    (List.isChain_map _).2 strict
  exact List.pairwise_map.1 (List.isChain_iff_pairwise.1 chain)

/-- From the bottom to the top, a segment without groups is part of one fixed list. -/
theorem sublist (h : Layered waiting) (inside : segment <:+: waiting)
    (noMark : ∀ pending ∈ segment, pending.op ≠ .openParen) :
    (segment.reverse.map Pending.op).Sublist Operator.waitingOrder := by
  have ascending : (segment.reverse.map Pending.op).Pairwise
      fun lower upper => lower.precedence < upper.precedence :=
    List.pairwise_map.2 (List.pairwise_reverse.2 (h.pairwise inside noMark))
  have distinct : (segment.reverse.map Pending.op).Nodup :=
    ascending.imp fun lt same => by simp [same] at lt
  have known : segment.reverse.map Pending.op ⊆ Operator.waitingOrder := by
    intro op image
    obtain ⟨pending, mem, rfl⟩ := List.mem_map.1 image
    rw [List.mem_reverse] at mem
    exact Operator.mem_waitingOrder.2 ⟨noMark pending mem, h.noClose pending (inside.subset mem)⟩
  have antisymm : Std.Antisymm fun lower upper : Operator => lower.precedence < upper.precedence :=
    ⟨fun _ _ lt gt => absurd gt (Int.not_lt.2 (Int.le_of_lt lt))⟩
  exact List.sublist_of_subperm_of_pairwise (List.subperm_of_subset distinct known) ascending
    (by decide)

end Layered

/-- Where no more than `count` operators wait side by side, the open groups bound the stack. -/
theorem length_le_of_segments {count : Nat}
    (short : ∀ segment, segment <:+: waiting → (∀ pending ∈ segment, pending.op ≠ .openParen) →
      segment.length ≤ count) :
    waiting.length ≤ count * (opens waiting + 1) + opens waiting := by
  have free (stack : List Pending) :
      ∀ pending ∈ stack.takeWhile (·.op ≠ .openParen), pending.op ≠ .openParen :=
    fun pending mem => of_decide_eq_true (List.all_eq_true.1 List.all_takeWhile pending mem)
  have topmost {stack : List Pending} (inside : stack <:+: waiting) :
      (stack.takeWhile (·.op ≠ .openParen)).length ≤ count := by
    have first : stack.takeWhile (·.op ≠ .openParen) <+: stack := List.takeWhile_prefix _
    exact short _ (first.isInfix.trans inside) (free stack)
  -- down the stack, the topmost segment goes on growing until it ends at a group
  have grown (stack : List Pending) (inside : stack <:+: waiting) : stack.length ≤
      (stack.takeWhile (·.op ≠ .openParen)).length + (count + 1) * opens stack := by
    induction stack with
    | nil => exact Nat.zero_le _
    | cons top below ih =>
      have within : below <:+: waiting := (List.suffix_cons top below).isInfix.trans inside
      have bound := ih within
      obtain ⟨op, position⟩ := top
      by_cases mark : op = .openParen
      · subst mark
        have closed := topmost within
        rw [opens_open, List.length_cons, Nat.mul_succ]
        omega
      · rw [opens_operator mark, List.takeWhile_cons_of_pos (by simpa using mark),
          List.length_cons, List.length_cons]
        omega
  have whole := grown waiting List.infix_rfl
  have last := @topmost waiting List.infix_rfl
  rw [Nat.add_mul] at whole
  rw [Nat.mul_succ]
  omega

end Pending

namespace Conversion

open Pending

variable {point next : Conversion}

/-! ### All points of a conversion -/

theorem Move.layered (move : Move point next) (layered : Layered point.waiting) :
    Layered next.waiting := by
  cases move with
  | operand _ => exact layered
  | opening _ => exact layered.cons (by decide) fun _ _ => .inl rfl
  | releases _ _ | closing _ | yields _ _ _ _ => exact layered.tail
  | waits _ _ notClose back =>
    exact layered.cons notClose fun lower mem => .inr (back lower mem)

theorem outcome_start (tokens : List Token) : (start tokens).outcome = convert tokens [] := by
  rw [outcome, start]
  cases convert tokens [] <;> rfl

theorem Reaches.outcome_eq (reached : Reaches point next) : point.outcome = next.outcome := by
  induction reached with
  | refl => rfl
  | tail _ move ih => exact ih.trans move.outcome_eq

theorem Reaches.depth (reached : Reaches point next) :
    ∃ read, point.coming = read ++ next.coming ∧
      (opens next.waiting : Int) = opens point.waiting + nesting read := by
  induction reached with
  | refl => exact ⟨[], rfl, by simp⟩
  | tail _ move ih =>
    obtain ⟨before, hbefore, opened⟩ := ih
    obtain ⟨read, hread, more⟩ := move.depth
    refine ⟨before ++ read, by rw [hbefore, hread, List.append_assoc], ?_⟩
    rw [more, opened, nesting_append, Int.add_assoc]

theorem Reaches.layered (reached : Reaches point next) (layered : Layered point.waiting) :
    Layered next.waiting := by
  induction reached with
  | refl => exact layered
  | tail _ move ih => exact move.layered ih

/-- At every point of a conversion, the operators that wait between two open groups, and those above or
below all groups, bind more and more tightly from the bottom to the top. So each operator waits there at
most once, and the depth of the groups bounds the stack, however many tokens there are. -/
theorem waiting_bounded (reached : Reaches (start tokens) point) :
    convert tokens [] = point.outcome ∧
    (∃ read, tokens = read ++ point.coming ∧ opens point.waiting = nesting read) ∧
    (∀ segment, segment <:+: point.waiting → (∀ pending ∈ segment, pending.op ≠ .openParen) →
      (segment.Pairwise fun upper lower => lower.op.precedence < upper.op.precedence) ∧
      (segment.reverse.map Pending.op).Sublist Operator.waitingOrder) ∧
    point.waiting.length ≤ 5 * (opens point.waiting + 1) + opens point.waiting := by
  have layered : Layered point.waiting := reached.layered .nil
  refine ⟨?_, ?_, fun segment inside noMark => ?_, length_le_of_segments fun segment inside noMark => ?_⟩
  · exact (outcome_start tokens).symm.trans reached.outcome_eq
  · obtain ⟨read, cut, depth⟩ := reached.depth
    exact ⟨read, cut, by simpa [start, opens] using depth⟩
  · exact ⟨layered.pairwise inside noMark, layered.sublist inside noMark⟩
  · simpa [Operator.waitingOrder] using (layered.sublist inside noMark).length_le

/-- With one group open, eleven operators can wait: as many as the bound allows. -/
theorem waiting_bounded_full :
    ∃ point, Reaches (start (tokenize "; or and not = (; or and not = a")) point ∧
      opens point.waiting = 1 ∧ point.waiting.length = 5 * (1 + 1) + 1 ∧
      convert (tokenize "; or and not = (; or and not = a") [] = point.outcome ∧
      ((point.waiting.take 5).reverse.map Pending.op).Sublist Operator.waitingOrder ∧
      point.waiting.length ≤ 5 * (opens point.waiting + 1) + opens point.waiting := by
  let read : List Token := [⟨.symbol, ";", 0⟩, ⟨.word, "or", 2⟩, ⟨.word, "and", 5⟩,
    ⟨.word, "not", 9⟩, ⟨.symbol, "=", 13⟩, ⟨.symbol, "(", 15⟩, ⟨.symbol, ";", 16⟩,
    ⟨.word, "or", 18⟩, ⟨.word, "and", 21⟩, ⟨.word, "not", 25⟩, ⟨.symbol, "=", 29⟩]
  let waiting : List Pending := [⟨.equal, 29⟩, ⟨.not, 25⟩, ⟨.and, 21⟩, ⟨.or, 18⟩, ⟨.fin, 16⟩,
    ⟨.openParen, 15⟩, ⟨.equal, 13⟩, ⟨.not, 9⟩, ⟨.and, 5⟩, ⟨.or, 2⟩, ⟨.fin, 0⟩]
  have whole : tokenize "; or and not = (; or and not = a" = read ++ [⟨.word, "a", 31⟩] := by
    decide +kernel
  obtain ⟨own, fed⟩ : ∃ own, Feeds read [] own waiting :=
    ⟨_, .cons rfl <| .cons rfl <| .cons rfl <| .cons rfl <| .cons rfl <| .cons rfl <| .cons rfl <|
      .cons rfl <| .cons rfl <| .cons rfl <| .one rfl⟩
  rw [whole]
  have reached := @reaches_of_feeds _ [⟨.word, "a", 31⟩] [] waiting [] own fed
  obtain ⟨same, -, ordered, bound⟩ := waiting_bounded reached
  have inside : waiting.take 5 <:+: waiting := ⟨[], waiting.drop 5, rfl⟩
  exact ⟨_, reached, rfl, rfl, same, (ordered (waiting.take 5) inside (by decide)).2, bound⟩

end Conversion

end LabelQuery
