import LabelQuery.Filter.Postfix
import LabelQuery.Proofs.Filter.Running

/-!
Turning tokens into steps, one phrase of the grammar after the other. A phrase leaves the
operators that wait below it alone, and those that still wait at its end are the tail of its
steps. Main statement: an expression without juxtaposition becomes the steps of its tree and one
`fin`, and running them gives the tree's meaning.
-/
namespace LabelQuery

namespace Pending

/-- Tokens turn the operators that wait before them into those that wait after them, and emit
steps. -/
inductive Feeds : List Token → List Pending → List Instruction → List Pending → Prop
  | nil {waiting : List Pending} : Feeds [] waiting [] waiting
  | cons {token : Token} {tokens : List Token} {emitted following : List Instruction}
      {waiting between left : List Pending} :
      advance token waiting = .ok (emitted, between) → Feeds tokens between following left →
      Feeds (token :: tokens) waiting (emitted ++ following) left

namespace Feeds

variable {token : Token} {tokens first second : List Token}
  {emitted following : List Instruction} {waiting between left : List Pending}

theorem one (h : advance token waiting = .ok (emitted, left)) :
    Feeds [token] waiting emitted left := by
  simpa using Feeds.cons h .nil

theorem append (hfirst : Feeds first waiting emitted between)
    (hsecond : Feeds second between following left) :
    Feeds (first ++ second) waiting (emitted ++ following) left := by
  induction hfirst with
  | nil => exact hsecond
  | cons step _ ih =>
    rw [List.append_assoc]
    exact .cons step (ih hsecond)

theorem unique {others : List Instruction} {last : List Pending}
    (h : Feeds tokens waiting emitted left) (h' : Feeds tokens waiting others last) :
    emitted = others ∧ left = last := by
  induction h generalizing others last with
  | nil =>
    cases h'
    exact ⟨rfl, rfl⟩
  | cons step _ ih =>
    cases h' with
    | cons step' rest =>
      cases step.symm.trans step'
      obtain ⟨rfl, rfl⟩ := ih rest
      exact ⟨rfl, rfl⟩

theorem convert (h : Feeds tokens waiting emitted left) (hdrain : drain left = .ok following) :
    Pending.convert tokens waiting = .ok (emitted ++ following) := by
  induction h with
  | nil => exact hdrain
  | cons step _ ih =>
    rw [Pending.convert, step]
    simp only [bind, Except.bind, ih hdrain, pure, Except.pure, List.append_assoc]

end Feeds

theorem goesBefore_iff {op : Operator} {pending : Pending} :
    goesBefore op pending = true ↔
      pending.op ≠ .openParen ∧ op.precedence ≤ pending.op.precedence := by
  simp [goesBefore, Operator.yieldsTo]

/-- The topmost operator of a stack, if there is one, marks a group or binds less tightly than
`floor`. -/
def HoldsBack (floor : Int) (waiting : List Pending) : Prop :=
  ∀ top ∈ waiting.head?, top.op = .openParen ∨ top.op.precedence < floor

/-- Operators that belong to no group and bind at least as tightly as `floor`. -/
def Above (floor : Int) (above : List Pending) : Prop :=
  ∀ pending ∈ above, pending.op ≠ .openParen ∧ floor ≤ pending.op.precedence

theorem HoldsBack.mono {low high : Int} {waiting : List Pending} (h : HoldsBack low waiting)
    (le : low ≤ high) : HoldsBack high waiting := by
  intro top htop
  rcases h top htop with mark | loose
  · exact .inl mark
  · exact .inr (Int.lt_of_lt_of_le loose le)

theorem Above.mono {low high : Int} {above : List Pending} (h : Above high above)
    (le : low ≤ high) : Above low above :=
  fun pending mem => ⟨(h pending mem).1, Int.le_trans le (h pending mem).2⟩

theorem Above.append {floor : Int} {first second : List Pending} (hfirst : Above floor first)
    (hsecond : Above floor second) : Above floor (first ++ second) := by
  intro pending mem
  rcases List.mem_append.1 mem with mem | mem
  · exact hfirst pending mem
  · exact hsecond pending mem

theorem holdsBack_cons {floor : Int} {op : Operator} {position : Nat} {waiting : List Pending}
    (h : op = .openParen ∨ op.precedence < floor) :
    HoldsBack floor (⟨op, position⟩ :: waiting) := by
  intro top htop
  obtain rfl := Option.mem_some_iff.1 htop
  exact h

/-- An arriving operator sends those away that bind at least as tightly, down to the first that
holds back. -/
theorem split_goesBefore {op : Operator} {above waiting : List Pending}
    (habove : Above op.precedence above) (hwaiting : HoldsBack op.precedence waiting) :
    (above ++ waiting).takeWhile (goesBefore op) = above ∧
      (above ++ waiting).dropWhile (goesBefore op) = waiting := by
  have all : ∀ pending ∈ above, goesBefore op pending = true :=
    fun pending mem => goesBefore_iff.2 (habove pending mem)
  rw [List.takeWhile_append_of_pos all, List.dropWhile_append_of_pos all]
  cases waiting with
  | nil => simp
  | cons top below =>
    have stays : goesBefore op top = false := by
      rw [← Bool.not_eq_true, goesBefore_iff]
      rcases hwaiting top (by simp) with mark | loose
      · exact fun h => h.1 mark
      · exact fun h => by omega
    simp [stays]

theorem closeGroup?_append {floor : Int} {above waiting : List Pending} {position : Nat}
    (habove : Above floor above) :
    closeGroup? (above ++ ⟨.openParen, position⟩ :: waiting) = some (above, waiting) := by
  induction above with
  | nil => simp [closeGroup?]
  | cons top below ih =>
    have other : top.op ≠ .openParen := (habove top (by simp)).1
    rw [List.cons_append, closeGroup?, if_neg other,
      ih fun pending mem => habove pending (List.mem_cons_of_mem _ mem)]
    rfl

theorem drain_above {floor : Int} {above : List Pending} (habove : Above floor above) :
    drain above = .ok (above.map emit) := by
  induction above with
  | nil => rfl
  | cons top below ih =>
    have other : top.op ≠ .openParen := (habove top (by simp)).1
    rw [drain, if_neg other, ih fun pending mem => habove pending (List.mem_cons_of_mem _ mem)]
    rfl

theorem advance_operand {token : Token} (h : token.operator? = none) (waiting : List Pending) :
    advance token waiting = .ok ([.operand token.value], waiting) := by
  simp [advance, h]

theorem advance_open {token : Token} (h : token.operator? = some .openParen)
    (waiting : List Pending) :
    advance token waiting = .ok ([], ⟨.openParen, token.offset⟩ :: waiting) := by
  simp [advance, h]

theorem advance_close {token : Token} (h : token.operator? = some .closeParen) {floor : Int}
    {above waiting : List Pending} {position : Nat} (habove : Above floor above) :
    advance token (above ++ ⟨.openParen, position⟩ :: waiting) = .ok (above.map emit, waiting) := by
  simp [advance, h, closeGroup?_append habove]

theorem advance_operator {token : Token} {op : Operator} (h : token.operator? = some op)
    (notOpen : op ≠ .openParen) (notClose : op ≠ .closeParen) {above waiting : List Pending}
    (habove : Above op.precedence above) (hwaiting : HoldsBack op.precedence waiting) :
    advance token (above ++ waiting) =
      .ok (above.map emit, ⟨op, token.offset⟩ :: waiting) := by
  obtain ⟨taken, kept⟩ := split_goesBefore habove hwaiting
  cases op <;> simp_all [advance]

/-- Above what waits below them, tokens become steps of which a tail may still wait. -/
def Becomes (floor : Int) (tokens : List Token) (waiting : List Pending)
    (steps : List Instruction) : Prop :=
  ∃ emitted above, Feeds tokens waiting emitted (above ++ waiting) ∧ Above floor above ∧
    emitted ++ above.map emit = steps

namespace Becomes

variable {floor low : Int} {tokens before after : List Token} {waiting : List Pending}
  {steps left right : List Instruction}

theorem mono (h : Becomes floor tokens waiting steps) (le : low ≤ floor) :
    Becomes low tokens waiting steps := by
  obtain ⟨emitted, above, hfeeds, habove, hsteps⟩ := h
  exact ⟨emitted, above, hfeeds, habove.mono le, hsteps⟩

theorem operand {token : Token} (h : token.operator? = none) :
    Becomes floor [token] waiting [.operand token.value] :=
  ⟨_, [], .one (advance_operand h waiting), by simp [Above], by simp⟩

theorem group {opening closing : Token} (hopen : opening.operator? = some .openParen)
    (hclose : closing.operator? = some .closeParen)
    (h : Becomes low tokens (⟨.openParen, opening.offset⟩ :: waiting) steps) :
    Becomes floor (opening :: tokens ++ [closing]) waiting steps := by
  obtain ⟨emitted, above, hfeeds, habove, hsteps⟩ := h
  have hend : Feeds [closing] (above ++ ⟨.openParen, opening.offset⟩ :: waiting) (above.map emit)
      waiting := .one (advance_close hclose habove)
  have whole := (Feeds.one (advance_open hopen waiting)).append (hfeeds.append hend)
  exact ⟨_, [], by simpa using whole, by simp [Above], by simpa using hsteps⟩

theorem unary {sign : Token} {op : Operator} (hop : sign.operator? = some op)
    (notOpen : op ≠ .openParen) (notClose : op ≠ .closeParen)
    (hwaiting : HoldsBack op.precedence waiting)
    (h : Becomes op.precedence after (⟨op, sign.offset⟩ :: waiting) right) :
    Becomes op.precedence (sign :: after) waiting (right ++ [.operator op sign.offset]) := by
  obtain ⟨emitted, above, hfeeds, habove, hsteps⟩ := h
  have nothing : Above op.precedence [] := by simp [Above]
  have hsign := Feeds.one (advance_operator hop notOpen notClose nothing hwaiting)
  refine ⟨emitted, above ++ [⟨op, sign.offset⟩], ?_, ?_, ?_⟩
  · simpa using hsign.append hfeeds
  · exact habove.append (by simp [Above, notOpen])
  · simp [← hsteps, emit]

/-- An operator between two phrases sends away what waits of the first and waits for the second.
-/
theorem binary {sign : Token} {op : Operator} (hop : sign.operator? = some op)
    (notOpen : op ≠ .openParen) (notClose : op ≠ .closeParen)
    (hwaiting : HoldsBack op.precedence waiting)
    (hbefore : Becomes op.precedence before waiting left)
    (hafter : Becomes op.precedence after (⟨op, sign.offset⟩ :: waiting) right) :
    Becomes op.precedence (before ++ sign :: after) waiting
      (left ++ right ++ [.operator op sign.offset]) := by
  obtain ⟨first, above, hfirst, habove, hleft⟩ := hbefore
  obtain ⟨second, aboveSign, hsecond, haboveSign, hright⟩ := hafter
  have hsign := Feeds.one (advance_operator hop notOpen notClose habove hwaiting)
  refine ⟨first ++ (above.map emit ++ second), aboveSign ++ [⟨op, sign.offset⟩], ?_, ?_, ?_⟩
  · simpa using hfirst.append (hsign.append hsecond)
  · exact haboveSign.append (by simp [Above, notOpen])
  · simp [← hleft, ← hright, emit]

end Becomes

end Pending

open Pending

/-- How tightly the loosest operator binds that a phrase of some level may have outside its
groups. -/
def Level.floor : Level → Int
  | .sequence | .alternatives => Operator.or.precedence
  | .requirements => Operator.and.precedence
  | .negation => Operator.not.precedence
  | .comparison => Operator.equal.precedence
  | .atom => Operator.equal.precedence + 1

/-- A phrase without juxtaposition becomes the steps of its tree, whatever waits below it. -/
theorem Derives.becomes {level : Level} {tokens : List Token} {e : Expr}
    (h : Derives level tokens e) (explicit : e.isExplicit = true) {waiting : List Pending}
    (hwaiting : HoldsBack level.floor waiting) :
    Becomes level.floor tokens waiting e.postorder := by
  -- the left part of an operator starts where the phrase does, the right part above the operator
  induction h generalizing waiting with
  | operand notOp => exact .operand notOp
  | group hopen _ hclose ih =>
    exact .group hopen hclose (ih explicit (holdsBack_cons (.inl rfl)))
  | atom _ ih => exact (ih explicit (hwaiting.mono (by decide))).mono (by decide)
  | equal _ hop _ hkey hvalue =>
    rw [Expr.isExplicit, Bool.and_eq_true] at explicit
    exact .binary hop (by decide) (by decide) hwaiting
      ((hkey explicit.1 (hwaiting.mono (by decide))).mono (by decide))
      ((hvalue explicit.2 (holdsBack_cons (.inr (by decide)))).mono (by decide))
  | comparison _ ih => exact (ih explicit (hwaiting.mono (by decide))).mono (by decide)
  | not hop _ ih =>
    exact .unary hop (by decide) (by decide) hwaiting
      ((ih explicit (holdsBack_cons (.inr (by decide)))).mono (by decide))
  | negation _ ih => exact (ih explicit (hwaiting.mono (by decide))).mono (by decide)
  | and _ hop _ hleft hright =>
    rw [Expr.isExplicit, Bool.and_eq_true] at explicit
    exact .binary hop (by decide) (by decide) hwaiting
      ((hleft explicit.1 (hwaiting.mono (by decide))).mono (by decide))
      ((hright explicit.2 (holdsBack_cons (.inr (by decide)))).mono (by decide))
  | requirements _ ih => exact (ih explicit (hwaiting.mono (by decide))).mono (by decide)
  | or _ hop _ hleft hright =>
    rw [Expr.isExplicit, Bool.and_eq_true] at explicit
    exact .binary hop (by decide) (by decide) hwaiting
      ((hleft explicit.1 (hwaiting.mono (by decide))).mono (by decide))
      ((hright explicit.2 (holdsBack_cons (.inr (by decide)))).mono (by decide))
  | alternatives _ ih => exact (ih explicit (hwaiting.mono (by decide))).mono (by decide)
  | beside => contradiction

theorem Expr.postorder_getLast? (e : Expr) :
    ∃ last, e.postorder.getLast? = some last ∧ last.isFin = false := by
  induction e with
  | operand word => exact ⟨_, rfl, rfl⟩
  | equal position _ _ _ _ | not position _ _ | and position _ _ _ _ | or position _ _ _ _ =>
    exact ⟨_, by simp [postorder]; rfl, rfl⟩
  | beside left right _ hright =>
    obtain ⟨last, hlast, notFin⟩ := hright
    exact ⟨last, by simp [postorder, hlast], notFin⟩

namespace Program

theorem instructions_close {instructions : List Instruction} {last : Instruction} (stop : Nat)
    (hlast : instructions.getLast? = some last) (notFin : last.isFin = false) :
    (close instructions stop).instructions = instructions ++ [.operator .fin stop] := by
  have open_ : ¬instructions.getLast?.any Instruction.isFin = true := by simp [hlast, notFin]
  rw [close, dif_neg open_]

theorem ofTokens_of_becomes {floor : Int} {tokens : List Token} {steps : List Instruction}
    (h : Becomes floor tokens [] steps) : ofTokens tokens = .ok (close steps (stopOf tokens)) := by
  obtain ⟨emitted, above, hfeeds, habove, rfl⟩ := h
  rw [List.append_nil] at hfeeds
  rw [ofTokens, hfeeds.convert (drain_above habove)]
  rfl

end Program

/-- Any expression without juxtaposition is compiled to the steps of its tree and one `fin` just
past its end, and has the meaning of its tree for all labels. -/
theorem Derives.ofTokens_explicit {level : Level} {tokens : List Token} {e : Expr}
    (h : Derives level tokens e) (explicit : e.isExplicit = true) :
    ∃ program, Program.ofTokens tokens = .ok program ∧
      program.instructions = e.postorder ++ [.operator .fin (Program.stopOf tokens)] ∧
      ∀ labels, program.evaluate labels = .ok (e.holds labels) := by
  have becomes : Becomes level.floor tokens [] e.postorder :=
    h.becomes explicit (by simp [HoldsBack])
  obtain ⟨last, hlast, notFin⟩ := e.postorder_getLast?
  refine ⟨_, Program.ofTokens_of_becomes becomes, Program.instructions_close _ hlast notFin, ?_⟩
  intro labels
  rw [Program.evaluate_close (e.runAll_postorder labels explicit [])]
  simp [Program.settle]

/-- `flag = (a or not b)`: the answer of the group is compared as a text. -/
theorem Derives.ofTokens_explicit_flag :
    ∃ program, Program.ofTokens [⟨.word, "flag", 0⟩, ⟨.symbol, "=", 5⟩, ⟨.symbol, "(", 7⟩,
        ⟨.word, "a", 8⟩, ⟨.word, "or", 10⟩, ⟨.word, "not", 13⟩, ⟨.word, "b", 17⟩,
        ⟨.symbol, ")", 18⟩] = .ok program ∧
      program.instructions = [.operand "flag", .operand "a", .operand "b", .operator .not 13,
        .operator .or 10, .operator .equal 5, .operator .fin 19] ∧
      ∀ labels : Labels, program.evaluate labels = .ok (labels "flag" ==
        some (if (labels "a").isSome || !(labels "b").isSome then "true" else "false")) :=
  Derives.ofTokens_explicit
    (.equal (.operand (by decide)) (by decide)
      (.group (by decide)
        (.alternatives (.or
          (.requirements (.negation (.comparison (.atom (.operand (by decide))))))
          (by decide)
          (.negation (.not (by decide) (.atom (.operand (by decide)))))))
        (by decide)))
    rfl

end LabelQuery
