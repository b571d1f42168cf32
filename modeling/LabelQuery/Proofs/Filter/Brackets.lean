import Mathlib.Data.List.Induction
import LabelQuery.Proofs.Filter.Conservation

/-!
Where brackets go wrong. Of the operators that wait, only the marks of open groups matter here: what
other tokens do to the stack never shows in a fault. Main statement: tokens are refused at the first
`)` that is one too many or, if there is none, at the last `(` that nothing closes, and for no other
reason.
-/
namespace LabelQuery

def Token.isBracket (token : Token) : Bool :=
  token.operator? = some .openParen || token.operator? = some .closeParen

/-- A `)` with which there are more `)` than `(` among the tokens so far. -/
def Surplus (before : List Token) (token : Token) : Prop :=
  token.operator? = some .closeParen ∧ nesting (before ++ [token]) < 0

/-- A `(` without a matching `)`: one that the brackets in between would make a pair with it. -/
def Unclosed (token : Token) (after : List Token) : Prop :=
  token.operator? = some .openParen ∧
    ∀ inner closing rest, closing.operator? = some .closeParen →
      after = inner ++ closing :: rest → ¬Balanced inner

/-- No `)` is one too many. -/
def Covered (tokens : List Token) : Prop :=
  ∀ before token after, tokens = before ++ token :: after → ¬Surplus before token

/-- Each `(` has its `)`. -/
def Closed (tokens : List Token) : Prop :=
  ∀ before token after, tokens = before ++ token :: after → ¬Unclosed token after

def FirstSurplus (tokens : List Token) (token : Token) : Prop :=
  ∃ before after, tokens = before ++ token :: after ∧ Surplus before token ∧ Covered before

def LastUnclosed (tokens : List Token) (token : Token) : Prop :=
  ∃ before after, tokens = before ++ token :: after ∧ Unclosed token after ∧ Closed after

/-! ### Reading brackets alone -/

/-- What a token does to the open groups, known by the places of their `(`, the innermost first. -/
def Token.nest (token : Token) (opened : List Nat) : Except FilterError (List Nat) :=
  match token.operator?, opened with
  | some .openParen, opened => .ok (token.offset :: opened)
  | some .closeParen, [] => .error (.unmatchedClose token.offset)
  | some .closeParen, _ :: outer => .ok outer
  | _, opened => .ok opened

/-- What is wrong with the brackets of some tokens, if anything, when groups are open before them. -/
def bracketFault? : List Token → List Nat → Option FilterError
  | [], opened => opened.head?.map .unclosedOpen
  | token :: tokens, opened =>
    match token.nest opened with
    | .error fault => some fault
    | .ok nested => bracketFault? tokens nested

theorem Token.nest_other {token : Token} (h : token.isBracket = false) (opened : List Nat) :
    token.nest opened = .ok opened := by
  cases hop : token.operator? with
  | none => simp [nest, hop]
  | some op => cases op <;> simp_all [nest, isBracket]

/-- A token that closes no more than `deep` leaves the groups below alone. -/
theorem Token.nest_append {token : Token} {deep : List Nat}
    (enough : 0 ≤ (deep.length : Int) + token.nesting) :
    ∃ nested : List Nat, (nested.length : Int) = deep.length + token.nesting ∧
      ∀ opened, token.nest (deep ++ opened) = .ok (nested ++ opened) := by
  cases hop : token.operator? with
  | none => exact ⟨deep, by simp [nesting, hop], fun opened => by simp [nest, hop]⟩
  | some op =>
    cases op with
    | openParen =>
      exact ⟨token.offset :: deep, by simp [nesting, hop], fun opened => by simp [nest, hop]⟩
    | closeParen =>
      cases deep with
      | nil => simp [nesting, hop] at enough
      | cons top outer =>
        refine ⟨outer, ?_, fun opened => by simp [nest, hop]⟩
        rw [nesting_close hop, List.length_cons]
        omega
    | equal | not | and | or | fin =>
      exact ⟨deep, by simp [nesting, hop], fun opened => by simp [nest, hop]⟩

theorem bracketFault?_append {tokens : List Token} {deep : List Nat}
    (kept : ∀ first second, tokens = first ++ second → 0 ≤ (deep.length : Int) + nesting first) :
    ∃ left : List Nat, (left.length : Int) = deep.length + nesting tokens ∧
      ∀ rest opened, bracketFault? (tokens ++ rest) (deep ++ opened) =
        bracketFault? rest (left ++ opened) := by
  induction tokens generalizing deep with
  | nil => exact ⟨deep, by simp, fun rest opened => rfl⟩
  | cons token tokens ih =>
    have enough : 0 ≤ (deep.length : Int) + token.nesting := by simpa using kept [token] tokens rfl
    obtain ⟨nested, depth, step⟩ := Token.nest_append enough
    have keptAfter : ∀ first second, tokens = first ++ second →
        0 ≤ (nested.length : Int) + nesting first := by
      intro first second cut
      have := kept (token :: first) second (by rw [cut]; rfl)
      rw [nesting_cons] at this
      omega
    obtain ⟨left, length, run⟩ := ih keptAfter
    refine ⟨left, by rw [nesting_cons]; omega, fun rest opened => ?_⟩
    rw [List.cons_append, bracketFault?, step]
    exact run rest opened

theorem Balanced.skipped {tokens : List Token} (h : Balanced tokens) (rest : List Token)
    (opened : List Nat) : bracketFault? (tokens ++ rest) opened = bracketFault? rest opened := by
  have kept : ∀ first second, tokens = first ++ second →
      0 ≤ (([] : List Nat).length : Int) + nesting first := by simpa using h.opened
  obtain ⟨left, length, run⟩ := bracketFault?_append kept
  obtain rfl : left = [] := by
    rw [h.closed] at length
    exact List.eq_nil_of_length_eq_zero (by simpa using length)
  exact run rest opened

theorem Balanced.faultless {tokens : List Token} (h : Balanced tokens) :
    bracketFault? tokens [] = none := by
  simpa [bracketFault?] using h.skipped [] []

theorem bracketFault?_filter (tokens : List Token) (opened : List Nat) :
    bracketFault? (tokens.filter Token.isBracket) opened = bracketFault? tokens opened := by
  induction tokens generalizing opened with
  | nil => rfl
  | cons token tokens ih =>
    by_cases bracket : token.isBracket = true
    · rw [List.filter_cons_of_pos bracket, bracketFault?, bracketFault?]
      cases token.nest opened with
      | error fault => rfl
      | ok nested => exact ih nested
    · rw [List.filter_cons_of_neg bracket, bracketFault?,
        Token.nest_other (Bool.eq_false_iff.2 bracket)]
      exact ih opened

/-! ### The marks among the operators that wait -/

namespace Pending

/-- The places of the groups that are open, the innermost first. -/
def marks (waiting : List Pending) : List Nat :=
  (waiting.filter fun pending => pending.op = .openParen).map position

theorem marks_open (position : Nat) (waiting : List Pending) :
    marks (⟨.openParen, position⟩ :: waiting) = position :: marks waiting := by
  simp [marks]

theorem marks_operator {op : Operator} (notOpen : op ≠ .openParen) (position : Nat)
    (waiting : List Pending) : marks (⟨op, position⟩ :: waiting) = marks waiting := by
  simp [marks, notOpen]

theorem marks_append_of_inside {inside : List Pending}
    (noMark : ∀ pending ∈ inside, pending.op ≠ .openParen) (outside : List Pending) :
    marks (inside ++ outside) = marks outside := by
  have nothing : inside.filter (fun pending => pending.op = .openParen) = [] :=
    List.filter_eq_nil_iff.2 fun pending mem => by simpa using noMark pending mem
  simp [marks, nothing]

theorem marks_eq_nil {waiting : List Pending} : marks waiting = [] ↔ opens waiting = 0 := by
  simp [marks, opens, List.countP_eq_zero]

/-- Whatever waits, a token does to the marks what it does to brackets alone. -/
theorem nest_marks (token : Token) (waiting : List Pending) :
    token.nest (marks waiting) = (advance token waiting).map fun result => marks result.2 := by
  cases step : advance token waiting with
  | error fault =>
    unfold advance at step
    split at step
    · contradiction
    · contradiction
    · next hclose =>
      split at step
      · next nothing =>
        cases step
        have none : marks waiting = [] := marks_eq_nil.2 (closeGroup?_eq_none.1 nothing)
        simp [Token.nest, hclose, none, Except.map]
      · contradiction
    · contradiction
  | ok result =>
    obtain ⟨emitted, left⟩ := result
    rcases advance_eq_ok step with ⟨notOp, -, rfl⟩ | ⟨hopen, -, rfl⟩ |
      ⟨inside, position, hclose, rfl, noMark, -⟩ |
      ⟨op, inside, outside, hop, notOpen, notClose, rfl, noMark, -, rfl⟩
    · simp [Token.nest, notOp, Except.map]
    · simp [Token.nest, hopen, Except.map, marks_open]
    · simp [Token.nest, hclose, Except.map, marks_append_of_inside noMark, marks_open]
    · have other : token.isBracket = false := by simp [Token.isBracket, hop, notOpen, notClose]
      rw [Token.nest_other other, marks_append_of_inside noMark]
      simp [Except.map, marks_operator notOpen]

theorem drain_eq_error {waiting : List Pending} {fault : FilterError} :
    drain waiting = .error fault ↔ (marks waiting).head?.map .unclosedOpen = some fault := by
  induction waiting with
  | nil => simp [drain, marks]
  | cons top below ih =>
    obtain ⟨op, position⟩ := top
    by_cases mark : op = .openParen
    · subst mark
      simp [drain, marks_open]
    · rw [marks_operator mark, ← ih, drain, if_neg mark]
      cases drain below <;> simp [Except.map]

/-- A conversion fails as its brackets do. -/
theorem convert_eq_error {tokens : List Token} {waiting : List Pending} {fault : FilterError} :
    convert tokens waiting = .error fault ↔ bracketFault? tokens (marks waiting) = some fault := by
  induction tokens generalizing waiting with
  | nil => exact drain_eq_error
  | cons token tokens ih =>
    rw [convert, bracketFault?, nest_marks]
    cases advance token waiting with
    | error other => simp [bind, Except.bind, Except.map]
    | ok result =>
      have rest := @ih result.2
      simp only [Except.map, bind, Except.bind, ← rest]
      cases convert tokens result.2 <;> simp [pure, Except.pure]

end Pending

/-! ### Which bracket it is -/

theorem Closed.of_append {first second : List Token} (h : Closed (first ++ second)) :
    Closed second := by
  rintro before token after rfl
  exact h (first ++ before) token after (by simp)

theorem Covered.nesting_nonneg {tokens : List Token} (h : Covered tokens) :
    ∀ first second, tokens = first ++ second → 0 ≤ nesting first := by
  intro first
  induction first using List.reverseRecOn with
  | nil =>
    intro second cut
    exact Int.le_refl 0
  | append_singleton before token ih =>
    intro second cut
    rw [List.append_assoc, List.singleton_append] at cut
    have depth := ih (token :: second) cut
    have fits := h before token second cut
    by_cases closes : token.operator? = some .closeParen
    · exact Int.not_lt.1 fun below => fits ⟨closes, below⟩
    · have step : 0 ≤ token.nesting := by
        unfold Token.nesting
        split <;> simp_all
      rw [nesting_append, nesting_cons, nesting_nil]
      omega

theorem firstSurplus_or_covered (tokens : List Token) :
    (∃ token, FirstSurplus tokens token) ∨ Covered tokens := by
  induction tokens using List.reverseRecOn with
  | nil =>
    right
    intro before token after cut
    simp at cut
  | append_singleton tokens last ih =>
    rcases ih with ⟨token, before, after, rfl, surplus, first⟩ | covered
    · exact .inl ⟨token, before, after ++ [last], by simp, surplus, first⟩
    · by_cases surplus : Surplus tokens last
      · exact .inl ⟨last, tokens, [], rfl, surplus, covered⟩
      · right
        intro before token after cut
        induction after using List.reverseRecOn with
        | nil =>
          obtain ⟨rfl, same⟩ := List.append_inj' cut rfl
          obtain ⟨rfl, -⟩ := List.cons.inj same
          exact surplus
        | append_singleton tail other _ =>
          rw [← List.cons_append, ← List.append_assoc] at cut
          exact covered before token tail (List.append_inj' cut rfl).1

theorem lastUnclosed_or_closed (tokens : List Token) :
    (∃ token, LastUnclosed tokens token) ∨ Closed tokens := by
  induction tokens with
  | nil =>
    right
    intro before token after cut
    simp at cut
  | cons head tail ih =>
    rcases ih with ⟨token, before, after, rfl, unclosed, last⟩ | closed
    · exact .inl ⟨token, head :: before, after, rfl, unclosed, last⟩
    · by_cases unclosed : Unclosed head tail
      · exact .inl ⟨head, [], tail, rfl, unclosed, closed⟩
      · right
        intro before token after cut
        cases before with
        | nil =>
          obtain ⟨rfl, rfl⟩ := List.cons.inj cut
          exact unclosed
        | cons first others => exact closed others token after (List.cons.inj cut).2

/-- Where no `)` is one too many and each `(` has its `)`, groups are pairs with balanced tokens in
between. -/
theorem Closed.balanced {tokens : List Token} (closed : Closed tokens)
    (opened : ∀ first second, tokens = first ++ second → 0 ≤ nesting first) : Balanced tokens := by
  match tokens with
  | [] => exact ⟨rfl, opened⟩
  | token :: rest =>
    by_cases opens : token.operator? = some .openParen
    · have pair : ∃ inner closing after, closing.operator? = some .closeParen ∧
          rest = inner ++ closing :: after ∧ Balanced inner := by
        by_contra unpaired
        refine closed [] token rest rfl ⟨opens, fun inner closing after hclose cut balanced => ?_⟩
        exact unpaired ⟨inner, closing, after, hclose, cut, balanced⟩
      obtain ⟨inner, closing, after, hclose, rfl, inside⟩ := pair
      have group : Balanced (token :: inner ++ [closing]) := inside.group opens hclose
      have whole : token :: (inner ++ closing :: after) = (token :: inner ++ [closing]) ++ after := by
        simp
      rw [whole] at closed opened ⊢
      refine group.append (closed.of_append.balanced fun first second cut => ?_)
      have depth := opened (token :: inner ++ [closing] ++ first) second (by rw [cut]; simp)
      rwa [nesting_append, group.closed, Int.zero_add] at depth
    · have depth : 0 ≤ token.nesting := by simpa using opened [token] rest rfl
      have flat : token.nesting = 0 := by
        unfold Token.nesting at depth ⊢
        split <;> simp_all
      have single : Balanced [token] := .single flat
      have behind : Closed rest := @Closed.of_append [token] rest closed
      refine single.append (behind.balanced fun first second cut => ?_)
      have depth := opened (token :: first) second (by rw [cut]; rfl)
      rwa [nesting_cons, flat, Int.zero_add] at depth
termination_by tokens.length

/-- What stands before the first `)` too many is balanced. -/
theorem Surplus.balanced {before : List Token} {token : Token} (h : Surplus before token)
    (covered : Covered before) : Balanced before := by
  obtain ⟨closes, below⟩ := h
  have depth := covered.nesting_nonneg before [] (by simp)
  rw [nesting_append, nesting_cons, Token.nesting_close closes, nesting_nil] at below
  exact ⟨by omega, covered.nesting_nonneg⟩

/-- What stands behind the last `(` that nothing closes is balanced. -/
theorem Unclosed.balanced {token : Token} {after : List Token} (h : Unclosed token after)
    (closed : Closed after) : Balanced after := by
  apply closed.balanced
  rcases firstSurplus_or_covered after with ⟨closing, before, rest, rfl, surplus, first⟩ | covered
  · -- the first `)` too many would be its pair
    exact absurd (surplus.balanced first) (h.2 before closing rest surplus.1 rfl)
  · exact covered.nesting_nonneg

theorem FirstSurplus.found {tokens : List Token} {token : Token}
    (h : FirstSurplus tokens token) :
    bracketFault? tokens [] = some (.unmatchedClose token.offset) := by
  obtain ⟨before, after, rfl, surplus, first⟩ := h
  rw [(surplus.balanced first).skipped]
  simp [bracketFault?, Token.nest, surplus.1]

theorem LastUnclosed.found {tokens : List Token} {token : Token}
    (h : LastUnclosed tokens token) (covered : Covered tokens) :
    bracketFault? tokens [] = some (.unclosedOpen token.offset) := by
  obtain ⟨before, after, rfl, unclosed, last⟩ := h
  have kept : ∀ first second, before = first ++ second →
      0 ≤ (([] : List Nat).length : Int) + nesting first := by
    rintro first second rfl
    simpa using covered.nesting_nonneg first (second ++ token :: after) (by simp)
  obtain ⟨left, -, run⟩ := bracketFault?_append kept
  have step : token.nest left = .ok (token.offset :: left) := by simp [Token.nest, unclosed.1]
  have behind := (unclosed.balanced last).skipped [] (token.offset :: left)
  rw [List.append_nil] at behind
  calc bracketFault? (before ++ token :: after) []
    _ = bracketFault? (token :: after) left := by simpa using run (token :: after) []
    _ = bracketFault? after (token.offset :: left) := by rw [bracketFault?, step]
    _ = some (.unclosedOpen token.offset) := behind

theorem balanced_iff {tokens : List Token} :
    Balanced tokens ↔ Covered tokens ∧ Closed tokens := by
  constructor
  · intro balanced
    have covered : Covered tokens := by
      rintro before token after rfl ⟨-, below⟩
      exact absurd (balanced.opened (before ++ [token]) after (by simp)) (Int.not_le.2 below)
    rcases lastUnclosed_or_closed tokens with ⟨token, last⟩ | closed
    · have found := last.found covered
      rw [balanced.faultless] at found
      contradiction
    · exact ⟨covered, closed⟩
  · rintro ⟨covered, closed⟩
    exact closed.balanced covered.nesting_nonneg

namespace Program

theorem ofTokens_eq_error {tokens : List Token} {fault : FilterError} :
    ofTokens tokens = .error fault ↔ bracketFault? tokens [] = some fault := by
  have converts := @Pending.convert_eq_error tokens [] fault
  rw [ofTokens]
  change _ ↔ bracketFault? tokens (Pending.marks []) = some fault
  rw [← converts]
  cases Pending.convert tokens [] <;> simp [bind, Except.bind, pure, Except.pure]

/-- Tokens are refused at the first `)` that is one too many. If there is none, they are refused at
the last `(` that has no `)`, and if there is none either, they are a program. Tokens other than
brackets make no difference. -/
theorem ofTokens_error_iff (tokens : List Token) :
    (∀ fault, ofTokens tokens = .error fault ↔
      (∃ token, FirstSurplus tokens token ∧ fault = .unmatchedClose token.offset) ∨
      Covered tokens ∧ ∃ token, LastUnclosed tokens token ∧ fault = .unclosedOpen token.offset) ∧
    ((∃ program, ofTokens tokens = .ok program) ↔ Covered tokens ∧ Closed tokens) ∧
    ∀ fault, ofTokens tokens = .error fault ↔
      ofTokens (tokens.filter Token.isBracket) = .error fault := by
  refine ⟨fun fault => ?_, ofTokens_ok_iff.trans balanced_iff, fun fault => ?_⟩
  · rw [ofTokens_eq_error]
    constructor
    · intro found
      rcases firstSurplus_or_covered tokens with ⟨token, first⟩ | covered
      · exact .inl ⟨token, first, Option.some.inj (found.symm.trans first.found)⟩
      · rcases lastUnclosed_or_closed tokens with ⟨token, last⟩ | closed
        · exact .inr ⟨covered, token, last, Option.some.inj (found.symm.trans (last.found covered))⟩
        · rw [(balanced_iff.2 ⟨covered, closed⟩).faultless] at found
          contradiction
    · rintro (⟨token, first, rfl⟩ | ⟨covered, token, last, rfl⟩)
      · exact first.found
      · exact last.found covered
  · rw [ofTokens_eq_error, ofTokens_eq_error, bracketFault?_filter]

end Program

end LabelQuery
