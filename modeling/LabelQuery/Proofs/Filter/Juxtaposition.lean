import LabelQuery.Proofs.Filter.Capture
import LabelQuery.Proofs.Filter.Unambiguous

/-!
When terms side by side are alternatives. Main statement: every expression of the grammar gets an
answer. It is the one of the tree, for all operands, when the terms are over one before the other
and no bracketed juxtaposition is an operand of `=`, `not` or `and`. Short of a second `not` that
undoes the error of a first one, that is the only case.
-/
namespace LabelQuery

open Datum Pending

/-- How many `not` stand over one juxtaposition, at most. -/
def Expr.negations : Expr → Nat
  | operand _ => 0
  | not _ part => if part.isExplicit then 0 else part.negations + 1
  | equal _ left right | and _ left right | or _ left right | beside left right =>
    max left.negations right.negations

theorem Expr.negations_not {e : Expr} (many : e.isExplicit = false) (position : Nat) :
    (not position e).negations = e.negations + 1 :=
  if_neg (Bool.eq_false_iff.1 many)

/-- The level at which a phrase of some level is an alternative or more. -/
def Level.outer : Level → Level
  | .atom | .comparison | .negation | .requirements => .requirements
  | level => level

/-- With some operands, the tree of some tokens has a chosen answer and the tokens have some
property. -/
def Chooses (level : Level) (tokens : List Token) (e : Expr) (answer : Bool)
    (property : List Token → Prop) : Prop :=
  ∃ others other, Derives level others other ∧ SameOperators others tokens ∧
    other.pieces = e.pieces ∧ other.holds probe = answer ∧ property others

/-- A phrase without juxtaposition is an alternative, and what comes too early strands a piece of
it. -/
def Stops (level : Level) (tokens : List Token) (e : Expr) : Prop :=
  ∃ ending, InOrder .requirements ending tokens e ∧
    ∀ next, ending.settles next = false → Chooses level tokens e false (Bares level (Ready next))

/-- A phrase with juxtaposition leaves a piece that holds behind, and can answer yes without `not`
over it. -/
def Sinks (level : Level) (tokens : List Token) (e : Expr) : Prop :=
  ∃ answer, (e.negations = 0 → answer = true) ∧
    Chooses level tokens e answer (Bares level Clears)

theorem Chooses.lift {low high : Level} {tokens : List Token} {e : Expr} {answer : Bool}
    {property wider : List Token → Prop} (h : Chooses low tokens e answer property)
    (raise : ∀ {tokens e}, Derives low tokens e → Derives high tokens e)
    (le : ∀ {tokens}, property tokens → wider tokens) : Chooses high tokens e answer wider := by
  obtain ⟨others, other, derives, same, pieces, holds, hproperty⟩ := h
  exact ⟨others, other, raise derives, same, pieces, holds, le hproperty⟩

section

variable {level : Level} {sign opening closing : Token} {before after tokens : List Token}
  {e left right key value : Expr} {answer : Bool} {room : List Pending → List Datum → Prop}

theorem Chooses.equal (answer : Bool) (hkey : Derives .atom before key)
    (hop : sign.operator? = some .equal) (hvalue : Derives .atom after value)
    (literal : (Expr.equal sign.offset key value).hasLiteralKeys = true)
    (kind : ∀ {tight stack}, stack.length = load tight + value.pieces →
      room (tight ++ [⟨.equal, sign.offset⟩]) stack) :
    Chooses .comparison (before ++ sign :: after) (.equal sign.offset key value) answer
      (Bares .comparison room) := by
  obtain ⟨text, rfl, literal⟩ := Expr.eq_operand_of_hasLiteralKeys literal
  obtain ⟨first, left, hleft, refillsLeft⟩ := hkey.refill rfl true
  obtain ⟨second, right, hright, refillsRight⟩ := hvalue.refill literal answer
  have refills := refillsLeft.equal sign refillsRight
  have bares : Bares .comparison _ (first ++ sign :: second) :=
    .binary hop (by decide) (by decide) rfl (by decide) (by decide) (by decide) hleft
      (refillsLeft.explicit rfl) refillsLeft.holds hright
  refine ⟨_, _, .equal hleft hop hright, refills.operators, refills.pieces, refills.holds,
    bares.mono ?_⟩
  rintro above stack ⟨tight, rfl, -, count⟩
  exact kind (by rw [count, refillsRight.pieces])

theorem Chooses.and (answer : Bool) (hbefore : Derives .requirements before left)
    (hop : sign.operator? = some .and) (hafter : Derives .negation after right)
    (explicit : left.isExplicit = true)
    (literal : (Expr.and sign.offset left right).hasLiteralKeys = true)
    (kind : ∀ {tight stack}, Above Operator.not.precedence tight →
      stack.length = load tight + right.pieces → room (tight ++ [⟨.and, sign.offset⟩]) stack) :
    Chooses .requirements (before ++ sign :: after) (.and sign.offset left right) answer
      (Bares .requirements room) := by
  rw [Expr.hasLiteralKeys, Bool.and_eq_true] at literal
  obtain ⟨first, left', hleft, refillsLeft⟩ := hbefore.refill literal.1 true
  obtain ⟨second, right', hright, refillsRight⟩ := hafter.refill literal.2 answer
  have refills := refillsLeft.and sign refillsRight
  have bares : Bares .requirements _ (first ++ sign :: second) :=
    .binary hop (by decide) (by decide) rfl (by decide) (by decide) (by decide) hleft
      (refillsLeft.explicit explicit) refillsLeft.holds hright
  refine ⟨_, _, .and hleft hop hright, refills.operators, refills.pieces, refills.holds,
    bares.mono ?_⟩
  rintro above stack ⟨tight, rfl, htight, count⟩
  exact kind htight (by rw [count, refillsRight.pieces])

theorem Chooses.not (hop : sign.operator? = some .not)
    (kind : ∀ {above stack}, room above stack → room (above ++ [⟨.not, sign.offset⟩]) stack)
    (h : Chooses .comparison after e answer (Bares .comparison room)) :
    Chooses .negation (sign :: after) (.not sign.offset e) (!answer) (Bares .negation room) := by
  obtain ⟨others, other, derives, same, pieces, holds, bares⟩ := h
  refine ⟨_, .not sign.offset other, .not hop derives, same.cons sign, pieces, ?_,
    bares.not hop kind⟩
  rw [Expr.holds, holds]

theorem Derives.chooses_comparison (h : Derives .comparison tokens e)
    (explicit : e.isExplicit = true) (literal : e.hasLiteralKeys = true) :
    Chooses .comparison tokens e true (Bares .comparison fun above stack =>
      load above ≤ stack.length) := by
  cases h with
  | atom h =>
    obtain ⟨others, other, derives, refills⟩ := h.refill literal true
    exact ⟨others, other, .atom derives, refills.operators, refills.pieces, refills.holds,
      (Bares.atom derives (refills.explicit explicit) refills.holds).lift (by decide)⟩
  | @equal _ _ _ _ value hkey hop hvalue =>
    refine .equal true hkey hop hvalue literal ?_
    intro tight stack count
    have := value.pieces_pos
    rw [load_append, load_cons_binary rfl, load_nil]
    omega

theorem Stops.lift {low high : Level} (h : Stops low tokens e)
    (raise : ∀ {tokens e}, Derives low tokens e → Derives high tokens e)
    (le : high.floor ≤ low.floor) : Stops high tokens e := by
  obtain ⟨ending, inOrder, chooses⟩ := h
  exact ⟨ending, inOrder, fun next unsettled =>
    (chooses next unsettled).lift raise fun bares => bares.lift le⟩

theorem Derives.stops (h : Derives level tokens e)
    (tight : Operator.and.precedence ≤ level.floor) (explicit : e.isExplicit = true)
    (literal : e.hasLiteralKeys = true) : Stops level tokens e := by
  induction h with
  | operand notOp =>
    exact ⟨.atom, .explicit (.operand notOp) rfl (by decide), fun _ never => nomatch never⟩
  | group hopen h hclose _ =>
    exact ⟨.atom, .explicit (.group hopen h hclose) explicit (by decide),
      fun _ never => nomatch never⟩
  | atom _ ih => exact (ih (by decide) explicit literal).lift .atom (by decide)
  | @equal _ _ _ _ value hkey hop hvalue =>
    refine ⟨.comparison, .explicit (.equal hkey hop hvalue) explicit (by decide), ?_⟩
    intro next unsettled
    refine .equal false hkey hop hvalue literal fun count => ?_
    have := value.pieces_pos
    refine .concat rfl (by omega) fun negated => ?_
    rw [Level.settles, negated] at unsettled
    contradiction
  | comparison _ ih => exact (ih (by decide) explicit literal).lift .comparison (by decide)
  | @not sign _ _ hop h =>
    refine ⟨.negation, .explicit (.not hop h) explicit (by decide), ?_⟩
    intro next unsettled
    have chooses := (h.chooses_comparison explicit literal).not hop fun {above stack} enough => by
      rw [load_append, load_cons_not]
      exact enough
    exact chooses.lift id fun bares => bares.mono fun enough =>
      .of_not_startsNegated enough unsettled
  | negation _ ih => exact (ih (by decide) explicit literal).lift .negation (by decide)
  | @and _ _ _ _ right hleft hop hright =>
    refine ⟨.requirements, .explicit (.and hleft hop hright) explicit (by decide), ?_⟩
    intro next _
    rw [Expr.isExplicit, Bool.and_eq_true] at explicit
    refine .and false hleft hop hright explicit.1 literal fun htight count => ?_
    have := right.pieces_pos
    exact .concat rfl (by omega) fun _ => ⟨htight, by decide⟩
  | requirements | or | alternatives | beside => exact absurd tight (by decide)

end

/-- A phrase can leave a piece that holds as the lowest one, when the next comes too early or
anyway. -/
inductive Grounds (level : Level) (tokens : List Token) (e : Expr) : Prop
  | inOrder {ending : Level} : InOrder level ending tokens e →
      (∀ next, ending.settles next = false → Chooses level tokens e false (Strands True next)) →
      Grounds level tokens e
  | misleads {answer : Bool} : (e.negations = 0 → answer = true) →
      Chooses level tokens e answer (Misleads True) → Grounds level tokens e

namespace Grounds

variable {sign opening closing : Token} {before after tokens : List Token} {e left right : Expr}

theorem stops (h : Stops .requirements tokens e) : Grounds .alternatives tokens e := by
  obtain ⟨ending, inOrder, chooses⟩ := h
  exact .inOrder (.requirements inOrder) fun next unsettled =>
    (chooses next unsettled).lift .requirements fun bares => bares.buries (by decide) id

theorem sinks (h : Sinks .requirements tokens e) : Grounds .alternatives tokens e := by
  obtain ⟨answer, yes, chooses⟩ := h
  exact .misleads yes (chooses.lift .requirements fun bares => bares.misleads (by decide))

theorem alternatives (h : Grounds .alternatives tokens e) : Grounds .sequence tokens e := by
  cases h with
  | inOrder inOrder chooses =>
    exact .inOrder (.alternatives inOrder) fun next unsettled =>
      (chooses next unsettled).lift .alternatives id
  | misleads yes chooses => exact .misleads yes (chooses.lift .alternatives id)

theorem or (h : Grounds .alternatives before left) (hop : sign.operator? = some .or)
    (hafter : Derives .requirements after right) (literalLeft : left.hasLiteralKeys = true)
    (literalRight : right.hasLiteralKeys = true) :
    Grounds .alternatives (before ++ sign :: after) (.or sign.offset left right) := by
  obtain ⟨second, right', hsecond, refillsRight⟩ := hafter.refill literalRight true
  refine .misleads (fun _ => rfl : _ → true = true) ?_
  cases h with
  | inOrder inOrder _ =>
    obtain ⟨first, left', hfirst, refillsLeft⟩ := inOrder.refill literalLeft true
    have refills := refillsLeft.or sign refillsRight
    exact ⟨_, _, .or hfirst.derives hop hsecond, refills.operators, refills.pieces, refills.holds,
      (hfirst.reads probe).misleads_or hfirst.loose refillsLeft.throughout hop hsecond⟩
  | misleads _ chooses =>
    obtain ⟨first, left', derives, same, pieces, -, misleads⟩ := chooses
    refine ⟨_, _, .or derives hop hsecond, same.append (refillsRight.operators.cons sign), ?_, ?_,
      misleads.or hop hsecond⟩
    · rw [Expr.pieces, Expr.pieces, pieces, refillsRight.pieces]
    · rw [Expr.holds, refillsRight.holds, Bool.or_true]

theorem beside (h : Grounds .sequence before left) (hafter : Derives .alternatives after right)
    (literalLeft : left.hasLiteralKeys = true) (literalRight : right.hasLiteralKeys = true) :
    Grounds .sequence (before ++ after) (.beside left right) := by
  obtain ⟨second, right', hsecond, refillsRight⟩ := hafter.refill literalRight true
  refine .misleads (fun _ => rfl : _ → true = true) ?_
  have behind {answer : Bool} (h : Chooses .sequence before left answer (Strands True after)) :
      Chooses .sequence (before ++ after) (.beside left right) true (Misleads True) := by
    obtain ⟨first, left', derives, same, pieces, -, strands⟩ := h
    refine ⟨_, _, .beside derives hsecond, same.append refillsRight.operators, ?_, ?_,
      (strands.congr refillsRight.operators.startsNegated_eq).beside hsecond⟩
    · rw [Expr.pieces, Expr.pieces, pieces, refillsRight.pieces]
    · rw [Expr.holds, refillsRight.holds, Bool.or_true]
  cases h with
  | @inOrder ending inOrder chooses =>
    cases settled : ending.settles after with
    | false => exact behind (chooses after settled)
    | true =>
      obtain ⟨first, left', hfirst, refillsLeft⟩ := inOrder.refill literalLeft true
      have refills := refillsLeft.beside refillsRight
      have settled : ending.settles second = true :=
        (refillsRight.operators.settles_eq ending).trans settled
      exact ⟨_, _, .beside hfirst.derives hsecond, refills.operators, refills.pieces, refills.holds,
        (hfirst.reads probe).misleads_beside refillsLeft.throughout settled hsecond⟩
  | misleads _ chooses => exact behind (chooses.lift id fun misleads => misleads.strands after)

end Grounds

theorem Expr.two_le_pieces {e : Expr} (many : e.isExplicit = false) : 2 ≤ e.pieces := by
  have := e.pieces_pos
  have : e.pieces ≠ 1 := fun one => by
    rw [pieces_eq_one.1 one] at many
    contradiction
  omega

/-- A phrase that leaves nothing waiting leaves its pieces. -/
theorem Derives.length_of_runAll {level : Level} {tokens : List Token} {e : Expr}
    {emitted : List Instruction} {waiting : List Pending} {pieces rest below : List Datum}
    (h : Derives level tokens e) (hfeeds : Feeds tokens waiting emitted waiting)
    (back : HoldsBack level.floor waiting)
    (hrun : Program.runAll probe emitted below = .ok (pieces ++ (rest ++ below))) :
    (pieces ++ rest).length = e.pieces := by
  have supplied : Supplies probe level.floor tokens e.pieces [] waiting [] :=
    h.supplies probe (by cases level <;> decide) (Int.le_refl _) .nil back .nil
  obtain ⟨left, next, ⟨others, hothers, noFin, hnext⟩, -, count⟩ := supplied
  obtain ⟨rfl, hleft⟩ := hfeeds.unique hothers
  have none : left = [] := List.append_left_eq_self.1 hleft.symm
  have same := hrun.symm.trans (Program.runAll_frame noFin hnext below)
  have lengths := congrArg List.length (Except.ok.inj same)
  simp only [none, load_nil, List.length_append, List.length_nil] at count lengths ⊢
  omega

namespace Sinks

variable {sign opening closing : Token} {before after tokens : List Token} {e left right : Expr}

/-- In a group of several pieces the lowest lies under another. -/
theorem group (hopen : opening.operator? = some .openParen)
    (hclose : closing.operator? = some .closeParen) (grounds : Grounds .sequence tokens e)
    (many : e.isExplicit = false) (literal : e.hasLiteralKeys = true) :
    Sinks .atom (opening :: tokens ++ [closing]) e := by
  cases grounds with
  | inOrder inOrder _ =>
    obtain ⟨others, other, hothers, refills⟩ := inOrder.refill literal true
    refine ⟨true, fun _ => rfl, _, other, .group hopen hothers.derives hclose,
      refills.operators.group opening closing, refills.pieces, refills.holds, ?_⟩
    intro waiting below _
    obtain ⟨emitted, joined, hfeeds, hrun, disjoins⟩ :=
      (hothers.reads probe).run_group hopen hothers.loose hclose waiting below
    have two : 2 ≤ joined.length := by
      rw [disjoins.count, refills.pieces]
      exact Expr.two_le_pieces many
    have all := disjoins.all refills.throughout
    rcases List.eq_nil_or_concat joined with rfl | ⟨upper, last, rfl⟩
    · contradiction
    · rw [List.concat_eq_append, List.length_append, List.length_singleton] at two
      refine ⟨emitted, [], upper, last, hfeeds, .nil, List.all_eq_true.1 all last (by simp), ?_,
        Nat.le_of_succ_le_succ two⟩
      simpa using hrun
  | @misleads answer yes chooses =>
    obtain ⟨others, other, derives, same, pieces, holds, misleads⟩ := chooses
    have hgroup : Derives .atom (opening :: others ++ [closing]) other :=
      .group hopen derives hclose
    refine ⟨answer, yes, _, other, hgroup, same.group opening closing, pieces, holds, ?_⟩
    intro waiting below back
    obtain ⟨emitted, upper, rest, hfeeds, hrun, any, positive, one⟩ :=
      misleads.run_group hopen hclose waiting below
    have length : upper.length + rest.length = e.pieces := by
      rw [← pieces, ← hgroup.length_of_runAll hfeeds back hrun, List.length_append]
    have two := Expr.two_le_pieces many
    match rest, any, one trivial, length with
    | [piece], any, _, length =>
      refine ⟨emitted, [], upper, piece, hfeeds, .nil, ?_, hrun, ?_⟩
      · simpa using any
      · rw [List.length_singleton] at length
        rw [Clears, load_nil]
        omega

theorem lift {low high : Level} (h : Sinks low tokens e)
    (raise : ∀ {tokens e}, Derives low tokens e → Derives high tokens e)
    (le : high.floor ≤ low.floor) : Sinks high tokens e := by
  obtain ⟨answer, yes, chooses⟩ := h
  exact ⟨answer, yes, chooses.lift raise fun bares => bares.lift le⟩

end Sinks

namespace Chooses

variable {sign : Token} {before after : List Token} {e left right key value : Expr}

theorem equal_clears (answer : Bool) (hkey : Derives .atom before key)
    (hop : sign.operator? = some .equal) (hvalue : Derives .atom after value)
    (many : value.isExplicit = false)
    (literal : (Expr.equal sign.offset key value).hasLiteralKeys = true) :
    Chooses .comparison (before ++ sign :: after) (.equal sign.offset key value) answer
      (Bares .comparison Clears) := by
  refine .equal answer hkey hop hvalue literal fun {tight stack} count => ?_
  have := Expr.two_le_pieces many
  rw [Clears, load_append, load_cons_binary rfl, load_nil]
  omega

theorem not_clears {answer : Bool} (hop : sign.operator? = some .not)
    (h : Chooses .comparison after e answer (Bares .comparison Clears)) :
    Chooses .negation (sign :: after) (.not sign.offset e) (!answer) (Bares .negation Clears) := by
  refine h.not hop fun {above stack} clears => ?_
  rw [Clears, load_append, load_cons_not]
  exact clears

/-- `and` takes two pieces of those that two phrases leave, and its right operand can decide. -/
theorem and_clears (answer : Bool) (hbefore : Derives .requirements before left)
    (hop : sign.operator? = some .and) (hafter : Derives .negation after right)
    (many : (Expr.and sign.offset left right).isExplicit = false)
    (literal : (Expr.and sign.offset left right).hasLiteralKeys = true)
    (hleft : left.isExplicit = false → Sinks .requirements before left) :
    ∃ first, (left.negations = 0 → first = true) ∧
      Chooses .requirements (before ++ sign :: after) (.and sign.offset left right)
        (first && answer) (Bares .requirements Clears) := by
  cases explicit : left.isExplicit with
  | true =>
    rw [Expr.isExplicit, explicit, Bool.true_and] at many
    refine ⟨true, fun _ => rfl, .and answer hbefore hop hafter explicit literal ?_⟩
    intro tight stack _ count
    have := Expr.two_le_pieces many
    rw [Clears, load_append, load_cons_binary rfl, load_nil]
    omega
  | false =>
    rw [Expr.hasLiteralKeys, Bool.and_eq_true] at literal
    obtain ⟨first, yes, tokens, left', derives, same, pieces, holds, bares⟩ := hleft explicit
    obtain ⟨second, right', hsecond, refills⟩ := hafter.refill literal.2 answer
    refine ⟨first, yes, _, _, .and derives hop hsecond, same.append (refills.operators.cons sign),
      ?_, ?_, bares.and hop hsecond⟩
    · rw [Expr.pieces, Expr.pieces, pieces, refills.pieces]
    · rw [Expr.holds, holds, refills.holds]

end Chooses

/-- Phrases with juxtaposition sink when they are requirements or less, and others can be
grounded. -/
theorem Derives.grounds {level : Level} {tokens : List Token} {e : Expr}
    (h : Derives level tokens e) (literal : e.hasLiteralKeys = true) :
    match level with
    | .sequence | .alternatives => Grounds level tokens e
    | _ => e.isExplicit = false → Sinks level tokens e := by
  -- an operator takes too few of the pieces of a bracketed juxtaposition: the lowest stays behind
  induction h with
  | operand => exact fun never => nomatch never
  | group hopen _ hclose ih => exact fun many => .group hopen hclose (ih literal) many literal
  | atom _ ih => exact fun many => (ih literal many).lift .atom (by decide)
  | equal hkey hop hvalue _ _ =>
    intro many
    obtain ⟨text, rfl, -⟩ := Expr.eq_operand_of_hasLiteralKeys literal
    exact ⟨true, fun _ => rfl, .equal_clears true hkey hop hvalue many literal⟩
  | comparison _ ih => exact fun many => (ih literal many).lift .comparison (by decide)
  | @not _ _ part hop _ ih =>
    intro (many : part.isExplicit = false)
    obtain ⟨answer, -, chooses⟩ := ih literal many
    refine ⟨!answer, fun none => ?_, chooses.not_clears hop⟩
    rw [Expr.negations_not many] at none
    contradiction
  | negation _ ih => exact fun many => (ih literal many).lift .negation (by decide)
  | and hbefore hop hafter ihLeft _ =>
    intro many
    have literals := literal
    rw [Expr.hasLiteralKeys, Bool.and_eq_true] at literals
    obtain ⟨first, yes, chooses⟩ :=
      Chooses.and_clears true hbefore hop hafter many literal (ihLeft literals.1)
    refine ⟨first && true, fun none => ?_, chooses⟩
    rw [yes (Nat.max_eq_zero_iff.1 none).1, Bool.and_self]
  | @requirements _ e h ih =>
    cases explicit : e.isExplicit with
    | true => exact .stops (h.stops (by decide) explicit literal)
    | false => exact .sinks (ih literal explicit)
  | or _ hop hafter ihLeft _ =>
    rw [Expr.hasLiteralKeys, Bool.and_eq_true] at literal
    exact .or (ihLeft literal.1) hop hafter literal.1 literal.2
  | alternatives _ ih => exact .alternatives (ih literal)
  | beside _ hafter ihLeft _ =>
    rw [Expr.hasLiteralKeys, Bool.and_eq_true] at literal
    exact .beside (ihLeft literal.1) hafter literal.1 literal.2

/-- A phrase is read as written, and what comes too early strands a piece of it; or it can
mislead. -/
inductive Interpretation (level : Level) (tokens : List Token) (e : Expr) : Prop
  | inOrder {ending : Level} : InOrder level.outer ending tokens e →
      (∀ next, ending.settles next = false → Chooses level tokens e false (Strands False next)) →
      Interpretation level tokens e
  | misleads : Chooses level tokens e false (Misleads False) → Interpretation level tokens e

namespace Interpretation

variable {sign opening closing : Token} {before after tokens : List Token} {e left right : Expr}

theorem lift {low high : Level} (h : Interpretation low tokens e)
    (raise : ∀ {tokens e}, Derives low tokens e → Derives high tokens e)
    (outer : ∀ {ending}, InOrder low.outer ending tokens e → InOrder high.outer ending tokens e) :
    Interpretation high tokens e := by
  cases h with
  | inOrder inOrder strands =>
    exact .inOrder (outer inOrder) fun next unsettled => (strands next unsettled).lift raise id
  | misleads misleads => exact .misleads (misleads.lift raise id)

/-- A phrase that is a requirement or less is an alternative, or it leaves a piece behind. -/
theorem requirement {level : Level} (tight : Operator.and.precedence ≤ level.floor)
    (hstops : e.isExplicit = true → Stops level tokens e)
    (hclears : e.isExplicit = false → Chooses level tokens e false (Bares level Clears)) :
    Interpretation level tokens e := by
  cases explicit : e.isExplicit with
  | true =>
    obtain ⟨ending, inOrder, chooses⟩ := hstops explicit
    have outer : level.outer = .requirements := by
      cases level with
      | atom | comparison | negation | requirements => rfl
      | alternatives | sequence => exact absurd tight (by decide)
    exact .inOrder (outer ▸ inOrder) fun next unsettled =>
      (chooses next unsettled).lift id fun bares => bares.buries tight id
  | false => exact .misleads ((hclears explicit).lift id fun bares => bares.misleads tight)

theorem group (hopen : opening.operator? = some .openParen)
    (h : Interpretation .sequence tokens e) (hclose : closing.operator? = some .closeParen) :
    Interpretation .atom (opening :: tokens ++ [closing]) e := by
  cases h with
  | inOrder inOrder _ =>
    exact .inOrder (.group hopen inOrder hclose) fun _ never => nomatch never
  | misleads misleads =>
    obtain ⟨others, other, derives, same, pieces, holds, misleads⟩ := misleads
    exact .misleads ⟨_, other, .group hopen derives hclose, same.group opening closing, pieces,
      holds, misleads.group hopen hclose⟩

/-- What the second of two alternatives can bury stays buried when the first is read as written.
-/
theorem chooses_or {ending : Level}
    {room : List Pending → List Pending → List Datum → List Datum → Prop}
    (hleft : InOrder .alternatives ending before left) (literal : left.hasLiteralKeys = true)
    (hop : sign.operator? = some .or)
    (h : Chooses .requirements after right false (Buries False room)) :
    Chooses .alternatives (before ++ sign :: after) (.or sign.offset left right) false
      (Buries False room) := by
  obtain ⟨first, left', inOrder, refills⟩ := hleft.refill literal false
  obtain ⟨second, right', derives, same, pieces, holds, buries⟩ := h
  refine ⟨_, _, .or inOrder.derives hop derives, refills.operators.append (same.cons sign), ?_, ?_,
    buries.or (inOrder.reads probe) inOrder.loose hop⟩
  · rw [Expr.pieces, Expr.pieces, pieces, refills.pieces]
  · rw [Expr.holds, refills.holds, holds, Bool.or_self]

theorem or (hleft : Interpretation .alternatives before left) (hop : sign.operator? = some .or)
    (hafter : Derives .requirements after right)
    (hright : Interpretation .requirements after right) (literalLeft : left.hasLiteralKeys = true)
    (literalRight : right.hasLiteralKeys = true) :
    Interpretation .alternatives (before ++ sign :: after) (.or sign.offset left right) := by
  cases hleft with
  | inOrder first _ =>
    cases hright with
    | inOrder second strands =>
      exact .inOrder (.or first hop second) fun next unsettled =>
        chooses_or first literalLeft hop (strands next unsettled)
    | misleads misleads => exact .misleads (chooses_or first literalLeft hop misleads)
  | misleads misleads =>
    obtain ⟨first, left', derives, same, pieces, holds, misleads⟩ := misleads
    obtain ⟨second, right', hsecond, refills⟩ := hafter.refill literalRight false
    refine .misleads ⟨_, _, .or derives hop hsecond,
      same.append (refills.operators.cons sign), ?_, ?_, misleads.or hop hsecond⟩
    · rw [Expr.pieces, Expr.pieces, pieces, refills.pieces]
    · rw [Expr.holds, holds, refills.holds, Bool.or_self]

theorem chooses_beside {ending : Level}
    {room : List Pending → List Pending → List Datum → List Datum → Prop}
    (hleft : InOrder .sequence ending before left) (literal : left.hasLiteralKeys = true)
    (settled : ending.settles after = true)
    (h : Chooses .alternatives after right false (Buries False room)) :
    Chooses .sequence (before ++ after) (.beside left right) false (Buries False room) := by
  obtain ⟨first, left', inOrder, refills⟩ := hleft.refill literal false
  obtain ⟨second, right', derives, same, pieces, holds, buries⟩ := h
  refine ⟨_, _, .beside inOrder.derives derives, refills.operators.append same, ?_, ?_,
    buries.beside (inOrder.reads probe) ((same.settles_eq ending).trans settled)⟩
  · rw [Expr.pieces, Expr.pieces, pieces, refills.pieces]
  · rw [Expr.holds, refills.holds, holds, Bool.or_self]

theorem misleads_beside (h : Chooses .sequence before left false (Strands False after))
    (hafter : Derives .alternatives after right) (literal : right.hasLiteralKeys = true) :
    Chooses .sequence (before ++ after) (.beside left right) false (Misleads False) := by
  obtain ⟨first, left', derives, same, pieces, holds, strands⟩ := h
  obtain ⟨second, right', hsecond, refills⟩ := hafter.refill literal false
  refine ⟨_, _, .beside derives hsecond, same.append refills.operators, ?_, ?_,
    (strands.congr refills.operators.startsNegated_eq).beside hsecond⟩
  · rw [Expr.pieces, Expr.pieces, pieces, refills.pieces]
  · rw [Expr.holds, holds, refills.holds, Bool.or_self]

theorem beside (hleft : Interpretation .sequence before left)
    (hafter : Derives .alternatives after right)
    (hright : Interpretation .alternatives after right) (literalLeft : left.hasLiteralKeys = true)
    (literalRight : right.hasLiteralKeys = true) :
    Interpretation .sequence (before ++ after) (.beside left right) := by
  cases hleft with
  | @inOrder ending first strands =>
    cases settled : ending.settles after with
    | false => exact .misleads (misleads_beside (strands after settled) hafter literalRight)
    | true =>
      cases hright with
      | inOrder second strands =>
        exact .inOrder (.beside first settled second) fun next unsettled =>
          chooses_beside first literalLeft settled (strands next unsettled)
      | misleads misleads => exact .misleads (chooses_beside first literalLeft settled misleads)
  | misleads misleads =>
    have strands := misleads.lift id fun misleads => misleads.strands after
    exact .misleads (misleads_beside strands hafter literalRight)

end Interpretation

/-- A phrase in which no juxtaposition is under two `not` is read as written or can mislead. -/
theorem Derives.interpretation {level : Level} {tokens : List Token} {e : Expr}
    (h : Derives level tokens e) (negated : e.negations ≤ 1) (literal : e.hasLiteralKeys = true) :
    Interpretation level tokens e := by
  induction h with
  | operand notOp =>
    exact .requirement (by decide)
      (fun explicit => (Derives.operand notOp).stops (by decide) explicit literal)
      fun never => nomatch never
  | group hopen _ hclose ih => exact .group hopen (ih negated literal) hclose
  | atom _ ih => exact (ih negated literal).lift .atom id
  | equal hkey hop hvalue =>
    refine .requirement (by decide)
      (fun explicit => (Derives.equal hkey hop hvalue).stops (by decide) explicit literal)
      fun many => ?_
    obtain ⟨text, rfl, -⟩ := Expr.eq_operand_of_hasLiteralKeys literal
    exact .equal_clears false hkey hop hvalue many literal
  | comparison _ ih => exact (ih negated literal).lift .comparison id
  | @not _ _ part hop h =>
    refine .requirement (by decide)
      (fun explicit => (Derives.not hop h).stops (by decide) explicit literal)
      fun (many : part.isExplicit = false) => ?_
    -- no other `not` stands over the part, so it can answer yes while its lowest piece holds
    rw [Expr.negations_not many] at negated
    obtain ⟨answer, yes, chooses⟩ := h.grounds literal many
    obtain rfl := yes (by omega)
    exact chooses.not_clears hop
  | negation _ ih => exact (ih negated literal).lift .negation id
  | and hleft hop hright =>
    refine .requirement (by decide)
      (fun explicit => (Derives.and hleft hop hright).stops (by decide) explicit literal)
      fun many => ?_
    have literals := literal
    rw [Expr.hasLiteralKeys, Bool.and_eq_true] at literals
    obtain ⟨first, -, chooses⟩ :=
      Chooses.and_clears false hleft hop hright many literal (hleft.grounds literals.1)
    rwa [Bool.and_false] at chooses
  | requirements _ ih => exact (ih negated literal).lift .requirements .requirements
  | or _ hop hright ihLeft ihRight =>
    obtain ⟨negatedLeft, negatedRight⟩ := Nat.max_le.1 negated
    rw [Expr.hasLiteralKeys, Bool.and_eq_true] at literal
    exact .or (ihLeft negatedLeft literal.1) hop hright (ihRight negatedRight literal.2) literal.1
      literal.2
  | alternatives _ ih => exact (ih negated literal).lift .alternatives .alternatives
  | beside _ hright ihLeft ihRight =>
    obtain ⟨negatedLeft, negatedRight⟩ := Nat.max_le.1 negated
    rw [Expr.hasLiteralKeys, Bool.and_eq_true] at literal
    exact .beside (ihLeft negatedLeft literal.1) hright (ihRight negatedRight literal.2) literal.1
      literal.2

/-- Whatever operands stand in their places, tokens get the answer of their tree. -/
def Faithful (tokens : List Token) : Prop :=
  ∀ others other, SameOperators others tokens → Derives .sequence others other →
    ∀ labels, Program.judge others labels = .ok (other.holds labels)

theorem InOrder.faithful {ending : Level} {tokens : List Token} {e : Expr}
    (h : InOrder .sequence ending tokens e) : Faithful tokens := by
  intro others other same derives labels
  obtain ⟨tree, inOrder⟩ := h.transfer same
  obtain rfl := inOrder.derives.unique derives
  exact inOrder.judge_eq labels

theorem Chooses.not_faithful {tokens : List Token} {e : Expr}
    (h : Chooses .sequence tokens e false (Misleads False)) : ¬Faithful tokens := by
  obtain ⟨others, other, derives, same, -, holds, misleads⟩ := h
  intro faithful
  have answer := (misleads.judge_eq.symm.trans (faithful others other same derives probe))
  rw [holds] at answer
  exact Bool.noConfusion (Except.ok.inj answer)

theorem InOrder.of_append {ending : Level} {before after : List Token} {e left right : Expr}
    (h : InOrder .sequence ending (before ++ after) e) (hbefore : Derives .sequence before left)
    (hafter : Derives .alternatives after right) :
    (∃ first, InOrder .sequence first before left) ∧ InOrder .alternatives ending after right ∧
      e = .beside left right := by
  generalize htokens : before ++ after = tokens at h
  cases h with
  | alternatives h =>
    subst htokens
    exact absurd ⟨hbefore.ends, hafter.begins⟩
      (h.derives.whole (by decide) _ _ rfl hbefore.balanced.closed)
  | @beside first _ _ _ _ _ hleft _ hright =>
    obtain ⟨rfl, rfl⟩ := hbefore.cut_unique hafter hleft.derives hright.derives htokens
    obtain rfl := hleft.derives.unique hbefore
    obtain rfl := hright.derives.unique hafter
    exact ⟨⟨first, hleft⟩, hright, rfl⟩

theorem tokenize_role_rack : tokenize "role=controller rack=1" =
    [⟨.word, "role", 0⟩, ⟨.symbol, "=", 4⟩, ⟨.word, "controller", 5⟩, ⟨.word, "rack", 16⟩,
      ⟨.symbol, "=", 20⟩, ⟨.word, "1", 21⟩] := by
  decide +kernel

theorem derives_role_rack : Derives .sequence (tokenize "role=controller rack=1")
    (.beside (.equal 4 (.operand "role") (.operand "controller"))
      (.equal 20 (.operand "rack") (.operand "1"))) := by
  rw [tokenize_role_rack]
  exact .beside
    (.alternatives (.requirements (.negation (.comparison
      (.equal (.operand (by decide)) (by decide) (.operand (by decide)))))))
    (.requirements (.negation (.comparison
      (.equal (.operand (by decide)) (by decide) (.operand (by decide))))))

/-- Every expression of the grammar gets an answer for all labels. If its terms are over one
before the other, it is the answer of its tree whatever its operands, the disjunction of the
answers of its terms alone. With literal keys and no juxtaposition under two `not`, it is so only
then. -/
theorem Program.judge_juxtaposition {tokens : List Token} {e : Expr}
    (h : Derives .sequence tokens e) :
    (∀ labels, ∃ answer, judge tokens labels = .ok answer) ∧
    ((∃ ending, InOrder .sequence ending tokens e) → Faithful tokens ∧
      ∀ before after left right, tokens = before ++ after → Derives .sequence before left →
        Derives .alternatives after right → ∀ labels, ∃ one other,
          judge before labels = .ok one ∧ judge after labels = .ok other ∧
            judge tokens labels = .ok (one || other)) ∧
    (e.hasLiteralKeys = true → e.negations ≤ 1 → Faithful tokens →
      ∃ ending, InOrder .sequence ending tokens e) := by
  refine ⟨h.judge_ok, ?_, ?_⟩
  · rintro ⟨ending, inOrder⟩
    refine ⟨inOrder.faithful, ?_⟩
    rintro before after left right rfl hbefore hafter labels
    obtain ⟨⟨first, hleft⟩, hright, rfl⟩ := inOrder.of_append hbefore hafter
    exact ⟨left.holds labels, right.holds labels, hleft.judge_eq labels,
      (InOrder.alternatives hright).judge_eq labels, inOrder.judge_eq labels⟩
  · intro literal negated faithful
    cases h.interpretation negated literal with
    | inOrder inOrder _ => exact ⟨_, inOrder⟩
    | misleads chooses => exact absurd faithful chooses.not_faithful

/-- `rack (a b) not c` is in order, and `role=controller rack=1` is not. -/
theorem Program.judge_juxtaposition_rack :
    (∀ labels : Labels, judge (tokenize "rack (a b) not c") labels =
      .ok ((labels "rack").isSome || ((labels "a").isSome || (labels "b").isSome) ||
        !(labels "c").isSome)) ∧
    ∀ ending, ¬InOrder .sequence ending (tokenize "role=controller rack=1")
      (.beside (.equal 4 (.operand "role") (.operand "controller"))
        (.equal 20 (.operand "rack") (.operand "1"))) := by
  have rack : tokenize "rack (a b) not c" = [⟨.word, "rack", 0⟩, ⟨.symbol, "(", 5⟩, ⟨.word, "a", 6⟩,
      ⟨.word, "b", 8⟩, ⟨.symbol, ")", 9⟩, ⟨.word, "not", 11⟩, ⟨.word, "c", 15⟩] := by decide +kernel
  constructor
  · have inOrder : InOrder .sequence .negation (tokenize "rack (a b) not c")
        (.beside (.beside (.operand "rack") (.beside (.operand "a") (.operand "b")))
          (.not 11 (.operand "c"))) := by
      rw [rack]
      exact .beside
        (.beside
          (.alternatives (.requirements (.explicit (.operand (by decide)) rfl (by decide))))
          rfl
          (.requirements (.group (by decide)
            (.beside
              (.alternatives (.requirements (.explicit (.operand (by decide)) rfl (by decide))))
              rfl
              (.requirements (.explicit (.operand (by decide)) rfl (by decide))))
            (by decide))))
        rfl
        (.requirements (.explicit (.not (by decide) (.atom (.operand (by decide)))) rfl
          (by decide)))
    have faithful := (judge_juxtaposition inOrder.derives).2.1 ⟨_, inOrder⟩
    exact faithful.1 _ _ (.refl _) inOrder.derives
  · intro ending inOrder
    have faithful := (judge_juxtaposition derives_role_rack).2.1 ⟨ending, inOrder⟩
    have wrong := faithful.1 _ _ (.refl _) derives_role_rack fun name =>
      if name = "role" then some "compute" else none
    rw [tokenize_role_rack] at wrong
    exact absurd (Except.ok.inj wrong) (by decide)

/-- `role=controller rack=1` holds for `role=compute`, though neither term does. -/
theorem Program.judge_role_rack :
    Derives .sequence (tokenize "role=controller rack=1")
      (.beside (.equal 4 (.operand "role") (.operand "controller"))
        (.equal 20 (.operand "rack") (.operand "1"))) ∧
    ∃ labels : Labels, judge (tokenize "role=controller") labels = .ok false ∧
      judge (tokenize "rack=1") labels = .ok false ∧
      judge (tokenize "role=controller rack=1") labels = .ok true := by
  have role : tokenize "role=controller" = [⟨.word, "role", 0⟩, ⟨.symbol, "=", 4⟩,
      ⟨.word, "controller", 5⟩] := by decide +kernel
  have rack : tokenize "rack=1" = [⟨.word, "rack", 0⟩, ⟨.symbol, "=", 4⟩, ⟨.word, "1", 5⟩] := by
    decide +kernel
  refine ⟨derives_role_rack, fun name => if name = "role" then some "compute" else none, ?_⟩
  rw [role, rack, tokenize_role_rack]
  exact ⟨rfl, rfl, rfl⟩

end LabelQuery
