import LabelQuery.Proofs.Filter.InOrder

/-!
Other operands for the same expression. Main statement: when only operands stand on the left of
`=`, the words of an expression can be chosen so that its tree, and each alternative of it, has
either answer.
-/
namespace LabelQuery

open Datum

/-- The labels that the chosen words are tried on: one label, `true`, of that value. -/
def probe : Labels := fun name => if name = "true" then some "true" else none

/-- The word that has some answer as a condition and is compared like that answer. -/
def answerWord (answer : Bool) : String :=
  if answer then "true" else "false"

theorem operator?_answerWord (answer : Bool) (offset : Nat) :
    Token.operator? ⟨.word, answerWord answer, offset⟩ = none := by
  have word : Operator.lookup? (answerWord answer) = none := by cases answer <;> decide
  exact word

/-- Tokens that differ in nothing but their operands and their places. -/
def SameOperators (others tokens : List Token) : Prop :=
  others.map Token.operator? = tokens.map Token.operator?

/-- Tells whether only operands, bracketed or not, stand on the left of `=`. -/
def Expr.hasLiteralKeys : Expr → Bool
  | operand _ => true
  | equal _ (operand _) value => value.hasLiteralKeys
  | equal .. => false
  | not _ part => part.hasLiteralKeys
  | and _ left right | or _ left right | beside left right =>
    left.hasLiteralKeys && right.hasLiteralKeys

namespace SameOperators

variable {others tokens before after first second : List Token}

theorem refl (tokens : List Token) : SameOperators tokens tokens :=
  rfl

theorem append (hfirst : SameOperators before first) (hsecond : SameOperators after second) :
    SameOperators (before ++ after) (first ++ second) := by
  unfold SameOperators at hfirst hsecond ⊢
  rw [List.map_append, List.map_append, hfirst, hsecond]

theorem cons (token : Token) (h : SameOperators others tokens) :
    SameOperators (token :: others) (token :: tokens) :=
  (refl [token]).append h

theorem group (opening closing : Token) (h : SameOperators others tokens) :
    SameOperators (opening :: others ++ [closing]) (opening :: tokens ++ [closing]) :=
  (h.cons opening).append (refl [closing])

theorem of_append (h : SameOperators others (first ++ second)) :
    ∃ before after, others = before ++ after ∧ SameOperators before first ∧
      SameOperators after second := by
  unfold SameOperators at h
  rw [List.map_append] at h
  obtain ⟨before, after, rfl, hbefore, hafter⟩ := List.map_eq_append_iff.1 h
  exact ⟨before, after, rfl, hbefore, hafter⟩

theorem of_cons {token : Token} (h : SameOperators others (token :: tokens)) :
    ∃ other rest, others = other :: rest ∧ other.operator? = token.operator? ∧
      SameOperators rest tokens := by
  obtain ⟨other, rest, rfl, hother, hrest⟩ := List.map_eq_cons_iff.1 h
  exact ⟨other, rest, rfl, hother, hrest⟩

theorem of_binary {sign : Token} (h : SameOperators others (first ++ sign :: second)) :
    ∃ before other after, others = before ++ other :: after ∧ SameOperators before first ∧
      other.operator? = sign.operator? ∧ SameOperators after second := by
  obtain ⟨before, rest, rfl, hbefore, hrest⟩ := h.of_append
  obtain ⟨other, after, rfl, hother, hafter⟩ := hrest.of_cons
  exact ⟨before, other, after, rfl, hbefore, hother, hafter⟩

theorem of_group {opening closing : Token}
    (h : SameOperators others (opening :: tokens ++ [closing])) :
    ∃ first inner last, others = first :: inner ++ [last] ∧ first.operator? = opening.operator? ∧
      SameOperators inner tokens ∧ last.operator? = closing.operator? := by
  obtain ⟨front, last, rest, rfl, hfront, hlast, hrest⟩ := h.of_binary
  obtain ⟨first, inner, rfl, hfirst, hinner⟩ := hfront.of_cons
  obtain rfl := List.map_eq_nil_iff.1 hrest
  exact ⟨first, inner, last, rfl, hfirst, hinner, hlast⟩

theorem startsNegated_eq (h : SameOperators others tokens) :
    startsNegated others = startsNegated tokens := by
  cases others <;> cases tokens <;> simp_all [SameOperators, startsNegated]

theorem settles_eq (h : SameOperators others tokens) (ending : Level) :
    ending.settles others = ending.settles tokens := by
  cases ending <;> simp [Level.settles, h.startsNegated_eq]

end SameOperators

/-- Another tree for the same operators, with a chosen answer. -/
structure Refills (tokens : List Token) (e : Expr) (answer : Bool) (others : List Token)
    (other : Expr) : Prop where
  operators : SameOperators others tokens
  pieces : other.pieces = e.pieces
  holds : other.holds probe = answer
  throughout : other.holdsThroughout probe = answer
  /-- An operand stays one, so that keys stay literal. -/
  literal : ∀ text, e = .operand text → other = .operand (answerWord answer)
  comparand : (other.datum probe).comparand = answerWord answer

namespace Refills

variable {answer : Bool} {tokens others before after first second : List Token}
  {e other left right left' right' : Expr}

theorem explicit (h : Refills tokens e answer others other) (isExplicit : e.isExplicit = true) :
    other.isExplicit = true :=
  Expr.pieces_eq_one.1 (h.pieces.trans (Expr.pieces_eq_one.2 isExplicit))

theorem operand {token : Token} (notOp : token.operator? = none) :
    Refills [token] (.operand token.value) answer [⟨.word, answerWord answer, token.offset⟩]
      (.operand (answerWord answer)) where
  operators := by simp [SameOperators, notOp, operator?_answerWord]
  pieces := rfl
  holds := by cases answer <;> rfl
  throughout := by cases answer <;> rfl
  literal := fun _ _ => rfl
  comparand := rfl

theorem group (opening closing : Token) (h : Refills tokens e answer others other) :
    Refills (opening :: tokens ++ [closing]) e answer (opening :: others ++ [closing]) other where
  operators := h.operators.group opening closing
  pieces := h.pieces
  holds := h.holds
  throughout := h.throughout
  literal := h.literal
  comparand := h.comparand

theorem equal {text : String} (hkey : Refills before (.operand text) true first left')
    (sign : Token) (hvalue : Refills after right answer second right') :
    Refills (before ++ sign :: after) (.equal sign.offset (.operand text) right) answer
      (first ++ sign :: second) (.equal sign.offset left' right') := by
  obtain rfl := hkey.literal text rfl
  have key : (Expr.operand (answerWord true)).datum probe = .text (answerWord true) := rfl
  have holds :
      (Expr.equal sign.offset (.operand (answerWord true)) right').holds probe = answer := by
    rw [← Expr.labelEquals_datum probe, key, labelEquals, hvalue.comparand]
    cases answer <;> decide
  exact {
    operators := hkey.operators.append (hvalue.operators.cons sign)
    pieces := by simp only [Expr.pieces, hvalue.pieces]
    holds := holds
    throughout := holds
    literal := fun _ impossible => by contradiction
    comparand := congrArg answerWord holds }

theorem not (sign : Token) (h : Refills tokens e answer others other) :
    Refills (sign :: tokens) (.not sign.offset e) (!answer) (sign :: others)
      (.not sign.offset other) := by
  have holds : (Expr.not sign.offset other).holds probe = !answer := by rw [Expr.holds, h.holds]
  exact {
    operators := h.operators.cons sign
    pieces := h.pieces
    holds := holds
    throughout := holds
    literal := fun _ impossible => by contradiction
    comparand := congrArg answerWord holds }

theorem and {second' : Bool} (sign : Token) (hleft : Refills before left answer first left')
    (hright : Refills after right second' second right') :
    Refills (before ++ sign :: after) (.and sign.offset left right) (answer && second')
      (first ++ sign :: second) (.and sign.offset left' right') := by
  have holds : (Expr.and sign.offset left' right').holds probe = (answer && second') := by
    rw [Expr.holds, hleft.holds, hright.holds]
  exact {
    operators := hleft.operators.append (hright.operators.cons sign)
    pieces := by simp only [Expr.pieces, hleft.pieces, hright.pieces]
    holds := holds
    throughout := holds
    literal := fun _ impossible => by contradiction
    comparand := congrArg answerWord holds }

theorem or (sign : Token) (hleft : Refills before left answer first left')
    (hright : Refills after right answer second right') :
    Refills (before ++ sign :: after) (.or sign.offset left right) answer
      (first ++ sign :: second) (.or sign.offset left' right') := by
  have holds : (Expr.or sign.offset left' right').holds probe = answer := by
    rw [Expr.holds, hleft.holds, hright.holds, Bool.or_self]
  exact {
    operators := hleft.operators.append (hright.operators.cons sign)
    pieces := by simp only [Expr.pieces, hleft.pieces, hright.pieces]
    holds := holds
    throughout := by
      rw [Expr.holdsThroughout, hleft.throughout, hright.throughout, Bool.and_self]
    literal := fun _ impossible => by contradiction
    comparand := congrArg answerWord holds }

theorem beside (hleft : Refills before left answer first left')
    (hright : Refills after right answer second right') :
    Refills (before ++ after) (.beside left right) answer (first ++ second)
      (.beside left' right') := by
  have holds : (Expr.beside left' right').holds probe = answer := by
    rw [Expr.holds, hleft.holds, hright.holds, Bool.or_self]
  exact {
    operators := hleft.operators.append hright.operators
    pieces := by simp only [Expr.pieces, hleft.pieces, hright.pieces]
    holds := holds
    throughout := by
      rw [Expr.holdsThroughout, hleft.throughout, hright.throughout, Bool.and_self]
    literal := fun _ impossible => by contradiction
    comparand := congrArg answerWord holds }

end Refills

theorem Expr.eq_operand_of_hasLiteralKeys {position : Nat} {key value : Expr}
    (h : (equal position key value).hasLiteralKeys = true) :
    ∃ text, key = operand text ∧ value.hasLiteralKeys = true := by
  cases key with
  | operand text => exact ⟨text, rfl, h⟩
  | equal | not | and | or | beside => contradiction

theorem Derives.refill {level : Level} {tokens : List Token} {e : Expr}
    (h : Derives level tokens e) (literal : e.hasLiteralKeys = true) (answer : Bool) :
    ∃ others other, Derives level others other ∧ Refills tokens e answer others other := by
  induction h generalizing answer with
  | operand notOp =>
    exact ⟨_, _, .operand (operator?_answerWord answer _), .operand notOp⟩
  | @group opening closing _ _ hopen _ hclose ih =>
    obtain ⟨others, other, derives, refills⟩ := ih literal answer
    exact ⟨_, other, .group hopen derives hclose, refills.group opening closing⟩
  | atom _ ih =>
    obtain ⟨others, other, derives, refills⟩ := ih literal answer
    exact ⟨others, other, .atom derives, refills⟩
  | @equal sign _ _ _ _ _ hop _ ihKey ihValue =>
    obtain ⟨text, rfl, literal⟩ := Expr.eq_operand_of_hasLiteralKeys literal
    obtain ⟨first, key, hkey, refillsKey⟩ := ihKey rfl true
    obtain ⟨second, value, hvalue, refillsValue⟩ := ihValue literal answer
    exact ⟨_, _, .equal hkey hop hvalue, refillsKey.equal sign refillsValue⟩
  | comparison _ ih =>
    obtain ⟨others, other, derives, refills⟩ := ih literal answer
    exact ⟨others, other, .comparison derives, refills⟩
  | @not sign _ _ hop _ ih =>
    obtain ⟨others, other, derives, refills⟩ := ih literal (!answer)
    have refills := refills.not sign
    rw [Bool.not_not] at refills
    exact ⟨_, _, .not hop derives, refills⟩
  | negation _ ih =>
    obtain ⟨others, other, derives, refills⟩ := ih literal answer
    exact ⟨others, other, .negation derives, refills⟩
  | @and sign _ _ _ _ _ hop _ ihLeft ihRight =>
    rw [Expr.hasLiteralKeys, Bool.and_eq_true] at literal
    obtain ⟨first, left, hleft, refillsLeft⟩ := ihLeft literal.1 answer
    obtain ⟨second, right, hright, refillsRight⟩ := ihRight literal.2 answer
    have refills := refillsLeft.and sign refillsRight
    rw [Bool.and_self] at refills
    exact ⟨_, _, .and hleft hop hright, refills⟩
  | requirements _ ih =>
    obtain ⟨others, other, derives, refills⟩ := ih literal answer
    exact ⟨others, other, .requirements derives, refills⟩
  | @or sign _ _ _ _ _ hop _ ihLeft ihRight =>
    rw [Expr.hasLiteralKeys, Bool.and_eq_true] at literal
    obtain ⟨first, left, hleft, refillsLeft⟩ := ihLeft literal.1 answer
    obtain ⟨second, right, hright, refillsRight⟩ := ihRight literal.2 answer
    exact ⟨_, _, .or hleft hop hright, refillsLeft.or sign refillsRight⟩
  | alternatives _ ih =>
    obtain ⟨others, other, derives, refills⟩ := ih literal answer
    exact ⟨others, other, .alternatives derives, refills⟩
  | beside _ _ ihLeft ihRight =>
    rw [Expr.hasLiteralKeys, Bool.and_eq_true] at literal
    obtain ⟨first, left, hleft, refillsLeft⟩ := ihLeft literal.1 answer
    obtain ⟨second, right, hright, refillsRight⟩ := ihRight literal.2 answer
    exact ⟨_, _, .beside hleft hright, refillsLeft.beside refillsRight⟩

/-- Whether tokens have a tree depends on their operators alone. -/
theorem Derives.transfer {level : Level} {tokens others : List Token} {e : Expr}
    (h : Derives level tokens e) (same : SameOperators others tokens) :
    ∃ other, Derives level others other ∧ other.isExplicit = e.isExplicit := by
  induction h generalizing others with
  | operand notOp =>
    obtain ⟨token, rest, rfl, hop, hrest⟩ := same.of_cons
    obtain rfl := List.map_eq_nil_iff.1 hrest
    exact ⟨_, .operand (hop.trans notOp), rfl⟩
  | group hopen _ hclose ih =>
    obtain ⟨opening, inner, closing, rfl, hop, hinner, hop'⟩ := same.of_group
    obtain ⟨other, derives, explicit⟩ := ih hinner
    exact ⟨other, .group (hop.trans hopen) derives (hop'.trans hclose), explicit⟩
  | atom _ ih =>
    obtain ⟨other, derives, explicit⟩ := ih same
    exact ⟨other, .atom derives, explicit⟩
  | equal _ hop _ ihLeft ihRight =>
    obtain ⟨before, sign, after, rfl, hbefore, hsign, hafter⟩ := same.of_binary
    obtain ⟨left, hleft, explicit⟩ := ihLeft hbefore
    obtain ⟨right, hright, explicit'⟩ := ihRight hafter
    refine ⟨_, .equal hleft (hsign.trans hop) hright, ?_⟩
    rw [Expr.isExplicit, Expr.isExplicit, explicit, explicit']
  | comparison _ ih =>
    obtain ⟨other, derives, explicit⟩ := ih same
    exact ⟨other, .comparison derives, explicit⟩
  | not hop _ ih =>
    obtain ⟨sign, after, rfl, hsign, hafter⟩ := same.of_cons
    obtain ⟨other, derives, explicit⟩ := ih hafter
    exact ⟨_, .not (hsign.trans hop) derives, explicit⟩
  | negation _ ih =>
    obtain ⟨other, derives, explicit⟩ := ih same
    exact ⟨other, .negation derives, explicit⟩
  | and _ hop _ ihLeft ihRight =>
    obtain ⟨before, sign, after, rfl, hbefore, hsign, hafter⟩ := same.of_binary
    obtain ⟨left, hleft, explicit⟩ := ihLeft hbefore
    obtain ⟨right, hright, explicit'⟩ := ihRight hafter
    refine ⟨_, .and hleft (hsign.trans hop) hright, ?_⟩
    rw [Expr.isExplicit, Expr.isExplicit, explicit, explicit']
  | requirements _ ih =>
    obtain ⟨other, derives, explicit⟩ := ih same
    exact ⟨other, .requirements derives, explicit⟩
  | or _ hop _ ihLeft ihRight =>
    obtain ⟨before, sign, after, rfl, hbefore, hsign, hafter⟩ := same.of_binary
    obtain ⟨left, hleft, explicit⟩ := ihLeft hbefore
    obtain ⟨right, hright, explicit'⟩ := ihRight hafter
    refine ⟨_, .or hleft (hsign.trans hop) hright, ?_⟩
    rw [Expr.isExplicit, Expr.isExplicit, explicit, explicit']
  | alternatives _ ih =>
    obtain ⟨other, derives, explicit⟩ := ih same
    exact ⟨other, .alternatives derives, explicit⟩
  | beside _ _ ihLeft ihRight =>
    obtain ⟨before, after, rfl, hbefore, hafter⟩ := same.of_append
    obtain ⟨left, hleft, -⟩ := ihLeft hbefore
    obtain ⟨right, hright, -⟩ := ihRight hafter
    exact ⟨_, .beside hleft hright, rfl⟩

theorem InOrder.transfer {level ending : Level} {tokens others : List Token} {e : Expr}
    (h : InOrder level ending tokens e) (same : SameOperators others tokens) :
    ∃ other, InOrder level ending others other := by
  induction h generalizing others with
  | explicit h isExplicit tight =>
    obtain ⟨other, derives, explicit⟩ := h.transfer same
    exact ⟨other, .explicit derives (explicit.trans isExplicit) tight⟩
  | group hopen _ hclose ih =>
    obtain ⟨opening, inner, closing, rfl, hop, hinner, hop'⟩ := same.of_group
    obtain ⟨other, inOrder⟩ := ih hinner
    exact ⟨other, .group (hop.trans hopen) inOrder (hop'.trans hclose)⟩
  | requirements _ ih =>
    obtain ⟨other, inOrder⟩ := ih same
    exact ⟨other, .requirements inOrder⟩
  | or _ hop _ ihLeft ihRight =>
    obtain ⟨before, sign, after, rfl, hbefore, hsign, hafter⟩ := same.of_binary
    obtain ⟨left, hleft⟩ := ihLeft hbefore
    obtain ⟨right, hright⟩ := ihRight hafter
    exact ⟨_, .or hleft (hsign.trans hop) hright⟩
  | alternatives _ ih =>
    obtain ⟨other, inOrder⟩ := ih same
    exact ⟨other, .alternatives inOrder⟩
  | @beside start _ _ _ _ _ _ settled _ ihLeft ihRight =>
    obtain ⟨before, after, rfl, hbefore, hafter⟩ := same.of_append
    obtain ⟨left, hleft⟩ := ihLeft hbefore
    obtain ⟨right, hright⟩ := ihRight hafter
    exact ⟨_, .beside hleft ((hafter.settles_eq start).trans settled) hright⟩

theorem InOrder.refill {level ending : Level} {tokens : List Token} {e : Expr}
    (h : InOrder level ending tokens e) (literal : e.hasLiteralKeys = true) (answer : Bool) :
    ∃ others other, InOrder level ending others other ∧ Refills tokens e answer others other := by
  induction h with
  | explicit h isExplicit tight =>
    obtain ⟨others, other, derives, refills⟩ := h.refill literal answer
    exact ⟨others, other, .explicit derives (refills.explicit isExplicit) tight, refills⟩
  | @group opening closing _ _ _ hopen _ hclose ih =>
    obtain ⟨others, other, inOrder, refills⟩ := ih literal
    exact ⟨_, other, .group hopen inOrder hclose, refills.group opening closing⟩
  | requirements _ ih =>
    obtain ⟨others, other, inOrder, refills⟩ := ih literal
    exact ⟨others, other, .requirements inOrder, refills⟩
  | @or sign _ _ _ _ _ _ _ hop _ ihLeft ihRight =>
    rw [Expr.hasLiteralKeys, Bool.and_eq_true] at literal
    obtain ⟨first, left, hleft, refillsLeft⟩ := ihLeft literal.1
    obtain ⟨second, right, hright, refillsRight⟩ := ihRight literal.2
    exact ⟨_, _, .or hleft hop hright, refillsLeft.or sign refillsRight⟩
  | alternatives _ ih =>
    obtain ⟨others, other, inOrder, refills⟩ := ih literal
    exact ⟨others, other, .alternatives inOrder, refills⟩
  | @beside start _ _ _ _ _ _ settled _ ihLeft ihRight =>
    rw [Expr.hasLiteralKeys, Bool.and_eq_true] at literal
    obtain ⟨first, left, hleft, refillsLeft⟩ := ihLeft literal.1
    obtain ⟨second, right, hright, refillsRight⟩ := ihRight literal.2
    have settled : start.settles second = true :=
      (refillsRight.operators.settles_eq start).trans settled
    exact ⟨_, _, .beside hleft settled hright, refillsLeft.beside refillsRight⟩

end LabelQuery
