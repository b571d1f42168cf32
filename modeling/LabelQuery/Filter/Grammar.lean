import LabelQuery.Filter.Evaluation

/-!
The grammar of filter expressions and what its syntax trees mean. From the loosest to the tightest,
an expression is made of terms side by side, alternatives with `or`, requirements with `and`, at most
one `not`, at most one `=`, and operands or bracketed expressions. Nothing here says how a tree is
found; a derivation only says that tokens have one.
-/
namespace LabelQuery

/-- A syntax tree. Operators keep the places of their tokens, and brackets leave no trace. -/
inductive Expr
  | operand (text : String)
  | equal (position : Nat) (key value : Expr)
  | not (position : Nat) (part : Expr)
  | and (position : Nat) (left right : Expr)
  | or (position : Nat) (left right : Expr)
  /-- Two parts with no operator between them. -/
  | beside (left right : Expr)
  deriving DecidableEq, Repr

/-- What an operand is there for. -/
inductive Role
  /-- A label of that name must be there. -/
  | condition
  /-- It names the label that `=` compares. -/
  | key
  /-- It is the value that the label is compared with. -/
  | value
  deriving DecidableEq, Repr

/-- The levels of the grammar, the loosest first. -/
inductive Level
  | sequence
  | alternatives
  | requirements
  | negation
  | comparison
  | atom
  deriving DecidableEq, Repr

/-- Tokens that a level of the grammar derives, with their tree. -/
inductive Derives : Level → List Token → Expr → Prop
  | operand {token : Token} : token.operator? = none →
      Derives .atom [token] (.operand token.value)
  | group {opening closing : Token} {inner : List Token} {e : Expr} :
      opening.operator? = some .openParen → Derives .sequence inner e →
      closing.operator? = some .closeParen → Derives .atom (opening :: inner ++ [closing]) e
  | atom {tokens : List Token} {e : Expr} : Derives .atom tokens e → Derives .comparison tokens e
  | equal {sign : Token} {before after : List Token} {key value : Expr} :
      Derives .atom before key → sign.operator? = some .equal → Derives .atom after value →
      Derives .comparison (before ++ sign :: after) (.equal sign.offset key value)
  | comparison {tokens : List Token} {e : Expr} :
      Derives .comparison tokens e → Derives .negation tokens e
  | not {sign : Token} {after : List Token} {e : Expr} :
      sign.operator? = some .not → Derives .comparison after e →
      Derives .negation (sign :: after) (.not sign.offset e)
  | negation {tokens : List Token} {e : Expr} :
      Derives .negation tokens e → Derives .requirements tokens e
  | and {sign : Token} {before after : List Token} {left right : Expr} :
      Derives .requirements before left → sign.operator? = some .and →
      Derives .negation after right →
      Derives .requirements (before ++ sign :: after) (.and sign.offset left right)
  | requirements {tokens : List Token} {e : Expr} :
      Derives .requirements tokens e → Derives .alternatives tokens e
  | or {sign : Token} {before after : List Token} {left right : Expr} :
      Derives .alternatives before left → sign.operator? = some .or →
      Derives .requirements after right →
      Derives .alternatives (before ++ sign :: after) (.or sign.offset left right)
  | alternatives {tokens : List Token} {e : Expr} :
      Derives .alternatives tokens e → Derives .sequence tokens e
  | beside {before after : List Token} {left right : Expr} :
      Derives .sequence before left → Derives .alternatives after right →
      Derives .sequence (before ++ after) (.beside left right)

theorem Derives.ne_nil {level : Level} {tokens : List Token} {e : Expr}
    (h : Derives level tokens e) : tokens ≠ [] := by
  induction h with
  | operand _ | group _ _ _ _ | equal _ _ _ _ _ | not _ _ _ | and _ _ _ _ _ | or _ _ _ _ _ => simp
  | atom _ ih | comparison _ ih | negation _ ih | requirements _ ih | alternatives _ ih => exact ih
  | beside _ _ before _ => simp [before]

namespace Expr

/-- Tells whether there is an operator between any two parts. -/
def isExplicit : Expr → Bool
  | operand _ => true
  | not _ part => part.isExplicit
  | equal _ left right | and _ left right | or _ left right => left.isExplicit && right.isExplicit
  | beside _ _ => false

/-- Whether labels satisfy an expression. A text asks for a label of that name, except around `=`: there a
text on the left names the label whose value is compared, and on the right it is that value. A compound
part on the right compares as `true` or `false`, and on the left it names no label. -/
def holds (labels : Labels) : Expr → Bool
  | operand name => (labels name).isSome
  | equal _ (operand key) (operand value) => labels key == some value
  | equal _ (operand key) value =>
    labels key == some (if value.holds labels then "true" else "false")
  | equal .. => false
  | not _ part => !part.holds labels
  | and _ left right => left.holds labels && right.holds labels
  | or _ left right | beside left right => left.holds labels || right.holds labels

/-- The operands of a tree in order, each in its own role. An operand alone has the role that the tree has;
those inside a compound do not. -/
def operands (role : Role) : Expr → List (Role × String)
  | operand text => [(role, text)]
  | equal _ key value => key.operands .key ++ value.operands .value
  | not _ part => part.operands .condition
  | and _ left right | or _ left right | beside left right =>
    left.operands .condition ++ right.operands .condition

/-- The steps of a tree, each operator behind its parts. -/
def postorder : Expr → List Instruction
  | operand text => [.operand text]
  | equal position key value => key.postorder ++ value.postorder ++ [.operator .equal position]
  | not position part => part.postorder ++ [.operator .not position]
  | and position left right => left.postorder ++ right.postorder ++ [.operator .and position]
  | or position left right => left.postorder ++ right.postorder ++ [.operator .or position]
  | beside left right => left.postorder ++ right.postorder

end Expr

end LabelQuery
