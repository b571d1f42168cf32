import Mathlib.Algebra.Ring.Int.Defs
import LabelQuery.Proofs.Filter.Conversion

/-!
Where the phrases of the grammar can be cut. Outside its groups a phrase has no operator that
binds looser than its level, and only a sequence has two parts side by side. Main statement:
tokens have at most one tree.
-/
namespace LabelQuery

/-- What a token adds to the number of open groups. -/
def Token.nesting (token : Token) : Int :=
  match token.operator? with
  | some .openParen => 1
  | some .closeParen => -1
  | _ => 0

/-- How many groups some tokens open and leave open. -/
def nesting (tokens : List Token) : Int :=
  (tokens.map Token.nesting).sum

@[simp] theorem nesting_nil : nesting [] = 0 := rfl

@[simp] theorem nesting_cons (token : Token) (tokens : List Token) :
    nesting (token :: tokens) = token.nesting + nesting tokens := by
  simp [nesting]

@[simp] theorem nesting_append (first second : List Token) :
    nesting (first ++ second) = nesting first + nesting second := by
  simp [nesting]

theorem Token.nesting_open {token : Token} (h : token.operator? = some .openParen) :
    token.nesting = 1 := by
  simp [nesting, h]

theorem Token.nesting_close {token : Token} (h : token.operator? = some .closeParen) :
    token.nesting = -1 := by
  simp [nesting, h]

theorem Token.nesting_operand {token : Token} (h : token.operator? = none) : token.nesting = 0 := by
  simp [nesting, h]

theorem Token.nesting_operator {token : Token} {op : Operator} (h : token.operator? = some op)
    (binds : Operator.or.precedence ≤ op.precedence) : token.nesting = 0 := by
  cases op with
  | openParen | closeParen | fin => exact absurd binds (by decide)
  | equal | not | and | or => simp [nesting, h]

/-- Every group is closed, and none is closed before it is open. -/
structure Balanced (tokens : List Token) : Prop where
  closed : nesting tokens = 0
  opened : ∀ first second, tokens = first ++ second → 0 ≤ nesting first

namespace Balanced

variable {tokens first second : List Token} {token opening closing : Token}

theorem single (h : token.nesting = 0) : Balanced [token] where
  closed := by simp [h]
  opened := by
    intro first second cut
    cases first with
    | nil => exact Int.le_refl 0
    | cons head tail =>
      obtain ⟨rfl, nothing⟩ := List.cons.inj cut
      obtain ⟨rfl, rfl⟩ := List.append_eq_nil_iff.1 nothing.symm
      simp [h]

theorem append (hfirst : Balanced first) (hsecond : Balanced second) :
    Balanced (first ++ second) where
  closed := by rw [nesting_append, hfirst.closed, hsecond.closed, Int.add_zero]
  opened := by
    intro before after cut
    rcases List.append_eq_append_iff.1 cut with ⟨more, rfl, inside⟩ | ⟨more, inside, -⟩
    · have := hsecond.opened more after inside
      have := hfirst.closed
      rw [nesting_append]
      omega
    · exact hfirst.opened before more inside

theorem inside (h : Balanced tokens) {before after : List Token} (nonempty : after ≠ [])
    (cut : tokens ++ [closing] = before ++ after) : 0 ≤ nesting before := by
  rcases List.append_eq_append_iff.1 cut with ⟨more, rfl, last⟩ | ⟨more, inside, -⟩
  · cases more with
    | nil => simp [h.closed]
    | cons head tail =>
      obtain ⟨-, nothing⟩ := List.cons.inj last
      exact absurd (List.append_eq_nil_iff.1 nothing.symm).2 nonempty
  · exact h.opened before more inside

theorem group (hopen : opening.operator? = some .openParen) (h : Balanced tokens)
    (hclose : closing.operator? = some .closeParen) :
    Balanced (opening :: tokens ++ [closing]) where
  closed := by simp [Token.nesting_open hopen, Token.nesting_close hclose, h.closed]
  opened := by
    intro before after cut
    cases before with
    | nil => exact Int.le_refl 0
    | cons head tail =>
      obtain ⟨rfl, rest⟩ := List.cons.inj cut
      have rest : tokens ++ [closing] = tail ++ after := rest
      rw [nesting_cons, Token.nesting_open hopen]
      by_cases nonempty : after = []
      · rw [nonempty, List.append_nil] at rest
        simp [← rest, h.closed, Token.nesting_close hclose]
      · have := h.inside nonempty rest
        omega

end Balanced

theorem Derives.balanced {level : Level} {tokens : List Token} {e : Expr}
    (h : Derives level tokens e) : Balanced tokens := by
  induction h with
  | operand notOp => exact .single (Token.nesting_operand notOp)
  | group hopen _ hclose ih => exact .group hopen ih hclose
  | equal _ hop _ ihLeft ihRight | and _ hop _ ihLeft ihRight | or _ hop _ ihLeft ihRight =>
    rw [List.append_cons]
    exact (ihLeft.append (.single (Token.nesting_operator hop (by decide)))).append ihRight
  | @not sign after _ hop _ ih =>
    exact (Balanced.single (Token.nesting_operator hop (by decide))).append ih
  | atom _ ih | comparison _ ih | negation _ ih | requirements _ ih | alternatives _ ih => exact ih
  | beside _ _ ihLeft ihRight => exact ihLeft.append ihRight

/-- An operator does not stand outside the groups of some tokens. -/
def Lacks (op : Operator) (tokens : List Token) : Prop :=
  ∀ (sign : Token) (first second : List Token), sign.operator? = some op →
    tokens = first ++ sign :: second → nesting first ≠ 0

namespace Lacks

variable {op : Operator} {tokens before after before' after' : List Token}
  {token sign sign' opening closing : Token}

theorem single (h : token.operator? ≠ some op) : Lacks op [token] := by
  intro sign first second hop cut
  cases first with
  | nil =>
    obtain ⟨rfl, -⟩ := List.cons.inj cut
    exact absurd hop h
  | cons head tail =>
    obtain ⟨-, nothing⟩ := List.cons.inj cut
    exact absurd nothing.symm (by simp)

theorem append (balanced : Balanced before) (hbefore : Lacks op before) (hafter : Lacks op after) :
    Lacks op (before ++ after) := by
  intro sign first second hop cut
  rcases List.append_eq_append_iff.1 cut with ⟨more, rfl, inside⟩ | ⟨more, inside, rest⟩
  · have := hafter sign more second hop inside
    rw [nesting_append, balanced.closed, Int.zero_add]
    exact this
  · cases more with
    | nil =>
      have := hafter sign [] second hop rest.symm
      contradiction
    | cons head tail =>
      obtain ⟨rfl, -⟩ := List.cons.inj rest
      exact hbefore _ first tail hop inside

theorem group (binds : Operator.or.precedence ≤ op.precedence)
    (hopen : opening.operator? = some .openParen) (balanced : Balanced tokens) :
    Lacks op (opening :: tokens ++ [closing]) := by
  intro sign first second hop cut
  cases first with
  | nil =>
    obtain ⟨rfl, -⟩ := List.cons.inj cut
    cases hopen.symm.trans hop
    exact absurd binds (by decide)
  | cons head tail =>
    obtain ⟨rfl, rest⟩ := List.cons.inj cut
    have := balanced.inside (by simp) rest
    rw [nesting_cons, Token.nesting_open hopen]
    omega

theorem cut_unique (binds : Operator.or.precedence ≤ op.precedence)
    (hop : sign.operator? = some op) (hop' : sign'.operator? = some op)
    (hbefore : Balanced before) (hbefore' : Balanced before') (hafter : Lacks op after)
    (hafter' : Lacks op after') (cut : before ++ sign :: after = before' ++ sign' :: after') :
    before = before' ∧ sign = sign' ∧ after = after' := by
  have flat := Token.nesting_operator hop binds
  have flat' := Token.nesting_operator hop' binds
  have closed := hbefore.closed
  have closed' := hbefore'.closed
  rcases List.append_eq_append_iff.1 cut with ⟨more, rfl, rest⟩ | ⟨more, rfl, rest⟩
  · cases more with
    | nil =>
      obtain ⟨rfl, rfl⟩ := List.cons.inj rest
      exact ⟨(List.append_nil before).symm, rfl, rfl⟩
    | cons head tail =>
      obtain ⟨rfl, inside⟩ := List.cons.inj rest
      rw [nesting_append, nesting_cons, closed, flat, Int.zero_add, Int.zero_add] at closed'
      exact absurd closed' (hafter _ tail _ hop' inside)
  · cases more with
    | nil =>
      obtain ⟨rfl, rfl⟩ := List.cons.inj rest
      exact ⟨List.append_nil before', rfl, rfl⟩
    | cons head tail =>
      obtain ⟨rfl, inside⟩ := List.cons.inj rest
      rw [nesting_append, nesting_cons, closed', flat', Int.zero_add, Int.zero_add] at closed
      exact absurd closed (hafter' _ tail _ hop inside)

end Lacks

theorem Derives.lacks {level : Level} {tokens : List Token} {e : Expr} (h : Derives level tokens e)
    {op : Operator} (binds : Operator.or.precedence ≤ op.precedence)
    (loose : op.precedence < level.floor) : Lacks op tokens := by
  induction h with
  | operand notOp => exact .single (by simp [notOp])
  | group hopen h _ _ => exact .group binds hopen h.balanced
  | atom _ ih | comparison _ ih | negation _ ih => exact ih (Int.lt_trans loose (by decide))
  | equal hkey hop _ ihLeft ihRight =>
    have other : op ≠ .equal := fun same => by subst same; exact absurd loose (by decide)
    have flat := Balanced.single (Token.nesting_operator hop (by decide))
    have loose : op.precedence < Level.atom.floor := Int.lt_trans loose (by decide)
    rw [List.append_cons]
    exact .append (hkey.balanced.append flat)
      (.append hkey.balanced (ihLeft loose) (.single (by simpa [hop] using other.symm)))
      (ihRight loose)
  | not hop _ ih =>
    have other : op ≠ .not := fun same => by subst same; exact absurd loose (by decide)
    have flat := Balanced.single (Token.nesting_operator hop (by decide))
    exact .append flat (.single (by simpa [hop] using other.symm))
      (ih (Int.lt_trans loose (by decide)))
  | and hleft hop _ ihLeft ihRight =>
    have other : op ≠ .and := fun same => by subst same; exact absurd loose (by decide)
    have flat := Balanced.single (Token.nesting_operator hop (by decide))
    rw [List.append_cons]
    exact .append (hleft.balanced.append flat)
      (.append hleft.balanced (ihLeft loose) (.single (by simpa [hop] using other.symm)))
      (ihRight (Int.lt_trans loose (by decide)))
  | requirements _ ih => exact ih (Int.lt_trans loose (by decide))
  | or | alternatives | beside => exact absurd loose (by exact Int.not_lt.2 binds)

def Token.ends (token : Token) : Bool :=
  token.operator? = none || token.operator? = some .closeParen

def Token.begins (token : Token) : Bool :=
  token.operator? = none || token.operator? = some .openParen || token.operator? = some .not

/-- A phrase can end here and another begin. -/
def Joint (first second : List Token) : Prop :=
  first.getLast?.any Token.ends = true ∧ second.head?.any Token.begins = true

/-- Outside groups there is no place for a juxtaposition. -/
def Whole (tokens : List Token) : Prop :=
  ∀ first second, tokens = first ++ second → nesting first = 0 → ¬Joint first second

namespace Whole

variable {tokens before after : List Token} {token sign opening closing : Token}

theorem nil : Whole [] := by
  intro first second cut _ joint
  obtain ⟨rfl, -⟩ := List.append_eq_nil_iff.1 cut.symm
  simp [Joint] at joint

theorem single : Whole [token] := by
  intro first second cut _ joint
  cases first with
  | nil => simp [Joint] at joint
  | cons head tail =>
    obtain ⟨-, nothing⟩ := List.cons.inj cut
    obtain ⟨-, rfl⟩ := List.append_eq_nil_iff.1 nothing.symm
    simp [Joint] at joint

theorem group (hopen : opening.operator? = some .openParen) (balanced : Balanced tokens) :
    Whole (opening :: tokens ++ [closing]) := by
  intro first second cut flat joint
  cases first with
  | nil => simp [Joint] at joint
  | cons head tail =>
    obtain ⟨rfl, rest⟩ := List.cons.inj cut
    have nonempty : second ≠ [] := fun none => by simp [Joint, none] at joint
    have := balanced.inside nonempty rest
    rw [nesting_cons, Token.nesting_open hopen] at flat
    omega

theorem binary (balanced : Balanced before) (flat : sign.nesting = 0) (ends : sign.ends = false)
    (apart : ¬Joint before (sign :: after)) (hbefore : Whole before) (hafter : Whole after) :
    Whole (before ++ sign :: after) := by
  intro first second cut closed joint
  rcases List.append_eq_append_iff.1 cut with ⟨more, rfl, rest⟩ | ⟨more, rfl, rest⟩
  · cases more with
    | nil =>
      obtain rfl : sign :: after = second := rest
      exact apart (by simpa using joint)
    | cons head tail =>
      obtain ⟨rfl, inside⟩ := List.cons.inj rest
      rw [nesting_append, nesting_cons, balanced.closed, flat, Int.zero_add, Int.zero_add] at closed
      refine hafter tail second inside closed ⟨?_, joint.2⟩
      cases tail with
      | nil => simp [Joint, ends] at joint
      | cons next others =>
        have last := joint.1
        rw [List.append_cons, List.getLast?_append, List.getLast?_cons, Option.some_or] at last
        rwa [List.getLast?_cons]
  · cases more with
    | nil =>
      subst rest
      exact apart (by simpa using joint)
    | cons head tail =>
      refine hbefore first (head :: tail) rfl closed ⟨joint.1, ?_⟩
      have := joint.2
      rwa [rest] at this

end Whole

theorem Derives.begins {level : Level} {tokens : List Token} {e : Expr}
    (h : Derives level tokens e) : tokens.head?.any Token.begins = true := by
  induction h with
  | operand notOp => simp [Token.begins, notOp]
  | group hopen _ _ _ => simp [Token.begins, hopen]
  | not hop _ _ => simp [Token.begins, hop]
  | equal _ _ _ ih _ | and _ _ _ ih _ | or _ _ _ ih _ | beside _ _ ih _ =>
    obtain ⟨first, hfirst, begins⟩ := (Option.any_eq_true _ _).1 ih
    rw [List.head?_append, hfirst, Option.some_or, Option.any_some, begins]
  | atom _ ih | comparison _ ih | negation _ ih | requirements _ ih | alternatives _ ih => exact ih

theorem Derives.ends {level : Level} {tokens : List Token} {e : Expr}
    (h : Derives level tokens e) : tokens.getLast?.any Token.ends = true := by
  induction h with
  | operand notOp => simp [Token.ends, notOp]
  | group _ _ hclose _ =>
    rw [List.getLast?_concat]
    simp [Token.ends, hclose]
  | equal _ _ _ _ ih | and _ _ _ _ ih | or _ _ _ _ ih | not _ _ ih =>
    obtain ⟨last, hlast, ends⟩ := (Option.any_eq_true _ _).1 ih
    simp [List.getLast?_cons, hlast, ends]
  | beside _ _ _ ih =>
    obtain ⟨last, hlast, ends⟩ := (Option.any_eq_true _ _).1 ih
    rw [List.getLast?_append, hlast, Option.some_or, Option.any_some, ends]
  | atom _ ih | comparison _ ih | negation _ ih | requirements _ ih | alternatives _ ih => exact ih

/-- Only a sequence has a place for a juxtaposition outside its groups. -/
theorem Derives.whole {level : Level} {tokens : List Token} {e : Expr} (h : Derives level tokens e)
    (single : level ≠ .sequence) : Whole tokens := by
  have apart {sign : Token} (begins : sign.begins = false) (before after : List Token) :
      ¬Joint before (sign :: after) := fun joint => by simp [Joint, begins] at joint
  induction h with
  | operand => exact .single
  | group hopen h _ _ => exact .group hopen h.balanced
  | atom _ ih | comparison _ ih | negation _ ih | requirements _ ih => exact ih (by decide)
  | equal h hop _ ihLeft ihRight | and h hop _ ihLeft ihRight | or h hop _ ihLeft ihRight =>
    exact .binary h.balanced (Token.nesting_operator hop (by decide)) (by simp [Token.ends, hop])
      (apart (by simp [Token.begins, hop]) _ _) (ihLeft (by decide)) (ihRight (by decide))
  | not hop _ ih =>
    -- before a `not` there is nothing that it could be put beside
    exact .binary ⟨rfl, by simp⟩ (Token.nesting_operator hop (by decide))
      (by simp [Token.ends, hop]) (fun joint => by simp [Joint] at joint) .nil (ih (by decide))
  | alternatives | beside => contradiction

/-- A term goes on as far as the next one allows. -/
theorem Derives.no_more {before more after : List Token} {left whole term right : Expr}
    (hbefore : Derives .sequence before left) (hmore : Derives .sequence (before ++ more) whole)
    (hterm : Derives .alternatives (more ++ after) term)
    (hafter : Derives .alternatives after right) : more = [] := by
  have closed : nesting more = 0 := by
    have := hmore.balanced.closed
    rwa [nesting_append, hbefore.balanced.closed, Int.zero_add] at this
  cases more with
  | nil => rfl
  | cons head tail =>
    have last := hmore.ends
    rw [List.getLast?_append, List.getLast?_cons, Option.some_or, ← List.getLast?_cons] at last
    exact absurd ⟨last, hafter.begins⟩ (hterm.whole (by decide) _ _ rfl closed)

theorem Derives.cut_unique {before after before' after' : List Token}
    {left right left' right' : Expr} (hbefore : Derives .sequence before left)
    (hafter : Derives .alternatives after right)
    (hbefore' : Derives .sequence before' left') (hafter' : Derives .alternatives after' right')
    (cut : before ++ after = before' ++ after') : before = before' ∧ after = after' := by
  rcases List.append_eq_append_iff.1 cut with ⟨more, rfl, rfl⟩ | ⟨more, rfl, rfl⟩
  · obtain rfl := hbefore.no_more hbefore' hafter hafter'
    exact ⟨(List.append_nil before).symm, rfl⟩
  · obtain rfl := hbefore'.no_more hbefore hafter' hafter
    exact ⟨List.append_nil before', rfl⟩

theorem Derives.no_cut {level : Level} {before after : List Token} {sign : Token} {op : Operator}
    {e : Expr} (h : Derives level (before ++ sign :: after) e) (hop : sign.operator? = some op)
    (binds : Operator.or.precedence ≤ op.precedence) (loose : op.precedence < level.floor) :
    ¬Balanced before :=
  fun balanced => h.lacks binds loose sign before after hop rfl balanced.closed

/-- The grammar is unambiguous. -/
theorem Derives.unique {level : Level} {tokens : List Token} {e other : Expr}
    (h : Derives level tokens e) (h' : Derives level tokens other) : e = other := by
  -- the last rules of two derivations at one level agree, and so do the places where they cut
  induction h generalizing other with
  | @operand token notOp =>
    generalize htokens : [token] = tokens at h'
    cases h' with
    | operand => cases htokens; rfl
    | group => simp at htokens
  | @group opening closing inner e hopen h hclose ih =>
    generalize htokens : opening :: inner ++ [closing] = tokens at h'
    cases h' with
    | operand => simp at htokens
    | group _ h' _ =>
      obtain ⟨-, rest⟩ := List.cons.inj htokens
      obtain ⟨rfl, -⟩ := List.append_inj' rest rfl
      exact ih h'
  | atom h ih =>
    cases h' with
    | atom h' => exact ih h'
    | equal hkey hop _ => exact absurd hkey.balanced (h.no_cut hop (by decide) (by decide))
  | @equal sign before after _ _ hkey hop hvalue ihKey ihValue =>
    generalize htokens : before ++ sign :: after = tokens at h'
    cases h' with
    | atom h' =>
      subst htokens
      exact absurd hkey.balanced (h'.no_cut hop (by decide) (by decide))
    | equal hkey' hop' hvalue' =>
      obtain ⟨rfl, rfl, rfl⟩ := Lacks.cut_unique (by decide) hop hop' hkey.balanced hkey'.balanced
        (hvalue.lacks (by decide) (by decide)) (hvalue'.lacks (by decide) (by decide)) htokens
      rw [ihKey hkey', ihValue hvalue']
  | comparison h ih =>
    cases h' with
    | comparison h' => exact ih h'
    | not hop _ => exact absurd nesting_nil (h.lacks (by decide) (by decide) _ [] _ hop rfl)
  | not hop h ih =>
    cases h' with
    | comparison h' =>
      exact absurd nesting_nil (h'.lacks (by decide) (by decide) _ [] _ hop rfl)
    | not _ h' => rw [ih h']
  | negation h ih =>
    cases h' with
    | negation h' => exact ih h'
    | and hleft hop _ => exact absurd hleft.balanced (h.no_cut hop (by decide) (by decide))
  | @and sign before after _ _ hleft hop hright ihLeft ihRight =>
    generalize htokens : before ++ sign :: after = tokens at h'
    cases h' with
    | negation h' =>
      subst htokens
      exact absurd hleft.balanced (h'.no_cut hop (by decide) (by decide))
    | and hleft' hop' hright' =>
      obtain ⟨rfl, rfl, rfl⟩ := Lacks.cut_unique (by decide) hop hop' hleft.balanced hleft'.balanced
        (hright.lacks (by decide) (by decide)) (hright'.lacks (by decide) (by decide)) htokens
      rw [ihLeft hleft', ihRight hright']
  | requirements h ih =>
    cases h' with
    | requirements h' => exact ih h'
    | or hleft hop _ => exact absurd hleft.balanced (h.no_cut hop (by decide) (by decide))
  | @or sign before after _ _ hleft hop hright ihLeft ihRight =>
    generalize htokens : before ++ sign :: after = tokens at h'
    cases h' with
    | requirements h' =>
      subst htokens
      exact absurd hleft.balanced (h'.no_cut hop (by decide) (by decide))
    | or hleft' hop' hright' =>
      obtain ⟨rfl, rfl, rfl⟩ := Lacks.cut_unique (by decide) hop hop' hleft.balanced hleft'.balanced
        (hright.lacks (by decide) (by decide)) (hright'.lacks (by decide) (by decide)) htokens
      rw [ihLeft hleft', ihRight hright']
  | alternatives h ih =>
    cases h' with
    | alternatives h' => exact ih h'
    | beside hleft hright =>
      exact absurd ⟨hleft.ends, hright.begins⟩ (h.whole (by decide) _ _ rfl hleft.balanced.closed)
  | @beside before after _ _ hleft hright ihLeft ihRight =>
    generalize htokens : before ++ after = tokens at h'
    cases h' with
    | alternatives h' =>
      subst htokens
      exact absurd ⟨hleft.ends, hright.begins⟩ (h'.whole (by decide) _ _ rfl hleft.balanced.closed)
    | beside hleft' hright' =>
      obtain ⟨rfl, rfl⟩ := hleft.cut_unique hright hleft' hright' htokens
      rw [ihLeft hleft', ihRight hright']

end LabelQuery
