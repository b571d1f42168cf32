import LabelQuery.Proofs.Filter.Supply

/-!
Juxtapositions that are read as written. Nothing is emitted between two terms, so an operator at
the end of one may wait until operands of the next have come. Main statement: when no operator
waits there that takes operands of the next term, and each bracketed juxtaposition is a whole
alternative, an expression has the meaning of its tree.
-/
namespace LabelQuery

open Datum Pending

/-- Tells whether a phrase of some level is over when `after` begins: a lone operand or group
always is, and `not` and `=` are run by a `not` that follows. -/
def Level.settles (ending : Level) (after : List Token) : Bool :=
  match ending with
  | .atom => true
  | .comparison | .negation => startsNegated after
  | .requirements | .alternatives | .sequence => false

/-- Derivations without juxtaposition under `=`, `not` or `and` in which every term is over before
the next begins. The second level is that of the last alternative. -/
inductive InOrder : Level → Level → List Token → Expr → Prop
  | explicit {ending : Level} {tokens : List Token} {e : Expr} :
      Derives ending tokens e → e.isExplicit = true → Operator.and.precedence ≤ ending.floor →
      InOrder .requirements ending tokens e
  | group {opening closing : Token} {ending : Level} {inner : List Token} {e : Expr} :
      opening.operator? = some .openParen → InOrder .sequence ending inner e →
      closing.operator? = some .closeParen →
      InOrder .requirements .atom (opening :: inner ++ [closing]) e
  | requirements {ending : Level} {tokens : List Token} {e : Expr} :
      InOrder .requirements ending tokens e → InOrder .alternatives ending tokens e
  | or {sign : Token} {first second : Level} {before after : List Token} {left right : Expr} :
      InOrder .alternatives first before left → sign.operator? = some .or →
      InOrder .requirements second after right →
      InOrder .alternatives second (before ++ sign :: after) (.or sign.offset left right)
  | alternatives {ending : Level} {tokens : List Token} {e : Expr} :
      InOrder .alternatives ending tokens e → InOrder .sequence ending tokens e
  | beside {first second : Level} {before after : List Token} {left right : Expr} :
      InOrder .sequence first before left → first.settles after = true →
      InOrder .alternatives second after right →
      InOrder .sequence second (before ++ after) (.beside left right)

/-- Tells whether labels satisfy every alternative of an expression. -/
def Expr.holdsThroughout (labels : Labels) : Expr → Bool
  | or _ left right | beside left right =>
    left.holdsThroughout labels && right.holdsThroughout labels
  | e => e.holds labels

theorem Expr.holds_of_holdsThroughout {labels : Labels} {e : Expr}
    (h : e.holdsThroughout labels = true) : e.holds labels = true := by
  induction e with
  | or _ left right hleft _ | beside left right hleft _ =>
    rw [holdsThroughout, Bool.and_eq_true] at h
    rw [holds, hleft h.1, Bool.true_or]
  | operand | equal | not | and => exact h

namespace Pending

/-- Nothing, or one `or`. -/
def OrOnly (waiting : List Pending) : Prop :=
  waiting = [] ∨ ∃ position, waiting = [⟨.or, position⟩]

theorem OrOnly.above {waiting : List Pending} (h : OrOnly waiting) :
    Above Operator.or.precedence waiting := by
  rcases h with rfl | ⟨position, rfl⟩
  · exact .nil
  · exact Above.nil.cons (by decide) (by decide) position

theorem OrOnly.holdsBack {waiting base : List Pending} (h : OrOnly waiting) {floor : Int}
    (back : HoldsBack Operator.or.precedence base) (tight : Operator.or.precedence < floor) :
    HoldsBack floor (waiting ++ base) := by
  rcases h with rfl | ⟨position, rfl⟩
  · exact back.mono (Int.le_of_lt tight)
  · exact holdsBack_cons (.inr tight)

/-- Running an `or` that waits joins the two topmost answers. -/
theorem OrOnly.run {waiting : List Pending} (h : OrOnly waiting) (labels : Labels)
    {pieces : List Datum} (enough : waiting.length < pieces.length) :
    ∃ joined, (∀ below, Program.runAll labels (waiting.map emit) (pieces ++ below) =
        .ok (joined ++ below)) ∧
      joined.length + waiting.length = pieces.length ∧
      joined.any (holds labels) = pieces.any (holds labels) ∧
      (pieces.all (holds labels) = true → joined.all (holds labels) = true) := by
  rcases h with rfl | ⟨position, rfl⟩
  · exact ⟨pieces, fun _ => rfl, rfl, rfl, id⟩
  · match pieces, enough with
    | a :: b :: rest, _ =>
      refine ⟨truth (a.holds labels || b.holds labels) :: rest, fun _ => rfl, rfl, ?_, ?_⟩
      · simp [Bool.or_assoc]
      · intro all
        simp only [List.all_cons, Bool.and_eq_true] at all
        simp [all.1, all.2.2]

theorem Above.eq_nil {above : List Pending} (h : Above Level.atom.floor above) : above = [] := by
  cases above with
  | nil => rfl
  | cons top below =>
    obtain ⟨op, position⟩ := top
    have tight : Level.atom.floor ≤ op.precedence := (h ⟨op, position⟩ (by simp)).2
    cases op <;> exact absurd tight (by decide)

/-- Operators that wait are run by a `not` that binds no tighter. -/
theorem Feeds.settle {tokens : List Token} {waiting above left : List Pending}
    {emitted : List Instruction} {ending : Level} (h : Feeds tokens waiting emitted left)
    (habove : Above ending.floor above) (settled : ending.settles tokens = true)
    (back : HoldsBack Operator.not.precedence waiting) :
    Feeds tokens (above ++ waiting) (above.map emit ++ emitted) left := by
  have byNot (tight : Above Operator.not.precedence above)
      (negated : startsNegated tokens = true) :
      Feeds tokens (above ++ waiting) (above.map emit ++ emitted) left := by
    cases h with
    | nil => contradiction
    | cons step rest =>
      have hop : _ = some Operator.not := of_decide_eq_true negated
      have alone := advance_operator hop (by decide) (by decide) .nil back
      rw [List.nil_append, step] at alone
      cases alone
      exact .cons (advance_operator hop (by decide) (by decide) tight back) rest
  cases ending with
  | atom =>
    obtain rfl := habove.eq_nil
    exact h
  | comparison => exact byNot (habove.mono (by decide)) settled
  | negation => exact byNot habove settled
  | requirements | alternatives | sequence => contradiction

end Pending

/-- The pieces that a whole expression adds to those before it, where at most one `or` waits to
join two of them. The expression is the disjunction of its pieces. -/
structure Adds (labels : Labels) (e : Expr) (waiting : List Pending) (pieces : List Datum)
    (left : List Pending) (next : List Datum) : Prop where
  orOnly : OrOnly left
  count : next.length + waiting.length = pieces.length + left.length + e.pieces
  any : next.any (holds labels) = (pieces.any (holds labels) || e.holds labels)
  all : pieces.all (holds labels) = true → e.holdsThroughout labels = true →
    next.all (holds labels) = true

/-- The pieces of a whole expression. -/
structure Disjoins (labels : Labels) (e : Expr) (pieces : List Datum) : Prop where
  count : pieces.length = e.pieces
  any : pieces.any (holds labels) = e.holds labels
  all : e.holdsThroughout labels = true → pieces.all (holds labels) = true

namespace Adds

variable {labels : Labels} {e left right : Expr} {waiting between last : List Pending}
  {pieces middle next joined : List Datum}

theorem more (h : Adds labels e waiting pieces last next)
    (enough : waiting.length ≤ pieces.length) : last.length < next.length := by
  have := h.count
  have := e.pieces_pos
  omega

theorem explicit (h : e.isExplicit = true) (orOnly : OrOnly waiting) :
    Adds labels e waiting pieces waiting (e.datum labels :: pieces) where
  orOnly := orOnly
  count := by
    rw [Expr.pieces_eq_one.2 h, List.length_cons]
    omega
  any := by simp [Bool.or_comm]
  all := fun all throughout => by simp [all, Expr.holds_of_holdsThroughout throughout]

theorem group (h : Disjoins labels e joined) (orOnly : OrOnly waiting) :
    Adds labels e waiting pieces waiting (joined ++ pieces) where
  orOnly := orOnly
  count := by
    rw [List.length_append, h.count]
    omega
  any := by rw [List.any_append, h.any, Bool.or_comm]
  all := fun before throughout => by
    rw [List.all_append, h.all throughout, before, Bool.and_self]

/-- When the `or` that still waits at the end has run, the pieces are those of the whole. -/
theorem disjoins (h : Adds labels e [] [] last next) :
    ∃ joined, (∀ below, Program.runAll labels (last.map emit) (next ++ below) =
        .ok (joined ++ below)) ∧ Disjoins labels e joined := by
  have count := h.count
  rw [List.length_nil, List.length_nil] at count
  obtain ⟨joined, hjoined, length, any, all⟩ := h.orOnly.run labels (h.more (Nat.le_refl 0))
  refine ⟨joined, hjoined, by omega, ?_, fun throughout => ?_⟩
  · rw [any, h.any]
    rfl
  · exact all (h.all rfl throughout)

theorem beside (hleft : Adds labels left waiting pieces between middle)
    (hright : Adds labels right between middle last next) :
    Adds labels (.beside left right) waiting pieces last next where
  orOnly := hright.orOnly
  count := by
    have := hleft.count
    have := hright.count
    rw [Expr.pieces]
    omega
  any := by rw [hright.any, hleft.any, Expr.holds, Bool.or_assoc]
  all := fun before throughout => by
    rw [Expr.holdsThroughout, Bool.and_eq_true] at throughout
    exact hright.all (hleft.all before throughout.1) throughout.2

/-- An `or` joins two pieces that are there before it comes and waits to join two more. -/
theorem or {position : Nat} (hleft : Adds labels left waiting pieces between middle)
    (length : joined.length + between.length = middle.length)
    (any : joined.any (holds labels) = middle.any (holds labels))
    (all : middle.all (holds labels) = true → joined.all (holds labels) = true)
    (hright : Adds labels right [⟨.or, position⟩] joined last next) :
    Adds labels (.or position left right) waiting pieces last next where
  orOnly := hright.orOnly
  count := by
    have := hleft.count
    have := left.pieces_pos
    have count := hright.count
    rw [List.length_singleton] at count
    rw [Expr.pieces]
    omega
  any := by rw [hright.any, any, hleft.any, Expr.holds, Bool.or_assoc]
  all := fun before throughout => by
    rw [Expr.holdsThroughout, Bool.and_eq_true] at throughout
    exact hright.all (all (hleft.all before throughout.1)) throughout.2

end Adds

/-- Tokens are read as written: once the operators of their last alternative have run, their tree
has added its pieces. -/
def Reads (labels : Labels) (ending : Level) (tokens : List Token) (e : Expr) : Prop :=
  ∀ (waiting base : List Pending) (pieces below : List Datum),
    HoldsBack Operator.or.precedence base → OrOnly waiting → waiting.length ≤ pieces.length →
    ∃ emitted above left next, Feeds tokens (waiting ++ base) emitted (above ++ (left ++ base)) ∧
      Above ending.floor above ∧ Adds labels e waiting pieces left next ∧
      Program.runAll labels (emitted ++ above.map emit) (pieces ++ below) = .ok (next ++ below)

namespace Reads

variable {labels : Labels} {first second ending : Level} {tokens before after : List Token}
  {e left right : Expr}

theorem explicit (h : Derives ending tokens e) (isExplicit : e.isExplicit = true)
    (tight : Operator.and.precedence ≤ ending.floor) : Reads labels ending tokens e := by
  intro waiting base pieces below back orOnly _
  have loose : Operator.or.precedence < ending.floor := Int.lt_of_lt_of_le (by decide) tight
  obtain ⟨emitted, above, hfeeds, habove, hsteps⟩ :=
    h.becomes isExplicit (orOnly.holdsBack back loose)
  refine ⟨emitted, above, waiting, _, hfeeds, habove, .explicit isExplicit orOnly, ?_⟩
  rw [hsteps, e.runAll_postorder labels isExplicit]
  rfl

theorem run_group {opening closing : Token} (hopen : opening.operator? = some .openParen)
    (h : Reads labels ending tokens e) (loose : Operator.or.precedence ≤ ending.floor)
    (hclose : closing.operator? = some .closeParen) (waiting : List Pending) (below : List Datum) :
    ∃ emitted joined, Feeds (opening :: tokens ++ [closing]) waiting emitted waiting ∧
      Program.runAll labels emitted below = .ok (joined ++ below) ∧ Disjoins labels e joined := by
  have mark : HoldsBack Operator.or.precedence (⟨.openParen, opening.offset⟩ :: waiting) :=
    holdsBack_cons (.inl rfl)
  obtain ⟨emitted, above, left, next, hfeeds, habove, adds, hrun⟩ :=
    h [] _ [] below mark (.inl rfl) (Nat.le_refl 0)
  obtain ⟨joined, hjoined, disjoins⟩ := adds.disjoins
  have hinside : Above Operator.or.precedence (above ++ left) :=
    (habove.mono loose).append adds.orOnly.above
  have hend : Feeds [closing] (above ++ left ++ ⟨.openParen, opening.offset⟩ :: waiting)
      ((above ++ left).map emit) waiting := .one (advance_close hclose hinside)
  rw [← List.append_assoc] at hfeeds
  have whole := (Feeds.one (advance_open hopen waiting)).append (hfeeds.append hend)
  refine ⟨_, joined, whole, ?_, disjoins⟩
  rw [List.nil_append] at hrun
  rw [List.map_append, List.nil_append, ← List.append_assoc, Program.runAll_append_of_ok hrun,
    hjoined]

theorem group {opening closing : Token} (hopen : opening.operator? = some .openParen)
    (h : Reads labels ending tokens e) (loose : Operator.or.precedence ≤ ending.floor)
    (hclose : closing.operator? = some .closeParen) :
    Reads labels .atom (opening :: tokens ++ [closing]) e := by
  intro waiting base pieces below _ orOnly _
  obtain ⟨emitted, joined, hfeeds, hrun, disjoins⟩ :=
    h.run_group hopen loose hclose (waiting ++ base) (pieces ++ below)
  refine ⟨emitted, [], waiting, joined ++ pieces, hfeeds, .nil, .group disjoins orOnly, ?_⟩
  rw [List.map_nil, List.append_nil, hrun, List.append_assoc]

/-- When a term is over before the next begins, its last operators run first. -/
theorem run_settled (h : Reads labels first before left) (settled : first.settles after = true)
    {waiting base : List Pending} {pieces : List Datum} (below : List Datum)
    (back : HoldsBack Operator.or.precedence base) (orOnly : OrOnly waiting)
    (enough : waiting.length ≤ pieces.length) :
    ∃ emitted between middle, Adds labels left waiting pieces between middle ∧
      Program.runAll labels emitted (pieces ++ below) = .ok (middle ++ below) ∧
      ∀ {following last}, Feeds after (between ++ base) following last →
        Feeds (before ++ after) (waiting ++ base) (emitted ++ following) last := by
  obtain ⟨emitted, above, between, middle, hfeeds, habove, adds, hrun⟩ :=
    h _ _ pieces below back orOnly enough
  refine ⟨emitted ++ above.map emit, between, middle, adds, hrun, ?_⟩
  intro following last hfollowing
  have hsettle := hfollowing.settle habove settled (adds.orOnly.holdsBack back (by decide))
  rw [List.append_assoc]
  exact hfeeds.append hsettle

theorem run_or {sign : Token} (h : Reads labels first before left)
    (loose : Operator.or.precedence ≤ first.floor) (hop : sign.operator? = some .or)
    {waiting base : List Pending} {pieces : List Datum} (below : List Datum)
    (back : HoldsBack Operator.or.precedence base) (orOnly : OrOnly waiting)
    (enough : waiting.length ≤ pieces.length) :
    ∃ emitted between middle joined, Adds labels left waiting pieces between middle ∧
      joined.length + between.length = middle.length ∧
      joined.any (holds labels) = middle.any (holds labels) ∧
      (middle.all (holds labels) = true → joined.all (holds labels) = true) ∧
      Feeds (before ++ [sign]) (waiting ++ base) emitted (⟨.or, sign.offset⟩ :: base) ∧
      Program.runAll labels emitted (pieces ++ below) = .ok (joined ++ below) := by
  obtain ⟨emitted, above, between, middle, hfeeds, habove, adds, hrun⟩ :=
    h _ _ pieces below back orOnly enough
  obtain ⟨joined, hjoined, length, any, all⟩ := adds.orOnly.run labels (adds.more enough)
  have hinside : Above Operator.or.precedence (above ++ between) :=
    (habove.mono loose).append adds.orOnly.above
  have hsign := Feeds.one (advance_operator hop (by decide) (by decide) hinside back)
  rw [← List.append_assoc] at hfeeds
  refine ⟨_, between, middle, joined, adds, length, any, all, hfeeds.append hsign, ?_⟩
  rw [List.map_append, ← List.append_assoc, Program.runAll_append_of_ok hrun, hjoined]

theorem beside (hleft : Reads labels first before left) (settled : first.settles after = true)
    (hright : Reads labels second after right) :
    Reads labels second (before ++ after) (.beside left right) := by
  intro waiting base pieces below back orOnly enough
  -- the first token of `after` runs what waits of `before`, save for an `or`
  obtain ⟨emitted, between, middle, adds, hrun, hthen⟩ :=
    hleft.run_settled settled below back orOnly enough
  obtain ⟨following, above, last, next, hfollowing, habove, addsRight, hrunRight⟩ :=
    hright _ _ middle below back adds.orOnly (Nat.le_of_lt (adds.more enough))
  refine ⟨_, above, last, next, hthen hfollowing, habove, adds.beside addsRight, ?_⟩
  rw [List.append_assoc, Program.runAll_append_of_ok hrun, hrunRight]

theorem or {sign : Token} (hleft : Reads labels first before left)
    (loose : Operator.or.precedence ≤ first.floor) (hop : sign.operator? = some .or)
    (hright : Reads labels second after right) :
    Reads labels second (before ++ sign :: after) (.or sign.offset left right) := by
  intro waiting base pieces below back orOnly enough
  obtain ⟨emitted, between, middle, joined, adds, length, any, all, hfeeds, hrun⟩ :=
    hleft.run_or loose hop below back orOnly enough
  have one : 1 ≤ joined.length := by
    have := adds.more enough
    omega
  obtain ⟨following, above, last, next, hfollowing, habove, addsRight, hrunRight⟩ :=
    hright _ _ joined below back (.inr ⟨sign.offset, rfl⟩) one
  have whole := hfeeds.append hfollowing
  rw [List.append_assoc] at whole
  refine ⟨_, above, last, next, whole, habove, adds.or length any all addsRight, ?_⟩
  rw [List.append_assoc, Program.runAll_append_of_ok hrun, hrunRight]

end Reads

namespace InOrder

variable {level ending : Level} {tokens : List Token} {e : Expr}

theorem derives (h : InOrder level ending tokens e) : Derives level tokens e := by
  induction h with
  | @explicit ending tokens e h _ tight =>
    cases ending with
    | requirements => exact h
    | negation => exact .negation h
    | comparison => exact .negation (.comparison h)
    | atom => exact .negation (.comparison (.atom h))
    | alternatives | sequence => exact absurd tight (by decide)
  | group hopen _ hclose ih => exact .negation (.comparison (.atom (.group hopen ih hclose)))
  | requirements _ ih => exact .requirements ih
  | or _ hop _ hleft hright => exact .or hleft hop hright
  | alternatives _ ih => exact .alternatives ih
  | beside _ _ _ hleft hright => exact .beside hleft hright

theorem loose (h : InOrder level ending tokens e) : Operator.or.precedence ≤ ending.floor := by
  induction h with
  | explicit _ _ tight => exact Int.le_trans (by decide) tight
  | group => decide
  | requirements _ ih | alternatives _ ih => exact ih
  | or _ _ _ _ ih | beside _ _ _ _ ih => exact ih

theorem reads (h : InOrder level ending tokens e) (labels : Labels) :
    Reads labels ending tokens e := by
  induction h with
  | explicit h isExplicit tight => exact .explicit h isExplicit tight
  | group hopen h hclose ih => exact .group hopen ih h.loose hclose
  | requirements _ ih | alternatives _ ih => exact ih
  | or hleft hop _ ihLeft ihRight => exact .or ihLeft hleft.loose hop ihRight
  | beside _ settled _ ihLeft ihRight => exact .beside ihLeft settled ihRight

/-- An expression whose terms are over one before the other has the meaning of its tree. -/
theorem judge_eq (h : InOrder level ending tokens e) (labels : Labels) :
    Program.judge tokens labels = .ok (e.holds labels) := by
  obtain ⟨emitted, above, left, next, hfeeds, habove, adds, hrun⟩ :=
    h.reads labels [] [] [] [] .nil (.inl rfl) (Nat.le_refl 0)
  obtain ⟨joined, hjoined, disjoins⟩ := adds.disjoins
  have hwaiting : Above Operator.or.precedence (above ++ left) :=
    (habove.mono h.loose).append adds.orOnly.above
  have hlast := hjoined []
  simp only [List.append_nil] at hfeeds hrun hlast
  have whole : Program.runAll labels (emitted ++ (above ++ left).map emit) [] = .ok joined := by
    rw [List.map_append, ← List.append_assoc, Program.runAll_append_of_ok hrun, hlast]
  have nonempty : joined ≠ [] := List.ne_nil_of_length_pos (disjoins.count ▸ e.pieces_pos)
  rw [Program.judge_of_runAll hfeeds hwaiting whole, Program.settle, disjoins.any,
    List.isEmpty_eq_false_iff.2 nonempty, Bool.false_or]

end InOrder

end LabelQuery
