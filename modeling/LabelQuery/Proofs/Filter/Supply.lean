import LabelQuery.Proofs.Filter.Conversion
import LabelQuery.Proofs.Filter.Depth

/-!
How many data the operators that wait will take, and how many there are for them. Main statement:
a phrase of the grammar leaves those that its waiting operators will use up and as many pieces as
its tree has. So every expression of the grammar gets an answer, with juxtaposition or without.
-/
namespace LabelQuery

/-- Compiles tokens and runs the program on labels. -/
def Program.judge (tokens : List Token) (labels : Labels) : Except FilterError Bool := do
  let program ← ofTokens tokens
  program.evaluate labels

def startsNegated (tokens : List Token) : Bool :=
  tokens.head?.any fun token => token.operator? = some .not

theorem startsNegated_append {first : List Token} (nonempty : first ≠ []) (second : List Token) :
    startsNegated (first ++ second) = startsNegated first := by
  cases first with
  | nil => contradiction
  | cons token rest => rfl

theorem Derives.not_startsNegated {level : Level} {tokens : List Token} {e : Expr}
    (h : Derives level tokens e) (tight : Operator.not.precedence < level.floor) :
    startsNegated tokens = false := by
  induction h with
  | operand notOp => simp [startsNegated, notOp]
  | group hopen _ _ _ => simp [startsNegated, hopen]
  | atom _ ih => exact ih (by decide)
  | equal hkey _ _ ih _ => rw [startsNegated_append hkey.ne_nil, ih (by decide)]
  | comparison | not | negation | and | requirements | or | alternatives | beside =>
    exact absurd tight (by decide)

/-- How many data the steps of a tree leave, once all its operators have run. -/
def Expr.pieces : Expr → Nat
  | operand _ => 1
  | not _ part => part.pieces
  | equal _ left right | and _ left right | or _ left right => left.pieces + right.pieces - 1
  | beside left right => left.pieces + right.pieces

theorem Expr.pieces_pos (e : Expr) : 0 < e.pieces := by
  induction e with
  | operand => exact Nat.one_pos
  | not _ _ ih => exact ih
  | equal _ _ _ ihLeft ihRight | and _ _ _ ihLeft ihRight | or _ _ _ ihLeft ihRight =>
    rw [pieces]
    omega
  | beside _ _ ihLeft _ => exact Nat.add_pos_left ihLeft _

/-- Only juxtaposition leaves more than one. -/
theorem Expr.pieces_eq_one {e : Expr} : e.pieces = 1 ↔ e.isExplicit = true := by
  induction e with
  | operand => exact ⟨fun _ => rfl, fun _ => rfl⟩
  | not _ _ ih => exact ih
  | equal _ left right ihLeft ihRight | and _ left right ihLeft ihRight
  | or _ left right ihLeft ihRight =>
    have := left.pieces_pos
    have := right.pieces_pos
    rw [pieces, isExplicit, Bool.and_eq_true, ← ihLeft, ← ihRight]
    omega
  | beside left right _ _ =>
    have := left.pieces_pos
    have := right.pieces_pos
    simp only [pieces, isExplicit, Bool.false_eq_true, iff_false]
    omega

namespace Instruction

theorem run_frame {labels : Labels} {instruction : Instruction} {stack next : List Datum}
    (notFin : instruction.isFin = false) (h : instruction.run labels stack = .ok next)
    (below : List Datum) : instruction.run labels (stack ++ below) = .ok (next ++ below) := by
  cases instruction with
  | operand word => cases h; rfl
  | operator op position =>
    cases op with
    | openParen | closeParen => cases h; rfl
    | fin => contradiction
    | not =>
      match stack, h with
      | a :: rest, h => cases h; rfl
    | equal | and | or =>
      match stack, h with
      | a :: b :: rest, h => cases h; rfl

end Instruction

theorem Program.runAll_frame {labels : Labels} {instructions : List Instruction}
    {stack next : List Datum} (noFin : ∀ instruction ∈ instructions, instruction.isFin = false)
    (h : runAll labels instructions stack = .ok next) (below : List Datum) :
    runAll labels instructions (stack ++ below) = .ok (next ++ below) := by
  induction instructions generalizing stack with
  | nil => cases h; rfl
  | cons instruction rest ih =>
    rw [runAll_cons] at h ⊢
    cases step : instruction.run labels stack with
    | error fault => rw [step] at h; contradiction
    | ok between =>
      rw [step] at h
      rw [Instruction.run_frame (noFin instruction (by simp)) step below]
      exact ih (fun other mem => noFin other (by simp [mem])) h

namespace Pending

/-- How many data the waiting operators will use up. -/
def load (waiting : List Pending) : Nat :=
  waiting.countP fun pending => pending.op.need = 2

@[simp] theorem load_nil : load [] = 0 := rfl

@[simp] theorem load_append (first second : List Pending) :
    load (first ++ second) = load first + load second :=
  List.countP_append

theorem load_cons_not (position : Nat) (waiting : List Pending) :
    load (⟨.not, position⟩ :: waiting) = load waiting :=
  List.countP_cons_of_neg (by simp [Operator.need, Operator.arity])

theorem load_cons_binary {op : Operator} (binary : op.need = 2) (position : Nat)
    (waiting : List Pending) : load (⟨op, position⟩ :: waiting) = load waiting + 1 :=
  List.countP_cons_of_pos (by simp [binary])

theorem Above.nil {floor : Int} : Above floor [] := by
  simp [Above]

theorem Above.cons {floor : Int} {op : Operator} {waiting : List Pending}
    (notOpen : op ≠ .openParen) (le : floor ≤ op.precedence) (position : Nat)
    (h : Above floor waiting) : Above floor (⟨op, position⟩ :: waiting) :=
  List.forall_mem_cons.2 ⟨⟨notOpen, le⟩, h⟩

theorem HoldsBack.nil {floor : Int} : HoldsBack floor [] := by
  simp [HoldsBack]

theorem HoldsBack.append {floor : Int} {first second : List Pending}
    (hfirst : HoldsBack floor first) (hsecond : HoldsBack floor second) :
    HoldsBack floor (first ++ second) := by
  cases first with
  | nil => exact hsecond
  | cons top below => exact hfirst

/-- A stack of operators is cut where the first one stands that binds looser than `bound`. -/
theorem Above.split {floor : Int} {waiting : List Pending} (h : Above floor waiting) (bound : Int) :
    ∃ tight loose, waiting = tight ++ loose ∧ Above bound tight ∧ Above floor loose ∧
      HoldsBack bound loose := by
  induction waiting with
  | nil => exact ⟨[], [], rfl, .nil, .nil, .nil⟩
  | cons top below ih =>
    obtain ⟨htop, hbelow⟩ := List.forall_mem_cons.1 h
    by_cases le : bound ≤ top.op.precedence
    · obtain ⟨tight, loose, rfl, htight, hloose, back⟩ := ih hbelow
      exact ⟨top :: tight, loose, rfl, List.forall_mem_cons.2 ⟨⟨htop.1, le⟩, htight⟩, hloose, back⟩
    · exact ⟨[], top :: below, rfl, .nil, h, holdsBack_cons (.inr (by omega))⟩

/-- Operators that wait in no group and have enough data run without fail. -/
theorem runAll_emit (labels : Labels) {above : List Pending} {stack : List Datum}
    (habove : Above Operator.or.precedence above) (enough : load above < stack.length) :
    ∃ next, Program.runAll labels (above.map emit) stack = .ok next ∧
      next.length + load above = stack.length := by
  induction above generalizing stack with
  | nil => exact ⟨stack, rfl, rfl⟩
  | cons top below ih =>
    obtain ⟨op, position⟩ := top
    obtain ⟨⟨notOpen, tight⟩, hbelow⟩ := List.forall_mem_cons.1 habove
    have run (count : Nat) (met : op.need ≤ stack.length)
        (depth : op.depthAfter stack.length + count = stack.length)
        (hload : load (⟨op, position⟩ :: below) = load below + count) :
        ∃ next, Program.runAll labels ((⟨op, position⟩ :: below).map emit) stack = .ok next ∧
          next.length + load (⟨op, position⟩ :: below) = stack.length := by
      obtain ⟨between, step, hbetween⟩ := Instruction.run_of_need labels position met
      have more : load below < between.length := by omega
      obtain ⟨next, hnext, length⟩ := ih hbelow more
      refine ⟨next, ?_, by omega⟩
      rw [List.map_cons, Program.runAll_cons, emit, step]
      exact hnext
    change Operator.or.precedence ≤ op.precedence at tight
    cases op with
    | openParen | closeParen | fin => exact absurd tight (by decide)
    | not =>
      rw [load_cons_not] at enough
      exact run 0 (by simp [Operator.need, Operator.arity]; omega)
        (by simp [Operator.depthAfter]) (load_cons_not _ _)
    | equal | and | or =>
      rw [load_cons_binary rfl] at enough
      exact run 1 (by simp [Operator.need, Operator.arity]; omega)
        (by simp [Operator.depthAfter]; omega) (load_cons_binary rfl _ _)

theorem isFin_emit {above : List Pending} (habove : Above Operator.or.precedence above) :
    ∀ instruction ∈ above.map emit, instruction.isFin = false := by
  intro instruction mem
  obtain ⟨⟨op, position⟩, waits, rfl⟩ := List.mem_map.1 mem
  have tight : Operator.or.precedence ≤ op.precedence := (habove _ waits).2
  cases op with
  | fin => exact absurd tight (by decide)
  | openParen | closeParen | equal | not | and | or => rfl

end Pending

open Pending

/-- Tokens turn one stack of waiting operators into another, and the steps they emit one stack of
data into another without touching what lies below. -/
def Leads (labels : Labels) (tokens : List Token) (waiting : List Pending) (stack : List Datum)
    (left : List Pending) (next : List Datum) : Prop :=
  ∃ emitted, Feeds tokens waiting emitted left ∧
    (∀ instruction ∈ emitted, instruction.isFin = false) ∧
    Program.runAll labels emitted stack = .ok next

namespace Leads

variable {labels : Labels} {tokens first second : List Token} {waiting between left : List Pending}
  {stack middle next : List Datum}

theorem append (hfirst : Leads labels first waiting stack between middle)
    (hsecond : Leads labels second between middle left next) :
    Leads labels (first ++ second) waiting stack left next := by
  obtain ⟨emitted, hfeeds, noFin, hrun⟩ := hfirst
  obtain ⟨following, hfollowing, noFinAfter, hrunAfter⟩ := hsecond
  refine ⟨emitted ++ following, hfeeds.append hfollowing, ?_, ?_⟩
  · exact fun instruction mem =>
      (List.mem_append.1 mem).elim (noFin instruction) (noFinAfter instruction)
  · rw [Program.runAll_append_of_ok hrun, hrunAfter]

theorem frame (h : Leads labels tokens waiting stack left next) (below : List Datum) :
    Leads labels tokens waiting (stack ++ below) left (next ++ below) := by
  obtain ⟨emitted, hfeeds, noFin, hrun⟩ := h
  exact ⟨emitted, hfeeds, noFin, Program.runAll_frame noFin hrun below⟩

theorem operand {token : Token} (h : token.operator? = none) :
    Leads labels [token] waiting stack waiting (.text token.value :: stack) :=
  ⟨_, .one (advance_operand h waiting), by simp [Instruction.isFin], rfl⟩

theorem opening {token : Token} (h : token.operator? = some .openParen) :
    Leads labels [token] waiting stack (⟨.openParen, token.offset⟩ :: waiting) stack :=
  ⟨_, .one (advance_open h waiting), by simp, rfl⟩

theorem closing {token : Token} (h : token.operator? = some .closeParen) {above : List Pending}
    {position : Nat} (habove : Above Operator.or.precedence above)
    (enough : load above < stack.length) :
    ∃ next, Leads labels [token] (above ++ ⟨.openParen, position⟩ :: waiting) stack waiting next ∧
      next.length + load above = stack.length := by
  obtain ⟨next, hnext, length⟩ := runAll_emit labels habove enough
  exact ⟨next, ⟨_, .one (advance_close h habove), isFin_emit habove, hnext⟩, length⟩

theorem operator {token : Token} {op : Operator} (h : token.operator? = some op)
    (notOpen : op ≠ .openParen) (notClose : op ≠ .closeParen) {tight : List Pending}
    (loose : Operator.or.precedence ≤ op.precedence) (htight : Above op.precedence tight)
    (back : HoldsBack op.precedence waiting) (enough : tight = [] ∨ load tight < stack.length) :
    ∃ next, Leads labels [token] (tight ++ waiting) stack (⟨op, token.offset⟩ :: waiting) next ∧
      next.length + load tight = stack.length := by
  have hstep := Feeds.one (advance_operator h notOpen notClose htight back)
  have hloose : Above Operator.or.precedence tight := htight.mono loose
  rcases enough with rfl | enough
  · exact ⟨stack, ⟨_, hstep, by simp, rfl⟩, rfl⟩
  · obtain ⟨next, hnext, length⟩ := runAll_emit labels hloose enough
    exact ⟨next, ⟨_, hstep, isFin_emit hloose, hnext⟩, length⟩

end Leads

/-- There are data enough for a phrase to begin: for what waits once the phrase adds one of its
own, and now for what a `not` at its start sends away. -/
structure Ready (tokens : List Token) (waiting : List Pending) (stack : List Datum) : Prop where
  supply : load waiting ≤ stack.length
  negation : startsNegated tokens = true → ∃ tight loose, waiting = tight ++ loose ∧
    Above Operator.not.precedence tight ∧ HoldsBack Operator.not.precedence loose ∧
    (tight = [] ∨ load tight < stack.length)

namespace Ready

variable {tokens : List Token} {waiting : List Pending} {stack : List Datum}

theorem of_lt {floor : Int} (habove : Above floor waiting) (enough : load waiting < stack.length) :
    Ready tokens waiting stack := by
  refine ⟨Nat.le_of_lt enough, fun _ => ?_⟩
  obtain ⟨tight, loose, rfl, htight, -, back⟩ := habove.split Operator.not.precedence
  rw [load_append] at enough
  exact ⟨tight, loose, rfl, htight, back, .inr (by omega)⟩

theorem nil : Ready tokens [] stack :=
  ⟨Nat.zero_le _, fun _ => ⟨[], [], rfl, .nil, .nil, .inl rfl⟩⟩

theorem of_not_startsNegated (supply : load waiting ≤ stack.length)
    (h : startsNegated tokens = false) : Ready tokens waiting stack :=
  ⟨supply, fun negated => by rw [h] at negated; contradiction⟩

theorem cons {op : Operator} (loose : op.precedence < Operator.not.precedence) {position : Nat}
    (supply : load (⟨op, position⟩ :: waiting) ≤ stack.length) :
    Ready tokens (⟨op, position⟩ :: waiting) stack :=
  ⟨supply, fun _ => ⟨[], _, rfl, .nil, holdsBack_cons (.inr loose), .inl rfl⟩⟩

/-- A phrase may begin when the right operand of an operator is there, but a `not` sends that
operator away only if it binds looser. -/
theorem concat {op : Operator} {position : Nat} {tight : List Pending} (two : op.need = 2)
    (enough : load tight < stack.length)
    (negation : startsNegated tokens = true → Above Operator.not.precedence tight ∧
      op.precedence < Operator.not.precedence) :
    Ready tokens (tight ++ [⟨op, position⟩]) stack := by
  refine ⟨?_, fun negated => ?_⟩
  · rw [load_append, load_cons_binary two]
    exact enough
  · obtain ⟨htight, loose⟩ := negation negated
    exact ⟨tight, _, rfl, htight, holdsBack_cons (.inr loose), .inr enough⟩

theorem of_append {first second : List Token} (nonempty : first ≠ [])
    (h : Ready (first ++ second) waiting stack) : Ready first waiting stack :=
  ⟨h.supply, fun negated => h.negation (by rwa [startsNegated_append nonempty])⟩

end Ready

/-- A phrase leaves `count` data more than the operators that it leaves waiting above `base` use
up. -/
def Supplies (labels : Labels) (floor : Int) (tokens : List Token) (count : Nat)
    (waiting base : List Pending) (stack : List Datum) : Prop :=
  ∃ left next, Leads labels tokens (waiting ++ base) stack (left ++ base) next ∧
    Above floor left ∧ next.length + load waiting = stack.length + load left + count

namespace Supplies

variable {labels : Labels} {floor : Int} {before after : List Token} {first second : Nat}
  {waiting base : List Pending} {stack : List Datum}

theorem group {opening closing : Token} (hopen : opening.operator? = some .openParen)
    (hclose : closing.operator? = some .closeParen) (habove : Above floor waiting)
    (positive : 0 < first)
    (h : Supplies labels Operator.or.precedence before first []
      (⟨.openParen, opening.offset⟩ :: (waiting ++ base)) []) :
    Supplies labels floor (opening :: before ++ [closing]) first waiting base stack := by
  obtain ⟨left, next, hleads, hleft, count⟩ := h
  rw [load_nil, List.length_nil] at count
  have enough : load left < next.length := by omega
  obtain ⟨final, hend, length⟩ := Leads.closing hclose hleft enough
  have inner := (hleads.append hend).frame stack
  refine ⟨waiting, final ++ stack, ?_, habove, ?_⟩
  · exact (Leads.opening hopen).append inner
  · rw [List.length_append]
    omega

theorem binary {sign : Token} {op : Operator} (hop : sign.operator? = some op)
    (notOpen : op ≠ .openParen) (notClose : op ≠ .closeParen) (two : op.need = 2)
    (loose : Operator.or.precedence ≤ op.precedence) (le : floor ≤ op.precedence)
    (back : HoldsBack floor base) (supply : load waiting ≤ stack.length) (positive : 0 < first)
    (hbefore : Supplies labels floor before first waiting base stack)
    (hafter : ∀ {waiting : List Pending} {stack : List Datum},
      Above floor (⟨op, sign.offset⟩ :: waiting) →
      load (⟨op, sign.offset⟩ :: waiting) ≤ stack.length →
        Supplies labels floor after second (⟨op, sign.offset⟩ :: waiting) base stack) :
    Supplies labels floor (before ++ sign :: after) (first + second - 1) waiting base stack := by
  obtain ⟨left, next, hleads, habove, count⟩ := hbefore
  obtain ⟨tight, rest, rfl, htight, hrest, holds⟩ := habove.split op.precedence
  rw [load_append] at count
  have runs : tight = [] ∨ load tight < next.length := .inr (by omega)
  obtain ⟨middle, hsign, length⟩ :=
    Leads.operator hop notOpen notClose loose htight (holds.append (back.mono le)) runs
  have load_sign := load_cons_binary two sign.offset rest
  obtain ⟨last, final, hlast, hfinal, countAfter⟩ :=
    hafter (hrest.cons notOpen le sign.offset) (by omega : _ ≤ middle.length)
  refine ⟨last, final, ?_, hfinal, by omega⟩
  rw [List.append_assoc] at hleads
  exact hleads.append (hsign.append hlast)

theorem negated {sign : Token} (hop : sign.operator? = some .not)
    (le : floor ≤ Operator.not.precedence) (back : HoldsBack floor base)
    (habove : Above floor waiting) (ready : Ready (sign :: after) waiting stack)
    (hafter : ∀ {waiting : List Pending} {stack : List Datum},
      Above floor (⟨.not, sign.offset⟩ :: waiting) →
      load (⟨.not, sign.offset⟩ :: waiting) ≤ stack.length →
        Supplies labels floor after first (⟨.not, sign.offset⟩ :: waiting) base stack) :
    Supplies labels floor (sign :: after) first waiting base stack := by
  obtain ⟨tight, rest, rfl, htight, holds, runs⟩ := ready.negation (by simp [startsNegated, hop])
  have supply := ready.supply
  obtain ⟨middle, hsign, length⟩ := Leads.operator hop (by decide) (by decide) (by decide) htight
    (holds.append (back.mono le)) runs
  have hrest : Above floor rest := fun pending mem => habove pending (by simp [mem])
  have load_sign := load_cons_not sign.offset rest
  rw [load_append] at supply
  obtain ⟨last, final, hlast, hfinal, count⟩ :=
    hafter (hrest.cons (by decide) le sign.offset) (by omega : _ ≤ middle.length)
  refine ⟨last, final, ?_, hfinal, by rw [load_append]; omega⟩
  rw [List.append_assoc]
  exact hsign.append hlast

end Supplies

/-- Any phrase of the grammar, wherever it may begin, leaves data for what waits and its pieces.
-/
theorem Derives.supplies {level : Level} {tokens : List Token} {e : Expr}
    (h : Derives level tokens e) (labels : Labels) {floor : Int} {waiting base : List Pending}
    {stack : List Datum} (least : Operator.or.precedence ≤ floor) (le : floor ≤ level.floor)
    (habove : Above floor waiting) (back : HoldsBack floor base)
    (ready : Ready tokens waiting stack) :
    Supplies labels floor tokens e.pieces waiting base stack := by
  -- what waits has two parts: a `not` may run operators in `waiting`, which belong to the term
  -- before, and those in `base` are never reached
  induction h generalizing floor waiting base stack with
  | operand notOp =>
    refine ⟨waiting, _, .operand notOp, habove, ?_⟩
    rw [Expr.pieces, List.length_cons]
    omega
  | @group _ _ _ e hopen _ hclose ih =>
    exact .group hopen hclose habove e.pieces_pos
      (ih (Int.le_refl _) (by decide) .nil (holdsBack_cons (.inl rfl)) .nil)
  | atom _ ih => exact ih least (Int.le_trans le (by decide)) habove back ready
  | @equal _ _ _ key _ hkey hop hvalue ihKey ihValue =>
    refine .binary hop (by decide) (by decide) rfl (by decide) le back ready.supply key.pieces_pos
      (ihKey least (Int.le_trans le (by decide)) habove back (ready.of_append hkey.ne_nil)) ?_
    intro waiting stack habove supply
    exact ihValue least (Int.le_trans le (by decide)) habove back
      (.of_not_startsNegated supply (hvalue.not_startsNegated (by decide)))
  | comparison _ ih => exact ih least (Int.le_trans le (by decide)) habove back ready
  | not hop hpart ih =>
    refine .negated hop le back habove ready ?_
    intro waiting stack habove supply
    exact ih least (Int.le_trans le (by decide)) habove back
      (.of_not_startsNegated supply (hpart.not_startsNegated (by decide)))
  | negation _ ih => exact ih least (Int.le_trans le (by decide)) habove back ready
  | @and _ _ _ left _ hleft hop _ ihLeft ihRight =>
    refine .binary hop (by decide) (by decide) rfl (by decide) le back ready.supply left.pieces_pos
      (ihLeft least le habove back (ready.of_append hleft.ne_nil)) ?_
    intro waiting stack habove supply
    exact ihRight least (Int.le_trans le (by decide)) habove back (.cons (by decide) supply)
  | requirements _ ih => exact ih least (Int.le_trans le (by decide)) habove back ready
  | @or _ _ _ left _ hleft hop _ ihLeft ihRight =>
    refine .binary hop (by decide) (by decide) rfl (by decide) le back ready.supply left.pieces_pos
      (ihLeft least le habove back (ready.of_append hleft.ne_nil)) ?_
    intro waiting stack habove supply
    exact ihRight least (Int.le_trans le (by decide)) habove back (.cons (by decide) supply)
  | alternatives _ ih => exact ih least le habove back ready
  | @beside _ _ before _ hbefore _ ihLeft ihRight =>
    have supply := ready.supply
    have := before.pieces_pos
    obtain ⟨left, next, hleads, hleft, count⟩ :=
      ihLeft least le habove back (ready.of_append hbefore.ne_nil)
    have enough : load left < next.length := by omega
    obtain ⟨last, final, hlast, hfinal, countAfter⟩ :=
      ihRight least le hleft back (.of_lt hleft enough)
    refine ⟨last, final, hleads.append hlast, hfinal, ?_⟩
    rw [Expr.pieces]
    omega

namespace Program

theorem judge_of_runAll {tokens : List Token} {emitted : List Instruction} {left : List Pending}
    {labels : Labels} {stack : List Datum} (hfeeds : Feeds tokens [] emitted left)
    (hleft : Above Operator.or.precedence left)
    (hrun : runAll labels (emitted ++ left.map emit) [] = .ok stack) :
    judge tokens labels = .ok (settle labels stack) := by
  rw [judge, ofTokens, hfeeds.convert (drain_above hleft)]
  exact evaluate_close hrun _

end Program

/-- Every expression of the grammar compiles, and its program gives an answer for all labels. -/
theorem Derives.judge_ok {tokens : List Token} {e : Expr} (h : Derives .sequence tokens e)
    (labels : Labels) : ∃ answer, Program.judge tokens labels = .ok answer := by
  have supplied : Supplies labels Operator.or.precedence tokens e.pieces [] [] [] :=
    h.supplies labels (Int.le_refl _) (by decide) .nil .nil .nil
  obtain ⟨left, next, ⟨emitted, hfeeds, -, hrun⟩, hleft, count⟩ := supplied
  have enough : load left < next.length := by
    have := e.pieces_pos
    rw [load_nil, List.length_nil] at count
    omega
  simp only [List.append_nil] at hfeeds
  obtain ⟨final, hfinal, -⟩ := runAll_emit labels hleft enough
  have whole : Program.runAll labels (emitted ++ left.map emit) [] = .ok final := by
    rw [Program.runAll_append_of_ok hrun, hfinal]
  exact ⟨_, Program.judge_of_runAll hfeeds hleft whole⟩

theorem Derives.judge_explicit {level : Level} {tokens : List Token} {e : Expr}
    (h : Derives level tokens e) (explicit : e.isExplicit = true) (labels : Labels) :
    Program.judge tokens labels = .ok (e.holds labels) := by
  have becomes : Becomes level.floor tokens [] e.postorder := h.becomes explicit .nil
  have run := e.runAll_postorder labels explicit []
  calc Program.judge tokens labels
    _ = (Program.close e.postorder (Program.stopOf tokens)).evaluate labels := by
      rw [Program.judge, Program.ofTokens_of_becomes becomes]
      rfl
    _ = .ok (Program.settle labels [e.datum labels]) := Program.evaluate_close run _
    _ = .ok (e.holds labels) := by simp [Program.settle]

end LabelQuery
