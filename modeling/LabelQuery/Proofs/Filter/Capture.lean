import LabelQuery.Proofs.Filter.Refilling

/-!
Juxtapositions that are not read as written. An operator that still waits when the next term
begins takes operands of that term, and one of its own stays behind as an alternative. Main
statement: operands can then be chosen so that all terms answer no and the whole answers yes.
-/
namespace LabelQuery

open Datum Pending

/-- A piece that holds lies below what the operators that wait will take, save for an `or`. It can
be asked to be the lowest of all. -/
structure Buried (lowest : Prop) (above left : List Pending) (kept : List Datum) : Prop where
  tight : Above Operator.and.precedence above
  orOnly : OrOnly left
  any : kept.any (holds probe) = true
  joins : left.length ≤ kept.length
  low : lowest → kept.length ≤ 1

/-- The operators that wait have data enough without touching the piece that holds. -/
def Covers (above left : List Pending) (stack kept : List Datum) : Prop :=
  (above = [] ∧ left.length < stack.length + kept.length) ∨ load above < stack.length

/-- From some stacks, tokens bury a piece that holds, with some room above it. -/
def BuriesFrom (lowest : Prop)
    (room : List Pending → List Pending → List Datum → List Datum → Prop) (tokens : List Token)
    (waiting : List Pending) (stack : List Datum) (base : List Pending)
    (below : List Datum) : Prop :=
  ∃ emitted above left next kept, Feeds tokens (waiting ++ base) emitted (above ++ (left ++ base)) ∧
    Program.runAll probe emitted (stack ++ below) = .ok (next ++ (kept ++ below)) ∧
    Buried lowest above left kept ∧ room above left next kept

/-- Tokens bury a piece that holds wherever alternatives may begin; where nothing is before them,
it can be asked to be the lowest. -/
def Buries (lowest : Prop) (room : List Pending → List Pending → List Datum → List Datum → Prop)
    (tokens : List Token) : Prop :=
  ∀ (waiting base : List Pending) (pieces below : List Datum),
    HoldsBack Operator.or.precedence base → OrOnly waiting → waiting.length ≤ pieces.length →
    BuriesFrom (lowest ∧ pieces = []) room tokens waiting pieces base below

/-- Tokens bury a piece that holds if `after` comes next. -/
def Strands (lowest : Prop) (after : List Token) : List Token → Prop :=
  Buries lowest fun above _ stack _ => Ready after above stack

/-- Tokens bury a piece that holds, whatever comes next. -/
def Misleads (lowest : Prop) : List Token → Prop :=
  Buries lowest Covers

section

variable {lowest : Prop} {above left base : List Pending} {stack kept : List Datum}

theorem Covers.ready (h : Covers above left stack kept) (buried : Buried lowest above left kept)
    (after : List Token) : Ready after above stack := by
  rcases h with ⟨rfl, -⟩ | enough
  · exact .nil
  · exact .of_lt buried.tight enough

theorem Buried.loose (h : Buried lowest above left kept) :
    Above Operator.or.precedence (above ++ left) :=
  (h.tight.mono (by decide)).append h.orOnly.above

/-- An `or` that runs joins two pieces above those that are kept, or one of these to another. -/
theorem Buried.run_or (h : Buried lowest above left kept) (next : List Datum)
    (more : left.length < next.length + kept.length) :
    ∃ upper rest, (∀ below, Program.runAll probe (left.map emit) (next ++ (kept ++ below)) =
        .ok (upper ++ (rest ++ below))) ∧
      rest.any (holds probe) = true ∧ 0 < rest.length ∧ rest.length ≤ kept.length := by
  have holds := h.any
  rcases h.orOnly with rfl | ⟨position, rfl⟩
  · have positive : 0 < kept.length := by
      cases kept with
      | nil => contradiction
      | cons piece rest => exact Nat.succ_pos _
    exact ⟨next, kept, fun _ => rfl, holds, positive, Nat.le_refl _⟩
  · have joins := h.joins
    match next, kept, more, joins, holds with
    | a :: b :: rest, kept, _, joins, holds =>
      exact ⟨truth (a.holds probe || b.holds probe) :: rest, kept, fun _ => rfl, holds, joins,
        Nat.le_refl _⟩
    | [a], b :: rest, _, _, holds =>
      refine ⟨[], truth (a.holds probe || b.holds probe) :: rest, fun _ => rfl, ?_,
        Nat.succ_pos _, Nat.le_refl _⟩
      rw [List.any_cons] at holds ⊢
      rw [holds_truth, Bool.or_assoc, holds, Bool.or_true]
    | [], a :: b :: rest, _, _, holds =>
      refine ⟨[], truth (a.holds probe || b.holds probe) :: rest, fun _ => rfl, ?_,
        Nat.succ_pos _, Nat.le_succ _⟩
      rw [List.any_cons, List.any_cons] at holds
      rw [List.any_cons, holds_truth, Bool.or_assoc, holds]

/-- When all that waits has run, a piece still holds. -/
theorem Covers.run (h : Covers above left stack kept)
    (buried : Buried lowest above left kept) :
    ∃ upper rest, (∀ below, Program.runAll probe ((above ++ left).map emit)
        (stack ++ (kept ++ below)) = .ok (upper ++ (rest ++ below))) ∧
      rest.any (holds probe) = true ∧ 0 < rest.length ∧ rest.length ≤ kept.length := by
  have hloose : Above Operator.or.precedence above := buried.tight.mono (by decide)
  have hrun : ∃ next, (∀ below, Program.runAll probe (above.map emit) (stack ++ below) =
      .ok (next ++ below)) ∧ left.length < next.length + kept.length := by
    rcases h with ⟨rfl, more⟩ | enough
    · exact ⟨stack, fun _ => rfl, more⟩
    · obtain ⟨next, hnext, length⟩ := runAll_emit probe hloose enough
      have := buried.joins
      exact ⟨next, fun below => Program.runAll_frame (isFin_emit hloose) hnext below, by omega⟩
  obtain ⟨next, hnext, more⟩ := hrun
  obtain ⟨upper, rest, hrest, any, positive, le⟩ := buried.run_or next more
  refine ⟨upper, rest, fun below => ?_, any, positive, le⟩
  rw [List.map_append, Program.runAll_append_of_ok (hnext _), hrest]

theorem Buried.requirements {after : List Token} {e : Expr}
    (h : Buried lowest above left kept) (hafter : Derives .requirements after e)
    (back : HoldsBack Operator.or.precedence base) (ready : Ready after above stack)
    (below : List Datum) :
    BuriesFrom lowest Covers after (above ++ left) (stack ++ kept) base below := by
  obtain ⟨last, next, hleads, hlast, count⟩ :=
    hafter.supplies probe (by decide) (Int.le_refl _) h.tight
      (h.orOnly.holdsBack back (by decide)) ready
  obtain ⟨emitted, hfeeds, -, hrun⟩ := hleads.frame (kept ++ below)
  have supply := ready.supply
  have := e.pieces_pos
  rw [← List.append_assoc] at hfeeds
  exact ⟨emitted, last, left, next, kept, hfeeds, by rw [List.append_assoc, hrun],
    ⟨hlast, h.orOnly, h.any, h.joins, h.low⟩, .inr (by omega)⟩

end

section

variable {lowest : Prop} {room : List Pending → List Pending → List Datum → List Datum → Prop}
  {before after : List Token} {waiting between base : List Pending}
  {start stack below : List Datum}

theorem BuriesFrom.prepend {emitted : List Instruction}
    (hbefore : Feeds before (waiting ++ base) emitted (between ++ base))
    (hrun : Program.runAll probe emitted (start ++ below) = .ok (stack ++ below))
    (h : BuriesFrom lowest room after between stack base below) :
    BuriesFrom lowest room (before ++ after) waiting start base below := by
  obtain ⟨following, above, left, next, kept, hfeeds, hrunAfter, buried, hroom⟩ := h
  refine ⟨_, above, left, next, kept, hbefore.append hfeeds, ?_, buried, hroom⟩
  rw [Program.runAll_append_of_ok hrun, hrunAfter]

/-- An `or` may join the piece that holds to others: the answer holds again. -/
theorem BuriesFrom.or {sign : Token} {e : Expr}
    (h : BuriesFrom lowest Covers before waiting stack base below)
    (hop : sign.operator? = some .or) (hafter : Derives .requirements after e)
    (back : HoldsBack Operator.or.precedence base) :
    BuriesFrom lowest Covers (before ++ sign :: after) waiting stack base below := by
  obtain ⟨emitted, above, left, next, kept, hfeeds, hrun, buried, covers⟩ := h
  obtain ⟨upper, rest, hrest, any, positive, le⟩ := covers.run buried
  have hsign := Feeds.one (advance_operator hop (by decide) (by decide) buried.loose back)
  have joined : Buried lowest [] [⟨.or, sign.offset⟩] rest :=
    ⟨.nil, .inr ⟨_, rfl⟩, any, positive, fun low => Nat.le_trans le (buried.low low)⟩
  have last := joined.requirements hafter back (Ready.nil : Ready after [] upper) below
  rw [← List.append_assoc] at hfeeds
  rw [List.append_cons]
  refine .prepend (hfeeds.append hsign) ?_ last
  rw [Program.runAll_append_of_ok hrun, hrest, List.append_assoc]

end

theorem Buried.alternatives {lowest : Prop} {above left base : List Pending}
    {stack kept : List Datum} {after : List Token} {e : Expr}
    (h : Buried lowest above left kept) (hafter : Derives .alternatives after e)
    (back : HoldsBack Operator.or.precedence base) (ready : Ready after above stack)
    (below : List Datum) :
    BuriesFrom lowest Covers after (above ++ left) (stack ++ kept) base below := by
  generalize hlevel : Level.alternatives = level at hafter
  induction hafter with
  | requirements hafter _ => exact h.requirements hafter back ready below
  | or hbefore hop hafter ih _ =>
    exact (ih (ready.of_append hbefore.ne_nil) rfl).or hop hafter back
  | operand | group | atom | equal | comparison | not | negation | and | alternatives | beside =>
    contradiction

namespace Misleads

variable {lowest : Prop} {tokens after : List Token} {e : Expr}

theorem strands (h : Misleads lowest tokens) (after : List Token) :
    Strands lowest after tokens := by
  intro waiting base pieces below back orOnly enough
  obtain ⟨emitted, above, left, stack, kept, hfeeds, hrun, buried, covers⟩ :=
    h waiting base pieces below back orOnly enough
  exact ⟨emitted, above, left, stack, kept, hfeeds, hrun, buried, covers.ready buried after⟩

theorem or (h : Misleads lowest tokens) {sign : Token} (hop : sign.operator? = some .or)
    (hafter : Derives .requirements after e) : Misleads lowest (tokens ++ sign :: after) :=
  fun waiting base pieces below back orOnly enough =>
    (h waiting base pieces below back orOnly enough).or hop hafter back

theorem run_group {opening closing : Token} (hopen : opening.operator? = some .openParen)
    (h : Misleads lowest tokens) (hclose : closing.operator? = some .closeParen)
    (waiting : List Pending) (below : List Datum) :
    ∃ emitted upper rest, Feeds (opening :: tokens ++ [closing]) waiting emitted waiting ∧
      Program.runAll probe emitted below = .ok (upper ++ (rest ++ below)) ∧
      rest.any (holds probe) = true ∧ 0 < rest.length ∧ (lowest → rest.length ≤ 1) := by
  have mark : HoldsBack Operator.or.precedence (⟨.openParen, opening.offset⟩ :: waiting) :=
    holdsBack_cons (.inl rfl)
  obtain ⟨emitted, above, left, stack, kept, hfeeds, hrun, buried, covers⟩ :=
    h [] _ [] below mark (.inl rfl) (Nat.le_refl 0)
  obtain ⟨upper, rest, hrest, any, positive, le⟩ := covers.run buried
  have hend : Feeds [closing] (above ++ left ++ ⟨.openParen, opening.offset⟩ :: waiting)
      ((above ++ left).map emit) waiting := .one (advance_close hclose buried.loose)
  rw [← List.append_assoc] at hfeeds
  have whole := (Feeds.one (advance_open hopen waiting)).append (hfeeds.append hend)
  refine ⟨_, upper, rest, whole, ?_, any, positive,
    fun low => Nat.le_trans le (buried.low ⟨low, rfl⟩)⟩
  rw [List.nil_append] at hrun
  rw [List.nil_append, Program.runAll_append_of_ok hrun, hrest]

theorem group {opening closing : Token} (hopen : opening.operator? = some .openParen)
    (h : Misleads False tokens) (hclose : closing.operator? = some .closeParen) :
    Misleads False (opening :: tokens ++ [closing]) := by
  intro waiting base pieces below _ orOnly enough
  obtain ⟨emitted, upper, rest, hfeeds, hrun, any, positive, -⟩ :=
    h.run_group hopen hclose (waiting ++ base) (pieces ++ below)
  refine ⟨emitted, [], waiting, upper, rest ++ pieces, hfeeds, ?_,
    ⟨.nil, orOnly, ?_, ?_, fun none => none.1.elim⟩, .inl ⟨rfl, ?_⟩⟩
  · rw [hrun, List.append_assoc]
  · rw [List.any_append, any, Bool.true_or]
  · rw [List.length_append]
    omega
  · rw [List.length_append]
    omega

theorem judge_eq (h : Misleads lowest tokens) : Program.judge tokens probe = .ok true := by
  obtain ⟨emitted, above, left, stack, kept, hfeeds, hrun, buried, covers⟩ :=
    h [] [] [] [] .nil (.inl rfl) (Nat.le_refl 0)
  obtain ⟨upper, rest, hrest, any, -, -⟩ := covers.run buried
  have hlast := hrest []
  simp only [List.append_nil] at hfeeds hrun hlast
  have whole : Program.runAll probe (emitted ++ (above ++ left).map emit) [] =
      .ok (upper ++ rest) := by
    rw [Program.runAll_append_of_ok hrun, hlast]
  rw [Program.judge_of_runAll hfeeds buried.loose whole, Program.settle, List.any_append, any,
    Bool.or_true, Bool.or_true]

end Misleads

namespace Strands

variable {lowest : Prop} {tokens after : List Token} {e : Expr}

theorem congr {others : List Token} (h : Strands lowest after tokens)
    (same : startsNegated others = startsNegated after) : Strands lowest others tokens := by
  intro waiting base pieces below back orOnly enough
  obtain ⟨emitted, above, left, stack, kept, hfeeds, hrun, buried, ready⟩ :=
    h waiting base pieces below back orOnly enough
  refine ⟨emitted, above, left, stack, kept, hfeeds, hrun, buried, ready.supply, ?_⟩
  rw [same]
  exact ready.negation

theorem beside (h : Strands lowest after tokens) (hafter : Derives .alternatives after e) :
    Misleads lowest (tokens ++ after) := by
  intro waiting base pieces below back orOnly enough
  obtain ⟨emitted, above, left, stack, kept, hfeeds, hrun, buried, ready⟩ :=
    h waiting base pieces below back orOnly enough
  rw [← List.append_assoc] at hfeeds
  refine .prepend hfeeds ?_ (buried.alternatives hafter back ready below)
  rw [hrun, List.append_assoc]

end Strands

theorem BuriesFrom.mono {lowest weaker : Prop} {tokens : List Token} {waiting base : List Pending}
    {stack below : List Datum}
    {room : List Pending → List Pending → List Datum → List Datum → Prop}
    (h : BuriesFrom lowest room tokens waiting stack base below) (le : weaker → lowest) :
    BuriesFrom weaker room tokens waiting stack base below := by
  obtain ⟨emitted, above, left, next, kept, hfeeds, hrun, buried, hroom⟩ := h
  exact ⟨emitted, above, left, next, kept, hfeeds, hrun,
    ⟨buried.tight, buried.orOnly, buried.any, buried.joins, fun low => buried.low (le low)⟩, hroom⟩

namespace Buries

variable {first : Level} {before after : List Token} {left : Expr}
  {room : List Pending → List Pending → List Datum → List Datum → Prop}

theorem or {sign : Token} (h : Buries False room after) (hleft : Reads probe first before left)
    (loose : Operator.or.precedence ≤ first.floor) (hop : sign.operator? = some .or) :
    Buries False room (before ++ sign :: after) := by
  intro waiting base pieces below back orOnly enough
  obtain ⟨emitted, between, middle, joined, adds, length, -, -, hfeeds, hrun⟩ :=
    hleft.run_or loose hop below back orOnly enough
  have one : 1 ≤ joined.length := by
    have := adds.more enough
    omega
  have hafter := h [⟨.or, sign.offset⟩] base joined below back (.inr ⟨_, rfl⟩) one
  rw [List.append_cons]
  exact (hafter.mono fun none => none.1.elim).prepend hfeeds hrun

theorem beside (h : Buries False room after) (hleft : Reads probe first before left)
    (settled : first.settles after = true) : Buries False room (before ++ after) := by
  intro waiting base pieces below back orOnly enough
  obtain ⟨emitted, between, middle, adds, hrun, hthen⟩ :=
    hleft.run_settled settled below back orOnly enough
  obtain ⟨following, above, last, next, kept, hfeeds, hrunAfter, buried, hroom⟩ :=
    h between base middle below back adds.orOnly (Nat.le_of_lt (adds.more enough))
  refine ⟨_, above, last, next, kept, hthen hfeeds, ?_, ?_, hroom⟩
  · rw [Program.runAll_append_of_ok hrun, hrunAfter]
  · exact ⟨buried.tight, buried.orOnly, buried.any, buried.joins, fun none => none.1.elim⟩

end Buries

/-- Among pieces that all hold, the lowest is one; among others, some piece is. -/
theorem exists_kept {lowest : Prop} {pieces : List Datum} (any : pieces.any (holds probe) = true)
    (all : lowest → pieces.all (holds probe) = true) :
    ∃ upper kept, pieces = upper ++ kept ∧ kept.any (holds probe) = true ∧ 0 < kept.length ∧
      (lowest → kept.length ≤ 1) := by
  by_cases low : lowest
  · rcases List.eq_nil_or_concat pieces with rfl | ⟨upper, last, rfl⟩
    · contradiction
    · refine ⟨upper, [last], List.concat_eq_append, ?_, Nat.one_pos, fun _ => Nat.le_refl 1⟩
      have holds := List.all_eq_true.1 (all low) last (by simp)
      rw [List.any_cons, holds, Bool.true_or]
  · refine ⟨[], pieces, rfl, any, ?_, fun is => absurd is low⟩
    cases pieces with
    | nil => contradiction
    | cons piece rest => exact Nat.succ_pos _

namespace Reads

variable {first : Level} {before after : List Token} {left right : Expr}

theorem misleads_or {sign : Token} (h : Reads probe first before left)
    (loose : Operator.or.precedence ≤ first.floor) (throughout : left.holdsThroughout probe = true)
    (hop : sign.operator? = some .or) (hafter : Derives .requirements after right) :
    Misleads True (before ++ sign :: after) := by
  intro waiting base pieces below back orOnly enough
  obtain ⟨emitted, between, middle, joined, adds, -, any, all, hfeeds, hrun⟩ :=
    h.run_or loose hop below back orOnly enough
  have someHolds : joined.any (holds probe) = true := by
    rw [any, adds.any, Expr.holds_of_holdsThroughout throughout, Bool.or_true]
  have allHold : True ∧ pieces = [] → joined.all (holds probe) = true := by
    rintro ⟨-, rfl⟩
    exact all (adds.all rfl throughout)
  obtain ⟨upper, kept, rfl, hkept, positive, low⟩ := exists_kept someHolds allHold
  have buried : Buried (True ∧ pieces = []) [] [⟨.or, sign.offset⟩] kept :=
    ⟨.nil, .inr ⟨_, rfl⟩, hkept, positive, low⟩
  rw [List.append_cons]
  exact (buried.requirements hafter back .nil below).prepend hfeeds hrun

theorem misleads_beside (h : Reads probe first before left)
    (throughout : left.holdsThroughout probe = true) (settled : first.settles after = true)
    (hafter : Derives .alternatives after right) : Misleads True (before ++ after) := by
  intro waiting base pieces below back orOnly enough
  obtain ⟨emitted, between, middle, adds, hrun, hthen⟩ :=
    h.run_settled settled below back orOnly enough
  have someHolds : middle.any (holds probe) = true := by
    rw [adds.any, Expr.holds_of_holdsThroughout throughout, Bool.or_true]
  have allHold : True ∧ pieces = [] → middle.all (holds probe) = true := by
    rintro ⟨-, rfl⟩
    exact adds.all rfl throughout
  obtain ⟨upper, kept, rfl, hkept, positive, low⟩ := exists_kept someHolds allHold
  have joins : between.length ≤ kept.length := by
    rcases adds.orOnly with rfl | ⟨position, rfl⟩
    · exact Nat.zero_le _
    · exact positive
  have buried : Buried (True ∧ pieces = []) [] between kept :=
    ⟨.nil, adds.orOnly, hkept, joins, low⟩
  obtain ⟨following, above, last, next, rest, hfeeds, hrunAfter, hrest, covers⟩ :=
    buried.alternatives hafter back (Ready.nil : Ready after [] upper) below
  refine ⟨_, above, last, next, rest, hthen hfeeds, ?_, hrest, covers⟩
  rw [Program.runAll_append_of_ok hrun, hrunAfter]

end Reads

/-- Wherever a phrase of some level may begin, it leaves a piece that holds below the data of its
last operators. -/
def Bares (level : Level) (room : List Pending → List Datum → Prop) (tokens : List Token) : Prop :=
  ∀ (waiting : List Pending) (below : List Datum), HoldsBack level.floor waiting →
    ∃ emitted above stack piece, Feeds tokens waiting emitted (above ++ waiting) ∧
      Above level.floor above ∧ piece.holds probe = true ∧
      Program.runAll probe emitted below = .ok (stack ++ piece :: below) ∧ room above stack

/-- The operators that wait leave the piece alone, and one datum above it. -/
def Clears (above : List Pending) (stack : List Datum) : Prop :=
  load above < stack.length

namespace Bares

variable {level : Level} {room : List Pending → List Datum → Prop}
  {tokens before after : List Token} {e left right : Expr}

theorem mono {wider : List Pending → List Datum → Prop} (h : Bares level room tokens)
    (le : ∀ {above stack}, room above stack → wider above stack) : Bares level wider tokens := by
  intro waiting below back
  obtain ⟨emitted, above, stack, piece, hfeeds, habove, holds, hrun, hroom⟩ := h waiting below back
  exact ⟨emitted, above, stack, piece, hfeeds, habove, holds, hrun, le hroom⟩

theorem lift {low : Level} (h : Bares level room tokens) (le : low.floor ≤ level.floor) :
    Bares low room tokens := by
  intro waiting below back
  obtain ⟨emitted, above, stack, piece, hfeeds, habove, rest⟩ := h waiting below (back.mono le)
  exact ⟨emitted, above, stack, piece, hfeeds, habove.mono le, rest⟩

theorem buries {wider : List Pending → List Pending → List Datum → List Datum → Prop}
    {lowest : Prop} (h : Bares level room tokens) (tight : Operator.and.precedence ≤ level.floor)
    (le : ∀ {above left stack kept}, room above stack → wider above left stack kept) :
    Buries lowest wider tokens := by
  intro waiting base pieces below back orOnly enough
  have loose : Operator.or.precedence < level.floor := Int.lt_of_lt_of_le (by decide) tight
  obtain ⟨emitted, above, stack, piece, hfeeds, habove, holds, hrun, hroom⟩ :=
    h (waiting ++ base) (pieces ++ below) (orOnly.holdsBack back loose)
  refine ⟨emitted, above, waiting, stack, piece :: pieces, hfeeds, hrun,
    ⟨habove.mono tight, orOnly, ?_, Nat.le_succ_of_le enough, ?_⟩, le hroom⟩
  · rw [List.any_cons, holds, Bool.true_or]
  · rintro ⟨-, rfl⟩
    exact Nat.le_refl 1

theorem misleads {lowest : Prop} (h : Bares level Clears tokens)
    (tight : Operator.and.precedence ≤ level.floor) : Misleads lowest tokens :=
  h.buries tight .inr

theorem atom (h : Derives .atom tokens e) (explicit : e.isExplicit = true)
    (holds : e.holds probe = true) :
    Bares .atom (fun above stack => load above ≤ stack.length) tokens := by
  intro waiting below back
  obtain ⟨emitted, above, hfeeds, habove, hsteps⟩ := h.becomes explicit back
  obtain rfl := habove.eq_nil
  rw [List.map_nil, List.append_nil] at hsteps
  refine ⟨emitted, [], [], e.datum probe, hfeeds, .nil, ?_, ?_, Nat.le_refl 0⟩
  · rw [Expr.holds_datum, holds]
  · rw [hsteps, e.runAll_postorder probe explicit]
    rfl

/-- The left operand of an operator that still waits is a piece below the data of the right one.
-/
theorem binary {sign : Token} {op : Operator} {first second : Level}
    (hop : sign.operator? = some op) (notOpen : op ≠ .openParen) (notClose : op ≠ .closeParen)
    (floor : level.floor = op.precedence) (le : op.precedence ≤ first.floor)
    (lt : op.precedence < second.floor) (loose : Operator.or.precedence ≤ second.floor)
    (hbefore : Derives first before left) (explicit : left.isExplicit = true)
    (holds : left.holds probe = true) (hafter : Derives second after right) :
    Bares level (fun above stack => ∃ tight, above = tight ++ [⟨op, sign.offset⟩] ∧
      Above second.floor tight ∧ stack.length = load tight + right.pieces)
      (before ++ sign :: after) := by
  intro waiting below back
  rw [floor] at back ⊢
  obtain ⟨emitted, above, hfeeds, habove, hsteps⟩ := hbefore.becomes explicit (back.mono le)
  have hsign := Feeds.one (advance_operator hop notOpen notClose (habove.mono le) back)
  have behind : HoldsBack second.floor (⟨op, sign.offset⟩ :: waiting) := holdsBack_cons (.inr lt)
  have supplied :
      Supplies probe second.floor after right.pieces [] (⟨op, sign.offset⟩ :: waiting) [] :=
    hafter.supplies probe loose (Int.le_refl _) .nil behind .nil
  obtain ⟨tight, stack, hleads, htight, count⟩ := supplied
  obtain ⟨following, hfollowing, -, hrun⟩ := hleads.frame (left.datum probe :: below)
  have whole := hfeeds.append (hsign.append hfollowing)
  refine ⟨emitted ++ (above.map emit ++ following), tight ++ [⟨op, sign.offset⟩], stack,
    left.datum probe, ?_, ?_, ?_, ?_, tight, rfl, htight, ?_⟩
  · simpa using whole
  · exact (htight.mono (Int.le_of_lt lt)).append (Above.nil.cons notOpen (Int.le_refl _) _)
  · rw [Expr.holds_datum, holds]
  · rw [← List.append_assoc, hsteps,
      Program.runAll_append_of_ok (left.runAll_postorder probe explicit below)]
    exact hrun
  · simpa using count

theorem and {sign : Token} (h : Bares .requirements Clears before)
    (hop : sign.operator? = some .and) (hafter : Derives .negation after right) :
    Bares .requirements Clears (before ++ sign :: after) := by
  intro waiting below back
  obtain ⟨emitted, above, stack, piece, hfeeds, habove, holds, hrun, clears⟩ :=
    h waiting below back
  obtain ⟨middle, hsign, length⟩ := Leads.operator hop (by decide) (by decide) (by decide) habove
    back (.inr clears)
  have behind : HoldsBack Level.negation.floor (⟨.and, sign.offset⟩ :: waiting) :=
    holdsBack_cons (.inr (by decide))
  have supplied : Supplies probe Level.negation.floor after right.pieces []
      (⟨.and, sign.offset⟩ :: waiting) [] :=
    hafter.supplies probe (by decide) (Int.le_refl _) .nil behind .nil
  obtain ⟨tight, next, hleads, htight, count⟩ := supplied
  obtain ⟨following, hfollowing, -, hrunAfter⟩ :=
    (hsign.append (hleads.frame middle)).frame (piece :: below)
  have positive := right.pieces_pos
  have hload : load (tight ++ [⟨.and, sign.offset⟩]) = load tight + 1 := by
    rw [load_append, load_cons_binary rfl]
    rfl
  refine ⟨emitted ++ following, tight ++ [⟨.and, sign.offset⟩], next ++ middle, piece, ?_, ?_,
    holds, ?_, ?_⟩
  · simpa using hfeeds.append hfollowing
  · exact (htight.mono (by decide)).append (Above.nil.cons (by decide) (by decide) _)
  · rw [Program.runAll_append_of_ok hrun, hrunAfter]
  · have enough : load above < stack.length := clears
    simp only [load_nil, List.length_nil] at count
    rw [Clears, hload, List.length_append]
    omega

theorem not {sign : Token} (hop : sign.operator? = some .not)
    (kind : ∀ {above stack}, room above stack → room (above ++ [⟨.not, sign.offset⟩]) stack)
    (h : Bares .comparison room tokens) : Bares .negation room (sign :: tokens) := by
  intro waiting below back
  have hsign := Feeds.one (advance_operator hop (by decide) (by decide) .nil back)
  obtain ⟨emitted, above, stack, piece, hfeeds, habove, holds, hrun, hroom⟩ :=
    h (⟨.not, sign.offset⟩ :: waiting) below (holdsBack_cons (.inr (by decide)))
  refine ⟨_, above ++ [⟨.not, sign.offset⟩], stack, piece, ?_, ?_, holds, hrun, kind hroom⟩
  · simpa using hsign.append hfeeds
  · exact (habove.mono (by decide)).append (Above.nil.cons (by decide) (by decide) _)

end Bares

end LabelQuery
