import Mathlib.Algebra.BigOperators.Group.List.Basic
import Mathlib.Algebra.Ring.Int.Defs
import LabelQuery.Proofs.Filter.Conservation
import LabelQuery.Proofs.Filter.Supply

/-!
Operators and their operands by place. A program is refused for the number of its operands, not for
where they stand, so an operator without a neighbour may take an operand of a juxtaposition instead.
Main statement: what is accepted is an expression of the grammar if and only if each operator has
its neighbours and the operands of `=` and `not` are as tight as the grammar wants them.
-/
namespace LabelQuery

open Pending

/-- How many phrases are missing in some tokens: where an operator, a `)` or the end follows and no
phrase has ended. -/
def gapsFrom (ended : Bool) : List Token → Nat
  | [] => if ended then 0 else 1
  | token :: rest => (if ended || token.begins then 0 else 1) + gapsFrom token.ends rest

/-- How many times a phrase begins in some tokens where another has ended. -/
def jointsFrom (ended : Bool) : List Token → Nat
  | [] => 0
  | token :: rest => (if ended && token.begins then 1 else 0) + jointsFrom token.ends rest

def gaps (tokens : List Token) : Nat :=
  gapsFrom false tokens

def joints (tokens : List Token) : Nat :=
  jointsFrom false tokens

namespace Instruction

/-- How many data more than before a step leaves, other than `fin`. -/
def supply : Instruction → Int
  | operand _ => 1
  | operator op _ => if op.need = 2 then -1 else 0

theorem length_of_run {labels : Labels} {instruction : Instruction} {stack next : List Datum}
    (notFin : instruction.isFin = false) (h : instruction.run labels stack = .ok next) :
    (next.length : Int) = stack.length + instruction.supply := by
  cases instruction with
  | operand word =>
    cases h
    simp [supply]
  | operator op position =>
    cases op with
    | openParen | closeParen =>
      cases h
      simp [supply, Operator.need, Operator.arity]
    | fin => contradiction
    | not =>
      cases stack with
      | nil => contradiction
      | cons a rest =>
        cases h
        simp [supply, Operator.need, Operator.arity]
    | equal | and | or =>
      rcases stack with _ | ⟨a, _ | ⟨b, rest⟩⟩
      · contradiction
      · contradiction
      · cases h
        simp [supply, Operator.need, Operator.arity]

end Instruction

theorem Program.length_of_runAll {labels : Labels} {instructions : List Instruction}
    {stack next : List Datum} (noFin : ∀ instruction ∈ instructions, instruction.isFin = false)
    (h : runAll labels instructions stack = .ok next) :
    (next.length : Int) = stack.length + (instructions.map Instruction.supply).sum := by
  induction instructions generalizing stack with
  | nil =>
    cases h
    simp
  | cons instruction rest ih =>
    rw [runAll_cons] at h
    cases step : instruction.run labels stack with
    | error fault => rw [step] at h; contradiction
    | ok between =>
      rw [step] at h
      have first := Instruction.length_of_run (noFin instruction (by simp)) step
      have others := ih (fun other mem => noFin other (by simp [mem])) h
      rw [List.map_cons, List.sum_cons]
      omega

/-- A step that is no bracket leaves something on the stack. -/
theorem Instruction.ne_nil_of_run {labels : Labels} {token : Token} {instruction : Instruction}
    {stack next : List Datum} (own : token.instruction? = some instruction)
    (h : instruction.run labels stack = .ok next) : next ≠ [] := by
  unfold Token.instruction? at own
  split at own
  · cases own
    cases h
    simp
  · contradiction
  · contradiction
  · next op notOpen notClose hop =>
    cases own
    cases op with
    | openParen | closeParen => contradiction
    | fin =>
      rw [Program.run_fin] at h
      cases h
      simp
    | not =>
      match stack, h with
      | a :: rest, h => cases h; simp
    | equal | and | or =>
      match stack, h with
      | a :: b :: rest, h => cases h; simp

theorem Program.ne_nil_of_runAll {labels : Labels} {instructions : List Instruction}
    {stack next : List Datum}
    (own : ∀ instruction ∈ instructions, ∃ token : Token, token.instruction? = some instruction)
    (h : runAll labels instructions stack = .ok next) (nonempty : instructions ≠ []) :
    next ≠ [] := by
  induction instructions generalizing stack with
  | nil => contradiction
  | cons instruction rest ih =>
    rw [runAll_cons] at h
    cases step : instruction.run labels stack with
    | error fault => rw [step] at h; contradiction
    | ok between =>
      rw [step] at h
      cases rest with
      | nil =>
        obtain ⟨token, htoken⟩ := own instruction (by simp)
        cases h
        exact Instruction.ne_nil_of_run htoken step
      | cons other others =>
        exact ih (fun some mem => own some (List.mem_cons_of_mem _ mem)) h (by simp)

/-- Phrases are missing, apart from the one that the whole is, as often as operators take more
operands than there are and others stand side by side. -/
theorem gapsFrom_add_supply {tokens : List Token}
    (noFin : ∀ token ∈ tokens, token.operator? ≠ some .fin) (ended : Bool) :
    (gapsFrom ended tokens : Int) +
        ((tokens.filterMap Token.instruction?).map Instruction.supply).sum +
        (if ended then 1 else 0) = 1 + jointsFrom ended tokens := by
  induction tokens generalizing ended with
  | nil => cases ended <;> simp [gapsFrom, jointsFrom]
  | cons token rest ih =>
    have here : token.operator? ≠ some .fin := noFin token (by simp)
    have others := ih (fun other mem => noFin other (by simp [mem])) token.ends
    rw [gapsFrom, jointsFrom, List.filterMap_cons]
    cases hop : token.operator? with
    | none =>
      cases ended <;>
        (simp [Token.begins, Token.ends, Token.instruction?, hop, Instruction.supply] at others ⊢
         omega)
    | some op =>
      cases op with
      | fin => contradiction
      | openParen | closeParen | equal | not | and | or =>
        cases ended <;>
          (simp [Token.begins, Token.ends, Token.instruction?, hop, Instruction.supply,
             Operator.need, Operator.arity] at others ⊢
           omega)

namespace Program

theorem runAll_of_evaluate_close {labels : Labels} {instructions : List Instruction} {stop : Nat}
    {answer : Bool} (h : (close instructions stop).evaluate labels = .ok answer) :
    ∃ stack, runAll labels instructions [] = .ok stack := by
  cases run : runAll labels instructions [] with
  | ok stack => exact ⟨stack, rfl⟩
  | error fault =>
    have fails : runAll labels (close instructions stop).instructions [] = .error fault := by
      unfold close
      split
      · exact run
      · rw [runAll_append, run]
        rfl
    rw [evaluate_of_error fails] at h
    contradiction

theorem judge_eq_ok {tokens : List Token} {labels : Labels} {answer : Bool}
    (h : judge tokens labels = .ok answer) :
    ∃ program, ofTokens tokens = .ok program ∧ program.evaluate labels = .ok answer := by
  rw [judge] at h
  cases compiled : ofTokens tokens with
  | error fault => rw [compiled] at h; contradiction
  | ok program =>
    rw [compiled] at h
    exact ⟨program, rfl, h⟩

theorem isFin_of_instruction? {token : Token} {instruction : Instruction}
    (notFin : token.operator? ≠ some .fin) (own : token.instruction? = some instruction) :
    instruction.isFin = false := by
  unfold Token.instruction? at own
  split at own
  · cases own
    rfl
  · contradiction
  · contradiction
  · next op _ _ hop =>
    cases own
    cases op with
    | fin => exact absurd hop notFin
    | openParen | closeParen | equal | not | and | or => rfl

/-- In what is accepted no more phrases are missing than stand beside another, unless it is nothing
but brackets. -/
theorem gaps_le_joints {tokens : List Token} {labels : Labels} {answer : Bool}
    (noFin : ∀ token ∈ tokens, token.operator? ≠ some .fin)
    (nonempty : tokens.filterMap Token.instruction? ≠ [])
    (accepted : judge tokens labels = .ok answer) : gaps tokens ≤ joints tokens := by
  obtain ⟨program, compiled, evaluated⟩ := judge_eq_ok accepted
  obtain ⟨emitted, rfl, perm⟩ := ofTokens_perm compiled
  obtain ⟨stack, run⟩ := runAll_of_evaluate_close evaluated
  have own : ∀ instruction ∈ emitted,
      ∃ token ∈ tokens, token.instruction? = some instruction :=
    fun instruction mem => List.mem_filterMap.1 (perm.mem_iff.1 mem)
  have unfinished : ∀ instruction ∈ emitted, instruction.isFin = false := by
    intro instruction mem
    obtain ⟨token, htoken, step⟩ := own instruction mem
    exact isFin_of_instruction? (noFin token htoken) step
  have some : emitted ≠ [] := fun none => nonempty (by simpa [none] using perm)
  have leaves : stack ≠ [] := by
    apply ne_nil_of_runAll (fun instruction mem => ?_) run some
    obtain ⟨token, -, step⟩ := own instruction mem
    exact ⟨token, step⟩
  have length := length_of_runAll unfinished run
  have supply : (emitted.map Instruction.supply).sum =
      ((tokens.filterMap Token.instruction?).map Instruction.supply).sum :=
    (perm.map Instruction.supply).sum_eq
  have balance := gapsFrom_add_supply noFin false
  have positive := List.length_pos_iff.2 leaves
  simp only [Bool.false_eq_true, if_false, List.length_nil] at balance length
  unfold gaps joints
  omega

end Program

/-- Some tokens begin with an operand or group and a `=` behind it. -/
def Compared (tokens : List Token) : Prop :=
  ∃ (value : List Token) (e : Expr) (sign : Token) (after : List Token),
    Derives .atom value e ∧ sign.operator? = some .equal ∧ tokens = value ++ sign :: after

/-- A `not` or `=` stands before more than it takes: before a `not`, or a `=` before a value that is
itself compared. -/
def Overloads (sign : Token) (after : List Token) : Prop :=
  (sign.operator? = some .not ∨ sign.operator? = some .equal) ∧ startsNegated after = true ∨
    sign.operator? = some .equal ∧ Compared after

def Overloaded (tokens : List Token) : Prop :=
  ∃ before sign after, tokens = before ++ sign :: after ∧ Overloads sign after

theorem not_overloads {sign : Token} {after : List Token} (notNot : sign.operator? ≠ some .not)
    (notEqual : sign.operator? ≠ some .equal) : ¬Overloads sign after := by
  rintro (⟨isSign | isSign, -⟩ | ⟨isSign, -⟩)
  · exact notNot isSign
  · exact notEqual isSign
  · exact notEqual isSign

theorem not_overloaded_nil : ¬Overloaded [] := by
  rintro ⟨before, sign, after, cut, -⟩
  simp at cut

/-- Tokens that end with the value of a `=`. -/
def EndsCompared (tokens : List Token) : Prop :=
  ∃ first sign value key, tokens = first ++ sign :: value ∧ sign.operator? = some .equal ∧
    Derives .atom value key

theorem Derives.not_endsCompared {tokens : List Token} {e : Expr} (h : Derives .atom tokens e) :
    ¬EndsCompared tokens := by
  rintro ⟨first, sign, value, key, rfl, hsign, hvalue⟩
  have closed := h.balanced.closed
  have flat := Token.nesting_operator hsign (by decide)
  rw [nesting_append, nesting_cons, flat, hvalue.balanced.closed] at closed
  exact h.lacks (by decide) (by decide) sign first value hsign rfl (by omega)

theorem Overloaded.suffix {first second : List Token} (h : Overloaded second) :
    Overloaded (first ++ second) := by
  obtain ⟨before, sign, after, rfl, overloads⟩ := h
  exact ⟨first ++ before, sign, after, by rw [List.append_assoc], overloads⟩

theorem Overloaded.of_cons {token : Token} {tokens : List Token}
    (h : Overloaded (token :: tokens)) :
    Overloads token tokens ∨ Overloaded tokens := by
  obtain ⟨before, sign, after, cut, overloads⟩ := h
  cases before with
  | nil =>
    obtain ⟨rfl, rfl⟩ := List.cons.inj cut
    exact .inl overloads
  | cons head tail =>
    obtain ⟨-, cut⟩ := List.cons.inj cut
    exact .inr ⟨tail, sign, after, cut, overloads⟩

/-- An operand or group ends nowhere before its end. -/
theorem Derives.nesting_pos {first second : List Token} {e : Expr}
    (h : Derives .atom (first ++ second) e) (started : first ≠ []) (unfinished : second ≠ []) :
    0 < nesting first := by
  generalize htokens : first ++ second = tokens at h
  cases h with
  | operand =>
    obtain ⟨head, tail, rfl⟩ := List.exists_cons_of_ne_nil started
    obtain ⟨-, nothing⟩ := List.cons.inj htokens
    exact absurd (List.append_eq_nil_iff.1 nothing).2 unfinished
  | group hopen inner hclose =>
    obtain ⟨head, tail, rfl⟩ := List.exists_cons_of_ne_nil started
    obtain ⟨rfl, rest⟩ := List.cons.inj htokens
    have := inner.balanced.inside unfinished rest.symm
    rw [nesting_cons, Token.nesting_open hopen]
    omega

/-- Where a `not` or `=` of a phrase has too much before it, that is within the phrase, or the
phrase ends with the value of a `=` and another `=` follows. -/
theorem Overloaded.of_append {level : Level} {before after : List Token} {e : Expr}
    (h : Overloaded (before ++ after)) (hbefore : Derives level before e) :
    Overloaded before ∨ Overloaded after ∨
      EndsCompared before ∧ ∃ sign rest, after = sign :: rest ∧ sign.operator? = some .equal := by
  obtain ⟨first, sign, second, cut, overloads⟩ := h
  rcases List.append_eq_append_iff.1 cut with ⟨more, rfl, rest⟩ | ⟨more, hfirst, rest⟩
  · exact .inr (.inl ⟨more, sign, second, rest, overloads⟩)
  cases more with
  | nil =>
    exact .inr (.inl ⟨[], sign, second, rest.symm, overloads⟩)
  | cons head between =>
    obtain ⟨rfl, rfl⟩ : sign = head ∧ second = between ++ after := List.cons.inj rest
    have isSign : sign.operator? = some .not ∨ sign.operator? = some .equal := by
      rcases overloads with ⟨isSign, -⟩ | ⟨isSign, -⟩
      · exact isSign
      · exact .inr isSign
    have nonempty : between ≠ [] := by
      rintro rfl
      have ends := hbefore.ends
      rw [hfirst, List.getLast?_concat] at ends
      rcases isSign with hop | hop <;> simp [Token.ends, hop] at ends
    rcases overloads with ⟨-, negated⟩ | ⟨hop, value, key, sign', others, hvalue, hop', cut'⟩
    · rw [startsNegated_append nonempty] at negated
      exact .inl ⟨first, sign, between, hfirst, .inl ⟨isSign, negated⟩⟩
    rcases List.append_eq_append_iff.1 cut' with ⟨more, hmore, others'⟩ | ⟨more, hmore, others'⟩
    · -- the value goes on behind the phrase
      cases more with
      | nil =>
        rw [List.append_nil] at hmore
        subst hmore
        refine .inr (.inr ⟨⟨first, sign, value, key, hfirst, hop, hvalue⟩, ?_⟩)
        exact ⟨sign', others, others', hop'⟩
      | cons head tail =>
        have inside := (hmore ▸ hvalue).nesting_pos nonempty (by simp)
        have closed := hbefore.balanced.closed
        have opened := hbefore.balanced.opened (first ++ [sign]) between (by simp [hfirst])
        rw [hfirst] at closed
        simp only [nesting_append, nesting_cons, nesting_nil] at closed opened
        omega
    · cases more with
      | nil =>
        rw [List.append_nil] at hmore
        subst hmore
        exact .inr (.inr ⟨⟨first, sign, between, key, hfirst, hop, hvalue⟩, sign', others,
          others'.symm, hop'⟩)
      | cons head tail =>
        obtain ⟨rfl, -⟩ := List.cons.inj others'
        refine .inl ⟨first, sign, between, hfirst, .inr ?_⟩
        exact ⟨hop, value, key, _, tail, hvalue, hop', hmore⟩

/-- The grammar overloads nothing. -/
theorem Derives.not_overloaded {level : Level} {tokens : List Token} {e : Expr}
    (h : Derives level tokens e) : ¬Overloaded tokens := by
  induction h with
  | operand notOp =>
    intro overloaded
    rcases overloaded.of_cons with here | later
    · exact not_overloads (by simp [notOp]) (by simp [notOp]) here
    · exact not_overloaded_nil later
  | group hopen h hclose ih =>
    intro overloaded
    rcases overloaded.of_cons with here | later
    · exact not_overloads (by simp [hopen]) (by simp [hopen]) here
    rcases later.of_append h with inside | last | ⟨-, sign, rest, last, hop⟩
    · exact ih inside
    · rcases last.of_cons with here | later
      · exact not_overloads (by simp [hclose]) (by simp [hclose]) here
      · exact not_overloaded_nil later
    · obtain ⟨rfl, -⟩ := List.cons.inj last
      rw [hclose] at hop
      contradiction
  | atom _ ih | comparison _ ih | negation _ ih | requirements _ ih | alternatives _ ih => exact ih
  | equal hkey hop hvalue ihKey ihValue =>
    intro overloaded
    rcases overloaded.of_append hkey with inside | later | ⟨compared, -⟩
    · exact ihKey inside
    · rcases later.of_cons with
        (⟨-, negated⟩ | ⟨-, value, e, sign, rest, hatom, hsign, cut⟩) | later
      · rw [hvalue.not_startsNegated (by decide)] at negated
        contradiction
      · subst cut
        exact hvalue.no_cut hsign (by decide) (by decide) hatom.balanced
      · exact ihValue later
    · exact hkey.not_endsCompared compared
  | not hop h ih =>
    intro overloaded
    rcases overloaded.of_cons with (⟨-, negated⟩ | ⟨isEqual, -⟩) | later
    · rw [h.not_startsNegated (by decide)] at negated
      contradiction
    · rw [hop] at isEqual
      contradiction
    · exact ih later
  | and h hop _ ihLeft ihRight | or h hop _ ihLeft ihRight =>
    intro overloaded
    rcases overloaded.of_append h with inside | later | ⟨-, sign, rest, last, isEqual⟩
    · exact ihLeft inside
    · rcases later.of_cons with here | later
      · exact not_overloads (by simp [hop]) (by simp [hop]) here
      · exact ihRight later
    · obtain ⟨rfl, -⟩ := List.cons.inj last
      rw [hop] at isEqual
      contradiction
  | beside h hafter ihLeft ihRight =>
    intro overloaded
    rcases overloaded.of_append h with inside | later | ⟨-, sign, rest, last, isEqual⟩
    · exact ihLeft inside
    · exact ihRight later
    · have begins := hafter.begins
      simp [last, Token.begins, isEqual] at begins

/-- In a phrase of the grammar no phrase is missing, and one has ended where it ends. -/
theorem Derives.gapsFrom_append {level : Level} {tokens : List Token} {e : Expr}
    (h : Derives level tokens e) (rest : List Token) :
    gapsFrom false (tokens ++ rest) = gapsFrom true rest := by
  have joins {level : Level} {after : List Token} {right : Expr} (h : Derives level after right)
      (rest : List Token) : gapsFrom true (after ++ rest) = gapsFrom false (after ++ rest) := by
    obtain ⟨token, others, rfl⟩ := List.exists_cons_of_ne_nil h.ne_nil
    have begins : token.begins = true := by simpa using h.begins
    simp [gapsFrom, begins]
  induction h generalizing rest with
  | operand notOp => simp [gapsFrom, Token.begins, Token.ends, notOp]
  | group hopen _ hclose ih =>
    rw [List.append_assoc, List.cons_append]
    simp [gapsFrom, ih, Token.begins, Token.ends, hopen, hclose]
  | atom _ ih | comparison _ ih | negation _ ih | requirements _ ih | alternatives _ ih =>
    exact ih rest
  | equal _ hop _ ihLeft ihRight | and _ hop _ ihLeft ihRight | or _ hop _ ihLeft ihRight =>
    rw [List.append_assoc, ihLeft, List.cons_append]
    simp [gapsFrom, ihRight, Token.ends, hop]
  | not hop _ ih => simp [gapsFrom, ih, Token.begins, Token.ends, hop]
  | beside _ hafter ihLeft ihRight => rw [List.append_assoc, ihLeft, joins hafter, ihRight]

theorem gapsFrom_suffix (ended : Bool) (first : List Token) (token : Token) (rest : List Token) :
    gapsFrom token.ends rest ≤ gapsFrom ended (first ++ token :: rest) := by
  induction first generalizing ended with
  | nil => exact Nat.le_add_left _ _
  | cons head tail ih => exact Nat.le_trans (ih head.ends) (Nat.le_add_left _ _)

/-- Tokens of a group after which a phrase of some level may come. -/
inductive Awaits : Level → List Token → Prop
  | nil : Awaits .alternatives []
  | beside {before : List Token} {e : Expr} :
      Derives .sequence before e → Awaits .alternatives before
  | alternatives {before : List Token} : Awaits .alternatives before → Awaits .requirements before
  | or {before left : List Token} {sign : Token} {e : Expr} : Awaits .alternatives before →
      Derives .alternatives left e → sign.operator? = some .or →
      Awaits .requirements (before ++ left ++ [sign])
  | requirements {before : List Token} : Awaits .requirements before → Awaits .negation before
  | and {before left : List Token} {sign : Token} {e : Expr} : Awaits .requirements before →
      Derives .requirements left e → sign.operator? = some .and →
      Awaits .negation (before ++ left ++ [sign])
  | negation {before : List Token} : Awaits .negation before → Awaits .comparison before
  | not {before : List Token} {sign : Token} : Awaits .negation before →
      sign.operator? = some .not → Awaits .comparison (before ++ [sign])
  | equal {before left : List Token} {sign : Token} {e : Expr} : Awaits .comparison before →
      Derives .atom left e → sign.operator? = some .equal → Awaits .atom (before ++ left ++ [sign])

/-- Tokens that end in a phrase of some level, which may come there. -/
def Splits (level : Level) (tokens : List Token) : Prop :=
  ∃ before phrase e, tokens = before ++ phrase ∧ Awaits level before ∧ Derives level phrase e

namespace Splits

variable {tokens : List Token}

theorem negation (h : Splits .comparison tokens) : Splits .negation tokens := by
  obtain ⟨before, phrase, e, rfl, awaits, derives⟩ := h
  cases awaits with
  | negation awaits => exact ⟨_, phrase, e, rfl, awaits, .comparison derives⟩
  | not awaits hop => exact ⟨_, _, _, by simp, awaits, .not hop derives⟩

theorem requirements (h : Splits .negation tokens) : Splits .requirements tokens := by
  obtain ⟨before, phrase, e, rfl, awaits, derives⟩ := h
  cases awaits with
  | requirements awaits => exact ⟨_, phrase, e, rfl, awaits, .negation derives⟩
  | and awaits left hop => exact ⟨_, _, _, by simp, awaits, .and left hop derives⟩

theorem alternatives (h : Splits .requirements tokens) : Splits .alternatives tokens := by
  obtain ⟨before, phrase, e, rfl, awaits, derives⟩ := h
  cases awaits with
  | alternatives awaits => exact ⟨_, phrase, e, rfl, awaits, .requirements derives⟩
  | or awaits left hop => exact ⟨_, _, _, by simp, awaits, .or left hop derives⟩

theorem sequence (h : Splits .alternatives tokens) : ∃ e, Derives .sequence tokens e := by
  obtain ⟨before, phrase, e, rfl, awaits, derives⟩ := h
  cases awaits with
  | nil => exact ⟨e, .alternatives derives⟩
  | beside left => exact ⟨_, .beside left derives⟩

end Splits

/-- A phrase has ended, and a `=` may still come. -/
structure Ended (tokens rest : List Token) : Prop where
  splits : Splits .comparison tokens
  compares : ∀ sign more, rest = sign :: more → sign.operator? = some .equal →
    Awaits .atom (tokens ++ [sign])

theorem Ended.derives {tokens rest : List Token} (h : Ended tokens rest) :
    ∃ e, Derives .sequence tokens e :=
  h.splits.negation.requirements.alternatives.sequence

/-- A phrase that begins where a level of its own is awaited: no `not` where only an operand or a
group can be, and behind a `=` no value that is itself compared. -/
structure Begins (level : Level) (before tokens : List Token) : Prop where
  awaits : Awaits level before
  tight : level = .negation ∨ startsNegated tokens = false ∧
    (level = .comparison ∨ level = .atom ∧ ¬Compared tokens)

/-- An operand or group ends the phrase that begins with it. -/
theorem Begins.ended {level : Level} {before phrase rest : List Token} {e : Expr}
    (h : Begins level before (phrase ++ rest)) (derives : Derives .atom phrase e) :
    Ended (before ++ phrase) rest := by
  have free (awaits : Awaits .comparison before) : Ended (before ++ phrase) rest :=
    ⟨⟨before, phrase, e, rfl, awaits, .atom derives⟩, fun _ _ _ hop => .equal awaits derives hop⟩
  obtain ⟨awaits, rfl | ⟨-, rfl | ⟨rfl, single⟩⟩⟩ := h
  · exact free (.negation awaits)
  · exact free awaits
  · cases awaits with
    | @equal before key sign _ awaits hkey hop =>
      refine ⟨⟨before, _, _, by simp, awaits, .equal hkey hop derives⟩, ?_⟩
      rintro sign' more rfl hop'
      exact absurd ⟨phrase, e, sign', more, derives, hop', rfl⟩ single

/-- What is still to be read: no operator is overloaded, and no group is left open. -/
structure Remains (tokens : List Token) : Prop where
  noFin : ∀ token ∈ tokens, token.operator? ≠ some .fin
  mild : ¬Overloaded tokens
  closed : nesting tokens ≤ 0

theorem Remains.drop {first rest : List Token} (h : Remains (first ++ rest))
    (balanced : 0 ≤ nesting first) : Remains rest where
  noFin := fun token mem => h.noFin token (List.mem_append_right first mem)
  mild := fun overloaded => h.mild overloaded.suffix
  closed := by
    have := h.closed
    rw [nesting_append] at this
    omega

theorem Remains.tail {token : Token} {rest : List Token} (h : Remains (token :: rest))
    (deeper : 0 ≤ token.nesting) : Remains rest :=
  @Remains.drop [token] rest h (by simpa using deeper)

/-- Tokens can be read up to the end of their group. -/
def Reaches (before tokens : List Token) : Prop :=
  ∃ phrase rest e, tokens = phrase ++ rest ∧ Derives .sequence (before ++ phrase) e ∧
    ∀ token more, rest = token :: more → token.operator? = some .closeParen

theorem Reaches.append {before phrase rest : List Token} (h : Reaches (before ++ phrase) rest) :
    Reaches before (phrase ++ rest) := by
  obtain ⟨more, others, e, rfl, derives, closes⟩ := h
  exact ⟨phrase ++ more, others, e, (List.append_assoc ..).symm,
    by rwa [List.append_assoc] at derives, closes⟩

-- the reading goes on after each token; a phrase that has ended goes over to the next one first
mutual

theorem Begins.reaches {level : Level} {before tokens : List Token}
    (h : Begins level before tokens) (remains : Remains tokens) (full : gapsFrom false tokens = 0) :
    Reaches before tokens := by
  match tokens with
  | [] => contradiction
  | token :: rest =>
    have begins : token.begins = true := by
      by_contra none
      simp [gapsFrom, none] at full
    have following : gapsFrom token.ends rest = 0 := by
      simpa [gapsFrom, begins] using full
    cases hop : token.operator? with
    | none =>
      have ended : Ended (before ++ [token]) rest := h.ended (.operand hop)
      have ends : token.ends = true := by simp [Token.ends, hop]
      have others : Remains rest := remains.tail (by simp [Token.nesting_operand hop])
      rw [ends] at following
      exact (ended.reaches others following).append
    | some op =>
      cases op with
      | openParen =>
        have ends : token.ends = false := by simp [Token.ends, hop]
        have others : Remains rest := remains.tail (by simp [Token.nesting_open hop])
        rw [ends] at following
        obtain ⟨inner, closed, e, hrest, derives, closes⟩ :=
          Begins.reaches ⟨.requirements (.alternatives .nil), .inl rfl⟩ others following
        cases closed with
        | nil =>
          -- the group would be open at the end
          have balance := remains.closed
          have flat := derives.balanced.closed
          rw [List.append_nil] at hrest
          rw [nesting_cons, Token.nesting_open hop, hrest] at balance
          rw [List.nil_append] at flat
          omega
        | cons closing more =>
          have hclose := closes closing more rfl
          have group : Derives .atom (token :: inner ++ [closing]) e := .group hop derives hclose
          have split : token :: rest = (token :: inner ++ [closing]) ++ more := by simp [hrest]
          have shorter : more.length < rest.length := by
            rw [hrest, List.length_append, List.length_cons]
            omega
          have still : gapsFrom true more = 0 := by
            have within := gapsFrom_suffix false (token :: inner) closing more
            have ends : closing.ends = true := by simp [Token.ends, hclose]
            rw [List.cons_append, ← hrest, full, ends] at within
            exact Nat.le_zero.1 within
          rw [split] at h remains ⊢
          have balance := group.balanced.closed
          exact ((h.ended group).reaches (remains.drop (by omega)) still).append
      | not =>
        obtain ⟨awaits, rfl | ⟨apart, -⟩⟩ := h
        · have ends : token.ends = false := by simp [Token.ends, hop]
          have flat := Token.nesting_operator hop (by decide)
          have others : Remains rest := remains.tail (by omega)
          have tight : startsNegated rest = false := by
            by_contra negated
            exact remains.mild ⟨[], token, rest, rfl, .inl ⟨.inl hop, by simpa using negated⟩⟩
          rw [ends] at following
          exact (Begins.reaches ⟨.not awaits hop, .inr ⟨tight, .inl rfl⟩⟩ others following).append
        · simp [startsNegated, hop] at apart
      | closeParen | equal | and | or | fin => simp [Token.begins, hop] at begins
termination_by (tokens.length, 0)

theorem Ended.reaches {before tokens : List Token} (h : Ended before tokens)
    (remains : Remains tokens) (full : gapsFrom true tokens = 0) : Reaches before tokens := by
  obtain ⟨e, derives⟩ := h.derives
  match tokens with
  | [] => exact ⟨[], [], e, rfl, by simpa using derives, by simp⟩
  | token :: rest =>
    by_cases begins : token.begins = true
    · have apart : gapsFrom false (token :: rest) = 0 := by
        simpa [gapsFrom, begins] using full
      exact Begins.reaches ⟨.requirements (.alternatives (.beside derives)), .inl rfl⟩ remains apart
    · have goesOn {level : Level} (flat : token.nesting = 0) (ends : token.ends = false)
          (awaits : Awaits level (before ++ [token]))
          (tight : level = .negation ∨ startsNegated rest = false ∧
            (level = .comparison ∨ level = .atom ∧ ¬Compared rest)) :
          Reaches before (token :: rest) := by
        have others : Remains rest := remains.tail (by omega)
        have following : gapsFrom false rest = 0 := by simpa [gapsFrom, ends] using full
        exact (Begins.reaches ⟨awaits, tight⟩ others following).append
      cases hop : token.operator? with
      | none => simp [Token.begins, hop] at begins
      | some op =>
        have binds (loose : Operator.or.precedence ≤ op.precedence) : token.nesting = 0 :=
          Token.nesting_operator hop loose
        cases op with
        | openParen | not => simp [Token.begins, hop] at begins
        | fin => exact absurd hop (remains.noFin token (by simp))
        | closeParen =>
          refine ⟨[], token :: rest, e, rfl, by simpa using derives, ?_⟩
          rintro other more heq
          obtain ⟨rfl, -⟩ := List.cons.inj heq
          exact hop
        | equal =>
          refine goesOn (binds (by decide)) (by simp [Token.ends, hop])
            (h.compares token rest rfl hop) (.inr ⟨?_, .inr ⟨rfl, ?_⟩⟩)
          · by_contra negated
            exact remains.mild ⟨[], token, rest, rfl, .inl ⟨.inr hop, by simpa using negated⟩⟩
          · intro compared
            exact remains.mild ⟨[], token, rest, rfl, .inr ⟨hop, compared⟩⟩
        | and =>
          obtain ⟨first, left, tree, rfl, awaits, hleft⟩ := h.splits.negation.requirements
          exact goesOn (binds (by decide)) (by simp [Token.ends, hop]) (.and awaits hleft hop)
            (.inl rfl)
        | or =>
          obtain ⟨first, left, tree, rfl, awaits, hleft⟩ :=
            h.splits.negation.requirements.alternatives
          exact goesOn (binds (by decide)) (by simp [Token.ends, hop])
            (.requirements (.or awaits hleft hop)) (.inl rfl)
termination_by (tokens.length, 1)

end

/-- Balanced tokens are an expression of the grammar if and only if no phrase is missing and no
operator is overloaded. -/
theorem derives_iff {tokens : List Token} (noFin : ∀ token ∈ tokens, token.operator? ≠ some .fin)
    (balanced : Balanced tokens) :
    (∃ e, Derives .sequence tokens e) ↔ gaps tokens = 0 ∧ ¬Overloaded tokens := by
  constructor
  · rintro ⟨e, derives⟩
    refine ⟨?_, derives.not_overloaded⟩
    have ended := derives.gapsFrom_append []
    simpa [gaps, gapsFrom] using ended
  · rintro ⟨full, mild⟩
    have begins : Begins .negation [] tokens := ⟨.requirements (.alternatives .nil), .inl rfl⟩
    obtain ⟨phrase, rest, e, rfl, derives, closes⟩ :=
      begins.reaches ⟨noFin, mild, Int.le_of_eq balanced.closed⟩ full
    cases rest with
    | nil => exact ⟨e, by simpa using derives⟩
    | cons token more =>
      have flat := derives.balanced.closed
      have opened := balanced.opened (phrase ++ [token]) more (by simp)
      rw [List.nil_append] at flat
      rw [nesting_append, flat, nesting_cons, Token.nesting_close (closes token more rfl)] at opened
      contradiction

namespace Program

/-- What is accepted is an expression of the grammar if and only if no phrase is missing and no
operator is overloaded. Operators without operands are refused as long as fewer phrases stand side
by side than are missing; if none do, only expressions of the grammar are accepted. -/
theorem derives_of_judge {tokens : List Token}
    (noFin : ∀ token ∈ tokens, token.operator? ≠ some .fin) :
    (∀ labels answer, judge tokens labels = .ok answer →
      ((∃ e, Derives .sequence tokens e) ↔ gaps tokens = 0 ∧ ¬Overloaded tokens)) ∧
    (tokens.filterMap Token.instruction? ≠ [] → joints tokens < gaps tokens →
      ∀ labels, ∃ error, judge tokens labels = .error error) ∧
    (tokens.filterMap Token.instruction? ≠ [] → joints tokens = 0 → ¬Overloaded tokens →
      ∀ labels, (∃ answer, judge tokens labels = .ok answer) ↔
        ∃ e, Derives .sequence tokens e) := by
  have exactly {labels : Labels} {answer : Bool} (accepted : judge tokens labels = .ok answer) :
      (∃ e, Derives .sequence tokens e) ↔ gaps tokens = 0 ∧ ¬Overloaded tokens := by
    obtain ⟨program, compiled, -⟩ := judge_eq_ok accepted
    exact derives_iff noFin (ofTokens_ok_iff.1 ⟨program, compiled⟩)
  refine ⟨fun labels answer => exactly, ?_, ?_⟩
  · intro nonempty fewer labels
    cases result : judge tokens labels with
    | error error => exact ⟨error, rfl⟩
    | ok answer =>
      have enough := gaps_le_joints noFin nonempty result
      omega
  · intro nonempty apart mild labels
    constructor
    · rintro ⟨answer, accepted⟩
      have enough := gaps_le_joints noFin nonempty accepted
      exact (exactly accepted).2 ⟨by omega, mild⟩
    · rintro ⟨e, derives⟩
      exact derives.judge_ok labels

/-- `not (role and)` lacks an operand and has no juxtaposition. -/
theorem derives_of_judge_role :
    (∀ token ∈ tokenize "not (role and)", token.operator? ≠ some .fin) ∧
      ∀ labels, ∃ error, judge (tokenize "not (role and)") labels = .error error := by
  have tokens : tokenize "not (role and)" = [⟨.word, "not", 0⟩, ⟨.symbol, "(", 4⟩,
      ⟨.word, "role", 5⟩, ⟨.word, "and", 10⟩, ⟨.symbol, ")", 13⟩] := by decide +kernel
  have noFin : ∀ token ∈ tokenize "not (role and)", token.operator? ≠ some .fin := by
    rw [tokens]
    decide
  have refused := (derives_of_judge noFin).2.1
  rw [tokens] at noFin refused ⊢
  exact ⟨noFin, refused (by decide) (by decide)⟩

/-- `role rack and` is accepted, and is no expression of the grammar. -/
theorem judge_role_rack_and :
    (∀ token ∈ tokenize "role rack and", token.operator? ≠ some .fin) ∧
      (∀ labels, ∃ answer, judge (tokenize "role rack and") labels = .ok answer) ∧
      tokenize "role rack and" ≠ [] ∧ ¬∃ e, Derives .sequence (tokenize "role rack and") e := by
  have tokens : tokenize "role rack and" = [⟨.word, "role", 0⟩, ⟨.word, "rack", 5⟩,
      ⟨.word, "and", 10⟩] := by decide +kernel
  rw [tokens]
  refine ⟨by decide, fun labels => ⟨_, rfl⟩, by simp, ?_⟩
  rintro ⟨e, derives⟩
  exact absurd derives.ends (by decide)

end Program

end LabelQuery
