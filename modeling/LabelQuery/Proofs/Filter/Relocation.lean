import LabelQuery.Proofs.Filter.Arrangement

/-!
Places are only copied. Conversion and evaluation carry the places of tokens along and decide nothing
by them. Main statement: when tokens are moved, so are the steps of their program and the faults, and
answers stay as they are.
-/
namespace LabelQuery

def Token.relocate (f : Nat → Nat) (token : Token) : Token :=
  { token with offset := f token.offset }

def Instruction.relocate (f : Nat → Nat) : Instruction → Instruction
  | operand text => operand text
  | operator op position => operator op (f position)

def FilterError.relocate (f : Nat → Nat) : FilterError → FilterError
  | unmatchedClose position => unmatchedClose (f position)
  | unclosedOpen position => unclosedOpen (f position)
  | missingOperands op position => missingOperands op (f position)

/-- The kind and text of a token, without its place. -/
def Token.written (token : Token) : TokenKind × String :=
  (token.kind, token.text)

/-- The step, without its place. -/
def Instruction.placeless : Instruction → Instruction :=
  relocate fun _ => 0

/-- The fault, without its place. -/
def FilterError.placeless : FilterError → FilterError :=
  relocate fun _ => 0

/-- An outcome whose places are all moved. -/
def relocated {α β : Type} (f : Nat → Nat) (move : α → β) :
    Except FilterError α → Except FilterError β
  | .error fault => .error (fault.relocate f)
  | .ok result => .ok (move result)

variable {f : Nat → Nat}

@[simp] theorem Token.operator?_relocate (token : Token) :
    (token.relocate f).operator? = token.operator? :=
  rfl

@[simp] theorem Token.value_relocate (token : Token) : (token.relocate f).value = token.value :=
  rfl

@[simp] theorem Token.offset_relocate (token : Token) :
    (token.relocate f).offset = f token.offset :=
  rfl

theorem Token.map_placeless {tokens others : List Token}
    (same : others.map Token.written = tokens.map Token.written) :
    others.map (Token.relocate fun _ => 0) = tokens.map (Token.relocate fun _ => 0) := by
  have rebuilt (tokens : List Token) : tokens.map (Token.relocate fun _ => 0) =
      (tokens.map Token.written).map fun (kind, text) => ⟨kind, text, 0⟩ := by
    rw [List.map_map]
    rfl
  rw [rebuilt, rebuilt, same]

/-! ### Conversion -/

namespace Pending

def relocate (f : Nat → Nat) (pending : Pending) : Pending :=
  { pending with position := f pending.position }

theorem closeGroup?_relocate (waiting : List Pending) :
    closeGroup? (waiting.map (relocate f)) =
      (closeGroup? waiting).map fun (inside, outside) =>
        (inside.map (relocate f), outside.map (relocate f)) := by
  induction waiting with
  | nil => rfl
  | cons top below ih =>
    by_cases mark : top.op = .openParen
    · simp [closeGroup?, relocate, mark]
    · rw [List.map_cons, closeGroup?, closeGroup?, ih]
      simp [relocate, mark, Function.comp_def]

theorem map_emit_relocate (waiting : List Pending) :
    (waiting.map (relocate f)).map emit = (waiting.map emit).map (Instruction.relocate f) := by
  rw [List.map_map, List.map_map]
  rfl

theorem advance_relocate (token : Token) (waiting : List Pending) :
    advance (token.relocate f) (waiting.map (relocate f)) =
      relocated f (fun (emitted, left) =>
        (emitted.map (Instruction.relocate f), left.map (relocate f))) (advance token waiting) := by
  have goes (op : Operator) : goesBefore op ∘ relocate f = goesBefore op := rfl
  cases hop : token.operator? with
  | none => simp [advance, hop, relocated, Instruction.relocate]
  | some op =>
    cases op with
    | openParen => simp [advance, hop, relocated, relocate]
    | closeParen =>
      simp only [advance, Token.operator?_relocate, hop, closeGroup?_relocate]
      cases closeGroup? waiting with
      | none => rfl
      | some parts => simp only [Option.map_some, map_emit_relocate, relocated]
    | equal | not | and | or | fin =>
      simp only [advance, Token.operator?_relocate, hop, List.takeWhile_map, List.dropWhile_map,
        goes, map_emit_relocate]
      rfl

theorem drain_relocate (waiting : List Pending) :
    drain (waiting.map (relocate f)) =
      relocated f (List.map (Instruction.relocate f)) (drain waiting) := by
  induction waiting with
  | nil => rfl
  | cons top below ih =>
    by_cases mark : top.op = .openParen
    · simp [drain, relocate, mark, relocated, FilterError.relocate]
    · rw [List.map_cons, drain, drain, ih]
      simp only [relocate, mark, if_false]
      cases drain below <;> rfl

theorem convert_relocate (tokens : List Token) (waiting : List Pending) :
    convert (tokens.map (Token.relocate f)) (waiting.map (relocate f)) =
      relocated f (List.map (Instruction.relocate f)) (convert tokens waiting) := by
  induction tokens generalizing waiting with
  | nil => exact drain_relocate waiting
  | cons token tokens ih =>
    rw [List.map_cons, convert, convert, advance_relocate]
    cases advance token waiting with
    | error fault => rfl
    | ok result =>
      obtain ⟨emitted, left⟩ := result
      simp only [relocated, bind, Except.bind, ih]
      cases convert tokens left with
      | error fault => rfl
      | ok following => simp [pure, Except.pure]

end Pending

/-! ### Evaluation -/

theorem Instruction.isFin_relocate (instruction : Instruction) :
    (instruction.relocate f).isFin = instruction.isFin := by
  cases instruction with
  | operand => rfl
  | operator op => cases op <;> rfl

theorem Instruction.run_relocate (labels : Labels) (instruction : Instruction)
    (stack : List Datum) :
    (instruction.relocate f).run labels stack = relocated f id (instruction.run labels stack) := by
  cases instruction with
  | operand => rfl
  | operator op position =>
    cases op with
    | openParen | closeParen => rfl
    | fin | not => cases stack <;> rfl
    | equal | and | or => rcases stack with _ | ⟨a, _ | ⟨b, rest⟩⟩ <;> rfl

namespace Program

theorem runAll_relocate (labels : Labels) (instructions : List Instruction) (stack : List Datum) :
    runAll labels (instructions.map (Instruction.relocate f)) stack =
      relocated f id (runAll labels instructions stack) := by
  induction instructions generalizing stack with
  | nil => rfl
  | cons instruction rest ih =>
    rw [List.map_cons, runAll_cons, runAll_cons, Instruction.run_relocate]
    cases instruction.run labels stack with
    | error fault => rfl
    | ok next => exact ih next

theorem close_relocate (steps : List Instruction) (stop : Nat) :
    (close (steps.map (Instruction.relocate f)) (f stop)).instructions =
      (close steps stop).instructions.map (Instruction.relocate f) := by
  have last : (steps.map (Instruction.relocate f)).getLast?.any Instruction.isFin =
      steps.getLast?.any Instruction.isFin := by
    simp [List.getLast?_map, Option.any_map, Instruction.isFin_relocate]
  rw [instructions_close_ite, instructions_close_ite, last, List.map_append]
  split <;> rfl

theorem evaluate_placeless {program other : Program}
    (same : other.instructions.map Instruction.placeless =
      program.instructions.map Instruction.placeless) (labels : Labels) :
    (other.evaluate labels).mapError FilterError.placeless =
      (program.evaluate labels).mapError FilterError.placeless := by
  have moved (program : Program) : (program.evaluate labels).mapError FilterError.placeless =
      (runAll labels (program.instructions.map Instruction.placeless) []).map (answer labels) := by
    rw [Instruction.placeless, runAll_relocate, evaluate]
    cases runAll labels program.instructions [] <;> rfl
  rw [moved, moved, same]

/-- Tokens of the same kinds and texts fail alike, or are programs that differ in places alone. -/
theorem ofTokens_placeless {tokens others : List Token}
    (same : others.map Token.written = tokens.map Token.written) :
    (∃ fault other, ofTokens tokens = .error fault ∧ ofTokens others = .error other ∧
      other.placeless = fault.placeless) ∨
    ∃ program other, ofTokens tokens = .ok program ∧ ofTokens others = .ok other ∧
      other.instructions.map Instruction.placeless =
        program.instructions.map Instruction.placeless := by
  have moved (tokens : List Token) :
      Pending.convert (tokens.map (Token.relocate fun _ => 0)) [] =
        relocated (fun _ => 0) (List.map Instruction.placeless) (Pending.convert tokens []) :=
    Pending.convert_relocate tokens []
  have alike := (moved others).symm.trans
    ((congrArg (Pending.convert · []) (Token.map_placeless same)).trans (moved tokens))
  rw [ofTokens, ofTokens]
  cases hfirst : Pending.convert tokens [] with
  | error fault =>
    cases hsecond : Pending.convert others [] with
    | error other =>
      rw [hfirst, hsecond] at alike
      exact .inl ⟨fault, other, rfl, rfl, Except.error.inj alike⟩
    | ok steps =>
      rw [hfirst, hsecond] at alike
      contradiction
  | ok steps =>
    cases hsecond : Pending.convert others [] with
    | error other =>
      rw [hfirst, hsecond] at alike
      contradiction
    | ok otherSteps =>
      rw [hfirst, hsecond] at alike
      have steps_eq : otherSteps.map Instruction.placeless = steps.map Instruction.placeless :=
        Except.ok.inj alike
      refine .inr ⟨_, _, rfl, rfl, ?_⟩
      rw [Instruction.placeless, ← close_relocate, ← close_relocate]
      exact congrArg (fun steps => (close steps 0).instructions) steps_eq

end Program

end LabelQuery
