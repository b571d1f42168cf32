import LabelQuery.Proofs.Filter.Relocation

/-!
Which program a printed text stands for. Steps are divided by blanks, and texts that hold blanks are
printed between quotes, but quotes inside a text are not told from those around it, and the operand
`fin` is not told from the step. Main statement: nothing else is ever mistaken.
-/
namespace LabelQuery

open Text

/-- Two steps that may be printed alike where more follows: the operand `fin` and the step `fin`, and a
text and another that has a quote and a blank where the first is over. -/
inductive Mistaken : Instruction → Instruction → Prop
  | fin (position : Nat) : Mistaken (.operand "fin") (.operator .fin position)
  | quoted (text rest : String) : Mistaken (.operand text) (.operand (text ++ "\" " ++ rest))

/-- Steps that agree, places apart, up to the first that is mistaken. -/
inductive Diverges : List Instruction → List Instruction → Prop
  | here {one other : Instruction} (rest others : List Instruction) :
      Mistaken one other ∨ Mistaken other one → Diverges (one :: rest) (other :: others)
  | later {one other : Instruction} {rest others : List Instruction} :
      one.placeless = other.placeless → Diverges rest others →
      Diverges (one :: rest) (other :: others)

/-- A text that is never mistaken. -/
def IsClear (text : String) : Prop :=
  text ≠ "fin" ∧ ¬['"', ' '] <:+: text.toList

/-- The same steps, places apart. -/
def Program.Alike (program other : Program) : Prop :=
  program.instructions.map Instruction.placeless = other.instructions.map Instruction.placeless

/-! ### One step -/

theorem Operator.lookup?_name {op : Operator} (h : op ≠ .fin) : lookup? op.name = some op := by
  cases op with
  | fin => contradiction
  | openParen | closeParen | equal | not | and | or => decide

theorem Operator.name_inj {op other : Operator} (h : op.name = other.name) : op = other := by
  cases op <;> cases other <;> simp_all [name, symbol?]

namespace Instruction

/-- A step that is printed without quotes, with the text that it is printed as. -/
inductive Plain : Instruction → String → Prop
  | operand {text : String} : needsQuotes text = false → Plain (.operand text) text
  | operator (op : Operator) (position : Nat) : Plain (.operator op position) op.name

theorem print_cases (step : Instruction) :
    (∃ text, step = .operand text ∧ step.print.toList = '"' :: (text.toList ++ ['"'])) ∨
      step.Plain step.print := by
  cases step with
  | operand text =>
    by_cases quotes : needsQuotes text = true
    · exact .inl ⟨text, rfl, by simp [print, quotes]⟩
    · rw [Bool.not_eq_true] at quotes
      have printed : (operand text).print = text := by simp [print, quotes]
      rw [printed]
      exact .inr (.operand quotes)
  | operator op position => exact .inr (.operator op position)

variable {step one other : Instruction} {text : String} {rest others : List Char}

theorem Plain.solid (h : step.Plain text) :
    text ≠ "" ∧ ∀ c ∈ text.toList, c ≠ ' ' ∧ c ≠ '"' := by
  cases h with
  | operand unquoted =>
    simp only [needsQuotes, Bool.or_eq_false_iff, decide_eq_false_iff_not, List.any_eq_false,
      Bool.or_eq_true, not_or] at unquoted
    refine ⟨unquoted.1.1, fun c mem => ⟨?_, ?_⟩⟩
    · rintro rfl
      exact (unquoted.2 _ mem).1.1 rfl
    · rintro rfl
      exact (unquoted.2 _ mem).2 rfl
  | operator op => cases op <;> simp [Operator.name, Operator.symbol?]

theorem Plain.alike_or_mistaken (h : one.Plain text) (h' : other.Plain text) :
    one.placeless = other.placeless ∨ Mistaken one other ∨ Mistaken other one := by
  have fin {op : Operator} (unquoted : needsQuotes op.name = false) : op = .fin := by
    by_contra notFin
    simp [needsQuotes, Operator.lookup?_name notFin] at unquoted
  cases h with
  | operand unquoted =>
    cases h' with
    | operand => exact .inl rfl
    | operator op position =>
      obtain rfl := fin unquoted
      exact .inr (.inl (.fin position))
  | operator op position =>
    generalize named : op.name = text at h'
    cases h' with
    | operand unquoted =>
      obtain rfl := fin (named ▸ unquoted)
      subst named
      exact .inr (.inr (.fin position))
    | operator op' position' =>
      obtain rfl := Operator.name_inj named
      exact .inl rfl

/-- A run without blanks is over at the first blank. -/
theorem eq_of_append_eq {first second : List Char} (h : first ++ rest = second ++ others)
    (solid : ∀ c ∈ first, c ≠ ' ') (solid' : ∀ c ∈ second, c ≠ ' ')
    (ends : ∀ c ∈ rest.head?, c = ' ') (ends' : ∀ c ∈ others.head?, c = ' ') :
    first = second ∧ rest = others := by
  induction first generalizing second with
  | nil =>
    cases second with
    | nil => exact ⟨rfl, h⟩
    | cons d tail => exact absurd (ends d (by simpa using congrArg List.head? h)) (solid' d (by simp))
  | cons c tail ih =>
    obtain ⟨first, solid⟩ := List.forall_mem_cons.1 solid
    cases second with
    | nil => exact absurd (ends' c (by simpa using congrArg List.head? h.symm)) first
    | cons d tail' =>
      rw [List.cons_append, List.cons_append] at h
      obtain ⟨rfl, behind⟩ := List.cons.inj h
      obtain ⟨rfl, same⟩ := ih behind solid (List.forall_mem_cons.1 solid').2
      exact ⟨rfl, same⟩

/-- Of two quoted texts the longer has a quote and a blank where the shorter is over. -/
theorem quoted_of_longer {text other : String} {a : List Char} (ends : ∀ c ∈ rest.head?, c = ' ')
    (longer : other.toList = text.toList ++ a) (h : '"' :: rest = a ++ '"' :: others) :
    (text = other ∧ rest = others) ∨ Mistaken (.operand text) (.operand other) := by
  rcases a with _ | ⟨quote, _ | ⟨c, tail⟩⟩
  · rw [List.append_nil, String.toList_inj] at longer
    exact .inl ⟨longer.symm, (List.cons.inj h).2⟩
  · rw [List.singleton_append] at h
    obtain ⟨rfl, rfl⟩ := List.cons.inj h
    exact absurd (ends '"' rfl) (by decide)
  · rw [List.cons_append, List.cons_append] at h
    obtain ⟨rfl, rfl⟩ := List.cons.inj h
    obtain rfl : c = ' ' := ends c rfl
    have written : other = text ++ "\" " ++ String.ofList tail := by
      simp [← String.toList_inj, longer]
    rw [written]
    exact .inr (.quoted text _)

theorem Plain.ne_quoted (h : step.Plain text) : text.toList ++ rest ≠ '"' :: others := by
  obtain ⟨nonempty, solid⟩ := h.solid
  obtain ⟨c, tail, chars⟩ := List.exists_cons_of_ne_nil (mt String.toList_eq_nil_iff.1 nonempty)
  intro same
  rw [chars, List.cons_append] at same
  exact (solid c (by simp [chars])).2 (List.cons.inj same).1

/-- What is printed next decides the step, unless it is mistaken. -/
theorem print_append (h : one.print.toList ++ rest = other.print.toList ++ others)
    (ends : ∀ c ∈ rest.head?, c = ' ') (ends' : ∀ c ∈ others.head?, c = ' ') :
    (one.placeless = other.placeless ∧ rest = others) ∨ Mistaken one other ∨ Mistaken other one := by
  rcases one.print_cases with ⟨text, rfl, quoted⟩ | plain
  · rcases other.print_cases with ⟨text', rfl, quoted'⟩ | plain'
    · rw [quoted, quoted', List.cons_append, List.cons_append, List.append_assoc,
        List.append_assoc] at h
      rcases List.append_eq_append_iff.1 (List.cons.inj h).2 with ⟨a, longer, h⟩ | ⟨a, longer, h⟩
      · rcases quoted_of_longer ends longer h with ⟨rfl, same⟩ | mistaken
        · exact .inl ⟨rfl, same⟩
        · exact .inr (.inl mistaken)
      · rcases quoted_of_longer ends' longer h with ⟨rfl, same⟩ | mistaken
        · exact .inl ⟨rfl, same.symm⟩
        · exact .inr (.inr mistaken)
    · rw [quoted, List.cons_append] at h
      exact absurd h.symm plain'.ne_quoted
  · rcases other.print_cases with ⟨text', rfl, quoted'⟩ | plain'
    · rw [quoted', List.cons_append] at h
      exact absurd h plain.ne_quoted
    · obtain ⟨same, left⟩ := eq_of_append_eq h (fun c mem => (plain.solid.2 c mem).1)
        (fun c mem => (plain'.solid.2 c mem).1) ends ends'
      rw [String.toList_inj] at same
      rcases plain.alike_or_mistaken (same ▸ plain') with alike | mistaken
      · exact .inl ⟨alike, left⟩
      · exact .inr mistaken

end Instruction

/-! ### All steps -/

/-- Steps as they are printed behind another. -/
def printedAfter (steps : List Instruction) : List Char :=
  steps.flatMap fun step => ' ' :: step.print.toList

theorem printedAfter_cons (step : Instruction) (steps : List Instruction) :
    printedAfter (step :: steps) = ' ' :: (step.print.toList ++ printedAfter steps) := by
  simp [printedAfter]

theorem printedAfter_head (steps : List Instruction) : ∀ c ∈ (printedAfter steps).head?, c = ' ' := by
  cases steps <;> simp [printedAfter]

theorem toList_joined {steps : List Instruction} (nonempty : steps ≠ []) :
    ' ' :: (joined " " (steps.map Instruction.print)).toList = printedAfter steps := by
  induction steps with
  | nil => contradiction
  | cons step rest ih =>
    cases rest with
    | nil => simp [joined, printedAfter]
    | cons next rest =>
      rw [printedAfter_cons, ← ih (by simp)]
      simp [joined]

theorem Mistaken.placeless_ne {one other : Instruction} (h : Mistaken one other) :
    one.placeless ≠ other.placeless := by
  cases h with
  | fin position => simp [Instruction.placeless, Instruction.relocate]
  | quoted text rest =>
    intro same
    have whole := congrArg String.toList (Instruction.operand.inj same)
    simp at whole

theorem Mistaken.exists_unclear {one other : Instruction} (h : Mistaken one other) :
    ∃ text, ¬IsClear text ∧ (.operand text = one ∨ .operand text = other) := by
  cases h with
  | fin position => exact ⟨"fin", by simp [IsClear], .inl rfl⟩
  | quoted text rest =>
    have inside : ['"', ' '] <:+: (text ++ "\" " ++ rest).toList :=
      ⟨text.toList, rest.toList, by simp⟩
    exact ⟨_, fun clear => clear.2 inside, .inr rfl⟩

theorem Diverges.not_alike {steps others : List Instruction} (h : Diverges steps others) :
    steps.map Instruction.placeless ≠ others.map Instruction.placeless := by
  induction h with
  | here rest others mistaken =>
    intro same
    have first := (List.cons.inj same).1
    rcases mistaken with mistaken | mistaken
    · exact mistaken.placeless_ne first
    · exact mistaken.placeless_ne first.symm
  | later _ _ ih =>
    intro same
    exact ih (List.cons.inj same).2

theorem Diverges.exists_unclear {steps others : List Instruction} (h : Diverges steps others) :
    ∃ text, ¬IsClear text ∧ (.operand text ∈ steps ∨ .operand text ∈ others) := by
  induction h with
  | @here one other rest others mistaken =>
    obtain ⟨text, unclear, same⟩ :
        ∃ text, ¬IsClear text ∧ (.operand text = one ∨ .operand text = other) := by
      rcases mistaken with mistaken | mistaken
      · exact mistaken.exists_unclear
      · obtain ⟨text, unclear, same⟩ := mistaken.exists_unclear
        exact ⟨text, unclear, same.symm⟩
    exact ⟨text, unclear, same.imp (fun first => List.mem_cons.2 (.inl first))
      fun first => List.mem_cons.2 (.inl first)⟩
  | later _ _ ih =>
    obtain ⟨text, unclear, mem⟩ := ih
    exact ⟨text, unclear, mem.imp (List.mem_cons_of_mem _) (List.mem_cons_of_mem _)⟩

/-- Steps that are printed alike agree up to the first that is mistaken. -/
theorem alike_or_diverges {steps others : List Instruction}
    (same : printedAfter steps = printedAfter others) :
    steps.map Instruction.placeless = others.map Instruction.placeless ∨ Diverges steps others := by
  induction steps generalizing others with
  | nil =>
    cases others with
    | nil => exact .inl rfl
    | cons => simp [printedAfter] at same
  | cons one rest ih =>
    cases others with
    | nil => simp [printedAfter] at same
    | cons other others =>
      rw [printedAfter_cons, printedAfter_cons] at same
      rcases Instruction.print_append (List.cons.inj same).2 (printedAfter_head _)
        (printedAfter_head _) with ⟨alike, behind⟩ | mistaken
      · rcases ih behind with same | diverges
        · exact .inl (by rw [List.map_cons, List.map_cons, alike, same])
        · exact .inr (.later alike diverges)
      · exact .inr (.here _ _ mistaken)

namespace Program

theorem instructions_ne_nil (program : Program) : program.instructions ≠ [] := by
  intro nothing
  have ends := program.ends_fin
  simp [nothing] at ends

/-- Programs that are printed alike have the same steps, places apart, and then the same answers, unless
the first that differ are an operand `fin` and a step `fin`, or a text and another that has a quote and a
blank where the first is over. So texts without these are told from all others. -/
theorem alike_of_print_eq {program other : Program} (same : program.print = other.print) :
    (program.Alike other ↔ ¬Diverges program.instructions other.instructions) ∧
    (program.Alike other → ∀ labels,
      (program.evaluate labels).mapError FilterError.placeless =
        (other.evaluate labels).mapError FilterError.placeless) ∧
    ((∀ text, .operand text ∈ program.instructions ∨ .operand text ∈ other.instructions →
      IsClear text) → program.Alike other) := by
  have printed : printedAfter program.instructions = printedAfter other.instructions := by
    rw [← toList_joined program.instructions_ne_nil, ← toList_joined other.instructions_ne_nil]
    exact congrArg (' ' :: String.toList ·) same
  have cases := alike_or_diverges printed
  refine ⟨⟨?_, ?_⟩, ?_, ?_⟩
  · intro alike diverges
    exact diverges.not_alike alike
  · intro agree
    exact cases.resolve_right agree
  · intro alike labels
    exact evaluate_placeless alike labels
  · intro clear
    refine cases.resolve_right fun diverges => ?_
    obtain ⟨text, unclear, mem⟩ := diverges.exists_unclear
    exact unclear (clear text mem)

/-- `a and b` and `a  AND 'b'` are one program at other places. -/
theorem alike_of_print_eq_and :
    ∃ program other, compile "a and b" = .ok program ∧ compile "a  AND 'b'" = .ok other ∧
      program.print = other.print ∧ program ≠ other ∧ program.Alike other := by
  let program : Program :=
    ⟨[.operand "a", .operand "b", .operator .and 2, .operator .fin 7], rfl⟩
  let other : Program :=
    ⟨[.operand "a", .operand "b", .operator .and 3, .operator .fin 10], rfl⟩
  have tokens : tokenize "a and b" = [⟨.word, "a", 0⟩, ⟨.word, "and", 2⟩, ⟨.word, "b", 6⟩] := by
    decide +kernel
  have tokens' : tokenize "a  AND 'b'" =
      [⟨.word, "a", 0⟩, ⟨.word, "AND", 3⟩, ⟨.quoted, "'b'", 7⟩] := by
    decide +kernel
  have same : program.print = other.print := by decide
  have clear : ∀ text, .operand text ∈ program.instructions ∨ .operand text ∈ other.instructions →
      IsClear text := by
    intro text mem
    have word : text = "a" ∨ text = "b" := by simpa [program, other] using mem
    rcases word with rfl | rfl <;> exact ⟨by decide, by decide⟩
  refine ⟨program, other, ?_, ?_, same, by decide, (alike_of_print_eq same).2.2 clear⟩
  · rw [compile, tokens]
    rfl
  · rw [compile, tokens']
    rfl

/-- The label `fin` and `;;` are both printed `fin fin`, and two quoted texts as one that has quotes in
it. -/
theorem print_fin :
    (∃ program other, compile "fin" = .ok program ∧ compile ";;" = .ok other ∧
      program.print = other.print ∧ program.evaluate (fun _ => none) = .ok false ∧
      other.evaluate (fun _ => none) = .ok true) ∧
    ∃ program other, compile "'x y' 'z w'" = .ok program ∧ compile "'x y\" \"z w'" = .ok other ∧
      program.print = other.print ∧
      program.evaluate (fun name => if name = "x y" then some "" else none) = .ok true ∧
      other.evaluate (fun name => if name = "x y" then some "" else none) = .ok false := by
  have label : tokenize "fin" = [⟨.word, "fin", 0⟩] := by decide +kernel
  have steps : tokenize ";;" = [⟨.symbol, ";", 0⟩, ⟨.symbol, ";", 1⟩] := by decide +kernel
  have two : tokenize "'x y' 'z w'" = [⟨.quoted, "'x y'", 0⟩, ⟨.quoted, "'z w'", 6⟩] := by
    decide +kernel
  have one : tokenize "'x y\" \"z w'" = [⟨.quoted, "'x y\" \"z w'", 0⟩] := by decide +kernel
  rw [compile, label, compile, steps, compile, two, compile, one]
  exact ⟨⟨_, _, rfl, rfl, by decide, rfl, rfl⟩, _, _, rfl, rfl, by decide, rfl, rfl⟩

end Program

end LabelQuery
