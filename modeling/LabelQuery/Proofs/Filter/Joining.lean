import LabelQuery.Filter.Basic
import LabelQuery.Proofs.Filter.Refilling
import LabelQuery.Proofs.Filter.Separation
import LabelQuery.Proofs.Filter.Spacing
import Mathlib.Data.List.Forall2

/-!
Expressions written one behind the other. A quote that one text leaves open is closed by the next that
holds it, and then what stands between is no longer read. Main statement: texts of which none closes a
quote of another are, with `;` between them, one filter, and it accepts what one of them accepts.
-/
namespace LabelQuery

open Text

/-- The quote that a token begins with, unless the token has another behind it that no backslash directly
precedes. Such a token may go on to the next quote of that sort. -/
def Token.openQuote? (token : Token) : Option Char :=
  match token.text.toList with
  | [] => none
  | c :: following => if isQuote c ∧ cutUnescaped c c following = none then some c else none

/-- The quotes that a text leaves open. -/
def openQuotes (text : String) : List Char :=
  (tokenize text).filterMap Token.openQuote?

/-- No text holds a quote that one in front of it leaves open. -/
def Apart (texts : List String) : Prop :=
  texts.Pairwise fun earlier later => ∀ quote ∈ openQuotes earlier, quote ∉ later.toList

/-- A text of the grammar without juxtaposition. -/
def IsAlternative (text : String) : Prop :=
  ∃ tree, Derives .sequence (tokenize text) tree ∧ tree.isExplicit = true

/-- Texts with at least one `;` between any two of them, and any number behind the last. There may be
white space around each. -/
inductive Joined : List String → List Char → Prop
  | single (text : String) : Joined [text] text.toList
  | blank {texts : List String} {written : List Char} {c : Char} :
      Joined texts written → isBlank c = true → Joined texts (written ++ [c])
  | pause {texts : List String} {written : List Char} :
      Joined texts written → Joined texts (written ++ [';'])
  | next {texts : List String} {written gap : List Char} (text : String) :
      Joined texts written → (∀ c ∈ gap, isBlank c = true) →
      Joined (texts ++ [text]) (written ++ ';' :: (gap ++ text.toList))

section Appending

variable {quote before c : Char} {text rest content after following : List Char} {token : Token}

theorem isQuote_of_openQuote? (h : quote ∈ token.openQuote?) : isQuote quote = true := by
  unfold Token.openQuote? at h
  split at h
  · contradiction
  · split at h
    · next opens =>
      cases h
      exact opens.1
    · contradiction

theorem openQuote?_tokenAt {start : Nat} (quotes : isQuote c = true)
    (read : (lexeme c following).text = c :: text) (unclosed : cutUnescaped c c text = none) :
    c ∈ (tokenAt start c following).openQuote? := by
  simp [Token.openQuote?, tokenAt, read, quotes, unclosed]

theorem cutUnescaped_append_right (h : cutUnescaped quote before text = some (content, after)) :
    cutUnescaped quote before (text ++ rest) = some (content, after ++ rest) := by
  induction text generalizing before content with
  | nil => contradiction
  | cons c others ih =>
    rw [cutUnescaped] at h
    rw [List.cons_append, cutUnescaped]
    split at h
    · next closing =>
      cases h
      rw [if_pos closing]
    · next going =>
      obtain ⟨⟨inner, tail⟩, cut, same⟩ := Option.map_eq_some_iff.1 h
      cases same
      rw [if_neg going, ih cut]
      rfl

/-- A token stays what it is when more text comes behind, if no quote closes it there and a word that is
the last ends there. -/
theorem lexeme_append_right {start : Nat}
    (absent : ∀ quote ∈ (tokenAt start c following).openQuote?, quote ∉ rest)
    (ends : ∀ d ∈ rest.head?, continuesWord d = false) :
    lexeme c (following ++ rest) =
      { lexeme c following with after := (lexeme c following).after ++ rest } := by
  rcases lexeme_cases c following with ⟨content, after, quotes, cut, read⟩ | ⟨symbol, read⟩ |
    ⟨plain, unclosed, read⟩
  · have whole : cutQuoted c (following ++ rest) = some (content, after ++ rest) := by
      have split := cutQuoted_append cut
      cases again : cutUnescaped c c (content ++ [c]) with
      | none =>
        have absent := absent c (openQuote?_tokenAt quotes (by rw [read]; rfl) again)
        have moved := cutQuoted_replace cut fun mem : c ∈ after ++ rest =>
          (List.mem_append.1 mem).resolve_right absent
        rwa [← List.cons_append, ← List.append_assoc, split] at moved
      | some pair =>
        have found := @cutUnescaped_append_right c c _ after _ _ again
        rw [List.append_assoc, List.singleton_append, split] at found
        rw [cutQuoted, found] at cut
        obtain ⟨first, behind⟩ := Prod.mk.inj (Option.some.inj cut)
        rw [cutQuoted, cutUnescaped_append_right found, first, behind]
    rw [read, lexeme, if_pos quotes, whole]
  · rw [read]
    simp [lexeme, not_isQuote_of_isSymbol symbol, symbol]
  · have noCut : (if isQuote c then cutQuoted c (following ++ rest) else none) = none := by
      split
      · next quotes =>
        apply cutQuoted_eq_none.2
        refine List.not_mem_append (unclosed quotes) (absent c ?_)
        apply openQuote?_tokenAt quotes (by rw [read])
        rw [Option.eq_none_iff_forall_not_mem]
        rintro ⟨content, behind⟩ cut
        have holds : c ∈ following.takeWhile continuesWord := by
          rw [← cutUnescaped_append cut]
          simp
        exact unclosed quotes (List.takeWhile_subset _ holds)
      · rfl
    obtain ⟨run, left⟩ := @takeWhile_append_of_ends _ following rest ends
    rw [read, lexeme, noCut]
    simp [plain, run, left]

theorem scan_append {start : Nat}
    (absent : ∀ token ∈ scan start text, ∀ quote ∈ token.openQuote?, quote ∉ rest)
    (ends : ∀ d ∈ rest.head?, continuesWord d = false) :
    scan start (text ++ rest) = scan start text ++ scan (start + text.length) rest := by
  fun_induction scan start text
  case case1 => rfl
  case case2 start c following blank ih =>
    rw [List.cons_append, scan, if_pos blank, ih absent, List.length_cons]
    congr 2
    omega
  case case3 start c following solid read ih =>
    obtain ⟨first, others⟩ := List.forall_mem_cons.1 absent
    have same := lexeme_append_right first ends
    have whole : start + read.text.length + read.after.length = start + (c :: following).length := by
      rw [Nat.add_assoc, ← List.length_append, lexeme_append]
    rw [List.cons_append, scan_solid (by simpa using solid), tokenAt, same, ih others, whole]
    rfl

theorem scan_add (shift start : Nat) (text : List Char) :
    scan (shift + start) text = (scan start text).map (Token.relocate (shift + ·)) := by
  fun_induction scan start text
  case case1 => rw [scan, List.map_nil]
  case case2 start c following blank ih =>
    rw [scan, if_pos blank, ← ih]
    rfl
  case case3 start c following solid read ih =>
    rw [scan_solid (by simpa using solid), Nat.add_assoc, ih]
    rfl

theorem scan_eq_tokenize (place : Nat) (text : String) :
    scan place text.toList = (tokenize text).map (Token.relocate (place + ·)) :=
  scan_add place 0 text.toList

theorem scan_append_blank (blank : isBlank c = true) : scan 0 (text ++ [c]) = scan 0 text := by
  have absent : ∀ token ∈ scan 0 text, ∀ quote ∈ token.openQuote?, quote ∉ [c] := by
    intro token _ quote opens mem
    obtain rfl := List.mem_singleton.1 mem
    rw [not_isBlank_of_isQuote (isQuote_of_openQuote? opens)] at blank
    contradiction
  have ends : ∀ d ∈ [c].head?, continuesWord d = false := by
    rintro d ⟨⟩
    exact continuesWord_eq_false.2 (.inl blank)
  rw [scan_append absent ends, scan, if_pos blank, scan, List.append_nil]

theorem separates (place : Nat) : Token.operator? ⟨.symbol, ";", place⟩ = some .fin := by
  have symbol : Operator.lookup? ";" = some .fin := by decide
  exact symbol

theorem openQuote?_separator (place : Nat) : Token.openQuote? ⟨.symbol, ";", place⟩ = none := by
  simp [Token.openQuote?, isQuote]

theorem scan_separator (absent : ∀ token ∈ scan 0 text, ∀ quote ∈ token.openQuote?, quote ∉ rest) :
    scan 0 (text ++ ';' :: rest) =
      scan 0 text ++ ⟨.symbol, ";", text.length⟩ :: scan (text.length + 1) rest := by
  have ends : ∀ d ∈ (';' :: rest).head?, continuesWord d = false := by
    rintro d ⟨⟩
    rfl
  have absent : ∀ token ∈ scan 0 text, ∀ quote ∈ token.openQuote?, quote ∉ ';' :: rest := by
    intro token mem quote opens
    refine List.not_mem_cons_of_ne_of_not_mem ?_ (absent token mem quote opens)
    rintro rfl
    exact absurd (isQuote_of_openQuote? opens) (by decide)
  rw [scan_append absent ends, scan_solid rfl, Nat.zero_add]
  rfl

end Appending

theorem Program.judge_eq_ok_of_written {tokens others : List Token} {labels : Labels} {answer : Bool}
    (h : judge tokens labels = .ok answer)
    (same : others.map Token.written = tokens.map Token.written) :
    judge others labels = .ok answer := by
  rcases ofTokens_placeless same with ⟨fault, other, failed, -⟩ |
    ⟨program, other, compiled, compiled', alike⟩
  · rw [judge, failed] at h
    contradiction
  · rw [judge, compiled] at h
    have answers : program.evaluate labels = .ok answer := h
    have moved := evaluate_placeless alike labels
    rw [answers] at moved
    rw [judge, compiled']
    change other.evaluate labels = .ok answer
    cases result : other.evaluate labels with
    | error fault =>
      rw [result] at moved
      contradiction
    | ok found =>
      rw [result] at moved
      exact moved

/-- Tokens leave no quote open that none of the texts does. -/
def OpensWithin (texts : List String) (tokens : List Token) : Prop :=
  ∀ token ∈ tokens, ∀ quote ∈ token.openQuote?, ∃ text ∈ texts, quote ∈ openQuotes text

/-- An alternative stands for a text: it has the same tokens, perhaps in other places. -/
def Alternative.Reads (alternative : Alternative) (text : String) : Prop :=
  alternative.tokens.map Token.written = (tokenize text).map Token.written

section Joining

variable {text : String} {texts : List String} {written : List Char}

theorem opensWithin_scan (mem : text ∈ texts) (place : Nat) :
    OpensWithin texts (scan place text.toList) := by
  rw [scan_eq_tokenize]
  refine List.forall_mem_map.2 fun token here quote opens => ⟨text, mem, ?_⟩
  exact List.mem_filterMap.2 ⟨token, here, opens⟩

theorem IsAlternative.moved (h : IsAlternative text) (place : Nat) :
    ∃ alternative : Alternative, alternative.tokens = scan place text.toList ∧
      alternative.Reads text := by
  obtain ⟨tree, derives, explicit⟩ := h
  rw [scan_eq_tokenize]
  have same : SameOperators ((tokenize text).map (Token.relocate (place + ·))) (tokenize text) := by
    rw [SameOperators, List.map_map]
    rfl
  obtain ⟨moved, derives', explicit'⟩ := derives.transfer same
  refine ⟨⟨_, moved, derives', explicit'.trans explicit⟩, rfl, ?_⟩
  rw [Alternative.Reads, List.map_map]
  rfl

/-- Joined texts are read one by one. -/
theorem Joined.separated (h : Joined texts written) (each : ∀ text ∈ texts, IsAlternative text)
    (apart : Apart texts) :
    OpensWithin texts (scan 0 written) ∧
      ∃ alternatives, Separated alternatives (scan 0 written) ∧
        List.Forall₂ Alternative.Reads alternatives texts := by
  induction h with
  | single text =>
    obtain ⟨alternative, tokens, reads⟩ := (each text (by simp)).moved 0
    exact ⟨opensWithin_scan (by simp) 0, [alternative], tokens ▸ .single alternative,
      .cons reads .nil⟩
  | blank _ blank ih =>
    rw [scan_append_blank blank]
    exact ih each apart
  | pause _ ih =>
    obtain ⟨opens, alternatives, separated, alike⟩ := ih each apart
    rw [scan_separator (by simp), scan]
    refine ⟨?_, alternatives, separated.pause (separates _), alike⟩
    exact List.forall_mem_append.2 ⟨opens, by simp [openQuote?_separator]⟩
  | @next texts written gap text _ blank ih =>
    obtain ⟨others, last⟩ := List.forall_mem_append.1 each
    obtain ⟨earlier, -, behind⟩ := List.pairwise_append.1 apart
    obtain ⟨opens, alternatives, separated, alike⟩ := ih others earlier
    have absent : ∀ token ∈ scan 0 written, ∀ quote ∈ token.openQuote?, quote ∉ gap ++ text.toList := by
      intro token mem quote isOpen
      obtain ⟨other, memOther, here⟩ := opens token mem quote isOpen
      refine List.not_mem_append (fun inside => ?_) (behind other memOther text (by simp) quote here)
      have solid := not_isBlank_of_isQuote (isQuote_of_openQuote? isOpen)
      rw [blank quote inside] at solid
      contradiction
    have before : OpensWithin (texts ++ [text]) (scan 0 written) := by
      intro token mem quote isOpen
      obtain ⟨other, memOther, here⟩ := opens token mem quote isOpen
      exact ⟨other, List.mem_append_left _ memOther, here⟩
    rw [scan_separator absent, scan_blank blank]
    obtain ⟨alternative, tokens, reads⟩ := (last text (by simp)).moved (written.length + 1 + gap.length)
    refine ⟨?_, alternatives ++ [alternative], tokens ▸ separated.next (separates _) alternative,
      List.rel_append alike (.cons reads .nil)⟩
    have after := opensWithin_scan (List.mem_append_right texts (List.mem_singleton_self text))
      (written.length + 1 + gap.length)
    refine List.forall_mem_append.2 ⟨before, List.forall_mem_cons.2 ⟨?_, after⟩⟩
    simp [openQuote?_separator]

/-- A text alone answers as the alternative does that stands for it. -/
theorem Alternative.Reads.accepts {alternative : Alternative}
    (reads : alternative.Reads text) :
    ∃ alone, Filter.compile text = .ok alone ∧
      ∀ labels, alone.accepts labels = .ok (alternative.tree.holds labels) := by
  have answers (labels : Labels) :
      Program.judge (tokenize text) labels = .ok (alternative.tree.holds labels) := by
    have answer := (Separated.single alternative).judge labels
    rw [List.any_cons, List.any_nil, Bool.or_false] at answer
    exact Program.judge_eq_ok_of_written answer reads.symm
  cases compiled : Program.compile text with
  | error fault =>
    have refused := answers fun _ => none
    rw [Program.judge, ← Program.compile, compiled] at refused
    contradiction
  | ok program =>
    refine ⟨⟨text, program, compiled⟩, Filter.compile_eq_ok.2 rfl, fun labels => ?_⟩
    have answer := answers labels
    rwa [Program.judge, ← Program.compile, compiled] at answer

theorem any_holds_iff {alternatives : List Alternative}
    (alike : List.Forall₂ Alternative.Reads alternatives texts) (labels : Labels) :
    (alternatives.any fun alternative => alternative.tree.holds labels) = true ↔
      ∃ text ∈ texts, ∃ alone, Filter.compile text = .ok alone ∧ alone.accepts labels = .ok true := by
  induction alike with
  | nil => simp
  | cons reads _ ih =>
    obtain ⟨alone, compiled, answers⟩ := reads.accepts
    rw [List.any_cons, Bool.or_eq_true, ih, List.exists_mem_cons_iff]
    simp [compiled, answers]

/-- Texts with `;` between them are one filter, if none of them closes a quote that one in front of it
leaves open. Its steps are those of one text after the other; those of each work on top of whatever the
others have left there. There is an answer, as there is for each text alone, and it is whether one of
them accepts the labels. -/
theorem Joined.accepts_iff_exists {expression : String} (h : Joined texts expression.toList)
    (each : ∀ text ∈ texts, IsAlternative text) (apart : Apart texts) :
    ∃ filter alternatives, Filter.compile expression = .ok filter ∧
      Separated alternatives (tokenize expression) ∧
      List.Forall₂ Alternative.Reads alternatives texts ∧
      Consecutive (alternatives.map Alternative.tree) filter.program.instructions ∧
      ∀ labels,
        (∀ alternative ∈ alternatives, ∀ stack,
          Program.runAll labels alternative.tree.postorder stack =
            .ok (alternative.tree.datum labels :: stack)) ∧
        (∀ text ∈ texts, ∃ alone answer, Filter.compile text = .ok alone ∧
          alone.accepts labels = .ok answer) ∧
        ∃ answer, filter.accepts labels = .ok answer ∧
          (answer = true ↔ ∃ text ∈ texts, ∃ alone, Filter.compile text = .ok alone ∧
            alone.accepts labels = .ok true) := by
  obtain ⟨-, alternatives, separated, alike⟩ := h.separated each apart
  obtain ⟨program, compiled, consecutive, answers⟩ := separated.ofTokens
  refine ⟨⟨expression, program, compiled⟩, alternatives, Filter.compile_eq_ok.2 rfl, separated,
    alike, consecutive, fun labels => ⟨?_, ?_, _, (answers labels).2, any_holds_iff alike labels⟩⟩
  · intro alternative mem
    exact ((answers labels).1 alternative mem).2
  · intro text mem
    obtain ⟨tree, derives, explicit⟩ := each text mem
    have alone : Alternative.Reads ⟨_, tree, derives, explicit⟩ text := rfl
    obtain ⟨filter, compiled, accepts⟩ := alone.accepts
    exact ⟨filter, _, compiled, accepts labels⟩

end Joining

/-- The quote that the first text leaves open is not the sort of quote in the second. -/
theorem Joined.accepts_iff_exists_open :
    let texts := ["'x", "not (b or \"c ; d\")"]
    let expression := "'x ;; not (b or \"c ; d\");"
    Joined texts expression.toList ∧ (∀ text ∈ texts, IsAlternative text) ∧ Apart texts ∧
      openQuotes "'x" = ['\''] ∧
      ∃ filter, Filter.compile expression = .ok filter ∧
        filter.program.instructions = [.operand "'x", .operator .fin 3, .operand "b",
          .operand "c ; d", .operator .or 13, .operator .not 6, .operator .fin 4,
          .operator .fin 24] ∧
        ∀ labels, ∃ answer, filter.accepts labels = .ok answer ∧
          (answer = true ↔ ∃ text ∈ texts, ∃ alone, Filter.compile text = .ok alone ∧
            alone.accepts labels = .ok true) := by
  intro texts expression
  have blank : isBlank ' ' = true := rfl
  have joined : Joined texts expression.toList := by
    have started := ((Joined.single "'x").blank blank).pause
    have ended := (@Joined.next _ _ [' '] "not (b or \"c ; d\")" started (by simp [blank])).pause
    simpa [texts, expression] using ended
  have first : IsAlternative "'x" := by
    have read : tokenize "'x" = [⟨.word, "'x", 0⟩] := by decide +kernel
    rw [IsAlternative, read]
    exact ⟨_, .alternatives (.requirements (.negation (.comparison (.atom
      (.operand (by decide)))))), rfl⟩
  have second : IsAlternative "not (b or \"c ; d\")" := by
    have read : tokenize "not (b or \"c ; d\")" = [⟨.word, "not", 0⟩, ⟨.symbol, "(", 4⟩,
        ⟨.word, "b", 5⟩, ⟨.word, "or", 7⟩, ⟨.quoted, "\"c ; d\"", 10⟩, ⟨.symbol, ")", 17⟩] := by
      decide +kernel
    rw [IsAlternative, read]
    have either : Derives .sequence
        [⟨.word, "b", 5⟩, ⟨.word, "or", 7⟩, ⟨.quoted, "\"c ; d\"", 10⟩] _ :=
      .alternatives (@Derives.or ⟨.word, "or", 7⟩ [_] [_] _ _
        (.requirements (.negation (.comparison (.atom (.operand (by decide))))))
        (by decide) (.negation (.comparison (.atom (.operand (by decide))))))
    exact ⟨_, .alternatives (.requirements (.negation (.not (by decide)
      (.atom (.group (by decide) either (by decide)))))), rfl⟩
  have each : ∀ text ∈ texts, IsAlternative text := by simp [texts, first, second]
  have quotes : openQuotes "'x" = ['\''] := by decide +kernel
  have apart : Apart texts := List.pairwise_pair.2 (by simp [quotes])
  obtain ⟨filter, alternatives, compiled, -, -, -, answers⟩ := joined.accepts_iff_exists each apart
  have steps : (Filter.compile expression).toOption.map (·.program.instructions) =
      some [.operand "'x", .operator .fin 3, .operand "b", .operand "c ; d", .operator .or 13,
        .operator .not 6, .operator .fin 4, .operator .fin 24] := by
    decide +kernel
  rw [compiled] at steps
  exact ⟨joined, each, apart, quotes, filter, compiled, Option.some.inj steps,
    fun labels => (answers labels).2.2⟩

/-- Of these two texts each stands alone, but the first leaves open a quote that the second holds. Joined
they are one quoted text, which asks for another label. -/
theorem Joined.not_apart :
    let answer := fun text label => do
      let filter ← Filter.compile text
      filter.accepts (Dict.ofList [(label, "")]).get?
    Joined ["'a", "b'"] "'a ; b'".toList ∧ (∀ text ∈ ["'a", "b'"], IsAlternative text) ∧
      answer "'a" "'a" = .ok true ∧ answer "'a ; b'" "'a" = .ok false ∧
      answer "'a" "a ; b" = .ok false ∧ answer "b'" "a ; b" = .ok false ∧
      answer "'a ; b'" "a ; b" = .ok true := by
  intro answer
  have blank : isBlank ' ' = true := rfl
  have joined : Joined ["'a", "b'"] "'a ; b'".toList := by
    have started := (Joined.single "'a").blank blank
    simpa using @Joined.next _ _ [' '] "b'" started (by simp [blank])
  have word (text : String) (read : tokenize text = [⟨.word, text, 0⟩])
      (operand : Token.operator? ⟨.word, text, 0⟩ = none) : IsAlternative text := by
    rw [IsAlternative, read]
    exact ⟨_, .alternatives (.requirements (.negation (.comparison (.atom (.operand operand))))), rfl⟩
  have first := word "'a" (by decide +kernel) (by decide)
  have second := word "b'" (by decide +kernel) (by decide)
  have each : ∀ text ∈ ["'a", "b'"], IsAlternative text :=
    List.forall_mem_cons.2 ⟨first, List.forall_mem_singleton.2 second⟩
  exact ⟨joined, each, by decide +kernel, by decide +kernel, by decide +kernel, by decide +kernel,
    by decide +kernel⟩

end LabelQuery
