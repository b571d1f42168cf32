import LabelQuery.Proofs.Filter.Relocation
import LabelQuery.Proofs.Filter.Tiling

/-!
White space between tokens. A quote is closed, or never is, by what follows it anywhere in the
expression, so it is not plain that a token stays what it is when the text behind it changes. Main
statement: the texts of an expression's tokens, written again with any white space between them, are
the same tokens, and the filter is the same but for its places.
-/
namespace LabelQuery

open Text

/-- The texts of tokens, each with white space behind it that is not empty before another token. -/
inductive SpacedFrom : List Token → List Char → Prop
  | nil : SpacedFrom [] []
  | cons {token : Token} {gap text : List Char} {tokens : List Token} :
      (∀ c ∈ gap, isBlank c = true) → (tokens ≠ [] → gap ≠ []) → SpacedFrom tokens text →
      SpacedFrom (token :: tokens) (token.text.toList ++ gap ++ text)

/-- The texts of tokens with white space between any two of them, and perhaps before and behind. -/
def Spaced (tokens : List Token) (expression : String) : Prop :=
  ∃ gap text, expression.toList = gap ++ text ∧ (∀ c ∈ gap, isBlank c = true) ∧
    SpacedFrom tokens text

section Replacing

variable {quote : Char} {head after rest following content : List Char} {last : Nat}

/-- What follows the closing quote does not matter, unless the same quote comes there for the first
time. -/
theorem ClosesAt.replace (h : ClosesAt quote (head ++ after) last) (length : head.length = last + 2)
    (known : quote ∈ rest → quote ∈ after) : ClosesAt quote (head ++ rest) last := by
  have same : ∀ i < last + 2, (head ++ rest)[i]? = (head ++ after)[i]? := by
    intro i below
    rw [List.getElem?_append_left (by omega), List.getElem?_append_left (by omega)]
  obtain ⟨closed, choice⟩ := h
  refine ⟨by rw [same _ (by omega)]; exact closed, ?_⟩
  rcases choice with ⟨plain, escaped⟩ | ⟨escaped, none⟩
  · left
    refine ⟨by rw [same _ (by omega)]; exact plain, fun i below found => ?_⟩
    rw [same _ (by omega)] at found ⊢
    exact escaped i below found
  · right
    have gone : quote ∉ after := by
      intro mem
      obtain ⟨i, found⟩ := List.mem_iff_getElem?.1 mem
      apply none (last + 1 + i) (by omega)
      rw [List.getElem?_append_right (by omega), length, ← found]
      congr 1
      omega
    have behind : ∀ i > last, (head ++ rest)[i + 1]? ≠ some quote := by
      intro i above found
      rw [List.getElem?_append_right (by omega)] at found
      exact gone (known (List.mem_of_getElem? found))
    refine ⟨fun i found => ?_, behind⟩
    rcases Nat.lt_or_ge last i with above | inside
    · exact absurd found (behind i above)
    · rw [same _ (by omega)] at found ⊢
      exact escaped i found

theorem cutQuoted_replace (h : cutQuoted quote following = some (content, after))
    (known : quote ∈ rest → quote ∈ after) :
    cutQuoted quote (content ++ quote :: rest) = some (content, rest) := by
  obtain ⟨whole, closes⟩ := cutQuoted_eq_some.1 h
  have split (tail : List Char) :
      quote :: (content ++ quote :: tail) = (quote :: content ++ [quote]) ++ tail := by simp
  rw [← whole, split] at closes
  refine cutQuoted_eq_some.2 ⟨rfl, ?_⟩
  rw [split]
  exact closes.replace (by simp) known

end Replacing

theorem not_isQuote_of_isSymbol {c : Char} (h : isSymbol c = true) : isQuote c = false := by
  rw [← Bool.not_eq_true]
  intro quotes
  rw [not_isSymbol_of_isQuote quotes] at h
  contradiction

theorem takeWhile_append_of_ends {p : Char → Bool} {text rest : List Char}
    (ends : ∀ d ∈ rest.head?, p d = false) :
    (text ++ rest).takeWhile p = text.takeWhile p ∧
      (text ++ rest).dropWhile p = text.dropWhile p ++ rest := by
  induction text with
  | nil =>
    cases rest with
    | nil => exact ⟨rfl, rfl⟩
    | cons d others => simp [ends d rfl]
  | cons c others ih =>
    by_cases inside : p c = true <;> simp [inside, ih]

/-- A token stays what it is when other text follows it, if a word ends there as well and the quote it
may begin with does not come there for the first time. -/
theorem lexeme_replace {c : Char} {following rest : List Char} {read : Lexeme}
    (h : lexeme c following = read) (known : isQuote c = true → c ∈ rest → c ∈ read.after)
    (ends : ∀ d ∈ rest.head?, continuesWord d = false) :
    ∃ content, read.text = c :: content ∧
      lexeme c (content ++ rest) = { read with after := rest } := by
  subst h
  rcases lexeme_cases c following with ⟨content, after, quotes, cut, read⟩ | ⟨symbol, read⟩ |
    ⟨plain, unclosed, read⟩
  · rw [read] at known ⊢
    refine ⟨content ++ [c], rfl, ?_⟩
    rw [List.append_assoc, List.singleton_append, lexeme, if_pos quotes,
      cutQuoted_replace cut (known quotes)]
  · rw [read]
    refine ⟨[], rfl, ?_⟩
    simp [lexeme, not_isQuote_of_isSymbol symbol, symbol]
  · rw [read] at known ⊢
    refine ⟨following.takeWhile continuesWord, rfl, ?_⟩
    have inside : ∀ d ∈ following.takeWhile continuesWord, continuesWord d = true :=
      fun d mem => List.all_eq_true.1 List.all_takeWhile d mem
    obtain ⟨run, left⟩ := @takeWhile_append_of_ends _ [] rest ends
    rw [List.nil_append] at run left
    have noCut : (if isQuote c then
        cutQuoted c (following.takeWhile continuesWord ++ rest) else none) = none := by
      split
      · next quotes =>
        rw [cutQuoted_eq_none]
        intro mem
        apply unclosed quotes
        rcases List.mem_append.1 mem with mem | mem
        · exact List.takeWhile_subset _ mem
        · exact List.dropWhile_subset _ (known quotes mem)
      · rfl
    rw [lexeme, noCut]
    simp [plain, List.takeWhile_append_of_pos inside, List.dropWhile_append_of_pos inside, run, left]

/-! ### All tokens -/

section Scanning

variable {start place : Nat} {text gap : List Char} {token : Token} {tokens : List Token}

theorem scan_blank (blank : ∀ c ∈ gap, isBlank c = true) :
    scan place (gap ++ text) = scan (place + gap.length) text := by
  induction gap generalizing place with
  | nil => rfl
  | cons c rest ih =>
    obtain ⟨first, others⟩ := List.forall_mem_cons.1 blank
    rw [List.cons_append, scan, if_pos first, ih others, List.length_cons]
    congr 1
    omega

theorem scan_solid {c : Char} {following : List Char} (solid : isBlank c = false) :
    scan place (c :: following) = tokenAt place c following ::
      scan (place + (lexeme c following).text.length) (lexeme c following).after := by
  rw [scan, if_neg (by simp [solid])]
  rfl

theorem scan_eq_cons (h : scan start text = token :: tokens) :
    ∃ gap c following place, text = gap ++ c :: following ∧ isBlank c = false ∧
      token = tokenAt place c following ∧
      scan (place + (lexeme c following).text.length) (lexeme c following).after = tokens := by
  fun_induction scan start text
  case case1 => contradiction
  case case2 start c following blank ih =>
    obtain ⟨gap, d, behind, place, rfl, solid, read, others⟩ := ih h
    exact ⟨c :: gap, d, behind, place, rfl, solid, read, others⟩
  case case3 start c following solid read _ =>
    obtain ⟨first, others⟩ := List.cons.inj h
    exact ⟨[], c, following, start, rfl, by simpa using solid, first.symm, others⟩

theorem mem_of_mem_scan (h : scan start text = tokens) (mem : token ∈ tokens) {c : Char}
    (inside : c ∈ token.text.toList) : c ∈ text := by
  induction tokens generalizing start text with
  | nil => contradiction
  | cons first others ih =>
    obtain ⟨gap, d, following, place, rfl, -, rfl, rest⟩ := scan_eq_cons h
    apply List.mem_append_right
    rw [← lexeme_append d following]
    rcases List.mem_cons.1 mem with rfl | later
    · exact List.mem_append_left _ (by simpa [tokenAt] using inside)
    · exact List.mem_append_right _ (ih rest later)

theorem SpacedFrom.exists_mem (h : SpacedFrom tokens text) {c : Char} (mem : c ∈ text)
    (solid : isBlank c = false) : ∃ token ∈ tokens, c ∈ token.text.toList := by
  induction h with
  | nil => contradiction
  | cons blank _ _ ih =>
    rcases List.mem_append.1 mem with front | later
    · rcases List.mem_append.1 front with inside | between
      · exact ⟨_, List.mem_cons_self, inside⟩
      · rw [blank c between] at solid
        contradiction
    · obtain ⟨token, others, inside⟩ := ih later
      exact ⟨token, List.mem_cons_of_mem _ others, inside⟩

/-- White space that is not empty before another token ends a word, and so does the end. -/
theorem SpacedFrom.ends (h : SpacedFrom tokens text) (blank : ∀ c ∈ gap, isBlank c = true)
    (apart : tokens ≠ [] → gap ≠ []) : ∀ d ∈ (gap ++ text).head?, continuesWord d = false := by
  cases gap with
  | nil =>
    cases h with
    | nil => simp
    | cons => exact absurd rfl (apart (by simp))
  | cons first rest =>
    intro d found
    obtain rfl : first = d := by simpa using found
    exact continuesWord_eq_false.2 (.inl (blank first List.mem_cons_self))

theorem SpacedFrom.scan {other : List Char} (h : SpacedFrom tokens other)
    (read : LabelQuery.scan start text = tokens) (place : Nat) :
    (LabelQuery.scan place other).map Token.written = tokens.map Token.written := by
  induction h generalizing start text place with
  | nil => simp [LabelQuery.scan]
  | @cons token gap behind tokens blank apart spaced ih =>
    obtain ⟨_, c, following, origin, rfl, solid, rfl, others⟩ := scan_eq_cons read
    -- the characters behind come from the tokens behind, so no quote comes there for the first time
    have known : isQuote c = true → c ∈ gap ++ behind → c ∈ (lexeme c following).after := by
      intro _ mem
      rcases List.mem_append.1 mem with between | later
      · rw [blank c between] at solid
        contradiction
      · obtain ⟨token, mem, inside⟩ := spaced.exists_mem later solid
        exact mem_of_mem_scan others mem inside
    obtain ⟨content, whole, again⟩ := lexeme_replace rfl known (spaced.ends blank apart)
    have text : (tokenAt origin c following).text.toList ++ gap ++ behind =
        c :: (content ++ (gap ++ behind)) := by
      simp [tokenAt, whole]
    rw [text, scan_solid solid, tokenAt, again, List.map_cons, scan_blank blank, ih others]
    rfl

end Scanning

/-- The tokens of an expression may be written with any white space between them, before them and
behind them. Their kinds and texts stay, and the filters fail alike or differ in places alone and
match alike. -/
theorem tokenize_spaced {expression other : String} (h : Spaced (tokenize expression) other) :
    (tokenize other).map Token.written = (tokenize expression).map Token.written ∧
    ((∃ fault otherFault, Program.compile expression = .error fault ∧
        Program.compile other = .error otherFault ∧ otherFault.placeless = fault.placeless) ∨
      ∃ program otherProgram, Program.compile expression = .ok program ∧
        Program.compile other = .ok otherProgram ∧
        otherProgram.instructions.map Instruction.placeless =
          program.instructions.map Instruction.placeless ∧
        ∀ labels, (otherProgram.evaluate labels).mapError FilterError.placeless =
          (program.evaluate labels).mapError FilterError.placeless) := by
  obtain ⟨gap, text, written, blank, spaced⟩ := h
  have same : (tokenize other).map Token.written = (tokenize expression).map Token.written := by
    rw [tokenize, written, scan_blank blank]
    exact spaced.scan rfl _
  refine ⟨same, ?_⟩
  rcases Program.ofTokens_placeless same with failed | ⟨program, otherProgram, first, second, steps⟩
  · exact .inl failed
  · exact .inr ⟨program, otherProgram, first, second, steps,
      fun labels => Program.evaluate_placeless steps labels⟩

/-- A word that begins with a stray quote, and a quote that only an escaped one closes. -/
theorem tokenize_spaced_escaped :
    Spaced (tokenize "\"b='it\\'s") "\t\"b\u3000=\n 'it\\' s" ∧
    (tokenize "\t\"b\u3000=\n 'it\\' s").map Token.written =
      [(.word, "\"b"), (.symbol, "="), (.quoted, "'it\\'"), (.word, "s")] := by
  have tokens : tokenize "\"b='it\\'s" = [⟨.word, "\"b", 0⟩, ⟨.symbol, "=", 2⟩,
      ⟨.quoted, "'it\\'", 3⟩, ⟨.word, "s", 8⟩] := by
    decide +kernel
  have spaced : Spaced (tokenize "\"b='it\\'s") "\t\"b\u3000=\n 'it\\' s" := by
    rw [tokens]
    have blank : ∀ c ∈ ['\t', '\n', ' ', '\u3000'], isBlank c = true := List.all_eq_true.1 rfl
    have s : SpacedFrom [⟨.word, "s", 8⟩] ['s'] := @SpacedFrom.cons _ [] _ _ (by simp) (by simp) .nil
    have quoted := @SpacedFrom.cons ⟨.quoted, "'it\\'", 3⟩ [' '] _ _ (by simp [blank]) (by simp) s
    have equal :=
      @SpacedFrom.cons ⟨.symbol, "=", 2⟩ ['\n', ' '] _ _ (by simp [blank]) (by simp) quoted
    have b := @SpacedFrom.cons ⟨.word, "\"b", 0⟩ ['\u3000'] _ _ (by simp [blank]) (by simp) equal
    exact ⟨['\t'], _, rfl, by simp [blank], b⟩
  refine ⟨spaced, ?_⟩
  rw [(tokenize_spaced spaced).1, tokens]
  rfl

end LabelQuery
