import LabelQuery.Filter.Lexer

/-!
Where the tokens of an expression lie. Main statement: the tokens are the only pieces that lie in
order without overlap, leave out nothing but white space, and end where the rules for words and for
quotes say.
-/
namespace LabelQuery

open Text

/-- Text that starts with a quote ends at `last + 1`: at the first of its quotes that no backslash
directly precedes or, if each has one before it, at the last of them. -/
def ClosesAt (quote : Char) (text : List Char) (last : Nat) : Prop :=
  text[last + 1]? = some quote ∧
    (text[last]? ≠ some '\\' ∧
        (∀ i < last, text[i + 1]? = some quote → text[i]? = some '\\') ∨
      (∀ i, text[i + 1]? = some quote → text[i]? = some '\\') ∧
        ∀ i > last, text[i + 1]? ≠ some quote)

/-- A token is a slice of the expression, and a whole symbol, word or quoted text there. -/
def Token.Fits (expression : List Char) (token : Token) : Prop :=
  let here := expression.drop token.offset
  let length := token.text.length
  token.stop ≤ expression.length ∧ token.text.toList = here.take length ∧
    match token.kind with
    | .symbol => ∃ c, isSymbol c = true ∧ token.text.toList = [c]
    | .word =>
      token.text ≠ "" ∧ (∀ c ∈ token.text.toList, isBlank c = false ∧ isSymbol c = false) ∧
        (∀ c ∈ here[length]?, isBlank c = true ∨ isSymbol c = true) ∧
        ∀ quote ∈ here.head?, isQuote quote = true → quote ∉ here.tail
    | .quoted =>
      ∃ quote last, isQuote quote = true ∧ here.head? = some quote ∧ ClosesAt quote here last ∧
        length = last + 2 ∧ token.value.toList = here.tail.take last

/-- Tokens tile an expression from a place on: they lie in order without overlap, and between them
there is only white space. -/
structure TilesFrom (expression : List Char) (start : Nat) (tokens : List Token) : Prop where
  after : ∀ token ∈ tokens, start ≤ token.offset
  ordered : tokens.Pairwise fun first second =>
    first.offset < second.offset ∧ first.stop ≤ second.offset
  fits : ∀ token ∈ tokens, token.Fits expression
  blank : ∀ i c, start ≤ i → expression[i]? = some c →
    (∀ token ∈ tokens, i < token.offset ∨ token.stop ≤ i) → isBlank c = true

def Tiles (expression : String) (tokens : List Token) : Prop :=
  TilesFrom expression.toList 0 tokens

/-! ### Quotes -/

section Quotes

variable {quote before : Char} {text content after : List Char}

theorem ClosesAt.unique {first second : Nat} (hfirst : ClosesAt quote text first)
    (hsecond : ClosesAt quote text second) : first = second := by
  obtain ⟨closed, ⟨plain, escaped⟩ | ⟨escaped, last⟩⟩ := hfirst
  · obtain ⟨closed', ⟨plain', escaped'⟩ | ⟨escaped', -⟩⟩ := hsecond
    · rcases Nat.lt_trichotomy first second with below | same | above
      · exact absurd (escaped' first below closed) plain
      · exact same
      · exact absurd (escaped second above closed') plain'
    · exact absurd (escaped' first closed) plain
  · obtain ⟨closed', ⟨plain', -⟩ | ⟨-, last'⟩⟩ := hsecond
    · exact absurd (escaped second closed') plain'
    · rcases Nat.lt_trichotomy first second with below | same | above
      · exact absurd closed' (last second below)
      · exact same
      · exact absurd closed (last' first above)

theorem cutUnescaped_spec :
    match cutUnescaped quote before text with
    | some (content, _) =>
      (before :: text)[content.length]? ≠ some '\\' ∧
        ∀ i < content.length, text[i]? = some quote → (before :: text)[i]? = some '\\'
    | none => ∀ i : Nat, text[i]? = some quote → (before :: text)[i]? = some '\\' := by
  induction text generalizing before with
  | nil => simp [cutUnescaped]
  | cons c rest ih =>
    rw [cutUnescaped]
    by_cases closing : c = quote ∧ before ≠ '\\'
    · simp [closing]
    · have first : c = quote → before = '\\' := fun same =>
        Decidable.not_not.1 fun plain => closing ⟨same, plain⟩
      simp only [if_neg closing]
      replace ih := @ih c
      cases cut : cutUnescaped quote c rest with
      | none =>
        simp only [cut] at ih
        intro i found
        cases i with
        | zero => simpa using first (by simpa using found)
        | succ i => simpa using ih i (by simpa using found)
      | some pair =>
        simp only [cut] at ih
        refine ⟨by simpa using ih.1, fun i below found => ?_⟩
        cases i with
        | zero => simpa using first (by simpa using found)
        | succ i => simpa using ih.2 i (by simpa using below) (by simpa using found)

theorem cutLast_spec :
    match cutLast quote text with
    | some (content, _) => ∀ i > content.length, text[i]? ≠ some quote
    | none => quote ∉ text := by
  induction text with
  | nil => simp [cutLast]
  | cons c rest ih =>
    rw [cutLast]
    cases cut : cutLast quote rest with
    | some pair =>
      simp only [cut] at ih
      intro i above
      cases i with
      | zero => simp at above
      | succ i => simpa using ih i (by simpa using above)
    | none =>
      simp only [cut] at ih
      by_cases closing : c = quote
      · simp only [if_pos closing]
        intro i above found
        cases i with
        | zero => simp at above
        | succ i => exact ih (List.mem_of_getElem? (by simpa using found))
      · simpa [closing, Ne.symm closing] using ih

theorem closesAt_of_cutQuoted (h : cutQuoted quote text = some (content, after)) :
    ClosesAt quote (quote :: text) content.length := by
  have closed : (quote :: text)[content.length + 1]? = some quote := by
    simp [← cutQuoted_append h]
  refine ⟨closed, ?_⟩
  have unescaped := @cutUnescaped_spec quote quote text
  unfold cutQuoted at h
  split at h
  · next cut =>
    cases h
    rw [cut] at unescaped
    exact .inl ⟨unescaped.1, fun i below found => unescaped.2 i below (by simpa using found)⟩
  · next cut =>
    have last := @cutLast_spec quote text
    rw [cut] at unescaped
    rw [h] at last
    exact .inr ⟨fun i found => unescaped i (by simpa using found),
      fun i above found => last i above (by simpa using found)⟩

/-- Quoted text is closed if its quote comes again. -/
theorem cutQuoted_eq_none : cutQuoted quote text = none ↔ quote ∉ text := by
  constructor
  · intro h
    unfold cutQuoted at h
    split at h
    · contradiction
    · have last := @cutLast_spec quote text
      rwa [h] at last
  · intro missing
    cases cut : cutQuoted quote text with
    | none => rfl
    | some pair =>
      have whole := cutQuoted_append cut
      exact absurd (whole ▸ by simp) missing

theorem cutQuoted_eq_some : cutQuoted quote text = some (content, after) ↔
    content ++ quote :: after = text ∧ ClosesAt quote (quote :: text) content.length := by
  constructor
  · intro cut
    exact ⟨cutQuoted_append cut, closesAt_of_cutQuoted cut⟩
  · rintro ⟨rfl, closes⟩
    cases cut : cutQuoted quote (content ++ quote :: after) with
    | none => exact absurd (by simp) (cutQuoted_eq_none.1 cut)
    | some pair =>
      obtain ⟨inner, tail⟩ := pair
      have length := (closesAt_of_cutQuoted cut).unique closes
      obtain ⟨rfl, same⟩ := List.append_inj (cutQuoted_append cut) length
      rw [(List.cons.inj same).2]

end Quotes

/-! ### One token -/

theorem eq_of_isQuote {c : Char} (h : isQuote c = true) : c = '\'' ∨ c = '"' := by
  simpa [isQuote] using h

theorem not_isSymbol_of_isQuote (h : isQuote c = true) : isSymbol c = false := by
  rcases eq_of_isQuote h with rfl | rfl <;> rfl

theorem not_isBlank_of_isQuote (h : isQuote c = true) : isBlank c = false := by
  rcases eq_of_isQuote h with rfl | rfl <;> rfl

theorem utf8Size_of_isQuote (h : isQuote c = true) : c.utf8Size = 1 := by
  rcases eq_of_isQuote h with rfl | rfl <;> rfl

theorem lexeme_cases (c : Char) (following : List Char) :
    (∃ content after, isQuote c = true ∧ cutQuoted c following = some (content, after) ∧
      lexeme c following = ⟨.quoted, c :: content ++ [c], after⟩) ∨
    (isSymbol c = true ∧ lexeme c following = ⟨.symbol, [c], following⟩) ∨
    (isSymbol c = false ∧ (isQuote c = true → c ∉ following) ∧
      lexeme c following =
        ⟨.word, c :: following.takeWhile continuesWord, following.dropWhile continuesWord⟩) := by
  cases quotes : isQuote c with
  | false =>
    cases symbol : isSymbol c with
    | false => exact .inr (.inr ⟨rfl, by simp, by simp [lexeme, quotes, symbol]⟩)
    | true => exact .inr (.inl ⟨rfl, by simp [lexeme, quotes, symbol]⟩)
  | true =>
    cases cut : cutQuoted c following with
    | some pair => exact .inl ⟨pair.1, pair.2, rfl, rfl, by simp [lexeme, quotes, cut]⟩
    | none =>
      have symbol := not_isSymbol_of_isQuote quotes
      exact .inr (.inr ⟨symbol, fun _ => cutQuoted_eq_none.1 cut,
        by simp [lexeme, quotes, cut, symbol]⟩)

theorem takeWhile_eq_take {p : Char → Bool} {text : List Char} {n : Nat}
    (inside : ∀ c ∈ text.take n, p c = true) (stops : ∀ c ∈ text[n]?, p c = false) :
    text.takeWhile p = text.take n := by
  have nothing : (text.drop n).takeWhile p = [] := by
    cases behind : text.drop n with
    | nil => rfl
    | cons d rest =>
      have found : d ∈ text[n]? := by simp [← List.head?_drop, behind]
      rw [List.takeWhile_cons, if_neg (by simp [stops d found])]
  conv => lhs; rw [← List.take_append_drop n text]
  rw [List.takeWhile_append_of_pos inside, nothing, List.append_nil]

/-- The character behind a run does not belong to it. -/
theorem getElem?_takeWhile_length {p : Char → Bool} {text : List Char} :
    ∀ c ∈ text[(text.takeWhile p).length]?, p c = false := by
  induction text with
  | nil => simp
  | cons d rest ih =>
    intro c found
    by_cases inside : p d = true
    · rw [List.takeWhile_cons, if_pos inside] at found
      exact ih c (by simpa using found)
    · rw [List.takeWhile_cons, if_neg inside] at found
      obtain rfl : d = c := by simpa using found
      exact Bool.eq_false_iff.2 inside

theorem continuesWord_eq_true {c : Char} :
    continuesWord c = true ↔ isBlank c = false ∧ isSymbol c = false := by
  simp [continuesWord]

theorem continuesWord_eq_false {c : Char} :
    continuesWord c = false ↔ isBlank c = true ∨ isSymbol c = true := by
  simp [continuesWord, ← Bool.not_eq_true, Decidable.imp_iff_not_or]

section Lexeme

variable {expression : List Char} {start : Nat} {c : Char} {following : List Char}

/-- The token that is read at a place. -/
def tokenAt (start : Nat) (c : Char) (following : List Char) : Token :=
  ⟨(lexeme c following).kind, String.ofList (lexeme c following).text, start⟩

variable (here : expression.drop start = c :: following) (solid : isBlank c = false)
include here solid

theorem fits_tokenAt : (tokenAt start c following).Fits expression := by
  have whole := lexeme_append c following
  have inside : start + (lexeme c following).text.length ≤ expression.length := by
    have lengths := congrArg List.length here
    rw [← whole, List.length_append, List.length_drop] at lengths
    have positive := List.length_pos_iff.2 (lexeme_text_ne_nil c following)
    omega
  have slice : (lexeme c following).text =
      (c :: following).take (lexeme c following).text.length := by
    rw [← whole, List.take_left]
  refine ⟨by simpa [tokenAt, Token.stop] using inside, by simpa [tokenAt, here] using slice, ?_⟩
  rcases lexeme_cases c following with ⟨content, after, quotes, cut, read⟩ | ⟨symbol, read⟩ |
    ⟨plain, unclosed, read⟩
  · have closes := closesAt_of_cutQuoted cut
    have text := cutQuoted_append cut
    have narrow := utf8Size_of_isQuote quotes
    simp only [tokenAt, read, here, String.length_ofList]
    refine ⟨c, content.length, quotes, rfl, closes, by simp, ?_⟩
    simp [Token.value, Token.unquote, narrow, ← text]
  · simp only [tokenAt, read]
    exact ⟨c, symbol, by simp⟩
  · simp only [tokenAt, read, here, String.length_ofList, String.toList_ofList, List.length_cons]
    refine ⟨by simp [← String.toList_inj], ?_, ?_, ?_⟩
    · intro d mem
      rcases List.mem_cons.1 mem with rfl | mem
      · exact ⟨solid, plain⟩
      · exact continuesWord_eq_true.1 (List.all_eq_true.1 List.all_takeWhile d mem)
    · intro d found
      apply continuesWord_eq_false.1
      exact getElem?_takeWhile_length d (by simpa using found)
    · intro quote first quotes
      obtain rfl : c = quote := by simpa using first
      exact unclosed quotes

theorem eq_tokenAt_of_fits {token : Token} (fits : token.Fits expression)
    (place : token.offset = start) : token = tokenAt start c following := by
  obtain ⟨kind, text, offset⟩ := token
  subst place
  obtain ⟨-, slice, whole⟩ := fits
  simp only [here] at slice whole
  -- the first character and, for a quote, whether it comes again decide the kind of either token
  have read := lexeme_cases c following
  cases kind with
  | symbol =>
    obtain ⟨d, symbol, single⟩ := whole
    have one : text.length = 1 := by rw [← String.length_toList, single]; rfl
    obtain rfl : d = c := by simpa [single, one] using slice
    rcases read with ⟨_, _, quotes, -⟩ | ⟨-, read⟩ | ⟨plain, -⟩
    · simp [not_isSymbol_of_isQuote quotes] at symbol
    · simp [tokenAt, read, ← single]
    · simp [plain] at symbol
  | word =>
    obtain ⟨nonempty, solidText, stops, unclosed⟩ := whole
    have inside : ∀ d ∈ (c :: following).take text.length, continuesWord d = true := by
      intro d mem
      exact continuesWord_eq_true.2 (solidText d (slice ▸ mem))
    have first : continuesWord c = true := by
      apply inside
      cases length : text.length with
      | zero => exact absurd (String.length_eq_zero_iff.1 length) nonempty
      | succ n => simp
    have run := takeWhile_eq_take inside fun d found => continuesWord_eq_false.2 (stops d found)
    rcases read with ⟨content, after, quotes, cut, -⟩ | ⟨symbol, -⟩ | ⟨-, -, read⟩
    · exact absurd (cutQuoted_eq_none.2 (unclosed c rfl quotes)) (by simp [cut])
    · simp [continuesWord, symbol] at first
    · rw [List.takeWhile_cons, if_pos first, ← slice] at run
      simp [tokenAt, read, run]
  | quoted =>
    obtain ⟨quote, last, quotes, head, closes, length, -⟩ := whole
    obtain rfl : c = quote := by simpa using head
    have again : c ∈ following := List.mem_of_getElem? (by simpa using closes.1)
    rcases read with ⟨content, after, -, cut, read⟩ | ⟨symbol, -⟩ | ⟨-, unclosed, -⟩
    · obtain rfl := closes.unique (closesAt_of_cutQuoted cut)
      have text' : text.toList = c :: content ++ [c] := by
        rw [slice, length, ← cutQuoted_append cut]
        simp [List.take_append, List.take_of_length_le]
      simp [tokenAt, read, ← text']
    · simp [not_isSymbol_of_isQuote quotes] at symbol
    · exact absurd again (unclosed quotes)

end Lexeme

/-! ### All tokens -/

section Tiles

variable {expression : List Char} {start : Nat} {tokens : List Token} {c : Char}
  {following : List Char}

/-- A token is not empty and starts with a character that is not white space. -/
theorem Token.Fits.starts {token : Token} (fits : token.Fits expression) :
    token.offset < token.stop ∧
      ∃ c rest, expression.drop token.offset = c :: rest ∧ isBlank c = false := by
  obtain ⟨kind, text, offset⟩ := token
  obtain ⟨-, slice, whole⟩ := fits
  have first : ∃ c rest, text.toList = c :: rest ∧ isBlank c = false := by
    cases kind with
    | symbol =>
      obtain ⟨c, symbol, single⟩ := whole
      refine ⟨c, [], single, ?_⟩
      simp only [isSymbol, Bool.or_eq_true, beq_iff_eq] at symbol
      rcases symbol with ((rfl | rfl) | rfl) | rfl <;> rfl
    | word =>
      obtain ⟨nonempty, solid, -⟩ := whole
      obtain ⟨c, rest, chars⟩ := List.exists_cons_of_ne_nil (mt String.toList_eq_nil_iff.1 nonempty)
      exact ⟨c, rest, chars, (solid c (by simp [chars])).1⟩
    | quoted =>
      obtain ⟨quote, last, quotes, head, -, length, -⟩ := whole
      obtain ⟨rest, here⟩ := List.head?_eq_some_iff.1 head
      dsimp only at slice here length
      exact ⟨quote, rest.take (last + 1), by simp [slice, here, length],
        not_isBlank_of_isQuote quotes⟩
  obtain ⟨c, rest, chars, solid⟩ := first
  have length : text.length = rest.length + 1 := by
    rw [← String.length_toList, chars, List.length_cons]
  constructor
  · simp [Token.stop, length]
  · dsimp only at slice ⊢
    cases here : expression.drop offset with
    | nil => simp [here, chars] at slice
    | cons d others =>
      obtain ⟨rfl, -⟩ : c = d ∧ _ := by simpa [here, chars, length] using slice
      exact ⟨c, others, rfl, solid⟩

theorem tilesFrom_of_end (nothing : expression.drop start = []) :
    TilesFrom expression start tokens ↔ tokens = [] := by
  have short := List.drop_eq_nil_iff.1 nothing
  constructor
  · intro tiles
    cases tokens with
    | nil => rfl
    | cons token rest =>
      obtain ⟨-, c, others, here, -⟩ := (tiles.fits token (by simp)).starts
      have behind := tiles.after token (by simp)
      rw [List.drop_eq_nil_of_le (by omega)] at here
      contradiction
  · rintro rfl
    refine ⟨by simp, .nil, by simp, fun i c behind found _ => ?_⟩
    rw [List.getElem?_eq_none (by omega)] at found
    contradiction

theorem tilesFrom_of_blank (here : expression.drop start = c :: following)
    (blank : isBlank c = true) :
    TilesFrom expression start tokens ↔ TilesFrom expression (start + 1) tokens := by
  constructor
  · intro tiles
    refine ⟨fun token mem => ?_, tiles.ordered, tiles.fits, fun i d behind => ?_⟩
    · obtain ⟨-, d, rest, there, solid⟩ := (tiles.fits token mem).starts
      rcases Nat.lt_or_eq_of_le (tiles.after token mem) with later | same
      · exact later
      · rw [← same, here] at there
        obtain ⟨rfl, -⟩ := List.cons.inj there
        simp [blank] at solid
    · exact tiles.blank i d (by omega)
  · intro tiles
    refine ⟨fun token mem => ?_, tiles.ordered, tiles.fits, fun i d behind found apart => ?_⟩
    · have := tiles.after token mem
      omega
    · rcases Nat.lt_or_eq_of_le behind with later | rfl
      · exact tiles.blank i d later found apart
      · obtain rfl : c = d := by simpa [← List.head?_drop, here] using found
        exact blank

theorem stop_tokenAt :
    (tokenAt start c following).stop = start + (lexeme c following).text.length := by
  simp [tokenAt, Token.stop]

theorem tilesFrom_of_solid (here : expression.drop start = c :: following)
    (solid : isBlank c = false) :
    TilesFrom expression start tokens ↔ ∃ rest, tokens = tokenAt start c following :: rest ∧
      TilesFrom expression (start + (lexeme c following).text.length) rest := by
  rw [← stop_tokenAt]
  constructor
  · intro tiles
    -- what is not white space is covered, and nothing that covers it can start before it
    have covered : ∃ token ∈ tokens, token.offset = start := by
      apply Decidable.byContradiction
      intro none
      have apart : ∀ token ∈ tokens, start < token.offset ∨ token.stop ≤ start := by
        intro token mem
        rcases Nat.lt_or_eq_of_le (tiles.after token mem) with later | same
        · exact .inl later
        · exact absurd ⟨token, mem, same.symm⟩ none
      have blank := tiles.blank start c (Nat.le_refl _) (by simp [← List.head?_drop, here]) apart
      simp [solid] at blank
    obtain ⟨token, mem, place⟩ := covered
    cases tokens with
    | nil => simp at mem
    | cons first rest =>
      obtain ⟨apart, ordered⟩ := List.pairwise_cons.1 tiles.ordered
      have leads : first.offset = start := by
        rcases List.mem_cons.1 mem with rfl | later
        · exact place
        · have := tiles.after first (by simp)
          have := (apart token later).1
          omega
      obtain rfl := eq_tokenAt_of_fits here solid (tiles.fits first (by simp)) leads
      refine ⟨rest, rfl, fun token mem => (apart token mem).2, ordered,
        fun token mem => tiles.fits token (by simp [mem]), fun i d behind found others => ?_⟩
      have := (tiles.fits _ (List.mem_cons_self ..)).starts.1
      apply tiles.blank i d (by omega) found
      exact List.forall_mem_cons.2 ⟨.inr behind, others⟩
  · rintro ⟨rest, rfl, tiles⟩
    have fits := fits_tokenAt here solid
    have place : (tokenAt start c following).offset = start := rfl
    have nonempty := fits.starts.1
    refine ⟨?_, ?_, List.forall_mem_cons.2 ⟨fits, tiles.fits⟩, fun i d behind found apart => ?_⟩
    · refine List.forall_mem_cons.2 ⟨Nat.le_of_eq place.symm, fun token mem => ?_⟩
      have := tiles.after token mem
      omega
    · apply List.Pairwise.cons _ tiles.ordered
      intro token mem
      have := tiles.after token mem
      constructor <;> omega
    · obtain ⟨outside, others⟩ := List.forall_mem_cons.1 apart
      apply tiles.blank i d _ found others
      omega

theorem tilesFrom_iff {text : List Char} (here : expression.drop start = text) :
    TilesFrom expression start tokens ↔ tokens = scan start text := by
  fun_induction scan start text generalizing tokens
  case case1 start =>
    exact tilesFrom_of_end here
  case case2 start c following blank ih =>
    have next : expression.drop (start + 1) = following := by
      rw [← List.drop_drop, here, List.drop_one, List.tail_cons]
    rw [tilesFrom_of_blank here blank, ih next]
  case case3 start c following solid read ih =>
    have next : expression.drop (start + read.text.length) = read.after := by
      rw [← List.drop_drop, here, ← lexeme_append c following]
      exact List.drop_left
    rw [tilesFrom_of_solid here (by simpa using solid)]
    constructor
    · rintro ⟨rest, rfl, tiles⟩
      obtain rfl := (ih next).1 tiles
      rfl
    · intro same
      exact ⟨_, same, (ih next).2 rfl⟩

end Tiles

/-- The tokens of an expression are the only ones that tile it: slices in order and without overlap,
each a symbol, a word as long as can be or text up to the quote that closes it, and nothing but
white space outside. -/
theorem tiles_iff (expression : String) (tokens : List Token) :
    Tiles expression tokens ↔ tokens = tokenize expression :=
  tilesFrom_iff rfl

end LabelQuery
