import LabelQuery.Proofs.Filter.Supply
import LabelQuery.Proofs.Filter.Spacing

/-!
Text between quotes. Nothing is unescaped, so a text that comes back whole may hold the quote only
behind backslashes, and a backslash at its end must not keep it open. Main statement: these are the
texts that can be quoted, and as a filter or as a value they stand for themselves.
-/
namespace LabelQuery

open Text

/-- A text with a quote before it and one behind it. -/
def enclosed (quote : Char) (text : String) : String :=
  String.singleton quote ++ text ++ String.singleton quote

/-- Each `quote` in a text comes directly behind a backslash. -/
def EachEscaped (quote : Char) (text : List Char) : Prop :=
  ∀ before after, text = before ++ quote :: after → before.getLast? = some '\\'

/-- A word that is one token anywhere, and an operand. -/
structure IsPlainWord (word : String) : Prop where
  nonempty : word ≠ ""
  plain : ∀ c ∈ word.toList, isBlank c = false ∧ isSymbol c = false ∧ isQuote c = false
  notKeyword : word.toList.map Char.toLower ∉ ["not".toList, "and".toList, "or".toList]

theorem toList_enclosed (quote : Char) (text : String) :
    (enclosed quote text).toList = quote :: (text.toList ++ [quote]) := by
  simp [enclosed]

section Closing

variable {quote : Char} {text content after : List Char}

/-- A quote at the end of a text closes it if all others are escaped, whatever comes before it. -/
theorem closesAt_end_iff {last : Nat} (length : text.length = last + 2)
    (closed : text[last + 1]? = some quote) :
    ClosesAt quote text last ↔
      ∀ i < last, text[i + 1]? = some quote → text[i]? = some '\\' := by
  constructor
  · rintro ⟨-, ⟨-, escaped⟩ | ⟨escaped, -⟩⟩ i below found
    · exact escaped i below found
    · exact escaped i found
  · intro escaped
    refine ⟨closed, ?_⟩
    by_cases plain : text[last]? = some '\\'
    · right
      have bound : ∀ i, text[i + 1]? = some quote → i ≤ last := by
        intro i found
        have := (List.getElem?_eq_some_iff.1 found).1
        omega
      constructor
      · intro i found
        rcases Nat.lt_or_eq_of_le (bound i found) with below | rfl
        · exact escaped i below found
        · exact plain
      · intro i above found
        exact Nat.not_le_of_lt above (bound i found)
    · exact .inl ⟨plain, escaped⟩

variable (quotes : isQuote quote = true)
include quotes

theorem getElem?_before_quote (before after : List Char) :
    (quote :: (before ++ quote :: after))[before.length]? = some '\\' ↔
      before.getLast? = some '\\' := by
  induction before using List.reverseRecOn with
  | nil =>
    have other : quote ≠ '\\' := by
      rintro rfl
      contradiction
    simpa using other
  | append_singleton before c _ => simp

theorem closesAt_enclosed_iff :
    ClosesAt quote (quote :: (text ++ [quote])) text.length ↔ EachEscaped quote text := by
  rw [closesAt_end_iff (by simp) (by simp)]
  constructor
  · rintro escaped before after rfl
    have found := escaped before.length (by simp) (by simp)
    rw [List.append_assoc, List.cons_append] at found
    exact (getElem?_before_quote quotes before (after ++ [quote])).1 found
  · intro escaped i below found
    have here : text[i] = quote := by
      simpa [List.getElem?_append_left below, below] using found
    have cut : text = text.take i ++ quote :: text.drop (i + 1) := by simp [← here]
    have place : (text.take i).length = i := by simp [Nat.le_of_lt below]
    have preceded := (getElem?_before_quote quotes _ (text.drop (i + 1) ++ [quote])).2
      (escaped _ _ cut)
    have whole : text ++ [quote] = text.take i ++ quote :: (text.drop (i + 1) ++ [quote]) := by
      rw [← List.cons_append, ← List.append_assoc, ← cut]
    rwa [place, ← whole] at preceded

theorem cutQuoted_enclosed_iff :
    cutQuoted quote (text ++ [quote]) = some (text, []) ↔ EachEscaped quote text := by
  rw [cutQuoted_eq_some, ← closesAt_enclosed_iff quotes]
  exact and_iff_right rfl

end Closing

section Scanning

variable {quote : Char} {text word : String}

theorem Token.value_enclosed (quotes : isQuote quote = true) (place : Nat) :
    Token.value ⟨.quoted, enclosed quote text, place⟩ = text := by
  have narrow := utf8Size_of_isQuote quotes
  simp [Token.value, toList_enclosed, Token.unquote, narrow]

theorem scan_enclosed (quotes : isQuote quote = true) (escaped : EachEscaped quote text.toList)
    (place : Nat) :
    scan place (enclosed quote text).toList = [⟨.quoted, enclosed quote text, place⟩] := by
  have read : lexeme quote (text.toList ++ [quote]) =
      ⟨.quoted, (enclosed quote text).toList, []⟩ := by
    rw [lexeme, if_pos quotes, (cutQuoted_enclosed_iff quotes).2 escaped, toList_enclosed]
    rfl
  rw [toList_enclosed, scan_solid (not_isBlank_of_isQuote quotes), tokenAt, read]
  simp [scan]

/-- A quoted token at the start that has the value of the whole text is the only token. -/
theorem eachEscaped_of_scan {place : Nat} {token : Token} {others : List Token}
    (quotes : isQuote quote = true)
    (read : scan place (enclosed quote text).toList = token :: others)
    (quoted : token.kind = .quoted) (value : token.value = text) :
    EachEscaped quote text.toList := by
  rw [toList_enclosed, scan_solid (not_isBlank_of_isQuote quotes)] at read
  obtain ⟨rfl, -⟩ := List.cons.inj read
  rcases lexeme_cases quote (text.toList ++ [quote]) with ⟨content, after, -, cut, read⟩ |
    ⟨-, read⟩ | ⟨-, -, read⟩
  · have written : String.ofList (quote :: content ++ [quote]) =
        enclosed quote (String.ofList content) := by
      simp [← String.toList_inj, toList_enclosed]
    have same : String.ofList content = text := by
      rw [← value, tokenAt, read, written, Token.value_enclosed quotes]
    subst same
    rw [String.toList_ofList] at cut ⊢
    have nothing : after = [] := by simpa using cutQuoted_append cut
    rw [nothing] at cut
    exact (cutQuoted_enclosed_iff quotes).1 cut
  · simp [tokenAt, read] at quoted
  · simp [tokenAt, read] at quoted

theorem scan_plain {rest : List Char} (h : IsPlainWord word)
    (ends : ∀ d ∈ rest.head?, continuesWord d = false) (place : Nat) :
    scan place (word.toList ++ rest) = ⟨.word, word, place⟩ :: scan (place + word.length) rest := by
  obtain ⟨c, others, chars⟩ := List.exists_cons_of_ne_nil (mt String.toList_eq_nil_iff.1 h.nonempty)
  have plain := h.plain
  rw [chars] at plain
  obtain ⟨⟨notBlank, notSymbol, notQuote⟩, plain⟩ := List.forall_mem_cons.1 plain
  have inside : ∀ d ∈ others, continuesWord d = true :=
    fun d mem => continuesWord_eq_true.2 ⟨(plain d mem).1, (plain d mem).2.1⟩
  obtain ⟨run, left⟩ := @takeWhile_append_of_ends _ [] rest ends
  have read : lexeme c (others ++ rest) = ⟨.word, word.toList, rest⟩ := by
    rw [List.nil_append] at run left
    simp [lexeme, notQuote, notSymbol, List.takeWhile_append_of_pos inside,
      List.dropWhile_append_of_pos inside, run, left, chars]
  rw [chars, List.cons_append, scan_solid notBlank, tokenAt, read, String.length_toList,
    String.ofList_toList]

end Scanning

theorem Operator.lookup?_eq_none {word : String} :
    lookup? word = none ↔ word ∉ ["(", ")", "=", ";"] ∧
      word.toList.map Char.toLower ∉ ["not".toList, "and".toList, "or".toList] := by
  unfold lookup?
  grind

theorem IsPlainWord.lookup?_eq_none {word : String} (h : IsPlainWord word) :
    Operator.lookup? word = none := by
  refine Operator.lookup?_eq_none.2 ⟨fun mem => ?_, h.notKeyword⟩
  have plain := h.plain
  simp only [List.mem_cons, List.not_mem_nil, or_false] at mem
  rcases mem with rfl | rfl | rfl | rfl <;> simp [isSymbol] at plain

theorem tokenize_equal_enclosed {quote : Char} {text word : String} (quotes : isQuote quote = true)
    (escaped : EachEscaped quote text.toList) (plain : IsPlainWord word) :
    tokenize (word ++ "=" ++ enclosed quote text) = [⟨.word, word, 0⟩, ⟨.symbol, "=", word.length⟩,
      ⟨.quoted, enclosed quote text, word.length + 1⟩] := by
  have written : (word ++ "=" ++ enclosed quote text).toList =
      word.toList ++ '=' :: (enclosed quote text).toList := by simp
  have ends : ∀ d ∈ ('=' :: (enclosed quote text).toList).head?, continuesWord d = false := by
    intro d found
    obtain rfl : '=' = d := by simpa using found
    rfl
  have sign : scan word.length ('=' :: (enclosed quote text).toList) =
      ⟨.symbol, "=", word.length⟩ :: scan (word.length + 1) (enclosed quote text).toList :=
    scan_solid rfl
  rw [tokenize, written, scan_plain plain ends, Nat.zero_add, sign, scan_enclosed quotes escaped]

/-- A text can be written between quotes exactly if each of them in it has a backslash before it. Then
it comes back as it is: as a filter it asks for the label of that name, and behind `=` it is the value. -/
theorem tokenize_enclosed {quote : Char} (quotes : isQuote quote = true) (text : String) :
    ((∃ token, tokenize (enclosed quote text) = [token] ∧ token.kind = .quoted ∧
        token.value = text) ↔ EachEscaped quote text.toList) ∧
    (EachEscaped quote text.toList → ∀ labels,
      Program.judge (tokenize (enclosed quote text)) labels = .ok (labels text).isSome ∧
      ∀ word, IsPlainWord word →
        Program.judge (tokenize (word ++ "=" ++ enclosed quote text)) labels =
          .ok (labels word == some text)) := by
  have operand (place : Nat) : Derives .atom [⟨.quoted, enclosed quote text, place⟩]
      (.operand text) := by
    have whole : Derives .atom [⟨.quoted, enclosed quote text, place⟩] _ := .operand rfl
    rwa [Token.value_enclosed quotes] at whole
  constructor
  · constructor
    · rintro ⟨token, read, quoted, value⟩
      exact eachEscaped_of_scan quotes read quoted value
    · intro escaped
      exact ⟨_, scan_enclosed quotes escaped 0, rfl, Token.value_enclosed quotes 0⟩
  · intro escaped labels
    constructor
    · rw [tokenize, scan_enclosed quotes escaped]
      exact (operand 0).judge_explicit rfl labels
    · intro word plain
      have key : Derives .atom [⟨.word, word, 0⟩] (.operand word) := .operand plain.lookup?_eq_none
      have symbol : Operator.lookup? "=" = some .equal := by decide
      have sign : Token.operator? ⟨.symbol, "=", word.length⟩ = some .equal := symbol
      rw [tokenize_equal_enclosed quotes escaped plain]
      exact (Derives.equal key sign (operand _)).judge_explicit rfl labels

/-- The last quote closes `'it\'s\'` although a backslash comes before it. -/
theorem tokenize_enclosed_backslash :
    tokenize (enclosed '\'' "it\\'s\\") = [⟨.quoted, "'it\\'s\\'", 0⟩] ∧
      EachEscaped '\'' "it\\'s\\".toList ∧ IsPlainWord "name" ∧
      ∀ labels : Labels, Program.judge (tokenize "name='it\\'s\\'") labels =
        .ok (labels "name" == some "it\\'s\\") := by
  have read : tokenize (enclosed '\'' "it\\'s\\") = [⟨.quoted, "'it\\'s\\'", 0⟩] := by
    decide +kernel
  have quoted := @tokenize_enclosed '\'' rfl "it\\'s\\"
  have escaped := quoted.1.1 ⟨_, read, rfl, by decide⟩
  have plain : ∀ c ∈ "name".toList, (!isBlank c && !isSymbol c && !isQuote c) = true :=
    List.all_eq_true.1 rfl
  have word : IsPlainWord "name" := ⟨by decide, by simpa [and_assoc] using plain, by decide⟩
  exact ⟨read, escaped, word, fun labels => (quoted.2 escaped labels).2 "name" word⟩

end LabelQuery
