import LabelQuery.Proofs.Filter.Joining

/-!
Labels that are compared with the answer of a bracketed expression. What stands in the brackets is read
as it is without them, unless the key in front leaves a quote open. Main statement: the answer is
whether the label is there and its value is that answer, spelled out.
-/
namespace LabelQuery

open Text

/-- A text that an expression begins with is one token there, an operand of some value. -/
def LeadsAsOperand (written value expression : String) : Prop :=
  ∃ token ∈ (tokenize expression).head?,
    token.text = written ∧ token.operator? = none ∧ token.value = value

section Reading

variable {written behind : String} {token : Token}

theorem scan_closing (start : Nat) (text : List Char) :
    scan start (text ++ [')']) = scan start text ++ [⟨.symbol, ")", start + text.length⟩] := by
  have absent : ∀ token ∈ scan start text, ∀ quote ∈ token.openQuote?, quote ∉ [')'] := by
    intro token _ quote opens mem
    obtain rfl := List.mem_singleton.1 mem
    exact absurd (isQuote_of_openQuote? opens) (by decide)
  have ends : ∀ d ∈ [')'].head?, continuesWord d = false := by simp [continuesWord, isSymbol]
  have closing (place : Nat) : scan place [')'] = [⟨.symbol, ")", place⟩] := by
    rw [scan_solid rfl]
    simp [tokenAt, lexeme, isQuote, isSymbol, scan]
  rw [scan_append absent ends, closing]

/-- A first token that is a text at the beginning ends where that text does. -/
theorem tokenize_of_head? (first : token ∈ (tokenize (written ++ behind)).head?)
    (text : token.text = written) :
    tokenize (written ++ behind) = token :: scan written.length behind.toList := by
  obtain ⟨others, whole⟩ := List.head?_eq_some_iff.1 first
  obtain ⟨-, c, following, place, -, solid, rfl, -⟩ := scan_eq_cons whole
  have begun : (lexeme c following).text = written.toList := by
    rw [← text, tokenAt, String.toList_ofList]
  -- the text of a token begins with what it was read from, so no white space comes first
  obtain ⟨inner, chars⟩ : ∃ inner, written.toList = c :: inner := by
    have split := lexeme_append c following
    rw [begun] at split
    cases chars : written.toList with
    | nil => exact absurd (begun.trans chars) (lexeme_text_ne_nil c following)
    | cons d inner =>
      rw [chars, List.cons_append] at split
      exact ⟨inner, by rw [(List.cons.inj split).1]⟩
  have start : (written ++ behind).toList = c :: (inner ++ behind.toList) := by
    rw [String.toList_append, chars, List.cons_append]
  rw [tokenize, start, scan_solid solid] at whole ⊢
  obtain ⟨same, -⟩ := List.cons.inj whole
  have read : (lexeme c (inner ++ behind.toList)).text = written.toList := by
    rw [← text, ← same, tokenAt, String.toList_ofList]
  have left := lexeme_append c (inner ++ behind.toList)
  rw [read, chars, List.cons_append] at left
  have rest := List.append_cancel_left (List.cons.inj left).2
  rw [same, read, rest, Nat.zero_add, String.length_toList]

end Reading

theorem tokenize_compared {written value text : String}
    (leads : LeadsAsOperand written value (written ++ "=(" ++ text ++ ")")) :
    ∃ key sign opening closing, key.operator? = none ∧ key.value = value ∧
      sign.operator? = some .equal ∧ opening.operator? = some .openParen ∧
      closing.operator? = some .closeParen ∧
      (tokenize (written ++ "=(" ++ text ++ ")")).map Token.written =
        (key :: sign :: (opening :: tokenize text ++ [closing])).map Token.written := by
  have split : written ++ "=(" ++ text ++ ")" = written ++ ("=(" ++ text ++ ")") := by
    simp [String.append_assoc]
  rw [split] at leads ⊢
  obtain ⟨key, first, rfl, operand, same⟩ := leads
  have behind : ("=(" ++ text ++ ")").toList = '=' :: '(' :: (text.toList ++ [')']) := by simp
  have sign (place : Nat) (rest : List Char) :
      scan place ('=' :: rest) = ⟨.symbol, "=", place⟩ :: scan (place + 1) rest := scan_solid rfl
  have opening (place : Nat) (rest : List Char) :
      scan place ('(' :: rest) = ⟨.symbol, "(", place⟩ :: scan (place + 1) rest := scan_solid rfl
  have equals : Operator.lookup? "=" = some .equal := by decide
  have opens : Operator.lookup? "(" = some .openParen := by decide
  have closes : Operator.lookup? ")" = some .closeParen := by decide
  refine ⟨key, ⟨.symbol, "=", 0⟩, ⟨.symbol, "(", 0⟩, ⟨.symbol, ")", 0⟩, operand, same, equals, opens,
    closes, ?_⟩
  rw [tokenize_of_head? first rfl, behind, sign, opening, scan_closing, scan_eq_tokenize]
  simp [Token.written, Token.relocate]

/-- A label compared with a compound expression in brackets: the answer is whether the label has the
answer of that expression for its value. -/
theorem Derives.judge_compared {written key text : String} {e : Expr}
    (leads : LeadsAsOperand written key (written ++ "=(" ++ text ++ ")"))
    (derives : Derives .sequence (tokenize text) e) (explicit : e.isExplicit = true)
    (compound : ∀ word, e ≠ .operand word) (labels : Labels) :
    Program.judge (tokenize (written ++ "=(" ++ text ++ ")")) labels =
      .ok (labels key == some (answerWord (e.holds labels))) := by
  obtain ⟨first, sign, opening, closing, operand, rfl, equals, opens, closes, alike⟩ :=
    tokenize_compared leads
  have whole : Derives .comparison ([first] ++ sign :: (opening :: tokenize text ++ [closing]))
      (.equal sign.offset (.operand first.value) e) :=
    .equal (.operand operand) equals (.group opens derives closes)
  have answer := whole.judge_explicit (Bool.and_eq_true_iff.2 ⟨rfl, explicit⟩) labels
  have meaning : (Expr.equal sign.offset (.operand first.value) e).holds labels =
      (labels first.value == some (answerWord (e.holds labels))) := by
    cases e with
    | operand word => exact absurd rfl (compound word)
    | equal | not | and | or | beside => rfl
  rw [meaning] at answer
  exact Program.judge_eq_ok_of_written answer alike

end LabelQuery
