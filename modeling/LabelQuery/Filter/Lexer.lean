import LabelQuery.Filter.Token
import LabelQuery.Text.Blank

/-!
Cutting an expression into tokens. White space separates tokens and is dropped; nothing else is lost
and no expression is refused. Main statement here: a lexeme and what is left after it make up the
text it was read from.
-/
namespace LabelQuery

open Text

def isQuote (c : Char) : Bool :=
  c == '\'' || c == '"'

def isSymbol (c : Char) : Bool :=
  c == '(' || c == ')' || c == '=' || c == ';'

/-- The characters that a word goes on with; a quote inside a word is one of them. -/
def continuesWord (c : Char) : Bool :=
  !isBlank c && !isSymbol c

/-- Cuts at the first `quote` that no backslash directly precedes; `before` is the character in front
of the text. -/
def cutUnescaped (quote before : Char) : List Char → Option (List Char × List Char)
  | [] => none
  | c :: rest =>
    if c = quote ∧ before ≠ '\\' then some ([], rest)
    else (cutUnescaped quote c rest).map fun (content, after) => (c :: content, after)

/-- Cuts at the last `quote`. -/
def cutLast (quote : Char) : List Char → Option (List Char × List Char)
  | [] => none
  | c :: rest =>
    match cutLast quote rest with
    | some (content, after) => some (c :: content, after)
    | none => if c = quote then some ([], rest) else none

/-- The content of quoted text and what follows it, given what follows the opening quote. The first
unescaped quote closes it; if all are escaped, the last one does and its backslash is content. -/
def cutQuoted (quote : Char) (following : List Char) : Option (List Char × List Char) :=
  match cutUnescaped quote quote following with
  | some cut => some cut
  | none => cutLast quote following

/-- The kind and text of a token together with what follows it. -/
structure Lexeme where
  kind : TokenKind
  text : List Char
  after : List Char

/-- Reads the token that starts with `c`, which is not white space. A quote that is never closed
starts a word. -/
def lexeme (c : Char) (following : List Char) : Lexeme :=
  match if isQuote c then cutQuoted c following else none with
  | some (content, after) => ⟨.quoted, c :: content ++ [c], after⟩
  | none =>
    if isSymbol c then ⟨.symbol, [c], following⟩
    else ⟨.word, c :: following.takeWhile continuesWord, following.dropWhile continuesWord⟩

theorem cutUnescaped_append {quote before : Char} {text content after : List Char}
    (h : cutUnescaped quote before text = some (content, after)) :
    content ++ quote :: after = text := by
  induction text generalizing before content with
  | nil => simp [cutUnescaped] at h
  | cons c rest ih =>
    rw [cutUnescaped] at h
    split at h
    · next closing =>
      obtain ⟨rfl, rfl⟩ := Prod.mk.inj (Option.some.inj h)
      simp [closing.1]
    · obtain ⟨⟨inner, tail⟩, hcut, heq⟩ := Option.map_eq_some_iff.1 h
      obtain ⟨rfl, rfl⟩ := Prod.mk.inj heq
      simpa using ih hcut

theorem cutLast_append {quote : Char} {text content after : List Char}
    (h : cutLast quote text = some (content, after)) : content ++ quote :: after = text := by
  induction text generalizing content with
  | nil => simp [cutLast] at h
  | cons c rest ih =>
    rw [cutLast] at h
    split at h
    · next inner tail hcut =>
      obtain ⟨rfl, rfl⟩ := Prod.mk.inj (Option.some.inj h)
      simpa using ih hcut
    · split at h
      · next closing =>
        obtain ⟨rfl, rfl⟩ := Prod.mk.inj (Option.some.inj h)
        simp [closing]
      · contradiction

theorem cutQuoted_append {quote : Char} {text content after : List Char}
    (h : cutQuoted quote text = some (content, after)) : content ++ quote :: after = text := by
  unfold cutQuoted at h
  split at h
  · next cut hcut => exact cutUnescaped_append (hcut.trans h)
  · exact cutLast_append h

/-- A lexeme and what follows it make up the text it was read from. -/
theorem lexeme_append (c : Char) (following : List Char) :
    (lexeme c following).text ++ (lexeme c following).after = c :: following := by
  unfold lexeme
  split
  · next content after hcut =>
    split at hcut
    · simpa using cutQuoted_append hcut
    · contradiction
  · split
    · rfl
    · simp [List.takeWhile_append_dropWhile]

theorem lexeme_text_ne_nil (c : Char) (following : List Char) :
    (lexeme c following).text ≠ [] := by
  unfold lexeme
  split
  · simp
  · split <;> simp

theorem length_after_lexeme (c : Char) (following : List Char) :
    (lexeme c following).after.length < (c :: following).length := by
  have whole := congrArg List.length (lexeme_append c following)
  have nonempty := List.length_pos_iff.2 (lexeme_text_ne_nil c following)
  rw [List.length_append] at whole
  omega

/-- The tokens of a text that starts after `offset` characters of the expression. -/
def scan (offset : Nat) : List Char → List Token
  | [] => []
  | c :: following =>
    if isBlank c then scan (offset + 1) following
    else
      let read := lexeme c following
      ⟨read.kind, String.ofList read.text, offset⟩ :: scan (offset + read.text.length) read.after
termination_by text => text.length
decreasing_by
  · simp
  · exact length_after_lexeme c following

def tokenize (expression : String) : List Token :=
  scan 0 expression.toList

end LabelQuery
