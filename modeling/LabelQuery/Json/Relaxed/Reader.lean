import LabelQuery.Json.Relaxed.Node
import LabelQuery.Text.Identifier

/-!
The grammar of relaxed documents: JSON with comments, unquoted keys, single quotes, trailing commas and
more ways to write numbers. Each reader takes the characters that are left and gives what it read
together with the characters left then.
-/
namespace LabelQuery.Relaxed

open Text

def isLineEnd (c : Char) : Bool :=
  c == '\n' || c == '\r' || c == '\u2028' || c == '\u2029'

/-- The space separators, the byte order mark and the blanks of ASCII. -/
def spaces : CharSet where
  edges := [
  0x9, 0xA, 0xB, 0xD, 0x20, 0x21, 0xA0, 0xA1, 0x1680, 0x1681, 0x2000, 0x200B, 0x202F, 0x2030,
  0x205F, 0x2060, 0x3000, 0x3001, 0xFEFF, 0xFF00]

/-- The characters that may stand between any two parts of a document. -/
def isSpace (c : Char) : Bool :=
  spaces.contains c || isLineEnd c

/-- What follows a comment that ends in `*/`, if it ends. -/
def afterComment? : List Char → Option (List Char)
  | [] => none
  | '*' :: '/' :: rest => some rest
  | _ :: rest => afterComment? rest

theorem length_afterComment {text rest : List Char} (h : afterComment? text = some rest) :
    rest.length < text.length := by
  fun_induction afterComment? text with
  | case1 => contradiction
  | case2 rest' =>
    cases Option.some.inj h
    simp only [List.length_cons]
    omega
  | case3 c rest' _ ih =>
    have shorter := ih h
    simp only [List.length_cons]
    omega

theorem length_dropWhile_le (p : Char → Bool) (text : List Char) :
    (text.dropWhile p).length ≤ text.length :=
  (List.dropWhile_suffix p).length_le

def skip : List Char → List Char
  | '/' :: '/' :: rest => skip (rest.dropWhile fun c => !isLineEnd c)
  | '/' :: '*' :: rest =>
    match _ : afterComment? rest with
    | some after => skip after
    | none => '/' :: '*' :: rest
  | c :: rest => if isSpace c then skip rest else c :: rest
  | [] => []
termination_by text => text.length
decreasing_by
  · have shorter := length_dropWhile_le (fun c => !isLineEnd c) rest
    simp only [List.length_cons]
    omega
  · have shorter := length_afterComment ‹_›
    simp only [List.length_cons]
    omega
  · simp only [List.length_cons]
    omega

def hexDigit? (c : Char) : Option Nat :=
  if '0' ≤ c ∧ c ≤ '9' then some (c.toNat - '0'.toNat)
  else if 'a' ≤ c ∧ c ≤ 'f' then some (c.toNat - 'a'.toNat + 10)
  else if 'A' ≤ c ∧ c ≤ 'F' then some (c.toNat - 'A'.toNat + 10)
  else none

def isHexDigit (c : Char) : Bool :=
  (hexDigit? c).isSome

/-- The value of digits in some base; characters that are no digits count as zeros. -/
def valueOf (base : Nat) (digits : List Char) : Nat :=
  digits.foldl (fun value c => value * base + (hexDigit? c).getD 0) 0

/-- The number that exactly these hexadecimal digits write. -/
def hexCode? (digits : List Char) : Option Nat :=
  if digits.all isHexDigit then some (valueOf 16 digits) else none

/-- The characters that a backslash does not make plain: decimal digits and the two that begin a
code. -/
def hasNoPlainEscape (c : Char) : Bool :=
  c.isDigit || c == 'x' || c == 'u'

/-- Reads the pieces of a text up to its closing quote. A backslash at the end of a line joins it to
the next. -/
def readText (quote : Char) : List Char → Option (List Piece × List Char)
  | '\\' :: 'x' :: a :: b :: rest => do
    let code ← hexCode? [a, b]
    let (pieces, after) ← readText quote rest
    return (.byte code :: pieces, after)
  | '\\' :: 'u' :: a :: b :: c :: d :: rest => do
    let code ← hexCode? [a, b, c, d]
    let (pieces, after) ← readText quote rest
    return (.unit code :: pieces, after)
  | '\\' :: '0' :: rest => do
    let (pieces, after) ← readText quote rest
    return (.nul :: pieces, after)
  | '\\' :: '\r' :: '\n' :: rest => readText quote rest
  | '\\' :: c :: rest =>
    if isLineEnd c then readText quote rest
    else if hasNoPlainEscape c then none
    else do
      let (pieces, after) ← readText quote rest
      return (.escape c :: pieces, after)
  | c :: rest =>
    if c = quote then some ([], rest)
    else if c = '\\' || isLineEnd c then none
    else do
      let (pieces, after) ← readText quote rest
      return (.char c :: pieces, after)
  | [] => none

def readIdentifierRest : List Char → List Piece × List Char
  | '\\' :: 'u' :: a :: b :: c :: d :: rest =>
    match hexCode? [a, b, c, d] with
    | some code =>
      let (pieces, after) := readIdentifierRest rest
      (.unit code :: pieces, after)
    | none => ([], '\\' :: 'u' :: a :: b :: c :: d :: rest)
  | c :: rest =>
    if continuesIdentifier c then
      let (pieces, after) := readIdentifierRest rest
      (.char c :: pieces, after)
    else ([], c :: rest)
  | [] => ([], [])

def readIdentifier : List Char → Option (List Piece × List Char)
  | '\\' :: rest =>
    match readIdentifierRest ('\\' :: rest) with
    | ([], _) => none
    | read => some read
  | c :: rest => if startsIdentifier c then some (readIdentifierRest (c :: rest)) else none
  | [] => none

def readKey : List Char → Option (List Piece × List Char)
  | '"' :: rest => readText '"' rest
  | '\'' :: rest => readText '\'' rest
  | text => readIdentifier text

def readSign : List Char → Sign × List Char
  | '+' :: rest => (.plus, rest)
  | '-' :: rest => (.minus, rest)
  | text => (.none, text)

def afterWord? (word : String) (text : List Char) : Option (List Char) :=
  if word.toList.isPrefixOf text then some (text.drop word.length) else none

/-- Reads an exponent, if there is a whole one. -/
def readExponent (text : List Char) : Option (Sign × List Char) × List Char :=
  match text with
  | c :: rest =>
    let (sign, rest) := readSign rest
    let digits := rest.takeWhile Char.isDigit
    if (c = 'e' ∨ c = 'E') ∧ digits ≠ [] then (some (sign, digits), rest.dropWhile Char.isDigit)
    else (none, text)
  | [] => (none, [])

/-- Reads the digits before the point: a zero, or digits that do not start with one. -/
def readWhole : List Char → List Char × List Char
  | '0' :: rest => (['0'], rest)
  | text => (text.takeWhile Char.isDigit, text.dropWhile Char.isDigit)

/-- Reads a decimal. There are digits before the point or behind it. -/
def readDecimal (text : List Char) : Option (Magnitude × List Char) :=
  let (whole, rest) := readWhole text
  match rest with
  | '.' :: rest =>
    let fraction := rest.takeWhile Char.isDigit
    let (exponent, after) := readExponent (rest.dropWhile Char.isDigit)
    if whole = [] ∧ fraction = [] then none
    else some (.decimal whole (some fraction) exponent, after)
  | _ =>
    let (exponent, after) := readExponent rest
    if whole = [] then none else some (.decimal whole none exponent, after)

def readHex : List Char → Option (Magnitude × List Char)
  | '0' :: x :: rest =>
    let digits := rest.takeWhile isHexDigit
    if (x = 'x' ∨ x = 'X') ∧ digits ≠ [] then some (.hex digits, rest.dropWhile isHexDigit)
    else none
  | _ => none

def readMagnitude (text : List Char) : Option (Magnitude × List Char) :=
  readHex text
    <|> readDecimal text
    <|> (afterWord? "Infinity" text).map (Magnitude.infinity, ·)
    <|> (afterWord? "NaN" text).map (Magnitude.nan, ·)

def readNumber (text : List Char) : Option (Node × List Char) :=
  let (sign, rest) := readSign text
  (readMagnitude rest).map fun (magnitude, after) => (.number ⟨sign, magnitude⟩, after)

def readScalar (text : List Char) : Option (Node × List Char) :=
  match text with
  | '"' :: rest => (readText '"' rest).map fun (pieces, after) => (.text pieces, after)
  | '\'' :: rest => (readText '\'' rest).map fun (pieces, after) => (.text pieces, after)
  | _ =>
    (afterWord? "null" text).map (Node.null, ·)
      <|> (afterWord? "true" text).map (Node.bool true, ·)
      <|> (afterWord? "false" text).map (Node.bool false, ·)
      <|> readNumber text

mutual

/-- Reads a value at the start of a text. `depth` bounds how many readers may call one another. -/
def readValue : Nat → List Char → Option (Node × List Char)
  | 0, _ => none
  | depth + 1, '[' :: rest =>
    (readItems depth (skip rest)).map fun (items, after) => (.array items, after)
  | depth + 1, '\x7b' :: rest =>
    (readFields depth (skip rest)).map fun (fields, after) => (.object fields, after)
  | _ + 1, text => readScalar text

/-- Reads items up to the closing bracket; a comma may follow the last. -/
def readItems : Nat → List Char → Option (List Node × List Char)
  | 0, _ => none
  | _ + 1, ']' :: rest => some ([], rest)
  | depth + 1, text => do
    let (item, rest) ← readValue depth text
    match skip rest with
    | ',' :: rest =>
      let (items, after) ← readItems depth (skip rest)
      return (item :: items, after)
    | ']' :: rest => return ([item], rest)
    | _ => none

/-- Reads fields up to the closing brace; a comma may follow the last. -/
def readFields : Nat → List Char → Option (List (List Piece × Node) × List Char)
  | 0, _ => none
  | _ + 1, '\x7d' :: rest => some ([], rest)
  | depth + 1, text => do
    let (key, rest) ← readKey text
    match skip rest with
    | ':' :: rest =>
      let (value, rest) ← readValue depth (skip rest)
      match skip rest with
      | ',' :: rest =>
        let (fields, after) ← readFields depth (skip rest)
        return ((key, value) :: fields, after)
      | '\x7d' :: rest => return ([(key, value)], rest)
      | _ => none
    | _ => none

end

/-- Reads a whole document: one value, with spaces and comments around it. Of two nested calls one has
read a character, so the bound is never met. -/
def readDocument (text : List Char) : Option Node := do
  let (node, rest) ← readValue (2 * text.length + 1) (skip text)
  if (skip rest).isEmpty then return node else none

end LabelQuery.Relaxed
