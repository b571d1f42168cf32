import LabelQuery.Json.Printer
import LabelQuery.Json.Relaxed.Meaning

/-!
Reading what was written. Data is written as plain JSON and read as a relaxed document, by another
grammar with other rules for the characters of a text. Main statement: indented lines are read as
the value that was written, unless a text in it has one of the two line separators beyond ASCII;
then they are no document at all.
-/
namespace LabelQuery

open Relaxed

namespace Json

/-- What a character of a text is written as, if it can be read. -/
def piece? (c : Char) : Option Piece :=
  if c = '"' ∨ c = '\\' then some (.escape c)
  else if c = '\x08' then some (.escape 'b')
  else if c = '\x0c' then some (.escape 'f')
  else if c = '\n' then some (.escape 'n')
  else if c = '\r' then some (.escape 'r')
  else if c = '\t' then some (.escape 't')
  else if c.toNat < 0x20 then some (.unit c.toNat)
  else if isLineEnd c then none
  else some (.char c)

def pieces? : List Char → Option (List Piece)
  | [] => some []
  | c :: rest => do return (← piece? c) :: (← pieces? rest)

/-- Tells whether a text can be read where it was written. -/
def isLegible (text : String) : Bool :=
  text.toList.all fun c => c ≠ '\u2028' && c ≠ '\u2029'

section Text

variable {quote c : Char}

theorem readText_escape (notEnd : isLineEnd c = false) (isPlain : hasNoPlainEscape c = false)
    (rest : List Char) :
    readText quote ('\\' :: c :: rest) = (readText quote rest).map fun (pieces, after) =>
      (.escape c :: pieces, after) := by
  have notByte : c ≠ 'x' := by rintro rfl; contradiction
  have notUnit : c ≠ 'u' := by rintro rfl; contradiction
  have notNul : c ≠ '0' := by rintro rfl; contradiction
  have notReturn : c ≠ '\r' := by rintro rfl; contradiction
  rw [readText, if_neg (by simp [notEnd]), if_neg (by simp [isPlain])]
  · cases readText quote rest <;> rfl
  · exact fun _ _ _ same => absurd same notByte
  · exact fun _ _ _ _ _ same => absurd same notUnit
  · exact notNul
  · exact fun _ same => absurd same notReturn

theorem readText_char (notQuote : c ≠ quote) (notEscape : c ≠ '\\') (rest : List Char) :
    readText quote (c :: rest) =
      if isLineEnd c then none
      else (readText quote rest).map fun (pieces, after) => (.char c :: pieces, after) := by
  rw [readText, if_neg notQuote]
  · by_cases ends : isLineEnd c = true
    · simp [ends]
    · simp only [notEscape, ends]
      cases readText quote rest <;> rfl
  all_goals exact fun _ _ => by simp_all

theorem hexCode?_control : ∀ n < 0x20,
    (if n < 0x10 then ['0'] else []) ++ Text.hexDigits n =
        [Nat.digitChar (n / 16), Nat.digitChar (n % 16)] ∧
      hexCode? ['0', '0', Nat.digitChar (n / 16), Nat.digitChar (n % 16)] = some n := by
  decide

theorem readText_control {n : Nat} (control : n < 0x20) (rest : List Char) :
    readText quote ('\\' :: 'u' :: '0' :: '0' :: (if n < 0x10 then ['0'] else []) ++
        Text.hexDigits n ++ rest) =
      (readText quote rest).map fun (pieces, after) => (.unit n :: pieces, after) := by
  obtain ⟨digits, code⟩ := hexCode?_control n control
  have shape : '\\' :: 'u' :: '0' :: '0' :: (if n < 0x10 then ['0'] else []) ++
        Text.hexDigits n ++ rest =
      '\\' :: 'u' :: '0' :: '0' :: Nat.digitChar (n / 16) :: Nat.digitChar (n % 16) :: rest := by
    simp only [List.cons_append, digits, List.nil_append]
  rw [shape, readText, code]
  cases readText quote rest <;> rfl

/-- The three ways in which a character is written, and what is read of each. -/
theorem spelling (c : Char) :
    (∃ mark, escapeChar c = ['\\', mark] ∧ piece? c = some (.escape mark) ∧ escaped mark = c ∧
      isLineEnd mark = false ∧ hasNoPlainEscape mark = false) ∨
    (c.toNat < 0x20 ∧ piece? c = some (.unit c.toNat) ∧
      escapeChar c = '\\' :: 'u' :: '0' :: '0' :: (if c.toNat < 0x10 then ['0'] else []) ++
        Text.hexDigits c.toNat) ∨
    (c ≠ '"' ∧ c ≠ '\\' ∧ 0x20 ≤ c.toNat ∧ escapeChar c = [c] ∧
      piece? c = if isLineEnd c then none else some (.char c)) := by
  by_cases named : c = '"' ∨ c = '\\' ∨ c = '\x08' ∨ c = '\x0c' ∨ c = '\n' ∨ c = '\r' ∨ c = '\t'
  · left
    rcases named with rfl | rfl | rfl | rfl | rfl | rfl | rfl <;>
      exact ⟨_, rfl, rfl, by decide, by decide, by decide⟩
  · simp only [not_or] at named
    obtain ⟨isQuote, isEscape, isBack, isFeed, isLine, isReturn, isTab⟩ := named
    by_cases control : c.toNat < 0x20
    · exact .inr (.inl ⟨control, by simp [piece?, *], by simp [escapeChar, *]⟩)
    · exact .inr (.inr ⟨isQuote, isEscape, Nat.le_of_not_lt control, by simp [escapeChar, *],
        by simp [piece?, *]⟩)

/-- A character of a text is read as its piece. -/
theorem readText_escapeChar (c : Char) (rest : List Char) :
    readText '"' (escapeChar c ++ rest) = (piece? c).bind fun piece =>
      (readText '"' rest).map fun (pieces, after) => (piece :: pieces, after) := by
  rcases spelling c with ⟨mark, written, piece, -, notEnd, isPlain⟩ | ⟨control, piece, written⟩ |
    ⟨isQuote, isEscape, -, written, piece⟩
  · rw [written, piece]
    exact readText_escape notEnd isPlain rest
  · rw [written, piece]
    exact readText_control control rest
  · rw [written, piece, List.cons_append, List.nil_append, readText_char isQuote isEscape]
    by_cases ends : isLineEnd c = true <;> simp [ends]

theorem readText_writeText (text rest : List Char) :
    readText '"' (text.flatMap escapeChar ++ '"' :: rest) = (pieces? text).map (·, rest) := by
  induction text with
  | nil => rw [List.flatMap_nil, List.nil_append, readText] <;> simp [pieces?]
  | cons c text ih =>
    rw [List.flatMap_cons, List.append_assoc, readText_escapeChar, ih]
    cases hpiece : piece? c with
    | none => simp [pieces?, hpiece]
    | some piece =>
      cases hpieces : pieces? text <;> simp [pieces?, hpiece, hpieces]

theorem textOf_piece {piece : Piece} (h : piece? c = some piece) (pieces : List Piece) :
    textOf (piece :: pieces) = (textOf pieces).map (c :: ·) := by
  rcases spelling c with ⟨mark, -, own, means, -, -⟩ | ⟨control, own, -⟩ | ⟨-, -, -, -, own⟩
  · cases own.symm.trans h
    rw [textOf, means]
  · cases own.symm.trans h
    have notTrail : isTrail c.toNat = false := by simp [isTrail]; omega
    have notLead : isLead c.toNat = false := by simp [isLead]; omega
    conv => lhs; unfold textOf
    simp [notTrail, notLead]
  · rw [own] at h
    by_cases ends : isLineEnd c = true
    · simp [ends] at h
    · simp only [ends] at h
      cases h
      rfl

theorem textOf_pieces {text : List Char} {pieces : List Piece} (h : pieces? text = some pieces) :
    textOf pieces = .ok text := by
  induction text generalizing pieces with
  | nil =>
    cases h
    rfl
  | cons c text ih =>
    rw [pieces?] at h
    cases hpiece : piece? c with
    | none => simp [hpiece] at h
    | some piece =>
      cases hpieces : pieces? text with
      | none => simp [hpiece, hpieces] at h
      | some rest =>
        simp only [hpiece, hpieces] at h
        cases h
        rw [textOf_piece hpiece, ih hpieces]
        rfl

theorem stringOf_pieces {text : String} {pieces : List Piece}
    (h : pieces? text.toList = some pieces) : stringOf pieces = .ok text := by
  rw [stringOf, textOf_pieces h]
  simp [Except.map]

theorem isSome_piece? (c : Char) :
    (piece? c).isSome = (c ≠ '\u2028' && c ≠ '\u2029') := by
  by_cases separates : c = '\u2028' ∨ c = '\u2029'
  · rcases separates with rfl | rfl <;> decide
  · simp only [not_or] at separates
    rcases spelling c with ⟨mark, -, own, -⟩ | ⟨-, own, -⟩ | ⟨-, -, visible, -, own⟩
    · simp [own, separates]
    · simp [own, separates]
    · have notLine : c ≠ '\n' := by rintro rfl; contradiction
      have notReturn : c ≠ '\r' := by rintro rfl; contradiction
      simp [own, isLineEnd, notLine, notReturn, separates]

/-- Only the two line separators cannot be read. -/
theorem isSome_pieces? (text : List Char) :
    (pieces? text).isSome = text.all fun c => c ≠ '\u2028' && c ≠ '\u2029' := by
  induction text with
  | nil => rfl
  | cons c text ih =>
    rw [List.all_cons, ← ih, ← isSome_piece?, pieces?]
    cases piece? c <;> cases pieces? text <;> rfl

end Text

section Number

theorem valueOf_toDigits (n : Nat) : valueOf 10 (Nat.toDigits 10 n) = n := by
  have general (digits : List Char) (isDigit : ∀ c ∈ digits, c.isDigit = true) (init : Nat) :
      digits.foldl (fun value c => value * 10 + (hexDigit? c).getD 0) init =
        Nat.ofDigitChars 10 digits init := by
    induction digits generalizing init with
    | nil => rfl
    | cons c rest ih =>
      have range : '0' ≤ c ∧ c ≤ '9' := by
        simpa [Char.isDigit, Char.le_def] using isDigit c (by simp)
      rw [List.foldl_cons, ih (fun d mem => isDigit d (by simp [mem])), Nat.ofDigitChars_cons,
        hexDigit?, if_pos range, Option.getD_some, Nat.mul_comm]
  rw [valueOf, general _ fun c => Nat.isDigit_of_mem_toDigits (by decide) (by decide)]
  exact Nat.ofDigitChars_ten_toDigits

/-- Only zero begins with a zero. -/
theorem toDigits_cons {n : Nat} (positive : 0 < n) :
    ∃ c rest, Nat.toDigits 10 n = c :: rest ∧ c.isDigit = true ∧ c ≠ '0' := by
  induction n using Nat.strongRecOn with
  | ind n ih =>
    by_cases single : n < 10
    · have digit : ∀ n < 10, 0 < n → (Nat.digitChar n).isDigit = true ∧ Nat.digitChar n ≠ '0' := by
        decide
      exact ⟨_, [], Nat.toDigits_of_lt_base single, digit n single positive⟩
    · obtain ⟨c, rest, hdigits, digit, nonzero⟩ := ih (n / 10) (by omega) (by omega)
      have longer : Nat.toDigits 10 n = c :: (rest ++ [(n % 10).digitChar]) := by
        rw [Nat.toDigits_of_base_le (by decide) (by omega), hdigits, List.cons_append]
      exact ⟨c, _, longer, digit, nonzero⟩

/-- What follows a value in indented lines. -/
def Closes (rest : List Char) : Prop :=
  ∀ c ∈ rest.head?, c = ',' ∨ c = '\n'

variable {rest : List Char}

theorem readWhole_toDigits (n : Nat) (closes : Closes rest) :
    readWhole (Nat.toDigits 10 n ++ rest) = (Nat.toDigits 10 n, rest) := by
  rcases Nat.eq_zero_or_pos n with rfl | positive
  · rfl
  · have digits : ∀ c ∈ Nat.toDigits 10 n, c.isDigit = true :=
      fun c => Nat.isDigit_of_mem_toDigits (by decide) (by decide)
    obtain ⟨c, others, hdigits, -, nonzero⟩ := toDigits_cons positive
    have whole : readWhole (Nat.toDigits 10 n ++ rest) =
        ((Nat.toDigits 10 n ++ rest).takeWhile Char.isDigit,
          (Nat.toDigits 10 n ++ rest).dropWhile Char.isDigit) := by
      rw [hdigits, List.cons_append, readWhole]
      exact fun _ same => nonzero (List.cons.inj same).1
    rw [whole, List.takeWhile_append_of_pos digits, List.dropWhile_append_of_pos digits]
    cases rest with
    | nil => simp
    | cons d rest =>
      have stops : d.isDigit = false := by
        rcases closes d rfl with rfl | rfl <;> rfl
      simp [stops]

theorem readHex_toDigits (n : Nat) (closes : Closes rest) :
    readHex (Nat.toDigits 10 n ++ rest) = none := by
  rcases Nat.eq_zero_or_pos n with rfl | positive
  · cases rest with
    | nil => rfl
    | cons d rest =>
      have other : ¬(d = 'x' ∨ d = 'X') := by
        rcases closes d rfl with rfl | rfl <;> decide
      simp [Nat.toDigits_zero, readHex, other]
  · obtain ⟨c, others, hdigits, -, nonzero⟩ := toDigits_cons positive
    rw [hdigits, List.cons_append, readHex]
    exact fun _ _ same => nonzero (List.cons.inj same).1

theorem readExponent_of_closes (closes : Closes rest) : readExponent rest = (none, rest) := by
  cases rest with
  | nil => rfl
  | cons d rest =>
    have other : ¬(d = 'e' ∨ d = 'E') := by
      rcases closes d rfl with rfl | rfl <;> decide
    simp [readExponent, other]

theorem readMagnitude_toDigits (n : Nat) (closes : Closes rest) :
    readMagnitude (Nat.toDigits 10 n ++ rest) =
      some (.decimal (Nat.toDigits 10 n) none none, rest) := by
  have decimal : readDecimal (Nat.toDigits 10 n ++ rest) =
      some (.decimal (Nat.toDigits 10 n) none none, rest) := by
    rw [readDecimal, readWhole_toDigits n closes]
    cases rest with
    | nil => simp [readExponent, Nat.toDigits_ne_nil]
    | cons d rest =>
      have notPoint : d ≠ '.' := by
        rcases closes d rfl with rfl | rfl <;> decide
      simp [readExponent_of_closes closes, Nat.toDigits_ne_nil, notPoint]
  rw [readMagnitude, readHex_toDigits n closes, decimal]
  rfl

end Number

mutual

/-- What is read of a value that was written. Fractions are left out. -/
def node? : Json → Option Node
  | null => some .null
  | bool value => some (.bool value)
  | int value =>
    some (.number ⟨if value < 0 then .minus else .none,
      .decimal (Nat.toDigits 10 value.natAbs) none none⟩)
  | float _ => none
  | str value => (pieces? value.toList).map .text
  | arr items => (nodes? items).map .array
  | obj fields => (fieldNodes? fields).map .object

def nodes? : List Json → Option (List Node)
  | [] => some []
  | item :: items => do return (← node? item) :: (← nodes? items)

def fieldNodes? : List (String × Json) → Option (List (List Piece × Node))
  | [] => some []
  | (name, value) :: fields => do
    return (← pieces? name.toList, ← node? value) :: (← fieldNodes? fields)

end

theorem nodes?_cons (item : Json) (items : List Json) :
    nodes? (item :: items) = (node? item).bind fun node => (nodes? items).map (node :: ·) := by
  rw [nodes?]
  cases node? item with
  | none => rfl
  | some node => cases nodes? items <;> rfl

theorem fieldNodes?_cons (name : String) (value : Json) (fields : List (String × Json)) :
    fieldNodes? ((name, value) :: fields) = (pieces? name.toList).bind fun key =>
      (node? value).bind fun node => (fieldNodes? fields).map ((key, node) :: ·) := by
  rw [fieldNodes?]
  cases pieces? name.toList with
  | none => rfl
  | some key =>
    cases node? value with
    | none => rfl
    | some node => cases fieldNodes? fields <;> rfl

/-- Values without fractions. -/
inductive IsWhole : Json → Prop
  | null : IsWhole null
  | bool (value : Bool) : IsWhole (bool value)
  | int (value : Int) : IsWhole (int value)
  | str (value : String) : IsWhole (str value)
  | arr {items : List Json} : (∀ item ∈ items, IsWhole item) → IsWhole (arr items)
  | obj {fields : List (String × Json)} : (∀ field ∈ fields, IsWhole field.2) → IsWhole (obj fields)

attribute [simp] IsWhole.null IsWhole.bool IsWhole.int IsWhole.str

@[simp] theorem isWhole_arr {items : List Json} :
    IsWhole (arr items) ↔ ∀ item ∈ items, IsWhole item :=
  ⟨fun | .arr whole => whole, .arr⟩

@[simp] theorem isWhole_obj {fields : List (String × Json)} :
    IsWhole (obj fields) ↔ ∀ field ∈ fields, IsWhole field.2 :=
  ⟨fun | .obj whole => whole, .obj⟩

/-- A character that a value can begin with. -/
def begins (c : Char) : Bool :=
  c.isDigit || ['-', 'n', 't', 'f', '"', '[', '\x7b'].contains c

theorem isSpace_of_begins {c : Char} (h : begins c = true) : isSpace c = false := by
  have digit : ∀ n < 58, 48 ≤ n → Text.CharSet.insideEdges n spaces.edges = false := by decide
  by_cases isDigit : c.isDigit = true
  · have range : 48 ≤ c.toNat ∧ c.toNat ≤ 57 := by
      simpa [Char.isDigit, UInt32.le_iff_toNat_le] using isDigit
    have notLine : isLineEnd c = false := by
      rw [← Bool.not_eq_true]
      intro ends
      simp only [isLineEnd, Bool.or_eq_true, beq_iff_eq] at ends
      rcases ends with ((rfl | rfl) | rfl) | rfl <;> contradiction
    rw [isSpace, notLine, Bool.or_false]
    exact digit c.toNat (by omega) range.1
  · simp [begins, isDigit] at h
    rcases h with rfl | rfl | rfl | rfl | rfl | rfl | rfl <;> decide

theorem skip_solid {c : Char} (solid : isSpace c = false) (notSlash : c ≠ '/')
    (rest : List Char) : skip (c :: rest) = c :: rest := by
  rw [skip]
  · simp [solid]
  all_goals exact fun _ same => absurd same notSlash

theorem skip_blank {c : Char} (h : isSpace c = true) (notSlash : c ≠ '/') (rest : List Char) :
    skip (c :: rest) = skip rest := by
  rw [skip]
  · simp [h]
  all_goals exact fun _ same => absurd same notSlash

theorem skip_newline (indent : Nat) (rest : List Char) :
    skip (newline indent ++ rest) = skip rest := by
  have blanks (n : Nat) : skip (List.replicate n ' ' ++ rest) = skip rest := by
    induction n with
    | zero => rfl
    | succ n ih =>
      rw [List.replicate_succ, List.cons_append, skip_blank (by decide) (by decide), ih]
  rw [newline, List.cons_append, skip_blank (by decide) (by decide), blanks]

/-- The digits of a number, with a minus if it is negative. -/
theorem writeScalar_int (value : Int) :
    writeScalar (int value) =
      (if value < 0 then ['-'] else []) ++ Nat.toDigits 10 value.natAbs := by
  cases value with
  | ofNat n =>
    have digits : toString (Int.ofNat n) = toString n := rfl
    have positive : ¬Int.ofNat n < 0 := by simp
    rw [writeScalar, digits, Nat.toString_eq_ofList_toDigits, if_neg positive]
    simp
  | negSucc n =>
    have digits : toString (Int.negSucc n) = "-" ++ toString (n + 1) := rfl
    have negative : Int.negSucc n < 0 := Int.negSucc_lt_zero n
    rw [writeScalar, digits, Nat.toString_eq_ofList_toDigits, if_pos negative]
    simp

theorem toDigits_eq_cons (n : Nat) :
    ∃ c rest, Nat.toDigits 10 n = c :: rest ∧ c.isDigit = true := by
  rcases Nat.eq_zero_or_pos n with rfl | positive
  · exact ⟨'0', [], Nat.toDigits_zero 10, rfl⟩
  · obtain ⟨c, rest, digits, isDigit, -⟩ := toDigits_cons positive
    exact ⟨c, rest, digits, isDigit⟩

theorem writeScalar_cons_int (value : Int) :
    ∃ c rest, writeScalar (int value) = c :: rest ∧ (c = '-' ∨ c.isDigit = true) := by
  rw [writeScalar_int]
  obtain ⟨c, rest, digits, isDigit⟩ := toDigits_eq_cons value.natAbs
  by_cases negative : value < 0
  · exact ⟨'-', _, by rw [if_pos negative, List.singleton_append], .inl rfl⟩
  · exact ⟨c, rest, by rw [if_neg negative, List.nil_append, digits], .inr isDigit⟩

theorem writeBlock_cons {value : Json} (whole : IsWhole value) (indent : Nat) :
    ∃ c rest, value.writeBlock indent = c :: rest ∧ begins c = true := by
  cases whole with
  | null => exact ⟨_, _, rfl, rfl⟩
  | bool value => cases value <;> exact ⟨_, _, rfl, rfl⟩
  | int value =>
    obtain ⟨c, rest, written, sign | digit⟩ := writeScalar_cons_int value
    · exact ⟨c, rest, written, by rw [sign]; rfl⟩
    · exact ⟨c, rest, written, by simp [begins, digit]⟩
  | str value => exact ⟨_, _, rfl, rfl⟩
  | @arr items _ => cases items <;> exact ⟨_, _, rfl, rfl⟩
  | @obj fields _ => cases fields <;> exact ⟨_, _, rfl, rfl⟩

/-- Behind anything that can stand before it, a value is read as what was written. -/
def ReadsBack (value : Json) : Prop :=
  ∀ (depth indent : Nat) (rest : List Char), (value.writeBlock indent).length ≤ depth →
    Closes rest → readValue depth (value.writeBlock indent ++ rest) = (node? value).map (·, rest)

theorem readValue_scalar {c : Char} (notArray : c ≠ '[') (notObject : c ≠ '\x7b') {depth : Nat}
    (enough : 0 < depth) (rest : List Char) :
    readValue depth (c :: rest) = readScalar (c :: rest) := by
  obtain ⟨depth, rfl⟩ := Nat.exists_eq_succ_of_ne_zero (Nat.ne_of_gt enough)
  rw [Nat.succ_eq_add_one, readValue]
  · exact fun _ same => notArray (List.cons.inj same).1
  · exact fun _ same => notObject (List.cons.inj same).1

theorem readNumber_writeScalar (value : Int) {rest : List Char} (closes : Closes rest) :
    readNumber (writeScalar (int value) ++ rest) = (node? (int value)).map (·, rest) := by
  have magnitude := readMagnitude_toDigits value.natAbs closes
  rw [writeScalar_int, node?]
  by_cases negative : value < 0
  · simp [negative, readNumber, readSign, magnitude]
  · have unsigned : readSign (Nat.toDigits 10 value.natAbs ++ rest) =
        (.none, Nat.toDigits 10 value.natAbs ++ rest) := by
      obtain ⟨c, others, digits, isDigit⟩ := toDigits_eq_cons value.natAbs
      have notPlus : c ≠ '+' := by rintro rfl; contradiction
      have notMinus : c ≠ '-' := by rintro rfl; contradiction
      rw [digits, List.cons_append, readSign]
      · exact fun _ same => notPlus (List.cons.inj same).1
      · exact fun _ same => notMinus (List.cons.inj same).1
    simp [negative, readNumber, unsigned, magnitude]

theorem readScalar_number {c : Char} (first : c = '-' ∨ c.isDigit = true) (rest : List Char) :
    readScalar (c :: rest) = readNumber (c :: rest) := by
  have differs (d : Char) (other : d ≠ '-' ∧ d.isDigit = false) : d ≠ c := by
    rintro rfl
    simp [other] at first
  have noNull : afterWord? "null" (c :: rest) = none := by
    simp [afterWord?, differs 'n' (by decide)]
  have noTrue : afterWord? "true" (c :: rest) = none := by
    simp [afterWord?, differs 't' (by decide)]
  have noFalse : afterWord? "false" (c :: rest) = none := by
    simp [afterWord?, differs 'f' (by decide)]
  rw [readScalar, noNull, noTrue, noFalse]
  · rfl
  · exact fun _ same => differs '"' (by decide) (List.cons.inj same).1.symm
  · exact fun _ same => differs '\'' (by decide) (List.cons.inj same).1.symm

theorem readsBack_null : ReadsBack null := by
  intro depth indent rest enough closes
  exact readValue_scalar (by decide) (by decide) (Nat.lt_of_lt_of_le (Nat.succ_pos 3) enough) _

theorem readsBack_bool (value : Bool) : ReadsBack (bool value) := by
  intro depth indent rest enough closes
  cases value with
  | true =>
    exact readValue_scalar (by decide) (by decide) (Nat.lt_of_lt_of_le (Nat.succ_pos 3) enough) _
  | false =>
    exact readValue_scalar (by decide) (by decide) (Nat.lt_of_lt_of_le (Nat.succ_pos 4) enough) _

theorem readsBack_int (value : Int) : ReadsBack (int value) := by
  intro depth indent rest enough closes
  obtain ⟨c, others, written, first⟩ := writeScalar_cons_int value
  have number := readNumber_writeScalar value closes
  have block : (int value).writeBlock indent = c :: others := written
  have notArray : c ≠ '[' := by rintro rfl; simp at first
  have notObject : c ≠ '\x7b' := by rintro rfl; simp at first
  have positive : 0 < depth := by
    rw [block, List.length_cons] at enough
    omega
  rw [written, List.cons_append, ← readScalar_number first] at number
  rw [block, List.cons_append, readValue_scalar notArray notObject positive, number]

theorem readsBack_str (value : String) : ReadsBack (str value) := by
  intro depth indent rest enough closes
  have text := readText_writeText value.toList rest
  have written : (str value).writeBlock indent ++ rest =
      '"' :: (value.toList.flatMap escapeChar ++ '"' :: rest) := by
    simp [writeBlock, writeScalar, writeText]
  have positive : 0 < depth :=
    Nat.lt_of_lt_of_le (by simp [writeBlock, writeScalar, writeText]) enough
  rw [written, readValue_scalar (by decide) (by decide) positive]
  simp only [readScalar, text, node?]
  cases pieces? value.toList <;> rfl

theorem skip_writeBlock {value : Json} (whole : IsWhole value) (indent : Nat) (rest : List Char) :
    skip (value.writeBlock indent ++ rest) = value.writeBlock indent ++ rest := by
  obtain ⟨c, others, written, begins⟩ := writeBlock_cons whole indent
  have notSlash : c ≠ '/' := by rintro rfl; contradiction
  rw [written, List.cons_append, skip_solid (isSpace_of_begins begins) notSlash]

theorem closes_newline (indent : Nat) (rest : List Char) : Closes (newline indent ++ rest) := by
  intro c head
  exact .inr (Option.some.inj head).symm

theorem closes_comma (rest : List Char) : Closes (',' :: rest) := by
  intro c head
  exact .inl (Option.some.inj head).symm

section Block

variable {value : Json} (whole : IsWhole value) (readsBack : ReadsBack value)
include whole readsBack

theorem readItems_item {depth indent : Nat} (enough : (value.writeBlock indent).length ≤ depth)
    {after : List Char} (closes : Closes after) :
    readItems (depth + 1) (skip (newline indent ++ (value.writeBlock indent ++ after))) =
      (node? value).bind fun node =>
        match skip after with
        | ',' :: rest =>
          (readItems depth (skip rest)).map fun (items, left) => (node :: items, left)
        | ']' :: rest => some ([node], rest)
        | _ => none := by
  obtain ⟨c, others, written, begins⟩ := writeBlock_cons whole indent
  have notEnd : c ≠ ']' := by rintro rfl; contradiction
  rw [skip_newline, skip_writeBlock whole, readItems, readsBack depth indent after enough closes]
  · cases node? value with
    | none => rfl
    | some node =>
      simp only [Option.map_some, Option.bind_eq_bind, Option.bind_some]
      split
      · next rest _ => cases more : readItems depth (skip rest) <;> simp_all
      · simp_all
      · grind
  · rw [written]
    exact fun _ same => notEnd (List.cons.inj same).1

theorem readFields_field (name : String) {depth indent : Nat}
    (enough : (value.writeBlock indent).length ≤ depth) {after : List Char}
    (closes : Closes after) :
    readFields (depth + 1) (skip (newline indent ++
        (writeText name ++ ':' :: ' ' :: (value.writeBlock indent ++ after)))) =
      (pieces? name.toList).bind fun key => (node? value).bind fun node =>
        match skip after with
        | ',' :: rest =>
          (readFields depth (skip rest)).map fun (fields, left) => ((key, node) :: fields, left)
        | '\x7d' :: rest => some ([(key, node)], rest)
        | _ => none := by
  have key := readText_writeText name.toList (':' :: ' ' :: (value.writeBlock indent ++ after))
  have text : writeText name ++ ':' :: ' ' :: (value.writeBlock indent ++ after) =
      '"' :: (name.toList.flatMap escapeChar ++
        '"' :: ':' :: ' ' :: (value.writeBlock indent ++ after)) := by
    simp [writeText]
  have solid : skip (':' :: ' ' :: (value.writeBlock indent ++ after)) =
      ':' :: ' ' :: (value.writeBlock indent ++ after) :=
    skip_solid (by decide) (by decide) _
  have blank : skip (' ' :: (value.writeBlock indent ++ after)) =
      value.writeBlock indent ++ after := by
    rw [skip_blank (by decide) (by decide), skip_writeBlock whole]
  rw [skip_newline, text, skip_solid (by decide) (by decide), readFields]
  · rw [readKey, key]
    cases pieces? name.toList with
    | none => rfl
    | some pieces =>
      simp only [Option.map_some, Option.bind_eq_bind, Option.bind_some, solid, blank,
        readsBack depth indent after enough closes]
      cases node? value with
      | none => rfl
      | some node =>
        simp only [Option.map_some, Option.bind_some]
        split
        · next rest _ => cases more : readFields depth (skip rest) <;> simp_all
        · simp_all
        · grind
  · exact fun _ same => absurd (List.cons.inj same).1 (by decide)

end Block

theorem skip_bracket {c : Char} (isBracket : c = ']' ∨ c = '\x7d' ∨ c = ',') (rest : List Char) :
    skip (c :: rest) = c :: rest := by
  rcases isBracket with rfl | rfl | rfl <;> exact skip_solid (by decide) (by decide) rest

theorem readItems_writeBlockItems {items : List Json} (whole : ∀ item ∈ items, IsWhole item)
    (readsBack : ∀ item ∈ items, ReadsBack item) {depth : Nat} (indent : Nat)
    (enough : (writeBlockItems indent items).length ≤ depth) (rest : List Char) :
    readItems depth (skip (writeBlockItems indent items ++ rest)) =
      (nodes? items).map (·, rest) := by
  -- the reader spends one of its depth on each item, the writer at least one character
  induction items generalizing depth with
  | nil =>
    obtain ⟨depth, rfl⟩ : ∃ less, depth = less + 1 := ⟨depth - 1, by
      simp [writeBlockItems, newline] at enough
      omega⟩
    rw [writeBlockItems, List.append_assoc, List.singleton_append, skip_newline,
      skip_bracket (.inl rfl), readItems]
    rfl
  | cons item items ih =>
    obtain ⟨depth, rfl⟩ : ∃ less, depth = less + 1 := ⟨depth - 1, by
      cases items <;> simp [writeBlockItems, newline] at enough <;> omega⟩
    have wholeItem := whole item (by simp)
    have itemReadsBack := readsBack item (by simp)
    cases items with
    | nil =>
      have text : writeBlockItems indent [item] ++ rest = newline (indent + 1) ++
          (item.writeBlock (indent + 1) ++ (newline indent ++ (']' :: rest))) := by
        simp [writeBlockItems]
      have fits : (item.writeBlock (indent + 1)).length ≤ depth := by
        simp [writeBlockItems, newline] at enough
        omega
      rw [text, readItems_item wholeItem itemReadsBack fits (closes_newline indent _), skip_newline,
        skip_bracket (.inl rfl)]
      cases hnode : node? item <;> simp [nodes?, hnode]
    | cons other others =>
      have text : writeBlockItems indent (item :: other :: others) ++ rest = newline (indent + 1) ++
          (item.writeBlock (indent + 1) ++
            (',' :: (writeBlockItems indent (other :: others) ++ rest))) := by
        simp [writeBlockItems]
      simp only [writeBlockItems, newline, List.length_append, List.length_cons] at enough
      have fits : (item.writeBlock (indent + 1)).length ≤ depth := by omega
      have following := @ih (fun some mem => whole some (by simp [mem]))
        (fun some mem => readsBack some (by simp [mem])) depth (by omega)
      rw [text, readItems_item wholeItem itemReadsBack fits (closes_comma _),
        skip_bracket (.inr (.inr rfl))]
      simp only [following]
      rw [nodes?_cons item]
      cases hnode : node? item with
      | none => rfl
      | some node => cases nodes? (other :: others) <;> rfl

theorem readFields_writeBlockFields {fields : List (String × Json)}
    (whole : ∀ field ∈ fields, IsWhole field.2) (readsBack : ∀ field ∈ fields, ReadsBack field.2)
    {depth : Nat} (indent : Nat) (enough : (writeBlockFields indent fields).length ≤ depth)
    (rest : List Char) :
    readFields depth (skip (writeBlockFields indent fields ++ rest)) =
      (fieldNodes? fields).map (·, rest) := by
  induction fields generalizing depth with
  | nil =>
    obtain ⟨depth, rfl⟩ : ∃ less, depth = less + 1 := ⟨depth - 1, by
      simp [writeBlockFields, newline] at enough
      omega⟩
    rw [writeBlockFields, List.append_assoc, List.singleton_append, skip_newline,
      skip_bracket (.inr (.inl rfl)), readFields]
    rfl
  | cons field fields ih =>
    obtain ⟨name, value⟩ := field
    obtain ⟨depth, rfl⟩ : ∃ less, depth = less + 1 := ⟨depth - 1, by
      cases fields <;> simp [writeBlockFields, newline] at enough <;> omega⟩
    have wholeValue : IsWhole value := whole (name, value) (by simp)
    have valueReadsBack : ReadsBack value := readsBack (name, value) (by simp)
    cases fields with
    | nil =>
      have text : writeBlockFields indent [(name, value)] ++ rest = newline (indent + 1) ++
          (writeText name ++ ':' :: ' ' :: (value.writeBlock (indent + 1) ++
            (newline indent ++ ('\x7d' :: rest)))) := by
        simp [writeBlockFields]
      have fits : (value.writeBlock (indent + 1)).length ≤ depth := by
        simp [writeBlockFields, newline] at enough
        omega
      rw [text, readFields_field wholeValue valueReadsBack name fits (closes_newline indent _),
        skip_newline, skip_bracket (.inr (.inl rfl)), fieldNodes?]
      cases pieces? name.toList with
      | none => rfl
      | some pieces => cases node? value <;> rfl
    | cons other others =>
      have text : writeBlockFields indent ((name, value) :: other :: others) ++ rest =
          newline (indent + 1) ++ (writeText name ++ ':' :: ' ' :: (value.writeBlock (indent + 1) ++
            (',' :: (writeBlockFields indent (other :: others) ++ rest)))) := by
        simp [writeBlockFields]
      simp only [writeBlockFields, newline, List.length_append, List.length_cons] at enough
      have fits : (value.writeBlock (indent + 1)).length ≤ depth := by omega
      have following := @ih (fun some mem => whole some (by simp [mem]))
        (fun some mem => readsBack some (by simp [mem])) depth (by omega)
      rw [text, readFields_field wholeValue valueReadsBack name fits (closes_comma _),
        skip_bracket (.inr (.inr rfl))]
      simp only [following]
      rw [fieldNodes?_cons name]
      cases pieces? name.toList with
      | none => rfl
      | some pieces =>
        cases node? value with
        | none => rfl
        | some node => cases fieldNodes? (other :: others) <;> rfl

/-- A value without fractions is read as it was written. -/
theorem readsBack_of_isWhole {value : Json} (whole : IsWhole value) : ReadsBack value := by
  -- any text may follow the value and any depth above its length will do, since the parts of an
  -- array or object are read with what follows them and with the depth that is left
  induction whole with
  | null => exact readsBack_null
  | bool value => exact readsBack_bool value
  | int value => exact readsBack_int value
  | str value => exact readsBack_str value
  | @arr items whole readsBack =>
    intro depth indent rest enough closes
    cases items with
    | nil =>
      obtain ⟨depth, rfl⟩ : ∃ less, depth = less + 2 := ⟨depth - 2, by
        simp [writeBlock] at enough
        omega⟩
      have text : (arr []).writeBlock indent ++ rest = '[' :: ']' :: rest := rfl
      rw [text, readValue, skip_bracket (.inl rfl), readItems]
      rfl
    | cons item items =>
      obtain ⟨depth, rfl⟩ : ∃ less, depth = less + 1 := ⟨depth - 1, by
        simp [writeBlock] at enough
        omega⟩
      have fits : (writeBlockItems indent (item :: items)).length ≤ depth := by
        simpa [writeBlock] using enough
      have text : (arr (item :: items)).writeBlock indent ++ rest =
          '[' :: (writeBlockItems indent (item :: items) ++ rest) := rfl
      rw [text, readValue, readItems_writeBlockItems whole readsBack indent fits, node?]
      cases nodes? (item :: items) <;> rfl
  | @obj fields whole readsBack =>
    intro depth indent rest enough closes
    cases fields with
    | nil =>
      obtain ⟨depth, rfl⟩ : ∃ less, depth = less + 2 := ⟨depth - 2, by
        simp [writeBlock] at enough
        omega⟩
      have text : (obj []).writeBlock indent ++ rest = '\x7b' :: '\x7d' :: rest := rfl
      rw [text, readValue, skip_bracket (.inr (.inl rfl)), readFields]
      rfl
    | cons field fields =>
      obtain ⟨depth, rfl⟩ : ∃ less, depth = less + 1 := ⟨depth - 1, by
        simp [writeBlock] at enough
        omega⟩
      have fits : (writeBlockFields indent (field :: fields)).length ≤ depth := by
        simpa [writeBlock] using enough
      have text : (obj (field :: fields)).writeBlock indent ++ rest =
          '\x7b' :: (writeBlockFields indent (field :: fields) ++ rest) := rfl
      rw [text, readValue, readFields_writeBlockFields whole readsBack indent fits, node?]
      cases fieldNodes? (field :: fields) <;> rfl

/-- What was written as a whole document is read whole. -/
theorem readDocument_block {value : Json} (whole : IsWhole value) :
    readDocument value.block.toList = node? value := by
  have text : value.block.toList = value.writeBlock 0 := by simp [block]
  have solid : skip (value.writeBlock 0) = value.writeBlock 0 := by
    simpa using skip_writeBlock whole 0 []
  have read : readValue (2 * (value.writeBlock 0).length + 1) (value.writeBlock 0) =
      (node? value).map (·, []) := by
    have back := readsBack_of_isWhole whole (2 * (value.writeBlock 0).length + 1) 0 [] (by omega)
    simpa using back (by simp [Closes])
  rw [readDocument, text, solid, read]
  cases node? value with
  | none => rfl
  | some node =>
    have nothing : skip [] = [] := by rw [skip]
    simp [nothing]

end Json

end LabelQuery
