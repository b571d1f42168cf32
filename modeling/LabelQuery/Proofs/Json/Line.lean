import LabelQuery.Json.Decoder
import LabelQuery.Proofs.Json.Reading

/-!
A value on one line. Main statements: the line holds no line feed, and is decoded as the value that
was written.
-/
namespace LabelQuery.Json

open Relaxed (hexCode?)

namespace Decoder

section Text

/-- The three ways in which a character is written, and what the first one is read as. -/
theorem escapeChar_cases (c : Char) :
    (∃ mark, escapeChar c = ['\\', mark] ∧ mark ≠ 'u' ∧ unescape? mark = some c) ∨
    (c.toNat < 0x20 ∧ escapeChar c =
      '\\' :: 'u' :: '0' :: '0' :: (if c.toNat < 0x10 then ['0'] else []) ++
        Text.hexDigits c.toNat) ∨
    (c ≠ '"' ∧ c ≠ '\\' ∧ 0x20 ≤ c.toNat ∧ escapeChar c = [c]) := by
  by_cases named : c = '"' ∨ c = '\\' ∨ c = '\x08' ∨ c = '\x0c' ∨ c = '\n' ∨ c = '\r' ∨ c = '\t'
  · left
    rcases named with rfl | rfl | rfl | rfl | rfl | rfl | rfl <;>
      exact ⟨_, rfl, by decide, by decide⟩
  · simp only [not_or] at named
    obtain ⟨notQuote, notEscape, _, _, _, _, _⟩ := named
    by_cases control : c.toNat < 0x20
    · exact .inr (.inl ⟨control, by simp [escapeChar, *]⟩)
    · exact .inr (.inr ⟨notQuote, notEscape, Nat.le_of_not_lt control, by simp [escapeChar, *]⟩)

theorem readText_escape {mark c : Char} (notUnit : mark ≠ 'u') (read : unescape? mark = some c)
    (rest : List Char) :
    readText none ('\\' :: mark :: rest) =
      (readText none rest).map fun (text, after) => (c :: text, after) := by
  rw [readText]
  · simp only [Option.isSome_none, Bool.false_eq_true, if_false, read, Option.bind_eq_bind,
      Option.bind_some]
    cases readText none rest <;> rfl
  · exact fun _ _ _ _ _ same => absurd same notUnit

theorem readText_control {n : Nat} (control : n < 0x20) (rest : List Char) :
    readText none ('\\' :: 'u' :: '0' :: '0' :: (if n < 0x10 then ['0'] else []) ++
        Text.hexDigits n ++ rest) =
      (readText none rest).map fun (text, after) => (Char.ofNat n :: text, after) := by
  obtain ⟨digits, code⟩ := hexCode?_control n control
  have shape : '\\' :: 'u' :: '0' :: '0' :: (if n < 0x10 then ['0'] else []) ++
        Text.hexDigits n ++ rest =
      '\\' :: 'u' :: '0' :: '0' :: Nat.digitChar (n / 16) :: Nat.digitChar (n % 16) :: rest := by
    simp only [List.cons_append, digits, List.nil_append]
  have notLead : Relaxed.isLead n = false := by simp [Relaxed.isLead]; omega
  have notTrail : Relaxed.isTrail n = false := by simp [Relaxed.isTrail]; omega
  rw [shape, readText, code]
  simp only [Option.bind_eq_bind, Option.bind_some, notLead, notTrail, Bool.false_eq_true, if_false]
  cases readText none rest <;> rfl

theorem readText_char {c : Char} (notQuote : c ≠ '"') (notEscape : c ≠ '\\')
    (visible : 0x20 ≤ c.toNat) (rest : List Char) :
    readText none (c :: rest) =
      (readText none rest).map fun (text, after) => (c :: text, after) := by
  rw [readText]
  · have plain : ¬(c = '\\' ∨ c.toNat < 0x20) := by
      rintro (same | control)
      · exact notEscape same
      · omega
    simp only [Option.isSome_none, Bool.false_eq_true, if_false, if_neg notQuote, if_neg plain]
    cases readText none rest <;> rfl
  · exact fun _ _ _ _ _ same => absurd same notEscape
  · exact fun _ _ same => absurd same notEscape

theorem readText_escapeChar (c : Char) (rest : List Char) :
    readText none (escapeChar c ++ rest) =
      (readText none rest).map fun (text, after) => (c :: text, after) := by
  rcases escapeChar_cases c with ⟨mark, written, notUnit, read⟩ | ⟨control, written⟩ |
    ⟨notQuote, notEscape, visible, written⟩
  · rw [written]
    exact readText_escape notUnit read rest
  · have same : Char.ofNat c.toNat = c := Char.ofNat_toNat c
    rw [written, readText_control control, same]
  · rw [written]
    exact readText_char notQuote notEscape visible rest

theorem readText_writeText (text rest : List Char) :
    readText none (text.flatMap escapeChar ++ '"' :: rest) = some (text, rest) := by
  induction text with
  | nil => rw [List.flatMap_nil, List.nil_append, readText] <;> simp
  | cons c text ih =>
    rw [List.flatMap_cons, List.append_assoc, readText_escapeChar, ih]
    rfl

end Text

section Number

variable {rest : List Char}

/-- What follows a value on a line. -/
def Ends (rest : List Char) : Prop :=
  ∀ c ∈ rest.head?, c = ',' ∨ c = ']' ∨ c = '\x7d'

theorem Ends.head {c : Char} (ends : Ends (c :: rest)) :
    c.isDigit = false ∧ c ≠ '.' ∧ c ≠ 'e' ∧ c ≠ 'E' := by
  rcases ends c rfl with rfl | rfl | rfl <;> decide

theorem readDigits_toDigits (n : Nat) (ends : Ends rest) :
    readDigits (Nat.toDigits 10 n ++ rest) = (Nat.toDigits 10 n, rest) := by
  have digits : ∀ c ∈ Nat.toDigits 10 n, c.isDigit = true :=
    fun c => Nat.isDigit_of_mem_toDigits (by decide) (by decide)
  rw [readDigits, List.takeWhile_append_of_pos digits, List.dropWhile_append_of_pos digits]
  cases rest with
  | nil => simp
  | cons c rest => simp [ends.head.1]

/-- Only zero is written with a zero in front. -/
theorem no_leading_zero (n : Nat) :
    ¬(Nat.toDigits 10 n = [] ∨
      (Nat.toDigits 10 n).head? = some '0' ∧ Nat.toDigits 10 n ≠ ['0']) := by
  rcases Nat.eq_zero_or_pos n with rfl | positive
  · decide
  · obtain ⟨c, others, digits, -, nonzero⟩ := toDigits_cons positive
    simp [digits, nonzero]

theorem readMagnitude_toDigits (negative : Bool) (n : Nat) (ends : Ends rest) :
    readMagnitude negative (Nat.toDigits 10 n ++ rest) =
      some (int (if negative then -(n : Int) else n), rest) := by
  have fraction : readFraction rest = some (none, rest) := by
    cases rest with
    | nil => rfl
    | cons c rest =>
      rw [readFraction]
      exact fun _ same => ends.head.2.1 (List.cons.inj same).1
  have exponent : readExponent rest = some (none, rest) := by
    cases rest with
    | nil => rfl
    | cons c rest =>
      have other : ¬(c = 'e' ∨ c = 'E') := not_or.2 ends.head.2.2
      rw [readExponent, if_neg other]
  rw [readMagnitude, readDigits_toDigits n ends]
  simp only [if_neg (no_leading_zero n), fraction, exponent, Option.bind_eq_bind, Option.bind_some,
    valueOf_toDigits]
  rfl

theorem readNumber_writeScalar (value : Int) (ends : Ends rest) :
    readNumber (writeScalar (int value) ++ rest) = some (int value, rest) := by
  rw [writeScalar_int]
  by_cases negative : value < 0
  · have magnitude : -(value.natAbs : Int) = value := by omega
    rw [if_pos negative, List.append_assoc, List.singleton_append, readNumber,
      readMagnitude_toDigits true _ ends, if_pos rfl, magnitude]
  · have magnitude : (value.natAbs : Int) = value := by omega
    obtain ⟨c, others, digits, isDigit⟩ := toDigits_eq_cons value.natAbs
    have notMinus : c ≠ '-' := by rintro rfl; contradiction
    have unsigned : readNumber (Nat.toDigits 10 value.natAbs ++ rest) =
        readMagnitude false (Nat.toDigits 10 value.natAbs ++ rest) := by
      rw [digits, List.cons_append, readNumber]
      exact fun _ same => notMinus (List.cons.inj same).1
    rw [if_neg negative, List.nil_append, unsigned, readMagnitude_toDigits false _ ends]
    simp [magnitude]

end Number

/-- With anything behind it that can stand there, a value is read as it was written. -/
def ReadsBack (value : Json) : Prop :=
  ∀ (depth : Nat) (rest : List Char), value.writeLine.length ≤ depth → Ends rest →
    readValue depth (value.writeLine ++ rest) = some (value, rest)

theorem isBlank_of_begins {c : Char} (h : begins c = true) : isBlank c = false := by
  rw [← Bool.not_eq_true]
  intro blank
  simp only [isBlank, Bool.or_eq_true, decide_eq_true_eq] at blank
  rcases blank with ((rfl | rfl) | rfl) | rfl <;> contradiction

theorem skip_solid {c : Char} (solid : isBlank c = false) (rest : List Char) :
    skip (c :: rest) = c :: rest := by
  simp [skip, solid]

theorem writeLine_cons {value : Json} (whole : IsWhole value) :
    ∃ c rest, value.writeLine = c :: rest ∧ begins c = true := by
  cases whole with
  | null => exact ⟨_, _, rfl, rfl⟩
  | bool value => cases value <;> exact ⟨_, _, rfl, rfl⟩
  | int value =>
    obtain ⟨c, rest, written, sign | digit⟩ := writeScalar_cons_int value
    · exact ⟨c, rest, written, by rw [sign]; rfl⟩
    · exact ⟨c, rest, written, by simp [begins, digit]⟩
  | str value => exact ⟨_, _, rfl, rfl⟩
  | arr _ => exact ⟨_, _, rfl, rfl⟩
  | obj _ => exact ⟨_, _, rfl, rfl⟩

theorem skip_writeLine {value : Json} (whole : IsWhole value) (rest : List Char) :
    skip (value.writeLine ++ rest) = value.writeLine ++ rest := by
  obtain ⟨c, others, written, begins⟩ := writeLine_cons whole
  rw [written, List.cons_append, skip_solid (isBlank_of_begins begins)]

theorem readValue_scalar {c : Char} (notArray : c ≠ '[') (notObject : c ≠ '\x7b') {depth : Nat}
    (enough : 0 < depth) (rest : List Char) :
    readValue depth (c :: rest) = readScalar (c :: rest) := by
  obtain ⟨depth, rfl⟩ := Nat.exists_eq_succ_of_ne_zero (Nat.ne_of_gt enough)
  rw [Nat.succ_eq_add_one, readValue]
  · exact fun _ same => notArray (List.cons.inj same).1
  · exact fun _ same => notObject (List.cons.inj same).1

theorem readsBack_null : ReadsBack null := by
  intro depth rest enough ends
  exact readValue_scalar (by decide) (by decide) (Nat.lt_of_lt_of_le (Nat.succ_pos 3) enough) _

theorem readsBack_bool (value : Bool) : ReadsBack (bool value) := by
  intro depth rest enough ends
  cases value with
  | true =>
    exact readValue_scalar (by decide) (by decide) (Nat.lt_of_lt_of_le (Nat.succ_pos 3) enough) _
  | false =>
    exact readValue_scalar (by decide) (by decide) (Nat.lt_of_lt_of_le (Nat.succ_pos 4) enough) _

theorem readScalar_number {c : Char} (first : c = '-' ∨ c.isDigit = true) (rest : List Char) :
    readScalar (c :: rest) = readNumber (c :: rest) := by
  have differs (d : Char) (other : d ≠ '-' ∧ d.isDigit = false) : c ≠ d := by
    rintro rfl
    simp [other] at first
  rw [readScalar]
  · exact fun _ same => differs 'n' (by decide) (List.cons.inj same).1
  · exact fun _ same => differs 't' (by decide) (List.cons.inj same).1
  · exact fun _ same => differs 'f' (by decide) (List.cons.inj same).1
  · exact fun _ same => differs '"' (by decide) (List.cons.inj same).1

theorem readsBack_int (value : Int) : ReadsBack (int value) := by
  intro depth rest enough ends
  obtain ⟨c, others, written, first⟩ := writeScalar_cons_int value
  have number := readNumber_writeScalar value ends
  have line : (int value).writeLine = c :: others := written
  have notArray : c ≠ '[' := by rintro rfl; simp at first
  have notObject : c ≠ '\x7b' := by rintro rfl; simp at first
  have positive : 0 < depth := by
    rw [line, List.length_cons] at enough
    omega
  rw [written, List.cons_append, ← readScalar_number first] at number
  rw [line, List.cons_append, readValue_scalar notArray notObject positive, number]

theorem readsBack_str (value : String) : ReadsBack (str value) := by
  intro depth rest enough ends
  have text := readText_writeText value.toList rest
  have written : (str value).writeLine ++ rest =
      '"' :: (value.toList.flatMap escapeChar ++ '"' :: rest) := by
    simp [writeLine, writeScalar, writeText]
  have positive : 0 < depth :=
    Nat.lt_of_lt_of_le (by simp [writeLine, writeScalar, writeText]) enough
  rw [written, readValue_scalar (by decide) (by decide) positive]
  simp [readScalar, text]

theorem ends_bracket {c : Char} (isBracket : c = ',' ∨ c = ']' ∨ c = '\x7d') (rest : List Char) :
    Ends (c :: rest) := by
  intro d head
  obtain rfl : c = d := by simpa using head
  exact isBracket

theorem skip_bracket {c : Char} (isBracket : c = ',' ∨ c = ']' ∨ c = '\x7d') (rest : List Char) :
    skip (c :: rest) = c :: rest := by
  rcases isBracket with rfl | rfl | rfl <;> exact skip_solid (by decide) rest

theorem writeItems_cons {item : Json} (whole : IsWhole item) (items : List Json) :
    ∃ c rest, writeItems (item :: items) = c :: rest ∧ begins c = true := by
  obtain ⟨c, rest, written, begins⟩ := writeLine_cons whole
  cases items with
  | nil => exact ⟨c, rest ++ [']'], by rw [writeItems, written, List.cons_append], begins⟩
  | cons other others =>
    refine ⟨c, rest ++ ',' :: writeItems (other :: others), ?_, begins⟩
    rw [writeItems, written, List.cons_append]
    exact fun same => nomatch same

theorem readItems_writeItems {items : List Json} (whole : ∀ item ∈ items, IsWhole item)
    (readsBack : ∀ item ∈ items, ReadsBack item) (nonempty : items ≠ []) {depth : Nat}
    (enough : (writeItems items).length ≤ depth) (rest : List Char) :
    readItems depth (writeItems items ++ rest) = some (items, rest) := by
  -- the reader spends one of its depth on each item, the writer at least one character
  induction items generalizing depth with
  | nil => contradiction
  | cons item items ih =>
    obtain ⟨depth, rfl⟩ : ∃ less, depth = less + 1 := ⟨depth - 1, by
      cases items <;> simp [writeItems] at enough <;> omega⟩
    have itemReadsBack := readsBack item (by simp)
    cases items with
    | nil =>
      have text : writeItems [item] ++ rest = item.writeLine ++ ']' :: rest := by
        simp [writeItems]
      have fits : item.writeLine.length ≤ depth := by
        simpa [writeItems] using enough
      rw [text, readItems, itemReadsBack depth _ fits (ends_bracket (by simp) rest)]
      simp [skip_bracket]
    | cons other others =>
      have text : writeItems (item :: other :: others) ++ rest =
          item.writeLine ++ ',' :: (writeItems (other :: others) ++ rest) := by
        simp [writeItems]
      have lengths : item.writeLine.length + 1 + (writeItems (other :: others)).length ≤
          depth + 1 := by
        simp only [writeItems, List.length_append, List.length_cons] at enough ⊢
        omega
      have following := @ih (fun some mem => whole some (by simp [mem]))
        (fun some mem => readsBack some (by simp [mem])) (by simp) depth (by omega)
      have solid : skip (writeItems (other :: others) ++ rest) =
          writeItems (other :: others) ++ rest := by
        obtain ⟨c, tail, written, begins⟩ := writeItems_cons (whole other (by simp)) others
        rw [written, List.cons_append, skip_solid (isBlank_of_begins begins)]
      rw [text, readItems, itemReadsBack depth _ (by omega) (ends_bracket (by simp) _)]
      simp [skip_bracket, solid, following]

theorem writeFields_cons (field : String × Json) (fields : List (String × Json)) :
    ∃ rest, writeFields (field :: fields) = '"' :: rest := by
  obtain ⟨name, value⟩ := field
  cases fields with
  | nil =>
    rw [writeFields]
    exact ⟨_, rfl⟩
  | cons other others =>
    rw [writeFields]
    · exact ⟨_, rfl⟩
    · exact fun same => nomatch same

/-- A name with its value, and what is behind them. -/
theorem readFields_field (name : String) {value : Json} (whole : IsWhole value)
    (readsBack : ReadsBack value) {depth : Nat} (fits : value.writeLine.length ≤ depth)
    {after : List Char} (ends : Ends after) :
    readFields (depth + 1) (writeText name ++ ':' :: (value.writeLine ++ after)) =
      match skip after with
      | ',' :: rest =>
        (readFields depth (skip rest)).map fun (fields, left) => ((name, value) :: fields, left)
      | '\x7d' :: rest => some ([(name, value)], rest)
      | _ => none := by
  have text : writeText name ++ ':' :: (value.writeLine ++ after) =
      '"' :: (name.toList.flatMap escapeChar ++ '"' :: ':' :: (value.writeLine ++ after)) := by
    simp [writeText]
  have key := readText_writeText name.toList (':' :: (value.writeLine ++ after))
  have colon : skip (':' :: (value.writeLine ++ after)) = ':' :: (value.writeLine ++ after) :=
    skip_solid (by decide) _
  rw [text, readFields]
  simp only [key, Option.bind_eq_bind, Option.bind_some, colon, skip_writeLine whole,
    readsBack depth after fits ends, String.ofList_toList]
  split
  · next rest _ => cases more : readFields depth (skip rest) <;> simp_all
  · simp_all
  · grind

theorem readFields_writeFields {fields : List (String × Json)}
    (whole : ∀ field ∈ fields, IsWhole field.2) (readsBack : ∀ field ∈ fields, ReadsBack field.2)
    (nonempty : fields ≠ []) {depth : Nat} (enough : (writeFields fields).length ≤ depth)
    (rest : List Char) :
    readFields depth (writeFields fields ++ rest) = some (fields, rest) := by
  induction fields generalizing depth with
  | nil => contradiction
  | cons field fields ih =>
    obtain ⟨name, value⟩ := field
    obtain ⟨depth, rfl⟩ : ∃ less, depth = less + 1 := ⟨depth - 1, by
      cases fields <;> simp [writeFields] at enough <;> omega⟩
    have wholeValue : IsWhole value := whole (name, value) (by simp)
    have valueReadsBack : ReadsBack value := readsBack (name, value) (by simp)
    cases fields with
    | nil =>
      have text : writeFields [(name, value)] ++ rest =
          writeText name ++ ':' :: (value.writeLine ++ '\x7d' :: rest) := by
        simp [writeFields]
      have fits : value.writeLine.length ≤ depth := by
        simp [writeFields] at enough
        omega
      rw [text, readFields_field name wholeValue valueReadsBack fits (ends_bracket (by simp) rest)]
      simp [skip_bracket]
    | cons other others =>
      have text : writeFields ((name, value) :: other :: others) ++ rest =
          writeText name ++ ':' :: (value.writeLine ++
            ',' :: (writeFields (other :: others) ++ rest)) := by
        simp [writeFields]
      simp only [writeFields, List.length_append, List.length_cons] at enough
      have following := @ih (fun some mem => whole some (by simp [mem]))
        (fun some mem => readsBack some (by simp [mem])) (by simp) depth (by omega)
      have solid : skip (writeFields (other :: others) ++ rest) =
          writeFields (other :: others) ++ rest := by
        obtain ⟨tail, written⟩ := writeFields_cons other others
        rw [written, List.cons_append, skip_solid (by decide)]
      rw [text, readFields_field name wholeValue valueReadsBack (by omega)
        (ends_bracket (by simp) _), skip_bracket (by simp)]
      simp only [solid, following]
      rfl

theorem readsBack_arr {items : List Json} (whole : ∀ item ∈ items, IsWhole item)
    (readsBack : ∀ item ∈ items, ReadsBack item) : ReadsBack (arr items) := by
  intro depth rest enough ends
  obtain ⟨depth, rfl⟩ : ∃ less, depth = less + 1 := ⟨depth - 1, by
    simp [writeLine] at enough
    omega⟩
  have line : (arr items).writeLine ++ rest = '[' :: (writeItems items ++ rest) := rfl
  cases items with
  | nil => rfl
  | cons item items =>
    have fits : (writeItems (item :: items)).length ≤ depth := by
      simpa [writeLine] using enough
    have read := readItems_writeItems whole readsBack (by simp) fits rest
    obtain ⟨c, tail, written, begins⟩ := writeItems_cons (whole item (by simp)) items
    have notEnd : c ≠ ']' := by rintro rfl; contradiction
    rw [written, List.cons_append] at read
    rw [line, written, List.cons_append, readValue, skip_solid (isBlank_of_begins begins)]
    split
    · next same => exact absurd (List.cons.inj same).1 notEnd
    · rw [read]
      rfl

theorem readsBack_obj {fields : List (String × Json)} (whole : ∀ field ∈ fields, IsWhole field.2)
    (readsBack : ∀ field ∈ fields, ReadsBack field.2) : ReadsBack (obj fields) := by
  intro depth rest enough ends
  obtain ⟨depth, rfl⟩ : ∃ less, depth = less + 1 := ⟨depth - 1, by
    simp [writeLine] at enough
    omega⟩
  have line : (obj fields).writeLine ++ rest = '\x7b' :: (writeFields fields ++ rest) := rfl
  cases fields with
  | nil => rfl
  | cons field fields =>
    have fits : (writeFields (field :: fields)).length ≤ depth := by
      simpa [writeLine] using enough
    have read := readFields_writeFields whole readsBack (by simp) fits rest
    obtain ⟨tail, written⟩ := writeFields_cons field fields
    rw [written, List.cons_append] at read
    rw [line, written, List.cons_append, readValue, skip_solid (by decide)]
    split
    · next same => exact absurd (List.cons.inj same).1 (by decide)
    · rw [read]
      rfl

/-- A value without fractions is read as it was written. -/
theorem readsBack_of_isWhole {value : Json} (whole : IsWhole value) : ReadsBack value := by
  induction whole with
  | null => exact readsBack_null
  | bool value => exact readsBack_bool value
  | int value => exact readsBack_int value
  | str value => exact readsBack_str value
  | arr whole readsBack => exact readsBack_arr whole readsBack
  | obj whole readsBack => exact readsBack_obj whole readsBack

/-! ### One line -/

section OneLine

/-- A text without controls, and so without line feeds. -/
def IsSolid (text : List Char) : Prop :=
  ∀ c ∈ text, 0x20 ≤ c.toNat

instance (text : List Char) : Decidable (IsSolid text) :=
  List.decidableBAll _ text

theorem IsSolid.append {first second : List Char} (hfirst : IsSolid first)
    (hsecond : IsSolid second) : IsSolid (first ++ second) :=
  List.forall_mem_append.2 ⟨hfirst, hsecond⟩

theorem IsSolid.cons {c : Char} {text : List Char} (visible : 0x20 ≤ c.toNat)
    (solid : IsSolid text) : IsSolid (c :: text) :=
  List.forall_mem_cons.2 ⟨visible, solid⟩

theorem unescape?_visible {mark c : Char} (read : unescape? mark = some c) :
    0x20 ≤ mark.toNat := by
  apply Nat.le_of_not_lt
  intro control
  have other (d : Char) (visible : 0x20 ≤ d.toNat) : mark ≠ d := by
    rintro rfl
    omega
  simp [unescape?, other '"' (by decide), other '\\' (by decide), other '/' (by decide),
    other 'b' (by decide), other 'f' (by decide), other 'n' (by decide), other 'r' (by decide),
    other 't' (by decide)] at read

theorem isSolid_control : ∀ n < 0x20,
    IsSolid ('\\' :: 'u' :: '0' :: '0' :: (if n < 0x10 then ['0'] else []) ++
      Text.hexDigits n) := by
  decide

theorem isSolid_escapeChar (c : Char) : IsSolid (escapeChar c) := by
  rcases escapeChar_cases c with ⟨mark, written, -, read⟩ | ⟨control, written⟩ |
    ⟨-, -, visible, written⟩
  · rw [written]
    exact .cons (by decide) (.cons (unescape?_visible read) (List.forall_mem_nil _))
  · rw [written]
    exact isSolid_control c.toNat control
  · rw [written]
    exact .cons visible (List.forall_mem_nil _)

theorem isSolid_writeText (text : String) : IsSolid (writeText text) := by
  have escaped : IsSolid (text.toList.flatMap escapeChar) := by
    intro c mem
    obtain ⟨original, -, mem⟩ := List.mem_flatMap.1 mem
    exact isSolid_escapeChar original c mem
  exact .cons (by decide) (escaped.append (by decide))

theorem isSolid_writeScalar_int (value : Int) : IsSolid (writeScalar (int value)) := by
  rw [writeScalar_int]
  apply IsSolid.append
  · split <;> decide
  · intro c mem
    have digit : c.isDigit = true := Nat.isDigit_of_mem_toDigits (by decide) (by decide) mem
    have range : 48 ≤ c.toNat ∧ c.toNat ≤ 57 := by
      simpa [Char.isDigit, UInt32.le_iff_toNat_le] using digit
    omega

theorem isSolid_writeItems {items : List Json}
    (solid : ∀ item ∈ items, IsSolid item.writeLine) : IsSolid (writeItems items) := by
  induction items with
  | nil => decide
  | cons item items ih =>
    obtain ⟨first, others⟩ := List.forall_mem_cons.1 solid
    cases items with
    | nil => exact first.append (by decide)
    | cons other items => exact first.append (.cons (by decide) (ih others))

theorem isSolid_writeFields {fields : List (String × Json)}
    (solid : ∀ field ∈ fields, IsSolid field.2.writeLine) : IsSolid (writeFields fields) := by
  induction fields with
  | nil => decide
  | cons field fields ih =>
    obtain ⟨name, value⟩ := field
    obtain ⟨first, others⟩ := List.forall_mem_cons.1 solid
    have named := isSolid_writeText name
    cases fields with
    | nil =>
      have closed : IsSolid (value.writeLine ++ ['\x7d']) := first.append (by decide)
      have written : writeFields [(name, value)] =
          writeText name ++ ':' :: (value.writeLine ++ ['\x7d']) := by
        simp [writeFields]
      rw [written]
      exact named.append (.cons (by decide) closed)
    | cons other fields =>
      have following : IsSolid (value.writeLine ++ ',' :: writeFields (other :: fields)) :=
        first.append (.cons (by decide) (ih others))
      have written : writeFields ((name, value) :: other :: fields) =
          writeText name ++ ':' :: (value.writeLine ++ ',' :: writeFields (other :: fields)) := by
        simp [writeFields]
      rw [written]
      exact named.append (.cons (by decide) following)

theorem isSolid_writeLine {value : Json} (whole : IsWhole value) : IsSolid value.writeLine := by
  induction whole with
  | null => decide
  | bool value => cases value <;> decide
  | int value => exact isSolid_writeScalar_int value
  | str value => exact isSolid_writeText value
  | arr _ solid => exact .cons (by decide) (isSolid_writeItems solid)
  | obj _ solid => exact .cons (by decide) (isSolid_writeFields solid)

end OneLine

end Decoder

/-- What is written on a line holds no line feed. -/
theorem newline_not_mem_line {value : Json} (whole : IsWhole value) :
    '\n' ∉ value.line.toList := by
  intro mem
  have written : '\n' ∈ value.writeLine := by simpa [line] using mem
  exact absurd (Decoder.isSolid_writeLine whole '\n' written) (by decide)

/-- A line is decoded as the value that it was written for. -/
theorem decode?_line {value : Json} (whole : IsWhole value) : decode? value.line = some value := by
  have text : value.line.toList = value.writeLine := by simp [line]
  have length : value.line.length = value.writeLine.length := by simp [line]
  have solid : Decoder.skip value.writeLine = value.writeLine := by
    simpa using Decoder.skip_writeLine whole []
  have read : Decoder.readValue (2 * value.writeLine.length + 1) value.writeLine =
      some (value, []) := by
    have back := Decoder.readsBack_of_isWhole whole (2 * value.writeLine.length + 1) [] (by omega)
    simpa using back (by simp [Decoder.Ends])
  rw [decode?, text, length, solid, read]
  rfl

example : decode? " [\"\\u00e9\\ud83d\\ude00\", -7] " = some (arr [str "é😀", int (-7)]) := by
  cbv

end LabelQuery.Json
