import LabelQuery.Json.Relaxed.Meaning

/-!
Reading plain JSON, as the receiver of a line of data does. What breaks the grammar, half of a surrogate
pair and a number beyond all doubles have no value.
-/
namespace LabelQuery.Json

namespace Decoder

open Relaxed (hexCode? valueOf isLead isTrail)

def isBlank (c : Char) : Bool :=
  c = ' ' || c = '\t' || c = '\n' || c = '\r'

def skip (text : List Char) : List Char :=
  text.dropWhile isBlank

/-! ### Texts -/

/-- What a backslash and a character stand for. -/
def unescape? (c : Char) : Option Char :=
  if c = '"' ∨ c = '\\' ∨ c = '/' then some c
  else if c = 'b' then some '\x08'
  else if c = 'f' then some '\x0c'
  else if c = 'n' then some '\n'
  else if c = 'r' then some '\r'
  else if c = 't' then some '\t'
  else none

/-- The character of a surrogate pair. -/
def joinPair (lead trail : Nat) : Char :=
  Char.ofNat (0x10000 + (lead - 0xD800) * 0x400 + (trail - 0xDC00))

/-- Reads a text up to its closing quote. A first half of a surrogate pair that has been read waits for
the second one. -/
def readText (waiting : Option Nat) : List Char → Option (List Char × List Char)
  | '\\' :: 'u' :: a :: b :: c :: d :: rest => do
    let code ← hexCode? [a, b, c, d]
    match waiting with
    | some lead =>
      if isTrail code then
        let (text, after) ← readText none rest
        return (joinPair lead code :: text, after)
      else none
    | none =>
      if isLead code then readText (some code) rest
      else if isTrail code then none
      else
        let (text, after) ← readText none rest
        return (Char.ofNat code :: text, after)
  | '\\' :: c :: rest =>
    if waiting.isSome then none
    else do
      let c ← unescape? c
      let (text, after) ← readText none rest
      return (c :: text, after)
  | c :: rest =>
    if waiting.isSome then none
    else if c = '"' then some ([], rest)
    else if c = '\\' ∨ c.toNat < 0x20 then none
    else do
      let (text, after) ← readText none rest
      return (c :: text, after)
  | [] => none

/-! ### Numbers -/

def readDigits (text : List Char) : List Char × List Char :=
  (text.takeWhile Char.isDigit, text.dropWhile Char.isDigit)

/-- Reads a point and the digits behind it, if there is a point. -/
def readFraction : List Char → Option (Option (List Char) × List Char)
  | '.' :: rest =>
    let (digits, rest) := readDigits rest
    if digits = [] then none else some (some digits, rest)
  | text => some (none, text)

def readSign : List Char → Bool × List Char
  | '-' :: rest => (true, rest)
  | '+' :: rest => (false, rest)
  | text => (false, text)

/-- Reads an exponent, if there is one. -/
def readExponent : List Char → Option (Option Int × List Char)
  | [] => some (none, [])
  | c :: rest =>
    if c = 'e' ∨ c = 'E' then
      let (negative, rest) := readSign rest
      let (digits, rest) := readDigits rest
      let magnitude : Int := valueOf 10 digits
      if digits = [] then none else some (some (if negative then -magnitude else magnitude), rest)
    else some (none, c :: rest)

/-- Reads a number without its sign. Without point and exponent it is an integer. -/
def readMagnitude (negative : Bool) (text : List Char) : Option (Json × List Char) := do
  let (whole, rest) := readDigits text
  if whole = [] ∨ whole.head? = some '0' ∧ whole ≠ ['0'] then none
  else
    let (fraction, rest) ← readFraction rest
    let (exponent, rest) ← readExponent rest
    if fraction.isNone ∧ exponent.isNone then
      let magnitude : Int := valueOf 10 whole
      return (.int (if negative then -magnitude else magnitude), rest)
    else
      let digits := fraction.getD []
      let value ← Binary64.ofDecimal? negative (valueOf 10 (whole ++ digits))
        (exponent.getD 0 - digits.length)
      return (.float value, rest)

def readNumber : List Char → Option (Json × List Char)
  | '-' :: rest => readMagnitude true rest
  | text => readMagnitude false text

/-! ### Values -/

def readScalar : List Char → Option (Json × List Char)
  | 'n' :: 'u' :: 'l' :: 'l' :: rest => some (null, rest)
  | 't' :: 'r' :: 'u' :: 'e' :: rest => some (bool true, rest)
  | 'f' :: 'a' :: 'l' :: 's' :: 'e' :: rest => some (bool false, rest)
  | '"' :: rest => (readText none rest).map fun (text, after) => (str (String.ofList text), after)
  | text => readNumber text

mutual

/-- Reads a value at the start of a text. `depth` bounds how many readers may call one another. -/
def readValue : Nat → List Char → Option (Json × List Char)
  | 0, _ => none
  | depth + 1, '[' :: rest =>
    match skip rest with
    | ']' :: rest => some (arr [], rest)
    | rest => (readItems depth rest).map fun (items, after) => (arr items, after)
  | depth + 1, '\x7b' :: rest =>
    match skip rest with
    | '\x7d' :: rest => some (obj [], rest)
    | rest => (readFields depth rest).map fun (fields, after) => (obj fields, after)
  | _ + 1, text => readScalar text

/-- Reads items, at least one, up to the closing bracket. -/
def readItems : Nat → List Char → Option (List Json × List Char)
  | 0, _ => none
  | depth + 1, text => do
    let (item, rest) ← readValue depth text
    match skip rest with
    | ',' :: rest =>
      let (items, after) ← readItems depth (skip rest)
      return (item :: items, after)
    | ']' :: rest => return ([item], rest)
    | _ => none

/-- Reads fields, at least one, up to the closing brace. -/
def readFields : Nat → List Char → Option (List (String × Json) × List Char)
  | depth + 1, '"' :: text => do
    let (name, rest) ← readText none text
    match skip rest with
    | ':' :: rest =>
      let (value, rest) ← readValue depth (skip rest)
      match skip rest with
      | ',' :: rest =>
        let (fields, after) ← readFields depth (skip rest)
        return ((String.ofList name, value) :: fields, after)
      | '\x7d' :: rest => return ([(String.ofList name, value)], rest)
      | _ => none
    | _ => none
  | _, _ => none

end

end Decoder

/-- The value of a text, blanks around it apart. Of two nested calls of readers one has read a character,
so the bound is never met. -/
def decode? (text : String) : Option Json := do
  let (value, rest) ← Decoder.readValue (2 * text.length + 1) (Decoder.skip text.toList)
  if (Decoder.skip rest).isEmpty then some value else none

end LabelQuery.Json
