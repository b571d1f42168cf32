import LabelQuery.Dict
import LabelQuery.Json.Relaxed.Reader
import LabelQuery.Json.Value
import LabelQuery.Number.Notation
import LabelQuery.Text.Quoted

/-!
What the nodes of a relaxed document mean, and why a document has no meaning: a number out of range, half
of a surrogate pair, or a value of another type than the one asked for.
-/
namespace LabelQuery.Relaxed

inductive ReadError
  /-- The text breaks the grammar. -/
  | grammar
  /-- A numeral without point and exponent is no 64-bit integer. -/
  | integer
  /-- Hexadecimal digits write no 32-bit number. -/
  | hex
  /-- A value that has to be a number is none. -/
  | number
  /-- A number is beyond all finite ones. -/
  | tooLarge
  /-- The second half of a surrogate pair without the first. -/
  | loneTrail
  /-- The first half of a surrogate pair at the end of a text. -/
  | missingTrail
  /-- The first half of a surrogate pair with something else behind it. -/
  | expectedTrail
  /-- A field that is given twice. -/
  | duplicateField (name : String)
  /-- A value of another type than the one asked for. -/
  | unexpectedType (found expected : String)
  deriving DecidableEq, Repr

/-- What the user is told. Reports on the grammar are not spelled out. -/
def ReadError.message : ReadError → String
  | grammar => "<syntax>"
  | integer => "error parsing integer"
  | hex => "error parsing hex"
  | number => "error parsing number"
  | tooLarge => "error parsing number: too large"
  | loneTrail => "unexpected unicode trail surrogate"
  | missingTrail => "missing unicode trail surrogate"
  | expectedTrail => "expecting unicode trail surrogate"
  | duplicateField name => "duplicate field `" ++ name ++ "`"
  | unexpectedType found expected => "invalid type: " ++ found ++ ", expected " ++ expected

/-! ### Texts -/

def escaped (c : Char) : Char :=
  if c = 'b' then '\x08'
  else if c = 'f' then '\x0c'
  else if c = 'n' then '\n'
  else if c = 'r' then '\r'
  else if c = 't' then '\t'
  else if c = 'v' then '\x0b'
  else c

/-- The number that a piece writes if it is read as hexadecimal digits. -/
def Piece.asHex? : Piece → Option Nat
  | .char c | .escape c => hexDigit? c
  | .nul => some 0
  | .byte code | .unit code => some code

/-- Tells whether a code is the first half of a surrogate pair. -/
def isLead (code : Nat) : Bool :=
  0xD800 ≤ code && code < 0xDC00

/-- Tells whether a code is the second half of a surrogate pair. -/
def isTrail (code : Nat) : Bool :=
  0xDC00 ≤ code && code < 0xE000

/-- The character of a surrogate pair. The halves are joined bit by bit, without a carry into the bits
of the first. -/
def joinHalves (lead trail : Nat) : Char :=
  Char.ofNat (((lead - 0xD800) <<< 10) ||| (trail - 0xDC00 + 0x10000))

def textOf : List Piece → Except ReadError (List Char)
  | [] => .ok []
  | .char c :: rest => (textOf rest).map (c :: ·)
  | .escape c :: rest => (textOf rest).map (escaped c :: ·)
  | .nul :: rest => (textOf rest).map ('\x00' :: ·)
  | .byte code :: rest => (textOf rest).map (Char.ofNat code :: ·)
  | .unit code :: rest =>
    if isTrail code then .error .loneTrail
    else if isLead code then
      match rest with
      | [] => .error .missingTrail
      | next :: rest =>
        match next.asHex? with
        | none => .error .hex
        | some trail =>
          if isTrail trail then (textOf rest).map (joinHalves code trail :: ·)
          else .error .expectedTrail
    else (textOf rest).map (Char.ofNat code :: ·)

def stringOf (pieces : List Piece) : Except ReadError String :=
  (textOf pieces).map String.ofList

/-! ### Numbers -/

inductive Quantity
  | int (value : Int)
  | double (value : Double)
  deriving DecidableEq, Repr

def Sign.apply (sign : Sign) (magnitude : Nat) : Int :=
  if sign = .minus then -(magnitude : Int) else magnitude

def nearestDouble (sign : Sign) (whole fraction : List Char) (exponent : Option (Sign × List Char)) :
    Except ReadError Double :=
  let power := exponent.elim 0 fun (sign, digits) => sign.apply (valueOf 10 digits)
  let coefficient := valueOf 10 (whole ++ fraction)
  match Binary64.ofDecimal? (sign = .minus) coefficient (power - fraction.length) with
  | some value => .ok (.finite value)
  | none => .error .tooLarge

/-- A 64-bit integer. -/
def integer? (value : Int) : Except ReadError Int :=
  if -0x8000000000000000 ≤ value ∧ value < 0x8000000000000000 then .ok value else .error .integer

/-- A 32-bit number in hexadecimal digits. -/
def hexNumber? (digits : List Char) : Except ReadError Nat :=
  if valueOf 16 digits < UInt32.size then .ok (valueOf 16 digits) else .error .hex

/-- What a numeral means where any number will do. Without point and exponent it is an integer. A
hexadecimal numeral takes no sign, nor do infinity and the undefined number take a plus; with one they
read as integers, or as decimals if an `e` is among the digits, and are neither. -/
def Numeral.quantity (numeral : Numeral) : Except ReadError Quantity :=
  match numeral.sign, numeral.magnitude with
  | .none, .hex digits => (hexNumber? digits).map fun value => .int value
  | _, .hex digits =>
    if digits.any fun c => c = 'e' || c = 'E' then .error .number else .error .integer
  | .plus, .infinity | .plus, .nan => .error .integer
  | sign, .infinity => .ok (.double (.infinite (sign = .minus)))
  | _, .nan => .ok (.double .nan)
  | sign, .decimal whole none none =>
    (integer? (sign.apply (valueOf 10 whole))).map .int
  | sign, .decimal whole fraction exponent =>
    (nearestDouble sign whole (fraction.getD []) exponent).map .double

/-- What a numeral means where a double is asked for. -/
def Numeral.double (numeral : Numeral) : Except ReadError Double :=
  match numeral.sign, numeral.magnitude with
  | .none, .hex digits => do
    let value ← hexNumber? digits
    nearestDouble .none (Nat.toDigits 10 value) [] none
  | _, .hex _ => .error .number
  | .plus, .infinity | .plus, .nan => .error .tooLarge
  | sign, .infinity => .ok (.infinite (sign = .minus))
  | _, .nan => .ok .nan
  | sign, .decimal whole fraction exponent =>
    nearestDouble sign whole (fraction.getD []) exponent

/-! ### Values -/

/-- A quantity as a data value; what is not finite has none. -/
def Quantity.toJson : Quantity → Json
  | .int value => .int value
  | .double (.finite value) => .float value
  | .double _ => .null

mutual

def Node.toJson : Node → Except ReadError Json
  | .null => .ok .null
  | .bool value => .ok (.bool value)
  | .text pieces => (stringOf pieces).map .str
  | .number numeral => numeral.quantity.map Quantity.toJson
  | .array items => (itemsToJson items).map .arr
  | .object fields => (fieldsToJson fields).map fun fields => .obj (Dict.ofList fields).entries

def itemsToJson : List Node → Except ReadError (List Json)
  | [] => .ok []
  | item :: items => do
    let item ← item.toJson
    let items ← itemsToJson items
    return item :: items

/-- The data values of fields, in the order in which they are written. -/
def fieldsToJson : List (List Piece × Node) → Except ReadError (List (String × Json))
  | [] => .ok []
  | (key, value) :: fields => do
    let key ← stringOf key
    let value ← value.toJson
    let fields ← fieldsToJson fields
    return (key, value) :: fields

end

def Node.describe : Node → Except ReadError String
  | .null => .ok "unit value"
  | .bool value => .ok ("boolean `" ++ (if value then "true" else "false") ++ "`")
  | .text pieces => (stringOf pieces).map fun text => "string " ++ Text.quoted text
  | .number numeral => numeral.quantity.map fun quantity =>
    match quantity with
    | .int value => "integer `" ++ toString value ++ "`"
    | .double value => "floating point `" ++ value.write .pointedPlain ++ "`"
  | .array _ => .ok "sequence"
  | .object _ => .ok "map"

def Node.refuse {α : Type} (node : Node) (expected : String) : Except ReadError α := do
  let found ← node.describe
  throw (.unexpectedType found expected)

def parse (text : String) : Except ReadError Node :=
  match readDocument text.toList with
  | some node => .ok node
  | none => .error .grammar

def readJson (text : String) : Except ReadError Json := do
  let node ← parse text
  node.toJson

end LabelQuery.Relaxed
