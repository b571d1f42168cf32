import LabelQuery.Text.Visible

/-!
Quoted text for messages: double quotes around the text, a backslash before what would end it, and
escapes for the characters that do not show.
-/
namespace LabelQuery.Text

/-- The lower-case hexadecimal digits of a number, none of them leading zeros. -/
def hexDigits (n : Nat) : List Char :=
  Nat.toDigits 16 n

def quotedChar (c : Char) : List Char :=
  if c = '\x00' then ['\\', '0']
  else if c = '\t' then ['\\', 't']
  else if c = '\r' then ['\\', 'r']
  else if c = '\n' then ['\\', 'n']
  else if c = '\\' ∨ c = '"' then ['\\', c]
  else if invisible.contains c then
    "\\u\x7b".toList ++ hexDigits c.toNat ++ ['\x7d']
  else [c]

def quoted (text : String) : String :=
  String.ofList ('"' :: (text.toList.flatMap quotedChar ++ ['"']))

end LabelQuery.Text
