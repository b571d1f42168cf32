import LabelQuery.Text.Quoted

/-!
Text for terminals. Some control characters start a command that a terminal obeys; they are shown as
escapes, and every other character stays as it is.
-/
namespace LabelQuery.Text

/-- The controls with one byte that a terminal obeys: bell, backspace, form feed, escape and delete. Tabs
and the ends of lines are left alone. -/
def terminalControls : List Char :=
  ['\x07', '\x08', '\x0c', '\x1b', '\x7f']

/-- Tells whether a character is one of the controls above the ASCII range. -/
def isHighControl (c : Char) : Bool :=
  0x80 ≤ c.toNat && c.toNat ≤ 0x9F

def shownChar (c : Char) : List Char :=
  if terminalControls.contains c then
    '\\' :: 'x' :: (if c.toNat < 0x10 then ['0'] else []) ++ hexDigits c.toNat
  else if isHighControl c then "\\u\x7b".toList ++ hexDigits c.toNat ++ ['\x7d']
  else [c]

def shown (text : String) : String :=
  String.ofList (text.toList.flatMap shownChar)

end LabelQuery.Text
