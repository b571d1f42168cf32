import LabelQuery.Text.Casing

/-!
Lower case of whole texts. All characters but two are mapped one by one; a capital sigma looks at its
neighbours, and a dotted capital I keeps its dot as a mark of its own.
-/
namespace LabelQuery.Text

/-- The lower case of a character that is mapped to one character, wherever it stands. -/
def lowerChar (c : Char) : Char :=
  match caseRuns.find? (·.covers c.toNat) with
  | some run => Char.ofNat (c.toNat + run.shift).toNat
  | none => c

/-- Tells whether the next character that takes part in casing is a cased one. -/
def beginsCased (following : List Char) : Bool :=
  match following.dropWhile caseIgnorable.contains with
  | c :: _ => cased.contains c
  | [] => false

/-- Lower-cases the rest of a text; `afterCased` tells whether the nearest character before it that
takes part in casing is a cased one. A sigma is final after a cased character and before none. -/
def lowerFrom (afterCased : Bool) : List Char → List Char
  | [] => []
  | c :: following =>
    let lowered :=
      if c = 'Σ' then [if afterCased && !beginsCased following then 'ς' else 'σ']
      else if c = 'İ' then ['i', '\u0307']
      else [lowerChar c]
    let stillCased := if caseIgnorable.contains c then afterCased else cased.contains c
    lowered ++ lowerFrom stillCased following

def lowercase (text : List Char) : List Char :=
  lowerFrom false text

end LabelQuery.Text
