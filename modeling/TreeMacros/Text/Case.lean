import TreeMacros.Text.CaseRuns
import TreeMacros.Text.Cased

/-! # Upper and lower case

Full case conversion of texts: a character may become several, and a capital sigma at the end of a
word becomes a final one.
-/

namespace TreeMacros.Text

/-- The characters that one character becomes under a case mapping. -/
def convertCase (runs : List CaseRun) (expansions : List (Nat × List Nat)) (c : Char) :
    List Char :=
  match expansions.lookup c.toNat with
  | some codes => codes.map Char.ofNat
  | none =>
    match runs.find? (·.covers c.toNat) with
    | some run => [Char.ofNat (c.toNat + run.shift).toNat]
    | none => [c]

/-- The upper case of a character. -/
def upperChar (c : Char) : List Char :=
  if c.toNat < 0x80 then [c.toUpper] else convertCase upperRuns upperExpansions c

/-- The lower case of a character by itself. -/
def lowerChar (c : Char) : List Char :=
  if c.toNat < 0x80 then [c.toLower] else convertCase lowerRuns lowerExpansions c

/-- Whether the first character that is not skipped has case. -/
def meetsCased (cs : List Char) : Bool :=
  (cs.find? fun c => !isCaseIgnorable c).any isCased

/-- The lower case of a text, given the characters before it, last first. -/
def lowerFrom (before : List Char) : List Char → List Char
  | [] => []
  | c :: rest =>
    let converted :=
      if c == 'Σ' then [if meetsCased before && !meetsCased rest then 'ς' else 'σ']
      else lowerChar c
    converted ++ lowerFrom (c :: before) rest

/-- A text in upper case. -/
def upper (s : String) : String :=
  String.ofList (s.toList.flatMap upperChar)

/-- A text in lower case. -/
def lower (s : String) : String :=
  String.ofList (lowerFrom [] s.toList)

end TreeMacros.Text
