/-! # Searching texts

Where a text occurs in another one, and splitting at its occurrences. Occurrences are found from
the left and do not overlap.
-/

namespace TreeMacros.Text

/-- Whether a text occurs in another one. -/
def occursIn (part : List Char) : List Char → Bool
  | [] => part.isEmpty
  | c :: rest => part.isPrefixOf (c :: rest) || occursIn part rest

/-- Whether a text ends with another one. -/
def isAtEnd (part text : List Char) : Bool :=
  part.reverse.isPrefixOf text.reverse

/-- Split a text at the occurrences of a separator that is not empty. `piece` is what was read
    since the last occurrence, last character first, and `skip` is how many characters of an
    occurrence are still to come. -/
def splitFrom (separator piece : List Char) (skip : Nat) : List Char → List (List Char)
  | [] => [piece.reverse]
  | c :: rest =>
    match skip with
    | skip + 1 => splitFrom separator piece skip rest
    | 0 =>
      if separator.isPrefixOf (c :: rest) then
        piece.reverse :: splitFrom separator [] (separator.length - 1) rest
      else splitFrom separator (c :: piece) 0 rest

/-- The pieces of a text between the occurrences of a separator. An empty separator stands between
    any two characters. -/
def split (separator text : List Char) : List (List Char) :=
  if separator.isEmpty then text.map ([·]) else splitFrom separator [] 0 text

end TreeMacros.Text
