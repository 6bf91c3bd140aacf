/-! # White space

The characters with the Unicode property of that name, and trimming them off a text. A text is
a list of characters here, as it is wherever a text is taken apart.
-/

namespace TreeMacros.Text

/-- Whether a character is white space. -/
def isBlank (c : Char) : Bool :=
  let n := c.toNat
  (9 ≤ n && n ≤ 13) || n == 0x20 || n == 0x85 || n == 0xA0 || n == 0x1680 ||
    (0x2000 ≤ n && n ≤ 0x200A) || n == 0x2028 || n == 0x2029 || n == 0x202F || n == 0x205F ||
    n == 0x3000

/-- A text without the white space in front. -/
def trimStart (cs : List Char) : List Char :=
  cs.dropWhile isBlank

/-- A text without the white space behind. -/
def trimEnd (cs : List Char) : List Char :=
  (cs.reverse.dropWhile isBlank).reverse

/-- A text without the white space around it. -/
def trim (cs : List Char) : List Char :=
  trimEnd (trimStart cs)

/-- A string without the white space around it. -/
def trimmed (s : String) : String :=
  String.ofList (trim s.toList)

end TreeMacros.Text
