/-! # Texts as bytes

A character is stored in one to four bytes, an ASCII character in one. A text can be cut behind
each of its characters, but not inside of one.
-/

namespace TreeMacros.Text

/-- The bytes of a text. -/
def bytes (cs : List Char) : List UInt8 :=
  cs.flatMap String.utf8EncodeChar

/-- How many bytes a text has. -/
def size (cs : List Char) : Nat :=
  (bytes cs).length

/-- Cut a text behind some of its bytes. There is no such cut inside a character or behind the
    end. -/
def cut? : List Char → Nat → Option (List Char × List Char)
  | cs, 0 => some ([], cs)
  | [], _ + 1 => none
  | c :: cs, count + 1 =>
    if c.utf8Size ≤ count + 1 then
      (cut? cs (count + 1 - c.utf8Size)).map fun (front, rest) => (c :: front, rest)
    else none

end TreeMacros.Text
