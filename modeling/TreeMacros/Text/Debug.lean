import TreeMacros.Text.Unprintable

/-! # Debug texts

A text between quotes with everything escaped that would not show: quotes and backslashes,
control characters, characters without a glyph, and marks that would join the character before
them.
-/

namespace TreeMacros.Text

/-- The digits of a number in base sixteen. -/
def hexText (n : Nat) : List Char :=
  Nat.toDigits 16 n

/-- How a character shows in a debug text. -/
def debugChar (c : Char) : List Char :=
  if c == '\x00' then ['\\', '0']
  else if c == '\t' then ['\\', 't']
  else if c == '\n' then ['\\', 'n']
  else if c == '\r' then ['\\', 'r']
  else if c == '"' then ['\\', '"']
  else if c == '\\' then ['\\', '\\']
  else if isUnprintable c then '\\' :: 'u' :: '\x7b' :: (hexText c.toNat ++ ['\x7d'])
  else [c]

/-- A text between quotes, with escapes. -/
def debug (s : String) : String :=
  String.ofList ('"' :: (s.toList.flatMap debugChar ++ ['"']))

/-- A list of texts, each between quotes. -/
def debugList (texts : List String) : String :=
  "[" ++ ", ".intercalate (texts.map debug) ++ "]"

end TreeMacros.Text
