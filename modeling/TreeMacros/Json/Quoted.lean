/-! # Quoted texts

How a text stands between quotes in a JSON document. `encode` writes the shortest escape where
one is needed and leaves all else as it is; `pieces` reads the escapes of a quoted text, and
`join` puts surrogate pairs together.
-/

namespace TreeMacros.Json.Quoted

/-- The digits of hexadecimal numbers. -/
def hexDigits : List Char := "0123456789abcdef".toList

/-- The number below 256 as two hexadecimal digits. -/
def hexByte (n : Nat) : List Char :=
  [hexDigits.getD (n / 16) '0', hexDigits.getD (n % 16) '0']

/-- How one character stands between quotes. -/
def escape (c : Char) : List Char :=
  if c == '"' then ['\\', '"']
  else if c == '\\' then ['\\', '\\']
  else if c == '\n' then ['\\', 'n']
  else if c == '\r' then ['\\', 'r']
  else if c == '\t' then ['\\', 't']
  else if c == '\x08' then ['\\', 'b']
  else if c == '\x0c' then ['\\', 'f']
  else if c.toNat < 0x20 then '\\' :: 'u' :: '0' :: '0' :: hexByte c.toNat
  else [c]

/-- A text between quotes. -/
def encode (s : String) : String :=
  String.ofList ('"' :: (s.toList.flatMap escape ++ ['"']))

/-- A part of a quoted text: a character, or an escape that is half of a surrogate pair. -/
inductive Piece where
  | char (c : Char)
  | half (unit : Nat)
  deriving Repr, DecidableEq

/-- The value of a hexadecimal digit. -/
def hexValue? (c : Char) : Option Nat :=
  if '0' ≤ c && c ≤ '9' then some (c.toNat - 48)
  else if 'a' ≤ c && c ≤ 'f' then some (c.toNat - 87)
  else if 'A' ≤ c && c ≤ 'F' then some (c.toNat - 55)
  else none

/-- The unit that four hexadecimal digits stand for. -/
def unit? (a b c d : Char) : Option Nat := do
  let a ← hexValue? a
  let b ← hexValue? b
  let c ← hexValue? c
  let d ← hexValue? d
  return ((a * 16 + b) * 16 + c) * 16 + d

/-- The piece that a unit stands for. -/
def Piece.ofUnit (unit : Nat) : Piece :=
  if 0xD800 ≤ unit && unit < 0xE000 then .half unit else .char (Char.ofNat unit)

/-- The character that a short escape stands for. -/
def shortEscape? (c : Char) : Option Char :=
  if c == '"' || c == '\\' || c == '/' then some c
  else if c == 'n' then some '\n'
  else if c == 'r' then some '\r'
  else if c == 't' then some '\t'
  else if c == 'b' then some '\x08'
  else if c == 'f' then some '\x0c'
  else none

/-- The pieces of what stands between quotes, unless an escape is malformed or a control
    character stands there unescaped. -/
def pieces : List Char → Option (List Piece)
  | [] => some []
  | '\\' :: 'u' :: a :: b :: c :: d :: rest => do
    let unit ← unit? a b c d
    let rest ← pieces rest
    return Piece.ofUnit unit :: rest
  | '\\' :: c :: rest => do
    let c ← shortEscape? c
    let rest ← pieces rest
    return .char c :: rest
  | c :: rest =>
    if c == '\\' || c.toNat < 0x20 then none
    else (pieces rest).map (.char c :: ·)

/-- The characters that pieces stand for; nothing if a half of a surrogate pair stands alone. -/
def join : List Piece → Option (List Char)
  | [] => some []
  | .char c :: rest => (join rest).map (c :: ·)
  | .half high :: .half low :: rest =>
    if high < 0xDC00 && 0xDC00 ≤ low then
      (join rest).map (Char.ofNat (0x10000 + (high - 0xD800) * 0x400 + (low - 0xDC00)) :: ·)
    else none
  | .half _ :: _ => none

end TreeMacros.Json.Quoted
