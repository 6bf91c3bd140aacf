import TreeMacros.Decimal.Reader
import TreeMacros.Toml

/-! # TOML words

The values that are written without quotes and brackets: truth values, numbers, dates and times.
Digits may be grouped by single underscores between them.
-/

namespace TreeMacros.Toml

/-- Whether a character can be part of a word. -/
def isWordChar (c : Char) : Bool :=
  c.isAlphanum || c == '_' || c == '+' || c == '-' || c == '.' || c == ':'

/-! ## Numbers -/

/-- The digits of a run without the underscores between them. -/
def ungrouped? (isDigit : Char → Bool) : List Char → Option (List Char)
  | [] => none
  | [c] => if isDigit c then some [c] else none
  | c :: '_' :: rest => if isDigit c then (ungrouped? isDigit rest).map (c :: ·) else none
  | c :: rest => if isDigit c then (ungrouped? isDigit rest).map (c :: ·) else none

/-- The digits of a decimal run without a leading zero. -/
def decimalRun? (cs : List Char) : Option (List Char) :=
  match cs with
  | '0' :: _ :: _ => none
  | cs => ungrouped? Decimal.isDigit cs

/-- A digit of base sixteen. -/
def hexDigit? (c : Char) : Option Nat :=
  if Decimal.isDigit c then some (c.toNat - 48)
  else if 'a' ≤ c && c ≤ 'f' then some (c.toNat - 87)
  else if 'A' ≤ c && c ≤ 'F' then some (c.toNat - 55)
  else none

/-- The number that digits of a base stand for. -/
def natOfBase? (base : Nat) (digits : List Char) : Option Nat :=
  digits.foldlM (fun n c => do
    let digit ← hexDigit? c
    if digit < base then return n * base + digit else none) 0

/-- Signed words are below this, and not below its negative. -/
def signedBound : Int :=
  Nat.pow 2 63

/-- A whole number that fits a signed word. -/
def integer? (n : Int) : Option Toml :=
  if -signedBound ≤ n && n < signedBound then some (.integer n) else none

/-- A whole number in a base that is a power of two. It has no sign. -/
def basedInteger? (cs : List Char) : Option Toml := do
  let (base, digits) ← match cs with
    | '0' :: 'x' :: digits => some (16, digits)
    | '0' :: 'o' :: digits => some (8, digits)
    | '0' :: 'b' :: digits => some (2, digits)
    | _ => none
  let digits ← ungrouped? (fun c => (hexDigit? c).isSome) digits
  integer? (← natOfBase? base digits)

/-- A decimal whole number. -/
def decimalInteger? (cs : List Char) : Option Toml := do
  let (negative, cs) := Decimal.readSign cs
  let digits ← decimalRun? cs
  let n : Int := Decimal.natOfDigits digits
  integer? (if negative then -n else n)

/-- The digits after an exponent mark, with their sign, if there is a mark. -/
def exponent? (cs : List Char) : Option (List Char) :=
  match cs with
  | [] => some []
  | mark :: cs =>
    if mark == 'e' || mark == 'E' then
      let (negative, cs) := Decimal.readSign cs
      (ungrouped? Decimal.isDigit cs).map fun digits =>
        'e' :: (if negative then '-' :: digits else digits)
    else none

/-- A number with a fraction or an exponent. One above all floats is refused. -/
def float? (cs : List Char) : Option Toml := do
  let (negative, cs) := Decimal.readSign cs
  let isWhole := fun c => Decimal.isDigit c || c == '_'
  let whole ← decimalRun? (cs.takeWhile isWhole)
  let digits ← match cs.dropWhile isWhole with
    | '.' :: rest =>
      let fraction ← ungrouped? Decimal.isDigit (rest.takeWhile isWhole)
      let exponent ← exponent? (rest.dropWhile isWhole)
      some (whole ++ '.' :: fraction ++ exponent)
    | [] => none
    | rest => do
      let exponent ← exponent? rest
      some (whole ++ exponent)
  let value := Decimal.ofText (String.ofList (if negative then '-' :: digits else digits))
  if value.isInf && !negative then none else some (.float value)

/-- Infinity or NaN, signed or not. -/
def specialFloat? (cs : List Char) : Option Toml :=
  let (negative, name) := Decimal.readSign cs
  if name == ['i', 'n', 'f'] then some (.float (Decimal.infinity negative))
  else if name == ['n', 'a', 'n'] then some (.float Decimal.nan)
  else none

/-! ## Dates and times -/

/-- The number that so many digits stand for, and the rest. -/
def fixedDigits? (count : Nat) (cs : List Char) : Option (Nat × List Char) :=
  let digits := cs.take count
  if digits.length = count && digits.all Decimal.isDigit then
    some (Decimal.natOfDigits digits, cs.drop count)
  else none

/-- A number of two digits between two bounds, and the rest. -/
def twoDigits? (low high : Nat) (cs : List Char) : Option (List Char) := do
  let (n, rest) ← fixedDigits? 2 cs
  if low ≤ n && n ≤ high then some rest else none

/-- The rest after a character. -/
def after? (c : Char) : List Char → Option (List Char)
  | [] => none
  | first :: rest => if first == c then some rest else none

/-- How many days a month has. -/
def daysOf (year month : Nat) : Nat :=
  if month = 2 then
    if year % 4 = 0 && (year % 100 ≠ 0 || year % 400 = 0) then 29 else 28
  else if month = 4 || month = 6 || month = 9 || month = 11 then 30
  else 31

/-- The rest after a date. -/
def afterDate? (cs : List Char) : Option (List Char) := do
  let (year, rest) ← fixedDigits? 4 cs
  let rest ← after? '-' rest
  let (month, rest) ← fixedDigits? 2 rest
  if 1 ≤ month && month ≤ 12 then twoDigits? 1 (daysOf year month) (← after? '-' rest)
  else none

/-- The rest after a time of day. -/
def afterTime? (cs : List Char) : Option (List Char) := do
  let rest ← after? ':' (← twoDigits? 0 23 cs)
  let rest ← after? ':' (← twoDigits? 0 59 rest)
  let rest ← twoDigits? 0 60 rest
  match rest with
  | '.' :: rest =>
    if (rest.takeWhile Decimal.isDigit).isEmpty then none
    else some (rest.dropWhile Decimal.isDigit)
  | rest => some rest

/-- Whether this is the distance from universal time, or nothing. -/
def isOffset (cs : List Char) : Bool :=
  match cs with
  | [] | ['Z'] | ['z'] => true
  | sign :: rest =>
    (sign == '+' || sign == '-') &&
      ((twoDigits? 0 23 rest).bind fun rest =>
        (after? ':' rest).bind (twoDigits? 0 59)) == some []

/-- Whether this is a time of day, with or without its distance from universal time. -/
def isTimeWithOffset (cs : List Char) : Bool :=
  (afterTime? cs).any isOffset

/-- Whether this is a date, a time, or a date and a time with a mark between them. -/
def isMoment (cs : List Char) : Bool :=
  afterTime? cs == some [] ||
    (afterDate? cs).any fun rest =>
      match rest with
      | [] => true
      | mark :: time => (mark == 'T' || mark == 't') && isTimeWithOffset time

/-- The value that a word is. -/
def ofWord? (cs : List Char) : Option Toml :=
  if cs == ['t', 'r', 'u', 'e'] then some (.bool true)
  else if cs == ['f', 'a', 'l', 's', 'e'] then some (.bool false)
  else if isMoment cs then some (.moment (String.ofList cs))
  else (basedInteger? cs).or <| (decimalInteger? cs).or <| (float? cs).or (specialFloat? cs)

end TreeMacros.Toml
