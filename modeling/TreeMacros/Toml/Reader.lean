import TreeMacros.Toml.Scalar

/-! # Reading TOML

A document is read line by line. Values in brackets may nest to a limit, and so may dotted keys.
A loop over parts of the text is given as many turns as there are characters, since each turn
uses up one at least.
-/

namespace TreeMacros.Toml

/-- A reader of the beginning of a text. -/
abbrev Reader := StateT (List Char) Option

namespace Reader

variable {α : Type}

/-- Read nothing that could be read. -/
def refuse : Reader α := fun _ => none

/-- How many characters there are. -/
def remaining : Reader Nat := fun cs => some (cs.length, cs)

/-- The characters in front that satisfy a condition. -/
def takeWhile (isPart : Char → Bool) : Reader (List Char) := fun cs =>
  some (cs.takeWhile isPart, cs.dropWhile isPart)

/-- Read a text, if it comes next. Whether it did. -/
def accept (text : List Char) : Reader Bool := fun cs =>
  if text.isPrefixOf cs then some (true, cs.drop text.length) else some (false, cs)

/-- Read a text that has to come next. -/
def expect (text : List Char) : Reader Unit := do
  if !(← accept text) then refuse

/-- The next character. -/
def next : Reader Char
  | [] => none
  | c :: rest => some (c, rest)

/-- Whether the next character satisfies a condition. -/
def isNext (condition : Char → Bool) : Reader Bool := fun cs =>
  some (cs.head?.any condition, cs)

/-- Read in turns until one is the last. Each gives some items, and whether it is the last. -/
def turns (turn : Reader (List α × Bool)) : Nat → Reader (List α)
  | 0 => refuse
  | left + 1 => do
    let (items, isLast) ← turn
    if isLast then return items else return items ++ (← turns turn left)

/-- Read in turns until one is the last. Every turn but the last uses up a character at least. -/
def collect (turn : Reader (List α × Bool)) : Reader (List α) := do
  turns turn ((← remaining) + 1)

/-- Repeat what comes next as long as it says so. -/
def skipAll (turn : Reader Bool) : Reader Unit := do
  let _ ← collect do return (([] : List Unit), !(← turn))

end Reader

open Reader

/-! ## Blanks, comments and line ends -/

/-- A blank inside a line. -/
def isBlank (c : Char) : Bool :=
  c == ' ' || c == '\t'

/-- Whether a character may stand in comments and quoted texts. -/
def isPlain (c : Char) : Bool :=
  c == '\t' || (' ' ≤ c && c != '\x7f')

/-- Skip blanks inside a line. -/
def skipBlanks : Reader Unit := do
  let _ ← takeWhile isBlank

/-- Read a line end, if it comes next. -/
def acceptLineEnd : Reader Bool := do
  if ← accept ['\n'] then return true else accept ['\r', '\n']

/-- Read a comment, if it comes next. -/
def skipComment : Reader Unit := do
  if ← accept ['#'] then
    let _ ← takeWhile isPlain

/-- Read the end of a line with what may stand before it. -/
def endOfLine : Reader Unit := do
  skipBlanks
  skipComment
  if !(← acceptLineEnd) && (← remaining) != 0 then refuse

/-- Skip blanks, comments and line ends. -/
def skipLines : Reader Unit :=
  skipAll do
    skipBlanks
    skipComment
    acceptLineEnd

/-! ## Quoted texts -/

/-- The character with a number in base sixteen. -/
def codePoint (digits : Nat) : Reader Char := do
  let code ← (List.range digits).foldlM (fun n _ => do
    match hexDigit? (← next) with
    | some digit => return n * 16 + digit
    | none => refuse) 0
  if h : code.isValidChar then return Char.ofNatAux code h else refuse

/-- The character that stands after a backslash. -/
def escape : Reader Char := do
  match ← next with
  | 'b' => return '\x08'
  | 't' => return '\t'
  | 'n' => return '\n'
  | 'f' => return '\x0c'
  | 'r' => return '\r'
  | '"' => return '"'
  | '\\' => return '\\'
  | 'u' => codePoint 4
  | 'U' => codePoint 8
  | _ => refuse

/-- A text between quotes on one line. -/
def shortText (quote : Char) (hasEscapes : Bool) : Reader String := do
  expect [quote]
  let chars ← collect do
    if ← accept [quote] then return ([], true)
    let c ← next
    if hasEscapes && c == '\\' then return ([← escape], false)
    else if isPlain c then return ([c], false)
    else refuse
  return String.ofList chars

/-- Skip the line end after a backslash, with the blanks around it and all empty lines. -/
def skipContinuation : Reader Unit := do
  skipBlanks
  if !(← acceptLineEnd) then refuse
  skipAll do
    skipBlanks
    acceptLineEnd

/-- A text between threefold quotes. A line end right at its beginning does not count, up to two
    quotes may stand right before the closing ones, and a backslash may join lines. -/
def longText (quote : Char) (hasEscapes : Bool) : Reader String := do
  expect [quote, quote, quote]
  let _ ← acceptLineEnd
  let chars ← collect do
    let quotes ← takeWhile (· == quote)
    if 3 ≤ quotes.length then
      modify (quotes.drop 5 ++ ·)
      return ((quotes.take 5).drop 3, true)
    else if !quotes.isEmpty then return (quotes, false)
    else if ← acceptLineEnd then return (['\n'], false)
    let c ← next
    if hasEscapes && c == '\\' then
      if ← isNext (fun c => isBlank c || c == '\n' || c == '\r') then
        skipContinuation
        return ([], false)
      else return ([← escape], false)
    else if isPlain c then return ([c], false)
    else refuse
  return String.ofList chars

/-- Whether a text comes next. -/
def startsWith (text : List Char) : Reader Bool := fun cs =>
  some (text.isPrefixOf cs, cs)

/-! ## Keys -/

/-- Brackets and dotted keys nest less deeply than this. -/
def nestingLimit : Nat := 80

/-- A key without dots. -/
def simpleKey : Reader String := do
  if ← isNext (· == '"') then shortText '"' true
  else if ← isNext (· == '\'') then shortText '\'' false
  else
    let name ← takeWhile fun c => c.isAlphanum || c == '_' || c == '-'
    if name.isEmpty then refuse else return String.ofList name

/-- A key with dots, with blanks around its parts. -/
def dottedKey : Reader (List String) := do
  let path ← collect do
    skipBlanks
    let key ← simpleKey
    skipBlanks
    return ([key], !(← accept ['.']))
  if path.length < nestingLimit then return path else refuse

/-! ## Values -/

/-- A value without quotes and brackets. One blank may stand between a date and a time. -/
def word : Reader Toml := do
  let first ← takeWhile isWordChar
  let hasTime := match (← get) with
    | ' ' :: c :: _ => Decimal.isDigit c
    | _ => false
  if afterDate? first == some [] && hasTime then
    let _ ← next
    let second ← takeWhile isWordChar
    if isTimeWithOffset second then return .moment (String.ofList (first ++ ' ' :: second))
    else refuse
  else
    match ofWord? first with
    | some value => return value
    | none => refuse

/-- Values between square brackets, on any number of lines. -/
def items (value : Reader Toml) : Reader (List Toml) := do
  expect ['[']
  collect do
    skipLines
    if ← accept [']'] then return ([], true)
    let item ← value
    skipLines
    if ← accept [','] then return ([item], false)
    expect [']']
    return ([item], true)

/-- A key and its value. -/
def pair (value : Reader Toml) : Reader (List String × Toml) := do
  let key ← dottedKey
  expect ['=']
  skipBlanks
  return (key, ← value)

/-- Pairs between curly brackets, on one line. -/
def pairs (value : Reader Toml) : Reader (List (List String × Toml)) := do
  expect ['\x7b']
  skipBlanks
  if ← accept ['\x7d'] then return []
  collect do
    let item ← pair value
    skipBlanks
    if ← accept [','] then return ([item], false)
    expect ['\x7d']
    return ([item], true)

/-- A value without brackets. -/
def unnested : Reader Toml := do
  if ← startsWith ['"', '"', '"'] then return .string (← longText '"' true)
  else if ← startsWith ['\'', '\'', '\''] then return .string (← longText '\'' false)
  else if ← isNext (· == '"') then return .string (← shortText '"' true)
  else if ← isNext (· == '\'') then return .string (← shortText '\'' false)
  else word

/-- A value with brackets nested at most so deep. -/
def value : Nat → Reader Toml
  | 0 => unnested
  | depth + 1 => do
    if ← isNext (· == '[') then return .array (← items (value depth))
    else if ← isNext (· == '\x7b') then
      match ofPairs? (← pairs (value depth)) with
      | some made => return made
      | none => refuse
    else unnested

/-! ## Documents -/

/-- A statement at the beginning of a line. -/
def statement : Reader Statement := do
  if ← accept ['[', '['] then
    let path ← dottedKey
    expect [']', ']']
    return .rowHeader path
  else if ← accept ['['] then
    let path ← dottedKey
    expect [']']
    return .header path
  else
    let (key, value) ← pair (value (nestingLimit - 1))
    return .pair key value

/-- The statements of a document. -/
def statements : Reader (List Statement) := do
  let _ ← accept ['\ufeff']
  collect do
    skipLines
    if (← remaining) = 0 then return ([], true)
    let line ← statement
    endOfLine
    return ([line], false)

/-- The document that a text is. -/
def read (text : String) : Option (List (String × Toml)) := do
  let (lines, _) ← statements text.toList
  ofStatements? lines

end TreeMacros.Toml
