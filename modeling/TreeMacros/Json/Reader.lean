import TreeMacros.Json.Number
import TreeMacros.Json.Quoted

/-! # Reading JSON

A text is cut into tokens by a machine that sees one character at a time, and the tokens are read
by recursive descent. What a token stands for is settled when it is cut; what is in correct form but
stands for nothing becomes `Json.void`.
-/

namespace TreeMacros.Json

/-- The least parts of a JSON text. -/
inductive Token where
  | openArray
  | closeArray
  | openObject
  | closeObject
  | comma
  | colon
  /-- A quoted text, if it stands for one. -/
  | quoted (text : Option String)
  /-- A word or a number. -/
  | literal (value : Json)
  deriving Inhabited

namespace Token

/-- The token that a quoted text is, from the characters between its quotes. -/
def ofQuoted? (inside : List Char) : Option Token :=
  (Quoted.pieces inside).map fun pieces => quoted ((Quoted.join pieces).map String.ofList)

/-- The token that a word is. -/
def ofWord? (word : List Char) : Option Token :=
  if word == ['n', 'u', 'l', 'l'] then some (literal .null)
  else if word == ['t', 'r', 'u', 'e'] then some (literal (.bool true))
  else if word == ['f', 'a', 'l', 's', 'e'] then some (literal (.bool false))
  else (Number.parts? word).map fun parts => literal (Number.value parts)

/-- The token that is a single character. -/
def ofMark? (c : Char) : Option Token :=
  if c == '[' then some openArray
  else if c == ']' then some closeArray
  else if c == '\x7b' then some openObject
  else if c == '\x7d' then some closeObject
  else if c == ',' then some comma
  else if c == ':' then some colon
  else none

end Token

/-- White space between tokens. -/
def isSpace (c : Char) : Bool :=
  c == ' ' || c == '\n' || c == '\t' || c == '\r'

/-- What a lexer is in the middle of, with the characters so far, last first. -/
inductive LexerMode where
  | between
  | word (seen : List Char)
  | quoted (seen : List Char)
  /-- After a backslash in a quoted text. -/
  | escaped (seen : List Char)

/-- A lexer with the tokens so far, last first. -/
structure Lexer where
  mode : LexerMode
  done : List Token

namespace Lexer

/-- See a character between two tokens. -/
def start (done : List Token) (c : Char) : Lexer :=
  if isSpace c then ⟨.between, done⟩
  else if c == '"' then ⟨.quoted [], done⟩
  else
    match Token.ofMark? c with
    | some token => ⟨.between, token :: done⟩
    | none => ⟨.word [c], done⟩

/-- See one more character. -/
def step (lexer : Lexer) (c : Char) : Option Lexer :=
  match lexer.mode with
  | .between => some (start lexer.done c)
  | .word seen =>
    if isSpace c || c == '"' || (Token.ofMark? c).isSome then
      (Token.ofWord? seen.reverse).map fun token => start (token :: lexer.done) c
    else some ⟨.word (c :: seen), lexer.done⟩
  | .quoted seen =>
    if c == '"' then
      (Token.ofQuoted? seen.reverse).map fun token => ⟨.between, token :: lexer.done⟩
    else if c == '\\' then some ⟨.escaped (c :: seen), lexer.done⟩
    else some ⟨.quoted (c :: seen), lexer.done⟩
  | .escaped seen => some ⟨.quoted (c :: seen), lexer.done⟩

/-- The tokens, once the text is over. -/
def finish (lexer : Lexer) : Option (List Token) :=
  match lexer.mode with
  | .between => some lexer.done.reverse
  | .word seen => (Token.ofWord? seen.reverse).map fun token => (token :: lexer.done).reverse
  | _ => none

end Lexer

/-- The tokens of a text. -/
def tokens? (cs : List Char) : Option (List Token) :=
  (cs.foldlM Lexer.step ⟨.between, []⟩).bind Lexer.finish

/-- The object with the given fields. It is void if a name stands for no text. -/
def ofFields (fields : List (Option String × Json)) : Json :=
  match fields.mapM fun field => field.1.map (·, field.2) with
  | some fields => .object fields
  | none => .void

mutual

/-- Read one document. Each call uses up a token, so `fuel` bounds the tokens that are looked
    at. -/
def readValue : Nat → List Token → Option (Json × List Token)
  | 0, _ => none
  | _ + 1, .literal value :: rest => some (value, rest)
  | _ + 1, .quoted text :: rest => some (text.elim .void .string, rest)
  | _ + 1, .openArray :: .closeArray :: rest => some (.array [], rest)
  | fuel + 1, .openArray :: rest => do
    let (items, rest) ← readItems fuel rest
    return (.array items, rest)
  | _ + 1, .openObject :: .closeObject :: rest => some (.object [], rest)
  | fuel + 1, .openObject :: rest => do
    let (fields, rest) ← readFields fuel rest
    return (ofFields fields, rest)
  | _, _ => none

/-- Read the items of an array, one at least, and its end. -/
def readItems : Nat → List Token → Option (List Json × List Token)
  | 0, _ => none
  | fuel + 1, tokens => do
    let (item, rest) ← readValue fuel tokens
    match rest with
    | .closeArray :: rest => return ([item], rest)
    | .comma :: rest =>
      let (items, rest) ← readItems fuel rest
      return (item :: items, rest)
    | _ => none

/-- Read the fields of an object, one at least, and its end. A name may stand for no text. -/
def readFields : Nat → List Token → Option (List (Option String × Json) × List Token)
  | 0, _ => none
  | fuel + 1, .quoted name :: .colon :: tokens => do
    let (value, rest) ← readValue fuel tokens
    match rest with
    | .closeObject :: rest => return ([(name, value)], rest)
    | .comma :: rest =>
      let (fields, rest) ← readFields fuel rest
      return ((name, value) :: fields, rest)
    | _ => none
  | _, _ => none

end

/-- The document that a text is. -/
def read (text : String) : Option Json := do
  let tokens ← tokens? text.toList
  match readValue (2 * tokens.length) tokens with
  | some (json, []) => some json
  | _ => none

end TreeMacros.Json
