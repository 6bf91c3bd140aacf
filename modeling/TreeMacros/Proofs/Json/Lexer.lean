import TreeMacros.Json.Printer
import TreeMacros.Json.Reader
import TreeMacros.Proofs.Json.Plain
import TreeMacros.Proofs.Json.Quoted

/-! # The tokens of a written document

The text of a plain document is cut into the tokens that the document is written with.
-/

namespace TreeMacros.Json

mutual

/-- The tokens that a document is written with. -/
def tokens : Json → List Token
  | string text => [.quoted (some text)]
  | array items => .openArray :: (itemTokens items ++ [.closeArray])
  | object fields => .openObject :: (fieldTokens fields ++ [.closeObject])
  | leaf => [.literal leaf]

/-- Documents with commas between them. -/
def itemTokens : List Json → List Token
  | [] => []
  | [item] => item.tokens
  | item :: next :: rest => item.tokens ++ .comma :: itemTokens (next :: rest)

/-- Fields with commas between them. -/
def fieldTokens : List (String × Json) → List Token
  | [] => []
  | [(name, value)] => .quoted (some name) :: .colon :: value.tokens
  | (name, value) :: next :: rest =>
    .quoted (some name) :: .colon :: (value.tokens ++ .comma :: fieldTokens (next :: rest))

end

/-- Whether a character ends the word before it. -/
def endsWord (c : Char) : Bool :=
  isSpace c || c == '"' || (Token.ofMark? c).isSome

namespace Lexer

/-- See some characters. -/
def scan (lexer : Lexer) (cs : List Char) : Option Lexer :=
  cs.foldlM step lexer

@[simp]
theorem scan_nil (lexer : Lexer) : lexer.scan [] = some lexer := rfl

@[simp]
theorem scan_cons (lexer : Lexer) (c : Char) (cs : List Char) :
    lexer.scan (c :: cs) = (lexer.step c).bind (·.scan cs) := rfl

@[simp]
theorem scan_append (lexer : Lexer) (cs rest : List Char) :
    lexer.scan (cs ++ rest) = (lexer.scan cs).bind (·.scan rest) :=
  List.foldlM_append ..

/-- A lexer at the end of a token, in or behind a word. The tokens so far are the last first, and
    this word counts as one of them. -/
structure Ends (lexer : Lexer) (done : List Token) : Prop where
  finish : lexer.finish = some done.reverse
  step : ∀ c, endsWord c = true → lexer.step c = some (start done c)

theorem ends_between (done : List Token) : Ends ⟨.between, done⟩ done :=
  ⟨rfl, fun _ _ => rfl⟩

/-- The lexer goes over some characters and ends a token, with these tokens so far. -/
def Reads (cs : List Char) (done after : List Token) : Prop :=
  ∃ lexer, (⟨.between, done⟩ : Lexer).scan cs = some lexer ∧ lexer.Ends after

/-- The lexer goes over some characters and is between two tokens again. -/
def Settles (cs : List Char) (done after : List Token) : Prop :=
  (⟨.between, done⟩ : Lexer).scan cs = some ⟨.between, after⟩

theorem Settles.nil (done : List Token) : Settles [] done done := rfl

theorem Settles.reads {cs : List Char} {done after : List Token} (settles : Settles cs done after) :
    Reads cs done after :=
  ⟨_, settles, ends_between after⟩

theorem Settles.append {cs rest : List Char} {done middle after : List Token}
    (settles : Settles cs done middle) (reads : Reads rest middle after) :
    Reads (cs ++ rest) done after := by
  obtain ⟨lexer, scanned, ends⟩ := reads
  exact ⟨lexer, by rw [scan_append, settles, Option.bind_some, scanned], ends⟩

theorem start_mark {c : Char} {token : Token} (mark : Token.ofMark? c = some token)
    (done : List Token) : start done c = ⟨.between, token :: done⟩ := by
  have marks : c = '[' ∨ c = ']' ∨ c = '\x7b' ∨ c = '\x7d' ∨ c = ',' ∨ c = ':' := by
    simp only [Token.ofMark?] at mark
    grind
  rcases marks with rfl | rfl | rfl | rfl | rfl | rfl
  all_goals
    cases mark
    rfl

/-- A mark ends the token before it and is one itself. -/
theorem Reads.mark {cs : List Char} {done after : List Token} (reads : Reads cs done after)
    {c : Char} {token : Token} (mark : Token.ofMark? c = some token) :
    Settles (cs ++ [c]) done (token :: after) := by
  obtain ⟨lexer, scanned, ends⟩ := reads
  have marked := ends.step c (by simp [endsWord, mark])
  simp [Settles, scanned, marked, start_mark mark]

/-! ## Words -/

theorem ends_word {seen : List Char} {token : Token}
    (word : Token.ofWord? seen.reverse = some token) (done : List Token) :
    Ends ⟨.word seen, done⟩ (token :: done) where
  finish := by simp [Lexer.finish, word]
  step c ends := by
    simp only [endsWord] at ends
    simp [Lexer.step, ends, word]

theorem scan_word (cs seen : List Char) (done : List Token)
    (inside : ∀ c ∈ cs, endsWord c = false) :
    (⟨.word seen, done⟩ : Lexer).scan cs = some ⟨.word (cs.reverse ++ seen), done⟩ := by
  induction cs generalizing seen with
  | nil => rfl
  | cons c rest ih =>
      have within : (⟨.word seen, done⟩ : Lexer).step c = some ⟨.word (c :: seen), done⟩ := by
        have stays := inside c List.mem_cons_self
        simp only [endsWord] at stays
        simp [step, stays]
      rw [scan_cons, within, Option.bind_some, ih _ fun c member => inside c (.tail _ member)]
      simp

theorem start_word {c : Char} (inside : endsWord c = false) (done : List Token) :
    start done c = ⟨.word [c], done⟩ := by
  simp only [endsWord, Bool.or_eq_false_iff, Option.isSome_eq_false_iff, Option.isNone_iff_eq_none]
    at inside
  obtain ⟨⟨space, quote⟩, mark⟩ := inside
  simp [start, space, quote, mark]

theorem Reads.word {cs : List Char} {token : Token} (word : Token.ofWord? cs = some token)
    (inside : ∀ c ∈ cs, endsWord c = false) (done : List Token) :
    Reads cs done (token :: done) := by
  cases cs with
  | nil =>
      have empty : Token.ofWord? [] = none := rfl
      simp [empty] at word
  | cons c rest =>
      refine ⟨⟨.word (rest.reverse ++ [c]), done⟩, ?_, ends_word (by simpa using word) done⟩
      have started : (⟨.between, done⟩ : Lexer).step c = some ⟨.word [c], done⟩ :=
        congrArg some (start_word (inside c List.mem_cons_self) done)
      rw [scan_cons, started, Option.bind_some,
        scan_word rest [c] done fun c member => inside c (.tail _ member)]

theorem inside_of_all {cs : List Char} (inside : cs.all (fun c => !endsWord c) = true) :
    ∀ c ∈ cs, endsWord c = false := by
  simpa using inside

theorem endsWord_digit {c : Char} (digit : Decimal.isDigit c = true) : endsWord c = false := by
  have other : ∀ m, Decimal.isDigit m = false → c ≠ m := by
    rintro m no_digit rfl
    simp [no_digit] at digit
  simp (disch := decide) [endsWord, isSpace, Token.ofMark?, other]

theorem endsWord_int {word : Int} {c : Char} (member : c ∈ word.repr.toList) :
    endsWord c = false := by
  cases word with
  | ofNat n =>
      simp only [Int.repr, Nat.toList_repr] at member
      exact endsWord_digit (Number.isDigit_toDigits member)
  | negSucc n =>
      simp only [Int.repr, String.toList_append, Nat.toList_repr, List.mem_append] at member
      rcases member with sign | digit
      · have minus : c = '-' := by simpa using sign
        subst minus
        decide
      · exact endsWord_digit (Number.isDigit_toDigits digit)

theorem ofWord?_int (word : Int) (low : -Nat.pow 2 63 ≤ word) (high : word < Nat.pow 2 64) :
    Token.ofWord? word.repr.toList = some (.literal (.int word)) := by
  have value := Number.value_word word low high
  -- The keywords are no numbers, so a word that is one is no keyword.
  have other : ∀ keyword, Number.parts? keyword = none → word.repr.toList ≠ keyword := by
    rintro keyword no_number equal
    simp [equal, no_number] at value
  obtain ⟨parts, number, read⟩ := Option.map_eq_some_iff.mp value
  simp (disch := decide) [Token.ofWord?, other, number, read]

/-! ## Quoted texts -/

theorem scan_quoted (cs seen : List Char) (done : List Token)
    (inside : ∀ c ∈ cs, c ≠ '"' ∧ c ≠ '\\') :
    (⟨.quoted seen, done⟩ : Lexer).scan cs = some ⟨.quoted (cs.reverse ++ seen), done⟩ := by
  induction cs generalizing seen with
  | nil => rfl
  | cons c rest ih =>
      have within : (⟨.quoted seen, done⟩ : Lexer).step c = some ⟨.quoted (c :: seen), done⟩ := by
        simp [step, inside c List.mem_cons_self]
      rw [scan_cons, within, Option.bind_some, ih _ fun c member => inside c (.tail _ member)]
      simp

theorem scan_escape (c : Char) (seen : List Char) (done : List Token) :
    (⟨.quoted seen, done⟩ : Lexer).scan (Quoted.escape c) =
      some ⟨.quoted ((Quoted.escape c).reverse ++ seen), done⟩ := by
  obtain ⟨letter, -, -, written⟩ | ⟨control, written⟩ | ⟨slash, quote, -, written⟩ :=
    Quoted.escape_cases c
  · rw [written]
    rfl
  · have hex : ∀ n < 0x20, ('0' :: '0' :: Quoted.hexByte n).all
        (fun digit => digit != '"' && digit != '\\') = true := by
      decide
    have inside : ∀ digit ∈ '0' :: '0' :: Quoted.hexByte c.toNat,
        digit ≠ '"' ∧ digit ≠ '\\' := fun digit member => by
      simpa using List.all_eq_true.mp (hex c.toNat control) digit member
    have opened (rest : List Char) : (⟨.quoted seen, done⟩ : Lexer).scan ('\\' :: 'u' :: rest) =
        (⟨.quoted ('u' :: '\\' :: seen), done⟩ : Lexer).scan rest := rfl
    rw [written, opened, scan_quoted _ _ _ inside]
    simp
  · rw [written]
    exact scan_quoted [c] seen done (by simp [slash, quote])

theorem scan_flatMap_escape (cs seen : List Char) (done : List Token) :
    (⟨.quoted seen, done⟩ : Lexer).scan (cs.flatMap Quoted.escape) =
      some ⟨.quoted ((cs.flatMap Quoted.escape).reverse ++ seen), done⟩ := by
  induction cs generalizing seen with
  | nil => rfl
  | cons c rest ih => simp [scan_escape, ih]

theorem ofQuoted?_escaped (text : String) :
    Token.ofQuoted? (text.toList.flatMap Quoted.escape) = some (.quoted (some text)) := by
  simp [Token.ofQuoted?, Quoted.pieces_flatMap_escape, Quoted.join_map_char]

theorem Settles.quoted (text : String) (done : List Token) :
    Settles (Quoted.encode text).toList done (.quoted (some text) :: done) := by
  have opened : (⟨.between, done⟩ : Lexer).step '"' = some ⟨.quoted [], done⟩ := rfl
  have closed : (⟨.quoted ((text.toList.flatMap Quoted.escape).reverse), done⟩ : Lexer).step '"' =
      some ⟨.between, .quoted (some text) :: done⟩ := by
    simp [step, ofQuoted?_escaped]
  simp [Settles, Quoted.encode, opened, scan_flatMap_escape, closed]

/-! ## Documents -/

mutual

theorem reads_print (json : Json) (plain : json.IsPlain) (done : List Token) :
    Reads json.print.toList done (json.tokens.reverse ++ done) := by
  cases json with
  | null => exact Reads.word rfl (inside_of_all rfl) done
  | bool value =>
      cases value with
      | false => exact Reads.word rfl (inside_of_all rfl) done
      | true => exact Reads.word rfl (inside_of_all rfl) done
  | int word =>
      exact Reads.word (ofWord?_int word plain.1 plain.2) (fun c => endsWord_int) done
  | string text => exact (Settles.quoted text done).reads
  | array items =>
      have opened : Settles ['['] done (.openArray :: done) := rfl
      have closed := ((opened.append (reads_printItems items plain _)).mark
        (show Token.ofMark? ']' = some .closeArray from rfl)).reads
      simpa [print, tokens] using closed
  | object fields =>
      have opened : Settles ['\x7b'] done (.openObject :: done) := rfl
      have closed := ((opened.append (reads_printFields fields plain _)).mark
        (show Token.ofMark? '\x7d' = some .closeObject from rfl)).reads
      simpa [print, tokens] using closed
  | float value => exact absurd plain id
  | void => exact absurd plain id
termination_by sizeOf json

theorem reads_printItems (items : List Json) (plain : ArePlain items) (done : List Token) :
    Reads (printItems items).toList done ((itemTokens items).reverse ++ done) := by
  match items, plain with
  | [], _ => exact (Settles.nil done).reads
  | [item], plain => exact reads_print item plain.1 done
  | item :: next :: rest, plain =>
      have separated := (reads_print item plain.1 done).mark
        (show Token.ofMark? ',' = some .comma from rfl)
      have followed := separated.append (reads_printItems (next :: rest) plain.2 _)
      simpa [printItems, itemTokens] using followed
termination_by sizeOf items

theorem reads_printFields (fields : List (String × Json)) (plain : ArePlainFields fields)
    (done : List Token) :
    Reads (printFields fields).toList done ((fieldTokens fields).reverse ++ done) := by
  match fields, plain with
  | [], _ => exact (Settles.nil done).reads
  | [(name, value)], plain =>
      have named := (Settles.quoted name done).reads.mark
        (show Token.ofMark? ':' = some .colon from rfl)
      have valued := named.append (reads_print value plain.1 _)
      simpa [printFields, fieldTokens] using valued
  | (name, value) :: next :: rest, plain =>
      have named := (Settles.quoted name done).reads.mark
        (show Token.ofMark? ':' = some .colon from rfl)
      have separated := (named.append (reads_print value plain.1 _)).mark
        (show Token.ofMark? ',' = some .comma from rfl)
      have followed := separated.append (reads_printFields (next :: rest) plain.2 _)
      simpa [printFields, fieldTokens] using followed
termination_by sizeOf fields

end

end Lexer

/-- The text of a plain document is cut into the document's tokens. -/
theorem tokens?_print (json : Json) (plain : json.IsPlain) :
    tokens? json.print.toList = some json.tokens := by
  obtain ⟨lexer, scanned, ends⟩ := Lexer.reads_print json plain []
  have finished := ends.finish
  simp only [List.append_nil, List.reverse_reverse] at finished
  simp only [Lexer.scan] at scanned
  simp only [tokens?, scanned, Option.bind_some, finished]

end TreeMacros.Json
