import EntityGraph.Text.Blank
import EntityGraph.Text.Case
import EntityGraph.Text.Quoted
/-!
The tokens of a query text.

* `Lexeme`: parentheses, colon, the three keywords in any case, bare words of ASCII letters, digits,
  `.`, `_` and `-`, and double-quoted strings.
* `Token`: a lexeme and the offset at which it starts.
* `Scan`: the scanner as an automaton that takes one character at a time. `Scan.step` is its
  transition and `Scan.finish` its last one.
* `tokenize`: the tokens of a text. Inside quotes a backslash protects a quote or a backslash and is
  an ordinary character before anything else.
-/

namespace EntityGraph.Query

/-- What a token stands for. -/
inductive Lexeme where
  | leftParen
  | rightParen
  | colon
  | and (spelling : String)
  | or (spelling : String)
  | not (spelling : String)
  | word (text : String)
  | quoted (text : String)
  deriving DecidableEq, Repr, Inhabited

namespace Lexeme

/-- The name of a kind of token. -/
def kind : Lexeme → String
  | leftParen => "LPAREN"
  | rightParen => "RPAREN"
  | colon => "COLON"
  | and _ => "AND"
  | or _ => "OR"
  | not _ => "NOT"
  | word _ => "WORD"
  | quoted _ => "STRING"

/-- The value of a token: the characters it was written with, or the text between its quotes. -/
def value : Lexeme → String
  | leftParen => "("
  | rightParen => ")"
  | colon => ":"
  | and s | or s | not s | word s | quoted s => s

/-- A run of word characters is a keyword in any case, and a word otherwise. -/
def ofWord (s : String) : Lexeme :=
  if Text.lowerAscii s = "and" then and s
  else if Text.lowerAscii s = "or" then or s
  else if Text.lowerAscii s = "not" then not s
  else word s

end Lexeme

/-- A lexeme and where it starts. -/
structure Token where
  lexeme : Lexeme
  position : Nat
  deriving DecidableEq, Repr, Inhabited

/-- Why a text has no tokens. -/
inductive ScanError where
  /-- A character that can start no token. -/
  | unexpected (c : Char) (position : Nat)
  /-- A quote that is never closed; the position is that of the quote. -/
  | unterminated (position : Nat)
  deriving DecidableEq, Repr

/-- The characters of words: ASCII letters and digits, the full stop, the underscore and the
hyphen. -/
def isWordChar (c : Char) : Bool := c.isAlphanum || c == '.' || c == '_' || c == '-'

/-- What the scanner is in the middle of. The characters read so far come last first. -/
inductive Scan where
  | between
  | word (start : Nat) (read : List Char)
  | quoted (start : Nat) (read : List Char)
  /-- Inside quotes, just after a backslash. -/
  | escape (start : Nat) (read : List Char)
  deriving DecidableEq, Repr

namespace Scan

/-- The word that was being read. -/
def wordToken (start : Nat) (read : List Char) : Token :=
  ⟨Lexeme.ofWord (String.ofList read.reverse), start⟩

/-- A character between tokens, at offset `n`: the tokens it completes and the next state. -/
def start (n : Nat) (c : Char) : Except ScanError (List Token × Scan) :=
  if Text.isBlank c then .ok ([], between)
  else if c = '(' then .ok ([⟨.leftParen, n⟩], between)
  else if c = ')' then .ok ([⟨.rightParen, n⟩], between)
  else if c = ':' then .ok ([⟨.colon, n⟩], between)
  else if c = '"' then .ok ([], quoted n [])
  else if isWordChar c then .ok ([], word n [c])
  else .error (.unexpected c n)

/-- One character, at offset `n`: the tokens it completes and the next state. -/
def step : Scan → Nat → Char → Except ScanError (List Token × Scan)
  | between, n, c => start n c
  | word origin read, n, c =>
    if isWordChar c then .ok ([], word origin (c :: read))
    else
      match start n c with
      | .ok (tokens, next) => .ok (wordToken origin read :: tokens, next)
      | .error e => .error e
  | quoted origin read, _, c =>
    if c = '"' then .ok ([⟨.quoted (String.ofList read.reverse), origin⟩], between)
    else if c = '\\' then .ok ([], escape origin read)
    else .ok ([], quoted origin (c :: read))
  | escape origin read, _, c =>
    if c = '"' ∨ c = '\\' then .ok ([], quoted origin (c :: read))
    else .ok ([], quoted origin (c :: '\\' :: read))

/-- The end of the text: the token it completes. -/
def finish : Scan → Except ScanError (List Token)
  | between => .ok []
  | word origin read => .ok [wordToken origin read]
  | quoted origin _ | escape origin _ => .error (.unterminated origin)

/-- The tokens completed from a state on, by the characters from offset `n` on. -/
def run : Scan → Nat → List Char → Except ScanError (List Token)
  | s, _, [] => s.finish
  | s, n, c :: rest => do
    let (tokens, next) ← s.step n c
    let more ← next.run (n + 1) rest
    return tokens ++ more

end Scan

/-- The tokens of a text. -/
def tokenize (text : String) : Except ScanError (List Token) := Scan.between.run 0 text.toList

end EntityGraph.Query
