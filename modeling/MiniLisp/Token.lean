import MiniLisp.Location
import MiniLisp.Text.Blank

/-!
# Tokens

A source text is a sequence of tokens with blanks and comments between them. A quote mark and each
parenthesis is a token of its own. A word is a longest run of characters that are neither blank nor
one of `( ) ' ;`. A comment goes from a semicolon to the end of its line.

`tokens` goes through the text once, character by character. Its state (`Scan`) says whether the
next character continues a comment, continues a word, or begins something new.

`openDepth` is the number of parentheses that still wait for their partner.
-/

namespace MiniLisp

/-- The kinds of tokens. A lexer yields the first four only; a stream of tokens from elsewhere may
hold others, which the reader refuses. -/
inductive TokenKind
  | symbol
  | quote
  | lparen
  | rparen
  | other (name : String)
deriving DecidableEq, Repr

/-- The name of a token kind. -/
def TokenKind.name : TokenKind → String
  | symbol => "symbol"
  | quote => "quote"
  | lparen => "lparen"
  | rparen => "rparen"
  | other name => name

/-- The token kind of the given name. -/
def TokenKind.ofName (name : String) : TokenKind :=
  if name == "symbol" then .symbol
  else if name == "quote" then .quote
  else if name == "lparen" then .lparen
  else if name == "rparen" then .rparen
  else .other name

/-- A token: its kind, its characters, and where its first character stands. -/
structure Token where
  kind : TokenKind
  text : String
  loc : Location
deriving DecidableEq

namespace Token

/-- The character can be part of a word. -/
def isWordChar (c : Char) : Bool :=
  !(Text.isBlank c || c == '(' || c == ')' || c == '\x27' || c == ';')

/-- What the next character may continue. -/
inductive Scan
  | between
  | comment
  | word (start : Location) (reversed : List Char)
deriving DecidableEq

/-- The token of a word, given its characters in reverse. -/
def ofWord (start : Location) (reversed : List Char) : Token :=
  ⟨.symbol, String.ofList reversed.reverse, start⟩

/-- What a character begins that continues neither a word nor a comment: a token of its own, if it
is one, and the state after it. -/
def opening (l : Location) (c : Char) : Option Token × Scan :=
  if Text.isBlank c then (none, .between)
  else if c == ';' then (none, .comment)
  else if c == '\x27' then (some ⟨.quote, "'", l⟩, .between)
  else if c == '(' then (some ⟨.lparen, "(", l⟩, .between)
  else if c == ')' then (some ⟨.rparen, ")", l⟩, .between)
  else (none, .word l [c])

/-- The tokens of the characters from a location on, in the given state. -/
def scan (l : Location) : Scan → List Char → List Token
  | .word start reversed, [] => [ofWord start reversed]
  | _, [] => []
  | .comment, c :: cs => scan (l.next c) (if c == '\n' then .between else .comment) cs
  | .between, c :: cs =>
    match opening l c with
    | (some token, state) => token :: scan (l.next c) state cs
    | (none, state) => scan (l.next c) state cs
  | .word start reversed, c :: cs =>
    if isWordChar c then scan (l.next c) (.word start (c :: reversed)) cs
    else match opening l c with
      | (some token, state) => ofWord start reversed :: token :: scan (l.next c) state cs
      | (none, state) => ofWord start reversed :: scan (l.next c) state cs

/-! ### One step of the scan -/

theorem scan_between_nil (l : Location) : scan l .between [] = [] := rfl

theorem scan_between_cons (l : Location) (c : Char) (cs : List Char) :
    scan l .between (c :: cs) =
      (opening l c).1.toList ++ scan (l.next c) (opening l c).2 cs := by
  show (match opening l c with
    | (some token, state) => token :: scan (l.next c) state cs
    | (none, state) => scan (l.next c) state cs) = _
  rcases opening l c with ⟨_ | token, state⟩ <;> rfl

theorem scan_word_cons (l start : Location) (reversed : List Char) (c : Char) (cs : List Char) :
    scan l (.word start reversed) (c :: cs) =
      if isWordChar c then scan (l.next c) (.word start (c :: reversed)) cs
      else ofWord start reversed :: scan l .between (c :: cs) := by
  show (if isWordChar c then scan (l.next c) (.word start (c :: reversed)) cs
    else match opening l c with
      | (some token, state) => ofWord start reversed :: token :: scan (l.next c) state cs
      | (none, state) => ofWord start reversed :: scan (l.next c) state cs) = _
  rw [scan_between_cons]
  rcases opening l c with ⟨_ | token, state⟩ <;> rfl

end Token

/-- The tokens of a text, given the name of its source and the number of its first line. -/
def tokens (text : List Char) (source : String) (line : Int) : List Token :=
  Token.scan (.start source line) .between text

/-- How a token changes the number of open parentheses. -/
def Token.depthChange (t : Token) : Int :=
  match t.kind with
  | .lparen => 1
  | .rparen => -1
  | _ => 0

/-- The number of opening parentheses among some tokens less the number of closing ones. -/
def Token.depth : List Token → Int
  | [] => 0
  | t :: ts => t.depthChange + depth ts

/-- The number of opening parentheses of a text less the number of closing ones. -/
def openDepth (text : List Char) : Int := Token.depth (tokens text "<input>" 1)

end MiniLisp
