import MiniLisp.Fault
import MiniLisp.Token
import MiniLisp.Value
import MiniLisp.Width

/-!
# Reading values

The reader builds values from a stream of tokens. In the grammar below, an item is any expression
but a bare dot.

| expression              | value                                                   |
|-------------------------|---------------------------------------------------------|
| `nil`, `()`             | nil                                                     |
| `t`                     | the truth value                                         |
| sign and digits         | an integer, which has to have the configured width      |
| any other word          | a symbol                                                |
| `'` expression          | the list of the symbol `quote` and the expression       |
| `(` items `)`           | a proper list                                           |
| `(` items `.` expr `)`  | a list that ends in the expression                      |

What was begun and not yet finished is kept on a stack of `Pending` constructs, so one token at a
time decides how to go on (`step`). A list is located at its opening parenthesis, each further cell
at its item, the closing nil at the closing parenthesis.

That stack may be of any height. The stack of the host, on which a text that is nested too deeply
is abandoned (`Settings`), is left out.

`TokenStream.expression` reads one expression, `TokenStream.list` the rest of a list that was
opened, and `TokenStream.all` every expression up to the end or the first fault. `readText` does
the last for a text.
-/

namespace MiniLisp

/-! ## Token streams -/

/-- Tokens that are still to be read. One of them may have been looked at already. -/
structure TokenStream where
  ahead : Option Token
  rest : List Token
deriving DecidableEq

namespace TokenStream

/-- A stream of which nothing has been looked at. -/
def ofTokens (ts : List Token) : TokenStream := ⟨none, ts⟩

/-- Every token still to be read, in order. -/
def remaining (s : TokenStream) : List Token := s.ahead.toList ++ s.rest

/-- The next token, which stays in the stream. -/
def peek (s : TokenStream) : Option Token × TokenStream :=
  match s.ahead, s.rest with
  | some t, _ => (some t, s)
  | none, t :: ts => (some t, ⟨some t, ts⟩)
  | none, [] => (none, s)

/-- The next token, which leaves the stream. -/
def advance (s : TokenStream) : Option Token × TokenStream :=
  match s.ahead, s.rest with
  | some t, ts => (some t, ⟨none, ts⟩)
  | none, t :: ts => (some t, ⟨none, ts⟩)
  | none, [] => (none, s)

@[simp] theorem remaining_ofTokens (ts : List Token) : (ofTokens ts).remaining = ts := by
  simp [ofTokens, remaining]

@[simp] theorem remaining_peek (s : TokenStream) : s.peek.2.remaining = s.remaining := by
  rcases s with ⟨_ | _, _ | _⟩ <;> rfl

theorem remaining_advance (s : TokenStream) :
    s.remaining = s.advance.1.toList ++ s.advance.2.remaining := by
  rcases s with ⟨_ | _, _ | _⟩ <;> rfl

end TokenStream

namespace Reader

/-! ## Atoms -/

/-- Reads a word, given the width of integers. -/
def atom (width : Except Fault Nat) (word : String) (loc : Location) : Except Fault Value :=
  if word == "nil" then .ok (.nil loc)
  else if word == "t" then .ok (.truth loc)
  else match Text.Numeral.ofLiteral? word.toList with
    | none => .ok (.symbol word loc)
    | some numeral =>
      if numeral.tooLong then .error (.literalTooLong numeral.digits.length)
      else match width with
        | .error fault => .error fault
        | .ok bits =>
          if Width.fits bits numeral.value then .ok (.integer numeral.value loc)
          else .error
            (.syntaxError (.literalOutOfRange word (Width.low bits) (Width.high bits)) loc)

/-! ## The stack of begun constructs -/

/-- A construct that waits for an expression. Items are in reverse. -/
inductive Pending
  /-- A quote mark waits for what it quotes. -/
  | quote (loc : Location)
  /-- A list waits for its next item. -/
  | items (opened : Location) (reversed : List Value)
  /-- A list waits for the tail after its dot. -/
  | tail (opened : Location) (reversed : List Value)
deriving DecidableEq

/-- What the next token is read as. -/
inductive State
  /-- The next token begins an expression or ends the innermost list. -/
  | awaiting (stack : List Pending)
  /-- The next token has to close a list whose tail has been read. -/
  | closing (opened : Location) (reversed : List Value) (tail : Value) (below : List Pending)
deriving DecidableEq

/-- What a token leads to. -/
inductive Step
  /-- Reading goes on. -/
  | next (state : State)
  /-- An expression is complete. -/
  | done (v : Value)
  /-- The token is taken and refused. -/
  | refuse (fault : Fault)
  /-- The token is refused without being taken. -/
  | refuseAhead (fault : Fault)

/-- The list `(quote v)`, every part of which is located at the quote mark. -/
def quotation (loc : Location) (v : Value) : Value :=
  .cell (.symbol "quote" loc) (.cell v (.nil loc) loc) loc

/-- The cells of a list, given its items in reverse. The first cell is located where the list was
opened, every other cell where its item is. -/
def cells (opened : Location) : List Value → Value → Value
  | [], tail => tail
  | [v], tail => .cell v tail opened
  | v :: vs, tail => cells opened vs (.cell v tail v.loc)

/-- Hands a complete expression to the construct that waits for it. -/
def complete (v : Value) : List Pending → Step
  | [] => .done v
  | .quote loc :: below => complete (quotation loc v) below
  | .items opened reversed :: below => .next (.awaiting (.items opened (v :: reversed) :: below))
  | .tail opened reversed :: below => .next (.closing opened reversed v below)

/-- The token begins an expression. -/
def start (width : Except Fault Nat) (stack : List Pending) (t : Token) : Step :=
  match t.kind with
  | .symbol => match atom width t.text t.loc with
    | .ok v => complete v stack
    | .error fault => .refuse fault
  | .quote => .next (.awaiting (.quote t.loc :: stack))
  | .lparen => .next (.awaiting (.items t.loc [] :: stack))
  | .rparen => .refuse (.syntaxError .unmatchedClose t.loc)
  | .other name => .refuse (.syntaxError (.unknownToken name t.text) t.loc)

/-- The token is a bare dot. -/
def isDot (t : Token) : Bool := t.kind == .symbol && t.text == "."

/-- Reads one token. -/
def step (width : Except Fault Nat) (state : State) (t : Token) : Step :=
  match state with
  | .closing opened reversed tail below =>
    if t.kind == .rparen then complete (cells opened reversed tail) below
    else .refuseAhead (.syntaxError .contentAfterTail t.loc)
  | .awaiting (.items opened reversed :: below) =>
    if t.kind == .rparen then complete (cells opened reversed (.nil t.loc)) below
    else if isDot t then
      if reversed.isEmpty then .refuse (.syntaxError .dotWithoutElement t.loc)
      else .next (.awaiting (.tail opened reversed :: below))
    else start width (.items opened reversed :: below) t
  | .awaiting stack => start width stack t

/-- What the end of the tokens means: nothing is missing, or the innermost construct is. -/
def atEnd : State → Option Fault
  | .closing opened .. => some (.syntaxError .unmatchedOpen opened)
  | .awaiting [] => none
  | .awaiting (.quote loc :: _) => some (.syntaxError .quoteAtEnd loc)
  | .awaiting (.items opened _ :: _) => some (.syntaxError .unmatchedOpen opened)
  | .awaiting (.tail opened _ :: _) => some (.syntaxError .unmatchedOpen opened)

/-- Reads tokens until one expression is complete. The result is `none` if there is no token. -/
def one (width : Except Fault Nat) :
    State → List Token → Except Fault (Option Value) × TokenStream
  | state, [] =>
    (match atEnd state with | some fault => .error fault | none => .ok none, ⟨none, []⟩)
  | state, t :: ts =>
    match step width state t with
    | .next state => one width state ts
    | .done v => (.ok (some v), ⟨none, ts⟩)
    | .refuse fault => (.error fault, ⟨none, ts⟩)
    | .refuseAhead fault => (.error fault, ⟨some t, ts⟩)

/-- What reading came to: the values, the fault that ended it, and what is left. -/
structure Reading where
  forms : List Value
  fault : Option Fault
  rest : TokenStream
deriving DecidableEq

/-- Reads tokens to the end or the first fault. -/
def many (width : Except Fault Nat) : State → List Token → Reading
  | state, [] => ⟨[], atEnd state, ⟨none, []⟩⟩
  | state, t :: ts =>
    match step width state t with
    | .next state => many width state ts
    | .done v =>
      let reading := many width (.awaiting []) ts
      { reading with forms := v :: reading.forms }
    | .refuse fault => ⟨[], some fault, ⟨none, ts⟩⟩
    | .refuseAhead fault => ⟨[], some fault, ⟨some t, ts⟩⟩

end Reader

/-! ## Reading from a stream -/

namespace TokenStream

/-- Reads one expression; `none` at the end of the stream. -/
def expression (width : Except Fault Nat) (s : TokenStream) :
    Except Fault (Option Value) × TokenStream :=
  Reader.one width (.awaiting []) s.remaining

/-- Reads the rest of a list that was opened at the given place. -/
def list (width : Except Fault Nat) (opened : Location) (s : TokenStream) :
    Except Fault (Option Value) × TokenStream :=
  Reader.one width (.awaiting [.items opened []]) s.remaining

/-- Reads every expression up to the end or the first fault. -/
def all (width : Except Fault Nat) (s : TokenStream) : Reader.Reading :=
  Reader.many width (.awaiting []) s.remaining

end TokenStream

/-- Reads every expression of a text, given the name of its source and the number of its first
line. -/
def readText (width : Except Fault Nat) (text : List Char) (source : String) (line : Int) :
    Reader.Reading :=
  (TokenStream.ofTokens (tokens text source line)).all width

end MiniLisp
