import MiniLisp.Location

/-!
# Error values

A failed evaluation ends in an error value: a kind, a message, the location it is reported at, and
an identity. Two failures are two error values even if they read the same.

The evaluator does not compose messages. It names a `Cause`; `Cause.kind` and `Cause.message` give
the kind and the wording.
-/

namespace MiniLisp

/-- Tells apart values that have no structure to compare: closures, native operators, errors. -/
abbrev Identity := Nat

/-- The kinds of values of the language. -/
inductive Kind
  | nil
  | truth
  | symbol
  | integer
  | cell
  | function
  | expander
  | native
  | error
deriving DecidableEq, Repr

namespace Kind

/-- The name of a kind in messages. -/
def name : Kind → String
  | nil => "nil"
  | truth => "true"
  | symbol => "symbol"
  | integer => "integer"
  | cell => "cell"
  | function => "function"
  | expander => "macro"
  | native => "builtin"
  | error => "error"

end Kind

/-- The kinds of error values. -/
inductive ErrorKind
  | unboundSymbol
  | notCallable
  | malformedFunction
  | nonSymbolParameter
  | typeError
  | arityError
  | divisionByZero
  | emptyBody
  | ioError
deriving DecidableEq, Repr

namespace ErrorKind

/-- The name of an error kind. -/
def name : ErrorKind → String
  | unboundSymbol => "UnboundSymbol"
  | notCallable => "NotCallable"
  | malformedFunction => "MalformedFunction"
  | nonSymbolParameter => "NonSymbolParameter"
  | typeError => "TypeError"
  | arityError => "ArityError"
  | divisionByZero => "DivisionByZero"
  | emptyBody => "EmptyBody"
  | ioError => "IOError"

/-- Every error kind. -/
def all : List ErrorKind :=
  [unboundSymbol, notCallable, malformedFunction, nonSymbolParameter, typeError, arityError,
    divisionByZero, emptyBody, ioError]

/-- The error kind of the given name. -/
def ofName? (name : String) : Option ErrorKind := all.find? (·.name == name)

end ErrorKind

/-- An error as a value of the language. -/
structure ErrorValue where
  kind : ErrorKind
  message : String
  loc : Location
  identity : Identity
deriving DecidableEq

namespace ErrorValue

/-- The line that reports an error. -/
def report (e : ErrorValue) : String := e.loc.text ++ ": error: " ++ e.message

end ErrorValue

/-- The word with its indefinite article. A word that starts with a vowel takes `an`, and so does
the empty word. -/
def withArticle (word : String) : String :=
  let vowel := match word.toList.head? with
    | none => true
    | some c => "aeiouAEIOU".toList.contains c
  (if vowel then "an " else "a ") ++ word

/-- The plural ending after a count. -/
def pluralEnding (count : Nat) : String := if count = 1 then "" else "s"

/-- Why an evaluation failed. Texts of values are in printed form. -/
inductive Cause
  | unboundSymbol (name : String)
  | notCallable (operator : String) (kind : Kind)
  | malformedDefinition
  | missingParameters
  | parameterNotSymbol (kind : Kind)
  | improperArguments
  | improperBody
  | emptyBody
  | targetNotSymbol (kind : Kind)
  | notNumeric (operator : String) (kind : Kind)
  | notCell (operator : String) (kind : Kind)
  | parameterCount (closure : Kind) (parameters : String) (expected supplied : Nat)
  | argumentCount (operator : String) (expected supplied : Nat)
  | missingBranch
  | missingCondition
  | divisionByZero
  | unwritable (reason : String)
deriving DecidableEq

namespace Cause

/-- The kind of error that a cause leads to. -/
def kind : Cause → ErrorKind
  | unboundSymbol _ => .unboundSymbol
  | notCallable .. => .notCallable
  | malformedDefinition | missingParameters => .malformedFunction
  | parameterNotSymbol _ => .nonSymbolParameter
  | improperArguments | improperBody | targetNotSymbol _ | notNumeric .. | notCell .. => .typeError
  | parameterCount .. | argumentCount .. | missingBranch | missingCondition => .arityError
  | divisionByZero => .divisionByZero
  | emptyBody => .emptyBody
  | unwritable _ => .ioError

/-- The wording of a cause. -/
def message : Cause → String
  | unboundSymbol name => "unbound symbol `" ++ name ++ "'"
  | notCallable operator kind =>
    "`" ++ operator ++ "' is not callable (it is " ++ withArticle kind.name ++ ")"
  | malformedDefinition => "malformed function definition"
  | missingParameters => "missing list of parameters"
  | parameterNotSymbol kind =>
    "parameter name must be a symbol (this is " ++ withArticle kind.name ++ ")"
  | improperArguments => "argument list is not a proper list"
  | improperBody => "body is not a proper list"
  | emptyBody => "empty body"
  | targetNotSymbol kind =>
    "set expects a symbol to bind (got " ++ withArticle kind.name ++ ")"
  | notNumeric operator kind =>
    "builtin `" ++ operator ++ "' takes only numeric arguments (got `" ++ kind.name ++ "')"
  | notCell operator kind =>
    "builtin `" ++ operator ++ "' expects a cell (got " ++ withArticle kind.name ++ ")"
  | parameterCount closure parameters expected supplied =>
    closure.name ++ " " ++ parameters ++ " expects " ++ Text.decimal expected ++ " argument" ++
      pluralEnding expected ++ ", got " ++ Text.decimal supplied
  | argumentCount operator expected supplied =>
    "`" ++ operator ++ "' requires exactly " ++ Text.decimal expected ++ " argument" ++
      pluralEnding expected ++ ", got " ++ Text.decimal supplied
  | missingBranch => "if requires a condition and a then-expression"
  | missingCondition => "while requires a condition"
  | divisionByZero => "division by zero"
  | unwritable reason => "cannot write output: " ++ reason

/-- The error value of a cause at a location. -/
def toError (c : Cause) (loc : Location) (identity : Identity) : ErrorValue :=
  ⟨c.kind, c.message, loc, identity⟩

end Cause

end MiniLisp
