import MiniLisp.Location
import MiniLisp.Text.Utf8

/-!
# Faults

A fault abandons what is being done: the text cannot be read, a setting is invalid, a file cannot
be opened. It is no value of the language, so a program can neither see nor keep it. Failures of
evaluation are error values instead (`ErrorValue`).

`Fault.message` gives the wording of each fault.
-/

namespace MiniLisp

/-- What is wrong with a source text. -/
inductive SyntaxProblem
  | quoteAtEnd
  | unmatchedClose
  | unmatchedOpen
  | contentAfterTail
  | dotWithoutElement
  | literalOutOfRange (literal : String) (low high : Int)
  | unknownToken (kind text : String)
deriving DecidableEq

/-- The wording of a syntax problem. -/
def SyntaxProblem.detail : SyntaxProblem → String
  | quoteAtEnd => "quote at end of input"
  | unmatchedClose => "unmatched ')'"
  | unmatchedOpen => "unmatched '('"
  | contentAfterTail => "expected ')' after dotted tail"
  | dotWithoutElement => "dot without a preceding element"
  | literalOutOfRange literal low high =>
    "integer literal " ++ literal ++ " out of range [" ++ Text.decimal low ++ ", " ++
      Text.decimal high ++ "]"
  | unknownToken kind text => "unknown token " ++ kind ++ " " ++ text

/-- Why a source file cannot be opened: what the names along its path, their directories and the
rights to them can give as a reason. Whatever else an operating system may report is left out. -/
inductive ReadProblem
  | missing
  | directory
  | notDirectory
  | nameTooLong
  | denied
deriving DecidableEq, Repr

namespace ReadProblem

/-- The wording of the operating system. -/
def text : ReadProblem → String
  | missing => "No such file or directory"
  | directory => "Is a directory"
  | notDirectory => "Not a directory"
  | nameTooLong => "File name too long"
  | denied => "Permission denied"

/-- The number that the operating system gives the problem. -/
def number : ReadProblem → Nat
  | missing => 2
  | denied => 13
  | notDirectory => 20
  | directory => 21
  | nameTooLong => 36

end ReadProblem

/-- Why an activity was abandoned. -/
inductive Fault
  | syntaxError (problem : SyntaxProblem) (loc : Location)
  | settingNotInteger (setting raw : String)
  | widthTooSmall (bits : Int)
  | widthTooLarge
  | outOfMemory
  | literalTooLong (digits : Nat)
  | integerTooLong
  | divisionByZero
  | moduloByZero
  | undecodable (error : Text.Utf8Error)
  | unreadable (path : String) (problem : ReadProblem)
  | embeddedNull
  | unwritable (reason : String)
  | unknownLevel (level : String)
  | levelDropped
  | recursionLimitTooSmall
  | recursionLimitOutOfRange
  | formWithoutHead
deriving DecidableEq

namespace Fault

/-- The byte sequence that cannot be decoded, as a message names it. -/
def bytesText (e : Text.Utf8Error) : String :=
  if e.length ≤ 1 then
    "byte 0x" ++ String.ofList (Text.hexDigits 2 e.first.toNat) ++ " in position " ++
      Text.decimal e.position
  else
    "bytes in position " ++ Text.decimal e.position ++ "-" ++
      Text.decimal (e.position + e.length - 1 : Nat)

/-- The wording of a fault. -/
def message : Fault → String
  | syntaxError problem loc => loc.text ++ ": syntax error: " ++ problem.detail
  | settingNotInteger setting raw =>
    setting ++ " must be an integer, got " ++ Text.quoted raw
  | widthTooSmall bits => "CELLA_INT_BITS must be at least 2, got " ++ Text.decimal bits
  | widthTooLarge => "too many digits in integer"
  | outOfMemory => ""
  | literalTooLong digits =>
    "Exceeds the limit (" ++ Text.decimal Text.digitLimit ++
      " digits) for integer string conversion: value has " ++ Text.decimal digits ++
      " digits; use sys.set_int_max_str_digits() to increase the limit"
  | integerTooLong =>
    "Exceeds the limit (" ++ Text.decimal Text.digitLimit ++
      " digits) for integer string conversion; " ++
      "use sys.set_int_max_str_digits() to increase the limit"
  | divisionByZero => "integer division or modulo by zero"
  | moduloByZero => "integer modulo by zero"
  | undecodable e =>
    "'utf-8' codec can't decode " ++ bytesText e ++ ": " ++ e.reason.text
  | unreadable path problem =>
    "[Errno " ++ Text.decimal problem.number ++ "] " ++ problem.text ++ ": " ++ Text.quoted path
  | embeddedNull => "embedded null byte"
  | unwritable reason => reason
  | unknownLevel level => "Unknown level: " ++ Text.quoted level
  | levelDropped => "'list' object has no attribute 'upper'"
  | recursionLimitTooSmall => "recursion limit must be greater or equal than 1"
  | recursionLimitOutOfRange => "Python int too large to convert to C int"
  | formWithoutHead => "'NoneType' object has no attribute 'kind'"

end Fault

end MiniLisp
