/-!
# Native operators

The operators that the language supplies itself. Each receives its arguments unevaluated and
decides on its own which of them to evaluate, so special forms and ordinary functions are of one
kind.

Four operators fold integers from the left. What they have in common is a `Fold`: a name, what joins
two integers, and whether a zero after the first operand is refused. A host may bind folds of its
own beside the standard ones. These may join integers by any operation that the host supplies; a
fold then refers to the operation by its name, and the context of a run says what it does
(`Context.operations`).
-/

namespace MiniLisp

/-- A rule that joins the value so far with the next operand. -/
inductive FoldRule
  /-- `a + b` -/
  | sum
  /-- `a - b` -/
  | difference
  /-- `a * b` -/
  | product
  /-- `a / b`, rounded toward zero -/
  | quotient
  /-- The remainder of `a` by `b` that has the sign of `b`. -/
  | remainder
deriving DecidableEq, Repr

/-- What joins the value so far with the next operand: a rule, or the operation that the host
supplies under a name. -/
inductive Joining
  | rule (r : FoldRule)
  | hosted (operation : String)
deriving DecidableEq, Repr

/-- An operator that folds its integer arguments from the left. -/
structure Fold where
  name : String
  joining : Joining
  refusesZero : Bool
deriving DecidableEq, Repr

namespace Fold

/-- The identifier of a fold among the operators of its host. -/
def handle (f : Fold) : String := "builtin_" ++ f.name

/-- One line on what a fold does. -/
def summary (f : Fold) : String :=
  "(" ++ f.name ++ " a b ...) -> left fold of the integer arguments with " ++ f.name

def add : Fold := ⟨"+", .rule .sum, false⟩
def subtract : Fold := ⟨"-", .rule .difference, false⟩
def multiply : Fold := ⟨"*", .rule .product, false⟩
def divide : Fold := ⟨"/", .rule .quotient, true⟩

end Fold

/-- An operator of the language. -/
inductive Operator
  | progn
  | makeExpander
  | loop
  | quote
  | setq
  | set
  | fn
  | branch
  | println
  | print
  | cons
  | car
  | cdr
  | fold (f : Fold)
  | equal
  | less
deriving DecidableEq, Repr

namespace Operator

/-- The name that the operator is bound to and printed with. -/
def name : Operator → String
  | progn => "progn"
  | makeExpander => "macro"
  | loop => "while"
  | quote => "quote"
  | setq => "setq"
  | set => "set"
  | fn => "fn"
  | branch => "if"
  | println => "println"
  | print => "print"
  | cons => "cons"
  | car => "car"
  | cdr => "cdr"
  | fold f => f.name
  | equal => "="
  | less => "<"

/-- The operators of a new root frame, in the order in which they are bound. -/
def standard : List Operator :=
  [progn, makeExpander, loop, quote, setq, set, fn, branch,
    println, print, cons, car, cdr,
    fold .add, fold .subtract, fold .multiply, fold .divide, equal, less]

/-- The standard operator of the given name. -/
def ofName? (name : String) : Option Operator := standard.find? (·.name == name)

end Operator

end MiniLisp
