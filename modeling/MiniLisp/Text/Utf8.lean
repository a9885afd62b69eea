/-!
# Strict UTF-8

`decodeUtf8` reads bytes as UTF-8 and refuses every ill-formed sequence: stray or missing
continuation bytes, overlong forms, surrogates, and code points above U+10FFFF. A byte order mark
is an ordinary character.

The refusal names the offending bytes. They are the longest start of a well-formed sequence that
stands at that place, and at least one byte; at the end of the input they reach up to its end.

The second byte decides whether a sequence can be well formed, so `secondByteRange` lists what each
leading byte allows there; all later bytes lie in `80` to `BF`.
-/

namespace MiniLisp.Text

/-- What is wrong with a byte sequence. -/
inductive Utf8Reason
  | invalidStart
  | invalidContinuation
  | unexpectedEnd
deriving DecidableEq, Repr

/-- The wording of a reason. -/
def Utf8Reason.text : Utf8Reason → String
  | .invalidStart => "invalid start byte"
  | .invalidContinuation => "invalid continuation byte"
  | .unexpectedEnd => "unexpected end of data"

/-- The first ill-formed sequence of some bytes: its first byte, its place and its length. -/
structure Utf8Error where
  first : UInt8
  position : Nat
  length : Nat
  reason : Utf8Reason
deriving DecidableEq, Repr

/-- The number of bytes that a leading byte announces, and `none` if it cannot lead. -/
def sequenceLength? (b : UInt8) : Option Nat :=
  if b < 0x80 then some 1
  else if b < 0xC2 then none
  else if b < 0xE0 then some 2
  else if b < 0xF0 then some 3
  else if b < 0xF5 then some 4
  else none

/-- The second bytes that may follow a leading byte. -/
def secondByteRange (b : UInt8) : UInt8 × UInt8 :=
  if b == 0xE0 then (0xA0, 0xBF)
  else if b == 0xED then (0x80, 0x9F)
  else if b == 0xF0 then (0x90, 0xBF)
  else if b == 0xF4 then (0x80, 0x8F)
  else (0x80, 0xBF)

/-- The bits that a leading byte adds to a code point. -/
def leadingBits (b : UInt8) : Nat :=
  if b < 0x80 then b.toNat
  else if b < 0xE0 then b.toNat % 0x20
  else if b < 0xF0 then b.toNat % 0x10
  else b.toNat % 0x08

/-- Reads the continuation bytes of one sequence: `need` are missing, `taken` were read, the next
one has to lie between `low` and `high`. Gives the code point, or the reason and the length of the
ill-formed sequence. -/
def continuation (low high : UInt8) (taken code : Nat) :
    Nat → List UInt8 → Except (Utf8Reason × Nat) Nat
  | 0, _ => .ok code
  | _ + 1, [] => .error (.unexpectedEnd, taken)
  | need + 1, b :: bs =>
    if low ≤ b && b ≤ high then
      continuation 0x80 0xBF (taken + 1) (64 * code + b.toNat % 64) need bs
    else .error (.invalidContinuation, taken)

/-- Reads bytes from a position on. While `skip` is positive, the byte belongs to a sequence that
was read already. -/
def decodeFrom (position : Nat) : Nat → List UInt8 → Except Utf8Error (List Char)
  | _, [] => .ok []
  | skip + 1, _ :: bs => decodeFrom (position + 1) skip bs
  | 0, b :: bs =>
    match sequenceLength? b with
    | none => .error ⟨b, position, 1, .invalidStart⟩
    | some length =>
      let (low, high) := secondByteRange b
      match continuation low high 1 (leadingBits b) (length - 1) bs with
      | .error (reason, taken) => .error ⟨b, position, taken, reason⟩
      | .ok code => do
        let rest ← decodeFrom (position + 1) (length - 1) bs
        return Char.ofNat code :: rest

/-- The characters that the bytes encode, or the first ill-formed sequence. -/
def decodeUtf8 (bytes : List UInt8) : Except Utf8Error (List Char) := decodeFrom 0 0 bytes

end MiniLisp.Text
