import MiniLisp.Fault
import MiniLisp.Text.Uppercase

/-!
# Settings

Four variables of the surrounding process configure the interpreter. They are kept as the raw
texts and read at each use, so an invalid one does harm only where it is needed.

| variable                | meaning                                    | when unset     |
|-------------------------|--------------------------------------------|----------------|
| `CELLA_INT_BITS`        | width of integers, at least 2              | 32             |
| `CELLA_RECURSION_LIMIT` | bound on the nesting of calls in the host  | the host's own |
| `CELLA_LOG_LEVEL`       | level of diagnostics                       | `WARNING`      |
| `CELLA_PROMPT`          | prompt of an interactive session           | `"> "`         |

An integer setting that is empty or holds only blanks counts as unset. Otherwise blanks around it
are ignored, and it has to be a grouped numeral of at most `Text.digitLimit` digits.

The stack of the host is left out. There a text, an evaluation or a comparison that is nested too
deeply for the bound on calls is abandoned for want of stack. Here reading, evaluation and
comparison go as deep as they have to: the setting is read and checked when the program starts
(`readRecursionLimit`), and bounds nothing after that.
-/

namespace MiniLisp

/-- The raw texts of the variables; `none` where a variable is unset. -/
structure Settings where
  intBits : Option String
  recursionLimit : Option String
  logLevel : Option String
  prompt : Option String
deriving DecidableEq, Inhabited

namespace Settings

/-- Nothing is set. -/
def unset : Settings := ⟨none, none, none, none⟩

/-- Reads an integer setting, given its name and its raw text; `none` if it counts
as unset. -/
def readInteger (setting : String) (raw : Option String) : Except Fault (Option Int) :=
  match raw with
  | none => .ok none
  | some text =>
    if Text.allBlank text.toList then .ok none
    else match Text.Numeral.ofGrouped? (Text.trim text.toList) with
      | none => .error (.settingNotInteger setting text)
      | some numeral =>
        if numeral.tooLong then .error (.settingNotInteger setting text)
        else .ok (some numeral.value)

/-- The width of integers in bits. -/
def width (s : Settings) : Except Fault Nat :=
  match readInteger "CELLA_INT_BITS" s.intBits with
  | .error fault => .error fault
  | .ok none => .ok 32
  | .ok (some bits) => if bits < 2 then .error (.widthTooSmall bits) else .ok bits.toNat

/-- The greatest exponent of a power of two that finds room in memory. The memory is that of the
machine on which the faults were recorded: 32 GiB, each byte of 8 bits. On another machine the bound
is another one. -/
def memoryBound : Nat := 8 * Nat.pow 2 35

/-- The greatest exponent of a power of two whose parts could be addressed at all, whatever the
memory. An integer of the host consists of a header of 24 bytes and of parts that are 4 bytes large
and hold 30 bits each, and its size in bytes is less than `2 ^ 63`. A power of two has one part more
than its exponent fills. -/
def addressBound : Nat := 30 * ((Nat.pow 2 63 - 1 - 24) / 4 - 1)

/-- The width, if there is room for a power of two whose exponent depends on it. -/
def widthWithRoom (s : Settings) (exponent : Nat → Nat) : Except Fault Nat := do
  let bits ← s.width
  if addressBound < exponent bits then throw .widthTooLarge
  else if memoryBound < exponent bits then throw .outOfMemory
  else return bits

/-- The width for reading. An integer that is read is compared with the bounds of the width, the
powers of two with one bit less. -/
def readingWidth (s : Settings) : Except Fault Nat := s.widthWithRoom (· - 1)

/-- The width for arithmetic. The result of an operation is wrapped modulo the power of two with
all bits. -/
def arithmeticWidth (s : Settings) : Except Fault Nat := s.widthWithRoom id

/-- The bound on the nesting of calls that is set for the host, if there is one. -/
def readRecursionLimit (s : Settings) : Except Fault (Option Int) :=
  readInteger "CELLA_RECURSION_LIMIT" s.recursionLimit

/-- The name of the level of diagnostics, in capitals. -/
def levelName (s : Settings) : String := Text.upper (s.logLevel.getD "WARNING")

/-- The prompt of an interactive session. -/
def promptText (s : Settings) : String := s.prompt.getD "> "

/-- The width is at least two. -/
theorem two_le_of_width {s : Settings} {bits : Nat} (h : s.width = .ok bits) : 2 ≤ bits := by
  unfold width at h
  split at h
  · cases h
  · cases h; decide
  · split at h
    · cases h
    · cases h; omega

/-- There is room or not, the width is the same. -/
theorem width_of_widthWithRoom {s : Settings} {exponent : Nat → Nat} {bits : Nat}
    (h : s.widthWithRoom exponent = .ok bits) : s.width = .ok bits := by
  unfold widthWithRoom at h
  cases asked : s.width with
  | error fault => simp [asked, bind, Except.bind] at h
  | ok b =>
    simp only [asked, bind, Except.bind] at h
    split at h
    · cases h
    · split at h
      · cases h
      · cases h; rfl

end Settings

end MiniLisp
