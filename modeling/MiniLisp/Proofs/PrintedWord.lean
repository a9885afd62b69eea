import MiniLisp.Printed
import MiniLisp.Proofs.Parsing

/-!
# Printed words

A value without parts is printed as one word. If it is nil, the truth value, an integer that the
width has room for or a symbol with the name of a symbol (`IsSymbolName`), then the word is one
token of the lexer and its atom is the value again, whatever its place (`ReadsAsWord`).
-/

namespace MiniLisp

namespace Text

/-! ## Numerals -/

theorem digitValue?_digitChar {d : Nat} (h : d < 10) : digitValue? (Nat.digitChar d) = some d := by
  have all : ∀ d < 10, digitValue? (Nat.digitChar d) = some d := by decide
  exact all d h

/-- The digits of a natural number spell it. -/
theorem mapM_naturalDigits (n : Nat) :
    ∃ ds, (naturalDigits n).mapM digitValue? = some ds ∧
      ds.foldl (fun acc d => 10 * acc + d) 0 = n ∧ ds.length = (naturalDigits n).length := by
  unfold naturalDigits
  rw [Nat.toDigits_eq_if (by decide)]
  split
  · next small =>
    refine ⟨[n], ?_, by simp, by simp⟩
    simp [digitValue?_digitChar small]
  · next large =>
    obtain ⟨ds, spelled, value, length⟩ := mapM_naturalDigits (n / 10)
    unfold naturalDigits at spelled length
    refine ⟨ds ++ [n % 10], ?_, ?_, by simp [length]⟩
    · have last : n % 10 < 10 := Nat.mod_lt n (by decide)
      simp [List.mapM_append, spelled, digitValue?_digitChar last]
    · rw [List.foldl_append, value]
      simp only [List.foldl_cons, List.foldl_nil]
      omega
termination_by n

theorem naturalDigits_ne_nil (n : Nat) : naturalDigits n ≠ [] := Nat.toDigits_ne_nil

/-- A character that begins a sequence of digits is no sign. -/
theorem Numeral.takeSign_of_mapM {cs : List Char} {ds : List Nat}
    (h : cs.mapM digitValue? = some ds) : takeSign cs = (false, cs) := by
  unfold takeSign
  split
  · next rest =>
    have notDigit : digitValue? '-' = none := by decide
    simp [notDigit] at h
  · next rest =>
    have notDigit : digitValue? '+' = none := by decide
    simp [notDigit] at h
  · rfl

/-- The printed form of an integer is a literal, which spells it with the digits of its
magnitude. -/
theorem ofLiteral?_integerDigits (i : Int) :
    ∃ n : Numeral, Numeral.ofLiteral? (integerDigits i) = some n ∧ n.value = i ∧
      n.digits.length = (naturalDigits i.natAbs).length := by
  obtain ⟨ds, spelled, value, length⟩ := mapM_naturalDigits i.natAbs
  have digits : Numeral.digits? (naturalDigits i.natAbs) = some ds := by
    simp [Numeral.digits?, naturalDigits_ne_nil, spelled]
  unfold integerDigits
  split
  · next negative =>
    refine ⟨⟨true, ds⟩, ?_, ?_, length⟩
    · simp [Numeral.ofLiteral?, Numeral.takeSign, digits]
    · simp only [Numeral.value, Numeral.magnitude, value, if_true]
      omega
  · next nonnegative =>
    refine ⟨⟨false, ds⟩, ?_, ?_, length⟩
    · simp [Numeral.ofLiteral?, Numeral.takeSign_of_mapM spelled, digits]
    · simp only [Numeral.value, Numeral.magnitude, value]
      simp
      omega

theorem lt_pow_of_length_naturalDigits_le {n k : Nat} (pos : 0 < k)
    (h : (naturalDigits n).length ≤ k) : n < Nat.pow 10 k :=
  (Nat.length_toDigits_le_iff (by decide) pos).mp h

/-- An integer of no more than `digitLimit` digits is written. -/
theorem tooLongToWrite_eq_false {i : Int} (h : (naturalDigits i.natAbs).length ≤ digitLimit) :
    tooLongToWrite i = false := by
  unfold tooLongToWrite writingBound
  exact decide_eq_false (Nat.not_le.mpr (lt_pow_of_length_naturalDigits_le (by decide) h))

end Text

namespace Token

theorem isWordChar_of_isDigit {c : Char} (h : c.isDigit = true) : isWordChar c = true := by
  have notMark {d : Char} (mark : d.isDigit = false) : c ≠ d := by
    rintro rfl
    simp [mark] at h
  have between : 48 ≤ c.toNat ∧ c.toNat ≤ 57 := by
    simp only [Char.isDigit, Bool.and_eq_true, decide_eq_true_eq] at h
    exact ⟨UInt32.le_iff_toNat_le.mp h.1, UInt32.le_iff_toNat_le.mp h.2⟩
  have notBlank : Text.isBlank c = false := by
    simp only [Text.isBlank, Bool.or_eq_false_iff, Bool.and_eq_false_iff, decide_eq_false_iff_not,
      beq_eq_false_iff_ne]
    omega
  simp [isWordChar, notBlank, notMark (d := '(') (by decide), notMark (d := ')') (by decide),
    notMark (d := '\x27') (by decide), notMark (d := ';') (by decide)]

theorem isWordChar_of_mem_integerDigits {i : Int} {c : Char} (h : c ∈ Text.integerDigits i) :
    isWordChar c = true := by
  have ofDigits (mem : c ∈ Text.naturalDigits i.natAbs) : isWordChar c = true :=
    isWordChar_of_isDigit (Nat.isDigit_of_mem_toDigits (by decide) (by decide) mem)
  unfold Text.integerDigits at h
  split at h
  · rcases List.mem_cons.mp h with rfl | mem
    · decide
    · exact ofDigits mem
  · exact ofDigits h

end Token

/-! ## Words -/

/-- The name of a symbol that is read as itself: a word that is no bare dot and spells neither nil
nor the truth value nor an integer. -/
structure IsSymbolName (name : String) : Prop where
  some : name ≠ ""
  word : ∀ c ∈ name.toList, Token.isWordChar c = true
  notNil : name ≠ "nil"
  notTruth : name ≠ "t"
  notDot : name ≠ "."
  noInteger : Text.Numeral.ofLiteral? name.toList = none

namespace Value

/-- The value is made of nil, the truth value, integers of the width that are not too long to be
read, and symbols that are read as themselves. -/
def Plain (width : Except Fault Nat) : Value → Prop
  | nil _ => True
  | truth _ => True
  | symbol name _ => IsSymbolName name
  | integer i _ => (Text.naturalDigits i.natAbs).length ≤ Text.digitLimit ∧
      ∃ bits, width = .ok bits ∧ Width.low bits ≤ i ∧ i ≤ Width.high bits
  | cell first rest _ => first.Plain width ∧ rest.Plain width
  | closure .. => False
  | native .. => False
  | error _ => False

/-- The printed form of the value is a word that is read as the value, wherever it stands. -/
structure ReadsAsWord (width : Except Fault Nat) (v : Value) : Prop where
  some : v.wordChars ≠ []
  word : ∀ c ∈ v.wordChars, Token.isWordChar c = true
  notDot : String.ofList v.wordChars ≠ "."
  readable : ∀ l, (Mark.token ⟨String.ofList v.wordChars, l⟩ .symbol).Readable width
  atom : ∀ l, (Mark.atom ⟨String.ofList v.wordChars, l⟩).same v = true

variable {width : Except Fault Nat}

/-- The words that are read as values of their own kind. -/
def reservedWords : List (List Char) := [['n', 'i', 'l'], ['t']]

/-- A value that is printed as a reserved word reads as that word, if it is the word's atom. -/
theorem readsAsWord_of_reserved {v : Value} (reserved : v.wordChars ∈ reservedWords)
    (atom : ∀ l, (Mark.atom ⟨String.ofList v.wordChars, l⟩).same v = true) :
    v.ReadsAsWord width := by
  have ordinary : ∀ word ∈ reservedWords, word ≠ [] ∧ word.all Token.isWordChar = true ∧
      String.ofList word ≠ "." ∧
      Text.Numeral.ofLiteral? (String.ofList word).toList = none := by decide
  obtain ⟨some, word, notDot, noInteger⟩ := ordinary _ reserved
  exact ⟨some, List.all_eq_true.mp word, notDot, fun _ => Mark.readable_word noInteger, atom⟩

theorem readsAsWord_nil (loc : Location) : (nil loc).ReadsAsWord width :=
  readsAsWord_of_reserved (by simp [wordChars, reservedWords]) fun _ => by
    simp [wordChars, Mark.atom, same]

theorem readsAsWord_truth (loc : Location) : (truth loc).ReadsAsWord width :=
  readsAsWord_of_reserved (by simp [wordChars, reservedWords]) fun _ => by
    simp [wordChars, Mark.atom, same]

theorem readsAsWord_symbol {name : String} (h : IsSymbolName name) (loc : Location) :
    (symbol name loc).ReadsAsWord width where
  some := by simpa [wordChars] using h.some
  word := h.word
  notDot := by simpa [wordChars] using h.notDot
  readable l := Mark.readable_word (by simpa [wordChars] using h.noInteger)
  atom l := by simp [wordChars, Mark.atom, h.notNil, h.notTruth, h.noInteger, same]

theorem readsAsWord_integer {i : Int} {bits : Nat}
    (short : (Text.naturalDigits i.natAbs).length ≤ Text.digitLimit)
    (least : Width.low bits ≤ i) (greatest : i ≤ Width.high bits) (loc : Location) :
    (integer i loc).ReadsAsWord (.ok bits) := by
  obtain ⟨n, literal, rfl, length⟩ := Text.ofLiteral?_integerDigits i
  have notTooLong : n.tooLong = false := by simpa [Text.Numeral.tooLong, length] using short
  have differs (word : String) (noInteger : Text.Numeral.ofLiteral? word.toList = none) :
      String.ofList (Text.integerDigits n.value) ≠ word := by
    rintro rfl
    simp [literal] at noInteger
  refine ⟨?_, fun c => Token.isWordChar_of_mem_integerDigits, differs "." (by decide), fun l => ?_,
    fun l => ?_⟩
  · intro none
    rw [wordChars] at none
    rw [none] at literal
    cases literal
  · exact Mark.readable_numeral (by simpa [wordChars] using literal) notTooLong
      (Width.fits_iff.mpr ⟨least, greatest⟩)
  · have notNil := differs "nil" (by decide)
    have notTruth := differs "t" (by decide)
    simp [wordChars, Mark.atom, notNil, notTruth, literal, same]

end Value

end MiniLisp
