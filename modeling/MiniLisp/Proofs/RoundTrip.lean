import Mathlib.Data.List.Forall2
import MiniLisp.Proofs.Lexing
import MiniLisp.Proofs.PrintedWord

/-!
# Reading what was printed

The printer writes a chain of cells with a loop and a dot only before a tail other than nil, the
lexer takes the longest words it can, and the reader tells a dot that is punctuation from one that
is an atom. For plain values (`Value.Plain`) they fit together: the printed form of a value is one
item of the grammar wherever it stands, as long as what follows cannot continue its last word.

* `Value.reads_of_plain`: the printed form of a value, and of a tail, in any context;
* `readText_joined`: printed forms with blanks between them are read as the values again.
-/

namespace MiniLisp

namespace Value

variable {width : Except Fault Nat}

/-- In front of anything that cannot continue a word, the printed form of the value is lexed to the
tokens of an item whose tree is the value but for its locations. -/
def ReadsAsItem (width : Except Fault Nat) (v : Value) : Prop :=
  ∀ (l : Location) (rest : List Char), Token.Delimited rest → ∃ (i : Item) (l' : Location),
    Token.scan l .between (v.chars ++ rest) = i.tokens ++ Token.scan l' .between rest ∧
      (∀ t ∈ i.tokens, t.Readable width) ∧ i.tree.same v = true

/-- The printed form of the value as the rest of a list is lexed to the tokens of the rest of a
list whose tree is the value but for its locations. -/
def ReadsAsTail (width : Except Fault Nat) (v : Value) : Prop :=
  ∀ (l : Location) (rest : List Char), ∃ (r : Tail) (l' : Location),
    Token.scan l .between (v.tailChars ++ rest) = r.tokens ++ Token.scan l' .between rest ∧
      (∀ t ∈ r.tokens, t.Readable width) ∧ r.tree.same v = true

/-- The printed form of the rest of a list cannot continue a word. -/
theorem delimited_tailChars (v : Value) (rest : List Char) :
    Token.Delimited (v.tailChars ++ rest) := by
  cases v <;> exact Token.delimited_cons (by decide) _

theorem ReadsAsWord.readsAsItem {v : Value} (h : v.ReadsAsWord width)
    (noCell : v.chars = v.wordChars) : v.ReadsAsItem width := by
  intro l rest delimited
  refine ⟨.word ⟨String.ofList v.wordChars, l⟩ h.notDot, l.after v.wordChars, ?_, ?_, h.atom l⟩
  · rw [noCell, Token.scan_word h.some h.word delimited]
    rfl
  · simpa [Item.tokens] using h.readable l

/-- A tail that is a word stands between a dot and the closing parenthesis. The dot is a word by
itself, because a blank follows it. -/
theorem ReadsAsWord.readsAsTail {v : Value} (h : v.ReadsAsWord width)
    (dotted : v.tailChars = ' ' :: '.' :: ' ' :: (v.wordChars ++ [')'])) :
    v.ReadsAsTail width := by
  intro l rest
  have dot (more : List Char) : Token.scan (l.next ' ') .between ('.' :: ' ' :: more) =
      dotToken (l.next ' ') :: Token.scan (l.after [' ', '.', ' ']) .between more := by
    rw [← List.singleton_append, Token.scan_word (by simp) (List.all_eq_true.mp (by decide))
      (Token.delimited_cons (by decide) more), Token.scan_blank]
    rfl
  let place := l.after [' ', '.', ' ']
  let word : Mark := ⟨String.ofList v.wordChars, place⟩
  let closing : Mark := ⟨")", place.after v.wordChars⟩
  refine ⟨.dotted (l.next ' ') (.item (.word word h.notDot)) closing, closing.loc.next ')', ?_, ?_,
    h.atom place⟩
  · rw [dotted]
    simp only [List.cons_append, List.append_assoc, List.nil_append]
    have closes : Token.Delimited (')' :: rest) := Token.delimited_cons (by decide) rest
    rw [Token.scan_blank, dot, Token.scan_word h.some h.word closes, Token.scan_rparen]
    rfl
  · simp only [Tail.tokens, Expr.tokens, Item.tokens, List.cons_append, List.nil_append,
      List.forall_mem_cons]
    exact ⟨readable_dotToken _, h.readable place,
      Mark.readable_token (by simp) (by simp) closing, by simp⟩

/-- The two halves of a cell are read one after the other: the last word of the first half ends
where the rest of the list begins. -/
theorem ReadsAsItem.append {first rest : Value} (hFirst : first.ReadsAsItem width)
    (hRest : rest.ReadsAsTail width) (l : Location) (more : List Char) :
    ∃ (i : Item) (r : Tail) (l' : Location),
      Token.scan l .between (first.chars ++ (rest.tailChars ++ more)) =
        i.tokens ++ (r.tokens ++ Token.scan l' .between more) ∧
      (∀ t ∈ i.tokens ++ r.tokens, t.Readable width) ∧
      i.tree.same first = true ∧ r.tree.same rest = true := by
  obtain ⟨i, l₁, scanFirst, readableFirst, sameFirst⟩ :=
    hFirst l (rest.tailChars ++ more) (rest.delimited_tailChars more)
  obtain ⟨r, l₂, scanRest, readableRest, sameRest⟩ := hRest l₁ more
  refine ⟨i, r, l₂, ?_, ?_, sameFirst, sameRest⟩
  · rw [scanFirst, scanRest]
  · rw [List.forall_mem_append]
    exact ⟨readableFirst, readableRest⟩

/-- A list of a first item and a rest is read if these are. -/
theorem ReadsAsItem.cell {first rest : Value} (hFirst : first.ReadsAsItem width)
    (hRest : rest.ReadsAsTail width) (loc : Location) :
    (Value.cell first rest loc).ReadsAsItem width := by
  intro l more _
  obtain ⟨i, r, l', scanned, readable, sameFirst, sameRest⟩ := hFirst.append hRest (l.next '(') more
  refine ⟨.list ⟨"(", l⟩ i r, l', ?_, ?_, by simp [Item.tree, same, sameFirst, sameRest]⟩
  · simp only [chars, List.cons_append, List.append_assoc, Item.tokens]
    rw [Token.scan_lparen, scanned]
    rfl
  · rw [Item.tokens, List.forall_mem_cons]
    exact ⟨Mark.readable_token (by simp) (by simp) _, readable⟩

theorem ReadsAsTail.cell {first rest : Value} (hFirst : first.ReadsAsItem width)
    (hRest : rest.ReadsAsTail width) (loc : Location) :
    (Value.cell first rest loc).ReadsAsTail width := by
  intro l more
  obtain ⟨i, r, l', scanned, readable, sameFirst, sameRest⟩ := hFirst.append hRest (l.next ' ') more
  refine ⟨.next i r, l', ?_, readable, by simp [Tail.tree, same, sameFirst, sameRest]⟩
  simp only [tailChars, List.cons_append, List.append_assoc, Tail.tokens]
  rw [Token.scan_blank, scanned]

/-- A closing parenthesis is the rest of a list that is nil. -/
theorem readsAsTail_nil (loc : Location) : (nil loc).ReadsAsTail width := by
  intro l rest
  refine ⟨.close ⟨")", l⟩, l.next ')', Token.scan_rparen l rest, ?_, rfl⟩
  simpa [Tail.tokens] using Mark.readable_token (by simp) (by simp) _

/-- The printed form of a plain value is read as the value, as an item and as the rest of a
list. -/
theorem reads_of_plain {v : Value} (plain : v.Plain width) :
    v.ReadsAsItem width ∧ v.ReadsAsTail width := by
  induction v with
  | nil loc => exact ⟨(readsAsWord_nil loc).readsAsItem rfl, readsAsTail_nil loc⟩
  | truth loc =>
    have word : (truth loc).ReadsAsWord width := readsAsWord_truth loc
    exact ⟨word.readsAsItem rfl, word.readsAsTail rfl⟩
  | symbol name loc =>
    have word : (symbol name loc).ReadsAsWord width := readsAsWord_symbol plain loc
    exact ⟨word.readsAsItem rfl, word.readsAsTail rfl⟩
  | integer i loc =>
    obtain ⟨short, bits, rfl, least, greatest⟩ := plain
    have word := readsAsWord_integer short least greatest loc
    exact ⟨word.readsAsItem rfl, word.readsAsTail rfl⟩
  | cell first rest loc ihFirst ihRest =>
    obtain ⟨asItem, _⟩ := ihFirst plain.1
    obtain ⟨_, asTail⟩ := ihRest plain.2
    exact ⟨asItem.cell asTail loc, .cell asItem asTail loc⟩
  | closure => exact plain.elim
  | native => exact plain.elim
  | error => exact plain.elim

/-- No integer of a plain value is too long to be written. -/
theorem written_of_plain {v : Value} (plain : v.Plain width) : v.written = .ok v.text := by
  have short : v.hasLongInteger = false := by
    induction v with
    | integer i loc => exact Text.tooLongToWrite_eq_false plain.1
    | cell first rest loc ihFirst ihRest =>
      simp [hasLongInteger, ihFirst plain.1, ihRest plain.2]
    | _ => rfl
  simp [written, short]

end Value

/-! ## Several values -/

/-- The text is made of the given texts with blanks between them, at least one at each place. -/
inductive Joined : List String → List Char → Prop
  | none : Joined [] []
  | one (s : String) : Joined [s] s.toList
  | more {s next : String} {others : List String} {blanks text : List Char} :
      blanks ≠ [] → Text.allBlank blanks = true → Joined (next :: others) text →
        Joined (s :: next :: others) (s.toList ++ (blanks ++ text))

variable {width : Except Fault Nat}

/-- Printed forms with blanks between them are lexed to the tokens of as many expressions, whose
trees are the values but for their locations. -/
theorem exists_exprs_of_joined {vs : List Value} (plain : ∀ v ∈ vs, v.Plain width)
    {text : List Char} (joined : Joined (vs.map Value.text) text) (l : Location) :
    ∃ es : List Expr, Token.scan l .between text = es.flatMap Expr.tokens ∧
      (∀ t ∈ es.flatMap Expr.tokens, t.Readable width) ∧
      List.Forall₂ (fun (e : Expr) (v : Value) => e.tree.same v = true) es vs := by
  induction vs generalizing text l with
  | nil =>
    cases joined
    exact ⟨[], rfl, by simp, .nil⟩
  | cons v others ih =>
    obtain ⟨asItem, _⟩ := Value.reads_of_plain (plain v List.mem_cons_self)
    cases others with
    | nil =>
      cases joined
      obtain ⟨i, l', scanned, readable, same⟩ := asItem l [] Token.delimited_nil
      rw [List.append_nil, Token.scan_between_nil] at scanned
      refine ⟨[.item i], ?_, by simpa [Expr.tokens] using readable, .cons same .nil⟩
      simpa [Value.text, Expr.tokens] using scanned
    | cons next others =>
      cases joined with
      | more some blank joined =>
      obtain ⟨i, l', scanned, readable, same⟩ :=
        asItem l _ (Token.delimited_append_of_allBlank some blank _)
      rw [Token.scan_blanks blank] at scanned
      obtain ⟨es, scannedLater, readableLater, sameLater⟩ :=
        ih (fun w mem => plain w (List.mem_cons_of_mem v mem)) joined (l'.after _)
      refine ⟨.item i :: es, ?_, ?_, .cons same sameLater⟩
      · rw [scannedLater] at scanned
        simpa [Value.text, Expr.tokens] using scanned
      · simpa only [List.flatMap_cons, List.forall_mem_append] using ⟨readable, readableLater⟩

/-- Plain values are printed without a fault, and their printed forms with blanks between them are
read without a fault as values that are equal to them, in order. -/
theorem readText_joined {vs : List Value} (plain : ∀ v ∈ vs, v.Plain width) :
    (∀ v ∈ vs, v.written = .ok v.text) ∧
    ∀ (text : List Char), Joined (vs.map Value.text) text → ∀ (source : String) (line : Int),
      ∃ forms : List Value, readText width text source line = ⟨forms, none, ⟨none, []⟩⟩ ∧
        List.Forall₂ (fun form v => form.same v = true) forms vs := by
  refine ⟨fun v mem => Value.written_of_plain (plain v mem), fun text joined source line => ?_⟩
  obtain ⟨es, scanned, readable, same⟩ :=
    exists_exprs_of_joined plain joined (.start source line)
  refine ⟨es.map Expr.tree, ?_, List.forall₂_map_left_iff.mpr same⟩
  have lexed : tokens text source line = es.flatMap Expr.tokens := scanned
  have read := many_flatMap_append es [] readable
  rw [List.append_nil] at read
  simpa [readText, TokenStream.all, lexed, Reader.many, Reader.atEnd] using read

/-- Two values: a dotted list with names that begin like integers, and nil. -/
def signsAndDots : List Value :=
  let loc := Location.unknown
  [.cell (.symbol "+" loc)
    (.cell (.cell (.truth loc) (.integer (-8) loc) loc) (.symbol "1+" loc) loc) loc,
    .nil loc]

theorem signsAndDots_readText :
    (∀ v ∈ signsAndDots, v.Plain (.ok 4)) ∧
    Joined (signsAndDots.map Value.text) "(+ (t . -8) . 1+)\t\nnil".toList ∧
    ∃ forms : List Value,
      readText (.ok 4) "(+ (t . -8) . 1+)\t\nnil".toList "signs" 1 = ⟨forms, none, ⟨none, []⟩⟩ ∧
      List.Forall₂ (fun form v => form.same v = true) forms signsAndDots := by
  have plus : IsSymbolName "+" :=
    ⟨by decide, List.all_eq_true.mp (by decide), by decide, by decide, by decide, by decide⟩
  have onePlus : IsSymbolName "1+" :=
    ⟨by decide, List.all_eq_true.mp (by decide), by decide, by decide, by decide, by decide⟩
  have plain : ∀ v ∈ signsAndDots, v.Plain (.ok 4) := by
    simp only [signsAndDots, List.forall_mem_cons, Value.Plain, true_and]
    exact ⟨⟨plus, ⟨by decide, 4, rfl, by decide, by decide⟩, onePlus⟩, by simp⟩
  have joined : Joined (signsAndDots.map Value.text) "(+ (t . -8) . 1+)\t\nnil".toList :=
    .more (show ['\t', '\n'] ≠ [] by decide) (by decide) (.one "nil")
  exact ⟨plain, joined, (readText_joined plain).2 _ joined "signs" 1⟩

end MiniLisp
