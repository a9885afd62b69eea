import MiniLisp.Reader

/-!
# The grammar of expressions

A bare dot is a symbol token with the text `.`. It is an atom at the top level, after a quote mark
and as the tail of a dotted list, and it is punctuation among the items of a list:

    Expr ::= dot | Item
    Item ::= word | quote Expr | lparen rparen | lparen Item+ rparen | lparen Item+ dot Expr rparen

The syntax trees below cannot be ill-formed: a `Mark` has the text and the place of a token whose
kind the grammar fixes, and `Tail` is what may follow an item of a list.

* `Expr.tokens`: the tokens that an expression is made of;
* `Expr.tree`: the value that an expression denotes;
* `Expr.tokens_append_inj`, `Expr.flatMap_tokens_inj`: the grammar is unambiguous, and no
  expression begins another one.
-/

namespace MiniLisp

/-- The text and the place of a token whose kind is known. -/
structure Mark where
  text : String
  loc : Location
deriving DecidableEq

/-- The token of the given kind. -/
def Mark.token (m : Mark) (kind : TokenKind) : Token := ⟨kind, m.text, m.loc⟩

/-- The value of a word: nil, the truth value, an integer if the word spells one, and a symbol
otherwise. -/
def Mark.atom (m : Mark) : Value :=
  if m.text = "nil" then .nil m.loc
  else if m.text = "t" then .truth m.loc
  else match Text.Numeral.ofLiteral? m.text.toList with
    | some numeral => .integer numeral.value m.loc
    | none => .symbol m.text m.loc

mutual

/-- An expression: a bare dot or an item. -/
inductive Expr
  | dot (loc : Location)
  | item (i : Item)

/-- An expression that may stand among the items of a list. -/
inductive Item
  | word (m : Mark) (notDot : m.text ≠ ".")
  | quoted (quote : Mark) (e : Expr)
  | empty (opening closing : Mark)
  | list (opening : Mark) (first : Item) (rest : Tail)

/-- What follows an item of a list, up to the closing parenthesis. -/
inductive Tail
  | close (closing : Mark)
  | dotted (dot : Location) (e : Expr) (closing : Mark)
  | next (i : Item) (rest : Tail)

end

/-- The token of a bare dot. -/
def dotToken (loc : Location) : Token := ⟨.symbol, ".", loc⟩

/-! ## Tokens and values of syntax trees -/

mutual

/-- The tokens of an expression. -/
def Expr.tokens : Expr → List Token
  | .dot loc => [dotToken loc]
  | .item i => i.tokens

/-- The tokens of an item. -/
def Item.tokens : Item → List Token
  | .word m _ => [m.token .symbol]
  | .quoted q e => q.token .quote :: e.tokens
  | .empty o c => [o.token .lparen, c.token .rparen]
  | .list o first rest => o.token .lparen :: (first.tokens ++ rest.tokens)

/-- The tokens of the rest of a list. -/
def Tail.tokens : Tail → List Token
  | .close c => [c.token .rparen]
  | .dotted d e c => dotToken d :: (e.tokens ++ [c.token .rparen])
  | .next i rest => i.tokens ++ rest.tokens

end

mutual

/-- The value of an expression. -/
def Expr.tree : Expr → Value
  | .dot loc => .symbol "." loc
  | .item i => i.tree

/-- The value of an item. An atom is located at its token, a quotation at its quote mark in every
part, and the first cell of a list at the opening parenthesis. -/
def Item.tree : Item → Value
  | .word m _ => m.atom
  | .quoted q e => .cell (.symbol "quote" q.loc) (.cell e.tree (.nil q.loc) q.loc) q.loc
  | .empty _ c => .nil c.loc
  | .list o first rest => .cell first.tree rest.tree o.loc

/-- The value of the rest of a list. Each cell is located at its item, and the nil that ends a
proper list at the closing parenthesis. -/
def Tail.tree : Tail → Value
  | .close c => .nil c.loc
  | .dotted _ e _ => e.tree
  | .next i rest => .cell i.tree rest.tree i.tree.loc

end

/-! ## First tokens -/

@[simp] theorem Mark.token_kind (m : Mark) (kind : TokenKind) : (m.token kind).kind = kind := rfl

@[simp] theorem Mark.token_text (m : Mark) (kind : TokenKind) : (m.token kind).text = m.text := rfl

@[simp] theorem Mark.token_loc (m : Mark) (kind : TokenKind) : (m.token kind).loc = m.loc := rfl

@[simp] theorem Mark.token_inj {m n : Mark} {kind : TokenKind} :
    m.token kind = n.token kind ↔ m = n := by
  cases m
  cases n
  simp [Mark.token]

@[simp] theorem isDot_dotToken (loc : Location) : Reader.isDot (dotToken loc) = true := by
  simp [Reader.isDot, dotToken]

theorem eq_dotToken_of_isDot {t : Token} (h : Reader.isDot t = true) : t = dotToken t.loc := by
  obtain ⟨kind, text, loc⟩ := t
  simp only [Reader.isDot, Bool.and_eq_true, beq_iff_eq] at h
  obtain ⟨rfl, rfl⟩ := h
  rfl

/-- The token can begin an item: it neither closes a list nor is a bare dot. -/
def Token.BeginsItem (t : Token) : Prop := t.kind ≠ .rparen ∧ Reader.isDot t = false

theorem Token.not_beginsItem_dotToken (loc : Location) : ¬ (dotToken loc).BeginsItem := by
  rintro ⟨_, notDot⟩
  rw [isDot_dotToken] at notDot
  cases notDot

theorem Item.tokens_eq_cons (i : Item) : ∃ t ts, i.tokens = t :: ts ∧ t.BeginsItem := by
  cases i with
  | word m notDot =>
    refine ⟨m.token .symbol, [], rfl, by simp, ?_⟩
    simpa [Reader.isDot] using notDot
  | quoted q e => exact ⟨q.token .quote, e.tokens, rfl, by simp, by simp [Reader.isDot]⟩
  | empty o c =>
    exact ⟨o.token .lparen, [c.token .rparen], rfl, by simp, by simp [Reader.isDot]⟩
  | list o first rest =>
    exact ⟨o.token .lparen, first.tokens ++ rest.tokens, rfl, by simp, by simp [Reader.isDot]⟩

theorem Expr.tokens_ne_nil (e : Expr) : e.tokens ≠ [] := by
  cases e with
  | dot loc => simp [Expr.tokens]
  | item i =>
    obtain ⟨t, ts, h, _⟩ := i.tokens_eq_cons
    simp [Expr.tokens, h]

theorem Expr.length_lt_of_eq_append (e : Expr) {ts rest : List Token}
    (h : ts = e.tokens ++ rest) : rest.length < ts.length := by
  have pos : 0 < e.tokens.length := List.length_pos_iff.mpr e.tokens_ne_nil
  rw [h, List.length_append]
  omega

theorem Item.length_lt_of_eq_append (i : Item) {ts rest : List Token}
    (h : ts = i.tokens ++ rest) : rest.length < ts.length :=
  (Expr.item i).length_lt_of_eq_append h

/-- No item begins with a token that cannot begin one. -/
theorem Item.tokens_append_ne {i : Item} {t : Token} (h : ¬ t.BeginsItem) (us ts : List Token) :
    i.tokens ++ us ≠ t :: ts := by
  obtain ⟨first, more, eq, begins⟩ := i.tokens_eq_cons
  intro same
  rw [eq, List.cons_append, List.cons.injEq] at same
  exact h (same.1 ▸ begins)

/-! ## Unambiguity -/

/-- Tokens of different kinds are different. -/
theorem Mark.token_ne {m n : Mark} {kind other : TokenKind} (h : kind ≠ other) :
    m.token kind ≠ n.token other := fun same => h (congrArg Token.kind same)

mutual

theorem Expr.tokens_append_inj {e e' : Expr} {us us' : List Token}
    (h : e.tokens ++ us = e'.tokens ++ us') : e = e' ∧ us = us' := by
  match e, e' with
  | .dot loc, .dot loc' =>
    simp only [Expr.tokens, List.cons_append, List.nil_append, List.cons.injEq, dotToken,
      Token.mk.injEq, true_and] at h
    exact ⟨by rw [h.1], h.2⟩
  | .dot loc, .item i' =>
    exact absurd h.symm (i'.tokens_append_ne (Token.not_beginsItem_dotToken loc) _ _)
  | .item i, .dot loc' =>
    exact absurd h (i.tokens_append_ne (Token.not_beginsItem_dotToken loc') _ _)
  | .item i, .item i' =>
    obtain ⟨rfl, rest⟩ := Item.tokens_append_inj h
    exact ⟨rfl, rest⟩

theorem Item.tokens_append_inj {i i' : Item} {us us' : List Token}
    (h : i.tokens ++ us = i'.tokens ++ us') : i = i' ∧ us = us' := by
  match i, i' with
  | .word m _, .word m' _ =>
    simp only [Item.tokens, List.cons_append, List.nil_append, List.cons.injEq,
      Mark.token_inj] at h
    obtain ⟨rfl, rest⟩ := h
    exact ⟨rfl, rest⟩
  | .quoted q e, .quoted q' e' =>
    simp only [Item.tokens, List.cons_append, List.cons.injEq, Mark.token_inj] at h
    obtain ⟨rfl, h⟩ := h
    obtain ⟨rfl, rest⟩ := Expr.tokens_append_inj h
    exact ⟨rfl, rest⟩
  | .empty o c, .empty o' c' =>
    simp only [Item.tokens, List.cons_append, List.nil_append, List.cons.injEq,
      Mark.token_inj] at h
    obtain ⟨rfl, rfl, rest⟩ := h
    exact ⟨rfl, rest⟩
  | .list o first rest, .list o' first' rest' =>
    simp only [Item.tokens, List.cons_append, List.append_assoc, List.cons.injEq,
      Mark.token_inj] at h
    obtain ⟨rfl, h⟩ := h
    obtain ⟨rfl, afterFirst⟩ := Item.tokens_append_inj h
    obtain ⟨rfl, afterList⟩ := Tail.tokens_append_inj afterFirst
    exact ⟨rfl, afterList⟩
  | .empty o c, .list o' first' rest' =>
    simp only [Item.tokens, List.cons_append, List.nil_append, List.append_assoc,
      List.cons.injEq] at h
    exact absurd h.2.symm (first'.tokens_append_ne (fun begins => begins.1 rfl) _ _)
  | .list o first rest, .empty o' c' =>
    simp only [Item.tokens, List.cons_append, List.nil_append, List.append_assoc,
      List.cons.injEq] at h
    exact absurd h.2 (first.tokens_append_ne (fun begins => begins.1 rfl) _ _)
  | .word .., .quoted .. | .word .., .empty .. | .word .., .list .. | .quoted .., .word ..
  | .quoted .., .empty .. | .quoted .., .list .. | .empty .., .word .. | .empty .., .quoted ..
  | .list .., .word .. | .list .., .quoted .. =>
    simp only [Item.tokens, List.cons_append, List.cons.injEq] at h
    exact absurd h.1 (Mark.token_ne (by decide))

theorem Tail.tokens_append_inj {r r' : Tail} {us us' : List Token}
    (h : r.tokens ++ us = r'.tokens ++ us') : r = r' ∧ us = us' := by
  match r, r' with
  | .close c, .close c' =>
    simp only [Tail.tokens, List.cons_append, List.nil_append, List.cons.injEq,
      Mark.token_inj] at h
    obtain ⟨rfl, rest⟩ := h
    exact ⟨rfl, rest⟩
  | .dotted d e c, .dotted d' e' c' =>
    simp only [Tail.tokens, List.cons_append, List.append_assoc, List.cons.injEq, dotToken,
      Token.mk.injEq, true_and] at h
    obtain ⟨rfl, h⟩ := h
    obtain ⟨rfl, afterTail⟩ := Expr.tokens_append_inj h
    simp only [List.nil_append, List.cons.injEq, Mark.token_inj] at afterTail
    obtain ⟨rfl, rest⟩ := afterTail
    exact ⟨rfl, rest⟩
  | .next i rest, .next i' rest' =>
    simp only [Tail.tokens, List.append_assoc] at h
    obtain ⟨rfl, afterItem⟩ := Item.tokens_append_inj h
    obtain ⟨rfl, afterList⟩ := Tail.tokens_append_inj afterItem
    exact ⟨rfl, afterList⟩
  | .close c, .next i' rest' =>
    simp only [Tail.tokens, List.append_assoc] at h
    exact absurd h.symm (i'.tokens_append_ne (fun begins => begins.1 rfl) _ _)
  | .next i rest, .close c' =>
    simp only [Tail.tokens, List.append_assoc] at h
    exact absurd h (i.tokens_append_ne (fun begins => begins.1 rfl) _ _)
  | .dotted d e c, .next i' rest' =>
    simp only [Tail.tokens, List.append_assoc] at h
    exact absurd h.symm (i'.tokens_append_ne (Token.not_beginsItem_dotToken d) _ _)
  | .next i rest, .dotted d' e' c' =>
    simp only [Tail.tokens, List.append_assoc] at h
    exact absurd h (i.tokens_append_ne (Token.not_beginsItem_dotToken d') _ _)
  | .close .., .dotted .. | .dotted .., .close .. =>
    simp only [Tail.tokens, List.cons_append, List.cons.injEq] at h
    exact absurd (congrArg Token.kind h.1) (by simp [dotToken])

end

/-- A sequence of tokens is made of expressions in at most one way. -/
theorem Expr.flatMap_tokens_inj {es es' : List Expr}
    (h : es.flatMap Expr.tokens = es'.flatMap Expr.tokens) : es = es' := by
  induction es generalizing es' with
  | nil =>
    cases es' with
    | nil => rfl
    | cons e' more =>
      simp only [List.flatMap_nil, List.flatMap_cons] at h
      exact absurd (List.append_eq_nil_iff.mp h.symm).1 e'.tokens_ne_nil
  | cons e more ih =>
    cases es' with
    | nil =>
      simp only [List.flatMap_nil, List.flatMap_cons] at h
      exact absurd (List.append_eq_nil_iff.mp h).1 e.tokens_ne_nil
    | cons e' more' =>
      simp only [List.flatMap_cons] at h
      obtain ⟨rfl, rest⟩ := Expr.tokens_append_inj h
      rw [ih rest]

end MiniLisp
