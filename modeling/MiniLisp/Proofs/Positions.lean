import MiniLisp.Proofs.Quotation

/-!
# Where expressions are located

Every expression is located at its first token: an atom at itself, a quotation at its quote mark and
a list at its opening parenthesis. The empty list is an exception. It is a nil, and like the nil
that ends any other proper list it is located at the closing parenthesis.

* `Reader.Leads.readable`: what has been read was readable;
* `Reader.exists_expr_of_leads`, `Reader.exists_exprs_of_many`: whatever has been read, it was the
  tokens of expressions;
* `Expr.nodes`: an expression and all expressions in it;
* `StartsAt`: a value is located where tokens start, or it is an empty list;
* `TokenStream.nodes_start_at_first_token`, `TokenStream.emptyList_located_at_end`: the result and
  the exception.
-/

namespace MiniLisp

namespace Reader

variable {width : Except Fault Nat} {state : State} {t : Token} {ts us : List Token} {v : Value}
  {st : Step}

/-! ## What has been read was readable -/

theorem fits_of_atom {word : String} {loc : Location} (read : atom width word loc = .ok v)
    {numeral : Text.Numeral} (literal : Text.Numeral.ofLiteral? word.toList = some numeral) :
    numeral.tooLong = false ∧
      ∃ bits, width = .ok bits ∧ Width.low bits ≤ numeral.value ∧
        numeral.value ≤ Width.high bits := by
  have notWord {other : String} (none : Text.Numeral.ofLiteral? other.toList = none) :
      ¬ (word == other) = true := by
    intro same
    rw [eq_of_beq same, none] at literal
    cases literal
  unfold atom at read
  rw [if_neg (notWord (by decide)), if_neg (notWord (by decide)), literal] at read
  dsimp only at read
  cases long : numeral.tooLong with
  | true =>
    rw [long, if_pos rfl] at read
    cases read
  | false =>
    rw [long] at read
    cases width with
    | error => cases read
    | ok bits =>
      cases fits : Width.fits bits numeral.value with
      | true => exact ⟨rfl, bits, rfl, Width.fits_iff.mp fits⟩
      | false => simp [fits] at read

theorem readable_of_start {stack : List Pending}
    (taken : ∀ fault, start width stack t ≠ .refuse fault) : t.Readable width := by
  unfold start at taken
  cases kind : t.kind with
  | symbol =>
    rw [kind] at taken
    dsimp only at taken
    refine ⟨by simp [kind], fun _ numeral literal => ?_⟩
    cases read : atom width t.text t.loc with
    | ok v => exact fits_of_atom read literal
    | error fault =>
      rw [read] at taken
      exact absurd rfl (taken fault)
  | quote | lparen | rparen => exact ⟨by simp [kind], by simp [kind]⟩
  | other name =>
    rw [kind] at taken
    exact absurd rfl (taken _)

theorem readable_of_step (taken : ∀ fault, step width state t ≠ .refuse fault)
    (notAhead : ∀ fault, step width state t ≠ .refuseAhead fault) : t.Readable width := by
  have closes (close : t.kind = .rparen) : t.Readable width := ⟨by simp [close], by simp [close]⟩
  by_cases close : t.kind = .rparen
  · exact closes close
  by_cases dot : isDot t = true
  · rw [eq_dotToken_of_isDot dot]
    exact readable_dotToken t.loc
  cases state with
  | closing =>
    have refused := notAhead (.syntaxError .contentAfterTail t.loc)
    exact absurd (by simp [step, close]) refused
  | awaiting stack =>
    rw [step_awaiting (.inr ⟨close, by simpa using dot⟩)] at taken
    exact readable_of_start taken

theorem Leads.readable (h : Leads width state ts st) (taken : ∀ fault, st ≠ .refuse fault)
    (notAhead : ∀ fault, st ≠ .refuseAhead fault) : ∀ t ∈ ts, t.Readable width := by
  induction h with
  | last one =>
    subst one
    intro t mem
    rw [List.mem_singleton.mp mem]
    exact readable_of_step taken notAhead
  | @more _ _ first _ _ one _ ih =>
    have here : first.Readable width :=
      readable_of_step (fun _ => by rw [one]; simp) (fun _ => by rw [one]; simp)
    exact List.forall_mem_cons.mpr ⟨here, ih taken notAhead⟩

/-! ## What has been read is an expression -/

theorem exists_expr_of_leads (h : Leads width (.awaiting []) ts (.done v)) :
    ∃ e : Expr, e.tokens = ts ∧ e.tree = v := by
  have readable : ∀ t ∈ ts, t.Readable width := h.readable (by simp) (by simp)
  have whole := one_of_leads_done h
  cases ts with
  | nil => cases h
  | cons t us =>
    rcases expr_or_refused t us readable with ⟨e, rest, eq⟩ | refused
    · -- no other expression is read from the same tokens
      have front := one_append_of_leads
        (e.leads [] trivial fun u mem => readable u (by simp [eq, mem])) rest
      rw [← eq, whole] at front
      obtain ⟨same, left⟩ := Prod.mk.inj front
      cases same
      cases left
      exact ⟨e, by rw [eq, List.append_nil], rfl⟩
    · obtain ⟨_, _, _, none, _⟩ := refused [] trivial
      have read := many_of_leads_done h []
      rw [List.append_nil] at read
      rw [read] at none
      cases none

theorem forms_eq_nil_of_one (unread : ∀ v, (one width state ts).1 ≠ .ok (some v)) :
    (many width state ts).forms = [] := by
  induction ts generalizing state with
  | nil => rfl
  | cons t ts ih =>
    unfold one at unread
    unfold many
    cases stepped : step width state t with
    | next state' =>
      rw [stepped] at unread
      exact ih unread
    | done w =>
      rw [stepped] at unread
      exact absurd rfl (unread w)
    | refuse | refuseAhead => rfl

/-- Tokens begin with the expressions that are read from them. -/
theorem exists_exprs_of_many (width : Except Fault Nat) (ts : List Token) :
    ∃ (es : List Expr) (rest : List Token), ts = es.flatMap Expr.tokens ++ rest ∧
      (many width (.awaiting []) ts).forms = es.map Expr.tree ∧
      ∀ t ∈ es.flatMap Expr.tokens, t.Readable width := by
  by_cases read : ∃ v, (one width (.awaiting []) ts).1 = .ok (some v)
  · obtain ⟨v, read⟩ := read
    obtain ⟨us, rest, eq, leads⟩ := exists_leads_of_one read
    obtain ⟨e, rfl, rfl⟩ := exists_expr_of_leads leads
    have shorter : rest.length < ts.length := e.length_lt_of_eq_append eq
    have readable := leads.readable (by simp) (by simp)
    obtain ⟨es, left, parts, forms, later⟩ := exists_exprs_of_many width rest
    refine ⟨e :: es, left, ?_, ?_, ?_⟩
    · rw [eq, parts, List.flatMap_cons, List.append_assoc]
    · rw [eq, many_of_leads_done leads rest, forms, List.map_cons]
    · rw [List.flatMap_cons]
      exact List.forall_mem_append.mpr ⟨readable, later⟩
  · exact ⟨[], ts, rfl, forms_eq_nil_of_one fun v same => read ⟨v, same⟩, by simp⟩
termination_by ts.length

end Reader

/-! ## The expressions in an expression -/

mutual

/-- The expression and all expressions in it, at any depth: quoted ones, items of lists, and what
follows a dot. -/
def Expr.nodes : Expr → List Expr
  | .dot loc => [.dot loc]
  | .item i => i.nodes

/-- The item and all expressions in it. -/
def Item.nodes : Item → List Expr
  | .word m notDot => [.item (.word m notDot)]
  | .quoted q e => .item (.quoted q e) :: e.nodes
  | .empty o c => [.item (.empty o c)]
  | .list o first rest => .item (.list o first rest) :: (first.nodes ++ rest.nodes)

/-- All expressions in the rest of a list. -/
def Tail.nodes : Tail → List Expr
  | .close _ => []
  | .dotted _ e _ => e.nodes
  | .next i rest => i.nodes ++ rest.nodes

end

mutual

/-- The tokens of an expression in another one stand next to each other there. -/
theorem Expr.tokens_infix {e part : Expr} (mem : part ∈ e.nodes) : part.tokens <:+: e.tokens := by
  match e with
  | .dot loc => exact List.mem_singleton.mp mem ▸ List.infix_rfl
  | .item i => exact Item.tokens_infix mem

theorem Item.tokens_infix {i : Item} {part : Expr} (mem : part ∈ i.nodes) :
    part.tokens <:+: i.tokens := by
  match i with
  | .word m notDot => exact List.mem_singleton.mp mem ▸ List.infix_rfl
  | .quoted q e =>
    rcases List.mem_cons.mp mem with rfl | mem
    · exact List.infix_rfl
    · exact (Expr.tokens_infix mem).trans (List.suffix_cons _ _).isInfix
  | .empty o c => exact List.mem_singleton.mp mem ▸ List.infix_rfl
  | .list o first rest =>
    rcases List.mem_cons.mp mem with rfl | mem
    · exact List.infix_rfl
    · have inside : part.tokens <:+: first.tokens ++ rest.tokens := by
        rcases List.mem_append.mp mem with mem | mem
        · exact (Item.tokens_infix mem).trans (List.prefix_append _ _).isInfix
        · exact (Tail.tokens_infix mem).trans (List.suffix_append _ _).isInfix
      exact inside.trans (List.suffix_cons _ _).isInfix

theorem Tail.tokens_infix {r : Tail} {part : Expr} (mem : part ∈ r.nodes) :
    part.tokens <:+: r.tokens := by
  match r with
  | .close c => cases mem
  | .dotted d e c =>
    have inside := (Expr.tokens_infix mem).trans (List.prefix_append _ [c.token .rparen]).isInfix
    exact inside.trans (List.suffix_cons _ _).isInfix
  | .next i rest =>
    rcases List.mem_append.mp mem with mem | mem
    · exact (Item.tokens_infix mem).trans (List.prefix_append _ _).isInfix
    · exact (Tail.tokens_infix mem).trans (List.suffix_append _ _).isInfix

end

/-! ## Locations -/

/-- The tokens start with an opening parenthesis and this closing one. -/
def BeginsEmpty (ts : List Token) (closing : Token) : Prop :=
  ∃ opening rest, ts = opening :: closing :: rest ∧ opening.kind = .lparen ∧ closing.kind = .rparen

/-- The value is located at the first of the tokens. If they start with an empty list, it is the nil
at the closing parenthesis. -/
structure StartsAt (ts : List Token) (v : Value) : Prop where
  first : ∃ t rest, ts = t :: rest ∧ ((∀ closing, ¬ BeginsEmpty ts closing) → v.loc = t.loc)
  empty {closing : Token} : BeginsEmpty ts closing → v = .nil closing.loc

theorem Mark.atom_loc (m : Mark) : m.atom.loc = m.loc := by
  unfold Mark.atom
  split
  · rfl
  split
  · rfl
  split <;> rfl

/-- Only an opening parenthesis begins an empty list. -/
theorem startsAt_of_kind_ne {t : Token} {ts : List Token} {v : Value} (kind : t.kind ≠ .lparen)
    (loc : v.loc = t.loc) : StartsAt (t :: ts) v := by
  refine ⟨⟨t, ts, rfl, fun _ => loc⟩, ?_⟩
  rintro closing ⟨opening, rest, eq, opens, _⟩
  cases eq
  exact absurd opens kind

theorem Expr.startsAt (e : Expr) (after : List Token) : StartsAt (e.tokens ++ after) e.tree := by
  match e with
  | .dot loc => exact startsAt_of_kind_ne (by simp [dotToken]) rfl
  | .item (.word m notDot) => exact startsAt_of_kind_ne (by simp) m.atom_loc
  | .item (.quoted q e) => exact startsAt_of_kind_ne (by simp) rfl
  | .item (.empty o c) =>
    refine ⟨⟨_, _, rfl, fun nonempty => ?_⟩, ?_⟩
    · exact absurd ⟨_, _, rfl, rfl, rfl⟩ (nonempty (c.token .rparen))
    · rintro closing ⟨opening, rest, eq, _, _⟩
      cases eq
      rfl
  | .item (.list o first rest) =>
    refine ⟨⟨_, _, rfl, fun _ => rfl⟩, ?_⟩
    rintro closing ⟨opening, more, eq, _, closes⟩
    obtain ⟨t, ts, begin, begins⟩ := first.tokens_eq_cons
    simp only [Expr.tokens, Item.tokens, begin, List.cons_append, List.cons.injEq] at eq
    exact absurd (eq.2.1 ▸ closes) begins.1

namespace TokenStream

open Reader

/-- Expressions are located where they start, the empty list apart.

* Whatever is read from a stream is located at the first of its tokens, unless that opens an empty
  list. An empty list is a nil at the closing parenthesis.
* The forms of a text are the trees of expressions, which the tokens of the text begin with. Every
  expression in a form, at any depth, is itself what is read from the stream at a place in the text,
  and it is located there in this way. -/
theorem nodes_start_at_first_token (width : Except Fault Nat) (text : List Char) (source : String)
    (line : Int) :
    (∀ s v, (expression width s).1 = .ok (some v) → StartsAt s.remaining v) ∧
    ∃ (es : List Expr) (rest : List Token),
      tokens text source line = es.flatMap Expr.tokens ++ rest ∧
      (readText width text source line).forms = es.map Expr.tree ∧
      ∀ e ∈ es, ∀ part ∈ e.nodes, ∃ before after,
        tokens text source line = before ++ part.tokens ++ after ∧
        (ofTokens (part.tokens ++ after)).expression width =
          (.ok (some part.tree), ofTokens after) ∧
        StartsAt (part.tokens ++ after) part.tree := by
  refine ⟨fun s v read => ?_, ?_⟩
  · obtain ⟨us, rest, eq, leads⟩ := exists_leads_of_one read
    obtain ⟨e, rfl, rfl⟩ := exists_expr_of_leads leads
    rw [eq]
    exact e.startsAt rest
  · obtain ⟨es, rest, eq, forms, readable⟩ :=
      exists_exprs_of_many width (tokens text source line)
    rw [← remaining_ofTokens (tokens text source line)] at forms
    refine ⟨es, rest, eq, forms, fun e mem part inside => ?_⟩
    have whole : part.tokens <:+: tokens text source line := by
      rw [eq, List.flatMap_def]
      have form : e.tokens <:+: (es.map Expr.tokens).flatten :=
        List.infix_of_mem_flatten (List.mem_map_of_mem mem)
      exact ((Expr.tokens_infix inside).trans form).trans (List.prefix_append _ rest).isInfix
    obtain ⟨before, after, parts⟩ := whole
    have partReadable : ∀ t ∈ part.tokens, t.Readable width := fun t here =>
      readable t (List.mem_flatMap.mpr ⟨e, mem, (Expr.tokens_infix inside).subset here⟩)
    refine ⟨before, after, parts.symm, ?_, part.startsAt after⟩
    show one width (.awaiting []) (ofTokens (part.tokens ++ after)).remaining = _
    rw [remaining_ofTokens]
    exact one_append_of_leads (part.leads [] trivial partReadable) after

/-- The tokens of `('a ())`, a list of a quotation and an empty list. -/
def quotationAndEmpty : List Token :=
  [⟨.lparen, "(", ⟨"text", 1, 1⟩⟩, ⟨.quote, "'", ⟨"text", 1, 2⟩⟩, ⟨.symbol, "a", ⟨"text", 1, 3⟩⟩,
    ⟨.lparen, "(", ⟨"text", 1, 5⟩⟩, ⟨.rparen, ")", ⟨"text", 1, 6⟩⟩, ⟨.rparen, ")", ⟨"text", 1, 7⟩⟩]

/-- The list is located at its opening parenthesis, and what is read from the fourth token on is the
nil at the fifth. -/
theorem quotationAndEmpty_start :
    (∃ v, ((ofTokens quotationAndEmpty).expression (.ok 32)).1 = .ok (some v) ∧
      v.loc = ⟨"text", 1, 1⟩) ∧
    ∃ v, ((ofTokens (quotationAndEmpty.drop 3)).expression (.ok 32)).1 = .ok (some v) ∧
      v = .nil ⟨"text", 1, 6⟩ := by
  obtain ⟨read, -⟩ := nodes_start_at_first_token (.ok 32) [] "text" 1
  refine ⟨⟨_, rfl, ?_⟩, ⟨_, rfl, ?_⟩⟩
  · obtain ⟨t, rest, eq, loc⟩ := (read (ofTokens quotationAndEmpty) _ rfl).first
    cases eq
    refine loc ?_
    rintro closing ⟨opening, more, eq, _, closes⟩
    cases eq
    cases closes
  · exact (read (ofTokens (quotationAndEmpty.drop 3)) _ rfl).empty ⟨_, _, rfl, rfl, rfl⟩

/-- The text `()` is read as a nil that is not located at the first token. -/
theorem emptyList_located_at_end :
    ∃ v t, (readText (.ok 32) "()".toList "<input>" 1).forms = [v] ∧
      (tokens "()".toList "<input>" 1).head? = some t ∧ v.loc ≠ t.loc :=
  ⟨.nil ⟨"<input>", 1, 2⟩, ⟨.lparen, "(", ⟨"<input>", 1, 1⟩⟩, rfl, rfl, by decide⟩

end TokenStream

end MiniLisp
