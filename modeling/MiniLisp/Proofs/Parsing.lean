import MiniLisp.Proofs.Grammar

/-!
# Reading is parsing

The reader takes one token at a time and keeps what is unfinished on a stack. Here it is compared
with the grammar, for tokens that are `Token.Readable`: of one of the four kinds that the lexer
yields, and with integers that the width has room for.

* `Expr.leads`: over the tokens of an expression the reader goes from any stack that waits for one
  to the completion of its tree (completeness);
* `expr_or_refused`: tokens begin with an expression, or the reader refuses them with a syntax
  error at one of them (soundness);
* `all_eq_grammar`: what reading a whole stream comes to.
-/

namespace MiniLisp

/-- The token is of a kind that the grammar knows, and if it spells an integer, then one of not too
many digits that the width has room for. -/
structure Token.Readable (width : Except Fault Nat) (t : Token) : Prop where
  known : ∀ name, t.kind ≠ .other name
  fits : t.kind = .symbol → ∀ numeral, Text.Numeral.ofLiteral? t.text.toList = some numeral →
    numeral.tooLong = false ∧
      ∃ bits, width = .ok bits ∧ Width.low bits ≤ numeral.value ∧ numeral.value ≤ Width.high bits

/-- A token that is no symbol is readable if its kind is known. -/
theorem Mark.readable_token {width : Except Fault Nat} {kind : TokenKind}
    (known : ∀ name, kind ≠ .other name) (notSymbol : kind ≠ .symbol) (m : Mark) :
    (m.token kind).Readable width :=
  ⟨known, fun symbol => absurd symbol notSymbol⟩

/-- A word that spells no integer is readable. -/
theorem Mark.readable_word {width : Except Fault Nat} {m : Mark}
    (h : Text.Numeral.ofLiteral? m.text.toList = none) : (m.token .symbol).Readable width :=
  ⟨by simp, fun _ numeral literal => by simp [h] at literal⟩

theorem readable_dotToken {width : Except Fault Nat} (loc : Location) :
    (dotToken loc).Readable width := by
  refine Mark.readable_word (m := ⟨".", loc⟩) ?_
  show Text.Numeral.ofLiteral? ".".toList = none
  decide

/-- A numeral of not too many digits is readable if the width has room for its value. -/
theorem Mark.readable_numeral {bits : Nat} {m : Mark} {n : Text.Numeral}
    (h : Text.Numeral.ofLiteral? m.text.toList = some n) (short : n.tooLong = false)
    (fits : Width.fits bits n.value = true) : (m.token .symbol).Readable (.ok bits) := by
  refine ⟨by simp, fun _ numeral literal => ?_⟩
  obtain rfl : n = numeral := Option.some.inj (h.symm.trans literal)
  exact ⟨short, bits, rfl, Width.fits_iff.mp fits⟩

namespace Reader

variable {width : Except Fault Nat}

/-! ## Runs of the reader -/

/-- The tokens lead from a state to a step: each of them but the last leaves the expression
unfinished. -/
inductive Leads (width : Except Fault Nat) : State → List Token → Step → Prop
  | last {state : State} {t : Token} {st : Step} :
      step width state t = st → Leads width state [t] st
  | more {state state' : State} {t : Token} {ts : List Token} {st : Step} :
      step width state t = .next state' → Leads width state' ts st → Leads width state (t :: ts) st

theorem Leads.append {state state' : State} {ts us : List Token} {st : Step}
    (h : Leads width state ts (.next state')) (h' : Leads width state' us st) :
    Leads width state (ts ++ us) st := by
  generalize reached : Step.next state' = middle at h
  induction h with
  | last one =>
    subst reached
    exact .more one h'
  | more one _ ih => exact .more one (ih reached)

theorem many_of_leads_next {state state' : State} {ts : List Token}
    (h : Leads width state ts (.next state')) (us : List Token) :
    many width state (ts ++ us) = many width state' us := by
  generalize reached : Step.next state' = middle at h
  induction h with
  | last one =>
    subst reached
    simp [many, one]
  | more one _ ih => simp [many, one, ih reached]

theorem many_of_leads_done {state : State} {ts : List Token} {v : Value}
    (h : Leads width state ts (.done v)) (us : List Token) :
    many width state (ts ++ us) =
      { many width (.awaiting []) us with forms := v :: (many width (.awaiting []) us).forms } := by
  generalize reached : Step.done v = final at h
  induction h with
  | last one =>
    subst reached
    simp [many, one]
  | more one _ ih => simp [many, one, ih reached]

/-- Reading from the state ends in a syntax error at one of the places, before an expression is
complete. -/
def Refused (width : Except Fault Nat) (state : State) (ts : List Token)
    (places : List Location) : Prop :=
  ∃ problem loc, loc ∈ places ∧ (many width state ts).forms = [] ∧
    (many width state ts).fault = some (.syntaxError problem loc)

theorem Refused.of_leads {state state' : State} {ts us : List Token}
    {places places' : List Location} (h : Leads width state ts (.next state'))
    (refused : Refused width state' us places) (sub : places ⊆ places') :
    Refused width state (ts ++ us) places' := by
  obtain ⟨problem, loc, place, none, fault⟩ := refused
  rw [← many_of_leads_next h us] at none fault
  exact ⟨problem, loc, sub place, none, fault⟩

theorem Refused.of_next {state state' : State} {t : Token} {ts : List Token}
    {places places' : List Location} (h : step width state t = .next state')
    (refused : Refused width state' ts places) (sub : places ⊆ places') :
    Refused width state (t :: ts) places' :=
  .of_leads (.last h) refused sub

theorem Refused.of_step {state : State} {t : Token} (problem : SyntaxProblem) (loc : Location)
    {places : List Location} (ts : List Token)
    (h : step width state t = .refuse (.syntaxError problem loc) ∨
      step width state t = .refuseAhead (.syntaxError problem loc))
    (place : loc ∈ places) : Refused width state (t :: ts) places := by
  refine ⟨problem, loc, place, ?_⟩
  rcases h with h | h
  · exact ⟨by simp [many, h], by simp [many, h]⟩
  · exact ⟨by simp [many, h], by simp [many, h]⟩

theorem Refused.of_atEnd {state : State} {problem : SyntaxProblem} {loc : Location}
    {places : List Location} (h : atEnd state = some (.syntaxError problem loc))
    (place : loc ∈ places) : Refused width state [] places :=
  ⟨problem, loc, place, rfl, h⟩

/-! ## Single steps -/

/-- The innermost construct takes a bare dot for an atom. -/
def TakesDot : List Pending → Prop
  | .items .. :: _ => False
  | _ => True

theorem step_awaiting {stack : List Pending} {t : Token} (h : TakesDot stack ∨ t.BeginsItem) :
    step width (.awaiting stack) t = start width stack t := by
  cases stack with
  | nil => rfl
  | cons top below =>
    cases top with
    | quote loc => rfl
    | tail opened reversed => rfl
    | items opened reversed =>
      obtain ⟨notClose, notDot⟩ := h.resolve_left id
      simp [step, notClose, notDot]

theorem step_items_rparen {t : Token} (h : t.kind = .rparen) (opened : Location)
    (reversed : List Value) (below : List Pending) :
    step width (.awaiting (.items opened reversed :: below)) t =
      complete (cells opened reversed (.nil t.loc)) below := by
  simp [step, h]

theorem step_items_dot (loc opened : Location) (v : Value) (vs : List Value)
    (below : List Pending) :
    step width (.awaiting (.items opened (v :: vs) :: below)) (dotToken loc) =
      .next (.awaiting (.tail opened (v :: vs) :: below)) := by
  simp [step, isDot, dotToken]

theorem step_quote {t : Token} (h : t.kind = .quote) (stack : List Pending) :
    step width (.awaiting stack) t = .next (.awaiting (.quote t.loc :: stack)) := by
  rw [step_awaiting (.inr ⟨by simp [h], by simp [isDot, h]⟩)]
  simp [start, h]

theorem step_lparen {t : Token} (h : t.kind = .lparen) (stack : List Pending) :
    step width (.awaiting stack) t = .next (.awaiting (.items t.loc [] :: stack)) := by
  rw [step_awaiting (.inr ⟨by simp [h], by simp [isDot, h]⟩)]
  simp [start, h]

/-- A readable word is read as its atom. Both look for the same words, and they differ in the faults
only, which a readable token excludes. -/
theorem start_symbol {t : Token} (readable : t.Readable width) (h : t.kind = .symbol)
    (stack : List Pending) : start width stack t = complete (Mark.atom ⟨t.text, t.loc⟩) stack := by
  have read : atom width t.text t.loc = .ok (Mark.atom ⟨t.text, t.loc⟩) := by
    unfold atom Mark.atom
    simp only [beq_iff_eq]
    split
    · rfl
    split
    · rfl
    cases literal : Text.Numeral.ofLiteral? t.text.toList with
    | none => rfl
    | some numeral =>
      obtain ⟨short, bits, rfl, least, greatest⟩ := readable.fits h numeral literal
      simp [short, Width.fits_iff.mpr ⟨least, greatest⟩]
  simp [start, h, read]

theorem start_dotToken (loc : Location) (stack : List Pending) :
    start width stack (dotToken loc) = complete (.symbol "." loc) stack := by
  have notNumeral : Text.Numeral.ofLiteral? ['.'] = none := by decide
  simp [start, dotToken, atom, notNumeral]

end Reader

open Reader

variable {width : Except Fault Nat}

/-! ## Completeness -/

mutual

/-- The tokens of an expression lead from any stack that waits for one to its completion. A list
that waits for an item takes a bare dot for punctuation, so there the expression has to be an
item. -/
theorem Expr.leads (e : Expr) (stack : List Pending) (takes : TakesDot stack)
    (readable : ∀ t ∈ e.tokens, t.Readable width) :
    Leads width (.awaiting stack) e.tokens (complete e.tree stack) := by
  match e with
  | .dot loc =>
    refine .last ?_
    rw [step_awaiting (.inl takes)]
    exact start_dotToken loc stack
  | .item i => exact i.leads stack readable

theorem Item.leads (i : Item) (stack : List Pending)
    (readable : ∀ t ∈ i.tokens, t.Readable width) :
    Leads width (.awaiting stack) i.tokens (complete i.tree stack) := by
  match i with
  | .word m notDot =>
    refine .last ?_
    rw [step_awaiting (.inr ⟨by simp, by simpa [isDot] using notDot⟩)]
    exact start_symbol (readable _ (by simp [Item.tokens])) rfl stack
  | .quoted q e =>
    have quotedRead := e.leads (.quote q.loc :: stack) trivial fun t mem =>
      readable t (by simp [Item.tokens, mem])
    exact .more (step_quote rfl stack) quotedRead
  | .empty o c =>
    exact .more (step_lparen rfl stack) (.last (step_items_rparen rfl ..))
  | .list o first rest =>
    have firstRead := first.leads (.items o.loc [] :: stack) fun t mem =>
      readable t (by simp [Item.tokens, mem])
    have restRead := rest.leads o.loc first.tree [] stack fun t mem =>
      readable t (by simp [Item.tokens, mem])
    exact .more (step_lparen rfl stack) (firstRead.append restRead)

/-- The tokens of the rest of a list that has an item lead to the completion of the list. -/
theorem Tail.leads (r : Tail) (opened : Location) (v : Value) (vs : List Value)
    (below : List Pending) (readable : ∀ t ∈ r.tokens, t.Readable width) :
    Leads width (.awaiting (.items opened (v :: vs) :: below)) r.tokens
      (complete (cells opened (v :: vs) r.tree) below) := by
  match r with
  | .close c => exact .last (step_items_rparen rfl ..)
  | .dotted d e c =>
    have tailRead := e.leads (.tail opened (v :: vs) :: below) trivial fun t mem =>
      readable t (by simp [Tail.tokens, mem])
    have closes : step width (.closing opened (v :: vs) e.tree below) (c.token .rparen) =
        complete (cells opened (v :: vs) e.tree) below := by
      simp [step]
    exact .more (step_items_dot d opened v vs below) (tailRead.append (.last closes))
  | .next i rest =>
    have itemRead := i.leads (.items opened (v :: vs) :: below) fun t mem =>
      readable t (by simp [Tail.tokens, mem])
    have restRead := rest.leads opened i.tree (v :: vs) below fun t mem =>
      readable t (by simp [Tail.tokens, mem])
    exact itemRead.append restRead

end

/-- Reading takes an expression off the front of the tokens. -/
theorem Expr.many_append (e : Expr) (ts : List Token)
    (readable : ∀ t ∈ e.tokens, t.Readable width) :
    many width (.awaiting []) (e.tokens ++ ts) =
      { many width (.awaiting []) ts with
        forms := e.tree :: (many width (.awaiting []) ts).forms } :=
  many_of_leads_done (e.leads [] trivial readable) ts

/-! ## Soundness -/

/-- After the tail of a dotted list comes a closing parenthesis, or the reader refuses what
comes. -/
theorem closing_or_refused (width : Except Fault Nat) (ts : List Token) :
    (∃ (c : Mark) (rest : List Token), ts = c.token .rparen :: rest) ∨
      ∀ opened reversed tail below, Refused width (.closing opened reversed tail below) ts
        (opened :: ts.map Token.loc) := by
  cases ts with
  | nil => exact .inr fun opened reversed tail below => .of_atEnd rfl (by simp)
  | cons t ts =>
    by_cases close : t.kind = .rparen
    · exact .inl ⟨⟨t.text, t.loc⟩, ts, by simp [Mark.token, ← close]⟩
    · refine .inr fun opened reversed tail below => ?_
      exact .of_step .contentAfterTail t.loc ts (.inr (by simp [step, close])) (by simp)

mutual

/-- Tokens begin with an expression, or the reader refuses them wherever it waits for one. -/
theorem expr_or_refused (t : Token) (ts : List Token)
    (readable : ∀ u ∈ t :: ts, u.Readable width) :
    (∃ (e : Expr) (rest : List Token), t :: ts = e.tokens ++ rest) ∨
      ∀ stack, TakesDot stack →
        Refused width (.awaiting stack) (t :: ts) ((t :: ts).map Token.loc) := by
  by_cases dot : isDot t = true
  · refine .inl ⟨.dot t.loc, ts, ?_⟩
    simp [Expr.tokens, ← eq_dotToken_of_isDot dot]
  by_cases close : t.kind = .rparen
  · refine .inr fun stack takes => .of_step .unmatchedClose t.loc ts (.inl ?_) (by simp)
    rw [step_awaiting (.inl takes)]
    simp [start, close]
  rcases item_or_refused t ts ⟨close, by simpa using dot⟩ readable with ⟨i, rest, eq⟩ | refused
  · exact .inl ⟨.item i, rest, eq⟩
  · exact .inr fun stack _ => refused stack
termination_by 2 * ts.length + 3

/-- A token that can begin an item does begin one, or the reader refuses what it begins. -/
theorem item_or_refused (t : Token) (ts : List Token) (begins : t.BeginsItem)
    (readable : ∀ u ∈ t :: ts, u.Readable width) :
    (∃ (i : Item) (rest : List Token), t :: ts = i.tokens ++ rest) ∨
      ∀ stack, Refused width (.awaiting stack) (t :: ts) ((t :: ts).map Token.loc) := by
  have later : ∀ u ∈ ts, u.Readable width := fun u mem => readable u (by simp [mem])
  obtain ⟨kind, text, loc⟩ := t
  cases kind with
  | symbol =>
    have notDot : text ≠ "." := by simpa [isDot] using begins.2
    exact .inl ⟨.word ⟨text, loc⟩ notDot, ts, rfl⟩
  | quote =>
    cases ts with
    | nil =>
      refine .inr fun stack => ?_
      exact .of_next (step_quote rfl stack) (.of_atEnd rfl (by simp)) (List.Subset.refl [loc])
    | cons u us =>
      rcases expr_or_refused u us later with ⟨e, rest, eq⟩ | refused
      · exact .inl ⟨.quoted ⟨text, loc⟩ e, rest, by rw [eq]; rfl⟩
      · exact .inr fun stack => .of_next (step_quote rfl stack) (refused _ trivial) (by simp)
  | lparen =>
    cases ts with
    | nil =>
      refine .inr fun stack => ?_
      exact .of_next (step_lparen rfl stack) (.of_atEnd rfl (by simp)) (List.Subset.refl [loc])
    | cons u us =>
      by_cases close : u.kind = .rparen
      · refine .inl ⟨.empty ⟨text, loc⟩ ⟨u.text, u.loc⟩, us, ?_⟩
        simp [Item.tokens, Mark.token, ← close]
      by_cases dot : isDot u = true
      · have refused (below : List Pending) :
            Refused width (.awaiting (.items loc [] :: below)) (u :: us) [u.loc] :=
          .of_step .dotWithoutElement u.loc us (.inl (by simp [step, close, dot])) (by simp)
        exact .inr fun stack => .of_next (step_lparen rfl stack) (refused stack) (by simp)
      rcases item_or_refused u us ⟨close, by simpa using dot⟩ later with ⟨i, rest, eq⟩ | refused
      · have shorter := i.length_lt_of_eq_append eq
        rw [eq] at later ⊢
        rcases tail_or_refused rest fun t mem => later t (by simp [mem]) with
          ⟨r, rest, rfl⟩ | refused
        · exact .inl ⟨.list ⟨text, loc⟩ i r, rest, by simp [Item.tokens, Mark.token]⟩
        · refine .inr fun stack => ?_
          have firstRead := i.leads (.items loc [] :: stack) fun t mem => later t (by simp [mem])
          have listRefused := Refused.of_leads firstRead (refused loc i.tree [] stack)
            (List.Subset.refl _)
          exact .of_next (step_lparen rfl stack) listRefused (by simp)
      · exact .inr fun stack => .of_next (step_lparen rfl stack) (refused _) (by simp)
  | rparen => exact absurd rfl begins.1
  | other name => exact absurd rfl ((readable _ List.mem_cons_self).known name)
termination_by 2 * ts.length + 2

/-- After an item of a list comes the rest of a list, or the reader refuses what comes. -/
theorem tail_or_refused (ts : List Token) (readable : ∀ u ∈ ts, u.Readable width) :
    (∃ (r : Tail) (rest : List Token), ts = r.tokens ++ rest) ∨
      ∀ opened v vs below, Refused width (.awaiting (.items opened (v :: vs) :: below)) ts
        (opened :: ts.map Token.loc) := by
  cases ts with
  | nil => exact .inr fun opened v vs below => .of_atEnd rfl (by simp)
  | cons t ts =>
    have later : ∀ u ∈ ts, u.Readable width := fun u mem => readable u (by simp [mem])
    by_cases close : t.kind = .rparen
    · refine .inl ⟨.close ⟨t.text, t.loc⟩, ts, ?_⟩
      simp [Tail.tokens, Mark.token, ← close]
    by_cases dot : isDot t = true
    · rw [eq_dotToken_of_isDot dot]
      cases ts with
      | nil =>
        refine .inr fun opened v vs below => ?_
        exact .of_next (step_items_dot t.loc opened v vs below) (.of_atEnd rfl (by simp))
          (List.cons_subset_cons opened (List.nil_subset _))
      | cons u us =>
        rcases expr_or_refused u us later with ⟨e, rest, eq⟩ | refused
        · rw [eq] at later ⊢
          rcases closing_or_refused width rest with ⟨c, more, rfl⟩ | refused
          · exact .inl ⟨.dotted t.loc e c, more, by simp [Tail.tokens]⟩
          · refine .inr fun opened v vs below => ?_
            have tailRead := e.leads (.tail opened (v :: vs) :: below) trivial fun t mem =>
              later t (by simp [mem])
            have unclosed := Refused.of_leads tailRead (refused opened (v :: vs) e.tree below)
              (List.Subset.refl _)
            have places : rest.map Token.loc ⊆
                (dotToken t.loc :: (e.tokens ++ rest)).map Token.loc := by
              rw [← List.cons_append, List.map_append]
              exact List.subset_append_right _ _
            exact .of_next (step_items_dot t.loc opened v vs below) unclosed
              (List.cons_subset_cons opened places)
        · refine .inr fun opened v vs below => ?_
          exact .of_next (step_items_dot t.loc opened v vs below) (refused _ trivial) (by simp)
    rcases item_or_refused t ts ⟨close, by simpa using dot⟩ readable with ⟨i, rest, eq⟩ | refused
    · have shorter := i.length_lt_of_eq_append eq
      rw [eq] at readable ⊢
      rcases tail_or_refused rest fun t mem => readable t (by simp [mem]) with
        ⟨r, rest, rfl⟩ | refused
      · exact .inl ⟨.next i r, rest, by simp [Tail.tokens]⟩
      · refine .inr fun opened v vs below => ?_
        have itemRead := i.leads (.items opened (v :: vs) :: below) fun t mem =>
          readable t (by simp [mem])
        exact .of_leads itemRead (refused opened i.tree (v :: vs) below) (by simp)
    · refine .inr fun opened v vs below => ?_
      obtain ⟨problem, loc, place, none, fault⟩ := refused (.items opened (v :: vs) :: below)
      exact ⟨problem, loc, List.mem_cons_of_mem _ place, none, fault⟩
termination_by 2 * ts.length + 1

end

/-! ## Whole streams -/

theorem many_flatMap_append (es : List Expr) (ts : List Token)
    (readable : ∀ t ∈ es.flatMap Expr.tokens, t.Readable width) :
    many width (.awaiting []) (es.flatMap Expr.tokens ++ ts) =
      { many width (.awaiting []) ts with
        forms := es.map Expr.tree ++ (many width (.awaiting []) ts).forms } := by
  induction es with
  | nil => rfl
  | cons e es ih =>
    simp only [List.flatMap_cons, List.mem_append] at readable
    rw [List.flatMap_cons, List.append_assoc, e.many_append _ fun t mem => readable t (.inl mem),
      ih fun t mem => readable t (.inr mem)]
    rfl

/-- Tokens are expressions as far as possible; if something is left after them, it is refused. -/
theorem exists_flatMap_append (ts : List Token) (readable : ∀ t ∈ ts, t.Readable width) :
    ∃ (es : List Expr) (rest : List Token), ts = es.flatMap Expr.tokens ++ rest ∧
      (rest = [] ∨ (∀ (e : Expr) (more : List Token), rest ≠ e.tokens ++ more) ∧
        Refused width (.awaiting []) rest (rest.map Token.loc)) := by
  cases ts with
  | nil => exact ⟨[], [], rfl, .inl rfl⟩
  | cons t ts =>
    by_cases begins : ∃ (e : Expr) (more : List Token), t :: ts = e.tokens ++ more
    · obtain ⟨e, more, eq⟩ := begins
      have shorter : more.length < ts.length + 1 := e.length_lt_of_eq_append eq
      obtain ⟨es, rest, rfl, left⟩ := exists_flatMap_append more fun u mem =>
        readable u (by simp [eq, mem])
      exact ⟨e :: es, rest, by simp [eq], left⟩
    · have refused := (expr_or_refused t ts readable).resolve_left begins [] trivial
      exact ⟨[], t :: ts, rfl, .inr ⟨fun e more eq => begins ⟨e, more, eq⟩, refused⟩⟩
termination_by ts.length

/-- Reading a stream comes to its end without a fault if and only if the tokens are a sequence of
expressions. They are so in one way only, and what is read are the trees of these expressions. Of
any other tokens the expressions at the front are read, as many as there are, and then comes a
syntax error at one of the remaining tokens. -/
theorem TokenStream.all_eq_grammar {s : TokenStream}
    (readable : ∀ t ∈ s.remaining, t.Readable width) :
    ((s.all width).fault = none ↔ ∃ es : List Expr, s.remaining = es.flatMap Expr.tokens) ∧
    (∀ es : List Expr, s.remaining = es.flatMap Expr.tokens →
      s.all width = ⟨es.map Expr.tree, none, ⟨none, []⟩⟩ ∧
      ∀ es' : List Expr, s.remaining = es'.flatMap Expr.tokens → es' = es) ∧
    ((¬ ∃ es : List Expr, s.remaining = es.flatMap Expr.tokens) →
      ∃ (es : List Expr) (rest : List Token) (problem : SyntaxProblem) (loc : Location),
        s.remaining = es.flatMap Expr.tokens ++ rest ∧
        (∀ (e : Expr) (more : List Token), rest ≠ e.tokens ++ more) ∧
        (s.all width).forms = es.map Expr.tree ∧
        (s.all width).fault = some (.syntaxError problem loc) ∧ loc ∈ rest.map Token.loc) := by
  have exprsRead (es : List Expr) (eq : s.remaining = es.flatMap Expr.tokens) :
      s.all width = ⟨es.map Expr.tree, none, ⟨none, []⟩⟩ := by
    have read := @many_flatMap_append width es [] (eq ▸ readable)
    rw [List.append_nil, ← eq] at read
    simpa [TokenStream.all, many, atEnd] using read
  obtain ⟨es, rest, eq, left⟩ := exists_flatMap_append s.remaining readable
  have frontRead : s.all width =
      { many width (.awaiting []) rest with
        forms := es.map Expr.tree ++ (many width (.awaiting []) rest).forms } := by
    rw [TokenStream.all, eq]
    exact many_flatMap_append es rest fun t mem => readable t (by simp [eq, mem])
  refine ⟨⟨fun complete => ?_, fun ⟨es, eq⟩ => by rw [exprsRead es eq]⟩, fun es eq => ?_, ?_⟩
  · rcases left with rfl | ⟨_, problem, loc, _, _, fault⟩
    · exact ⟨es, by simpa using eq⟩
    · rw [frontRead, fault] at complete
      cases complete
  · exact ⟨exprsRead es eq, fun es' eq' => Expr.flatMap_tokens_inj (eq'.symm.trans eq)⟩
  · intro incomplete
    rcases left with rfl | ⟨noExpr, problem, loc, place, none, fault⟩
    · exact absurd ⟨es, by simpa using eq⟩ incomplete
    · refine ⟨es, rest, problem, loc, eq, noExpr, ?_, ?_, place⟩
      · simp [frontRead, none]
      · simp [frontRead, fault]

/-- The expressions of the text `(a . '-8) .`, a dotted list and a symbol: the first dot is
punctuation, the second an atom. -/
def dottedPairDot : List Expr :=
  let l (column : Int) : Location := ⟨"dots", 1, column⟩
  [.item (.list ⟨"(", l 1⟩ (.word ⟨"a", l 2⟩ (by decide))
    (.dotted (l 4) (.item (.quoted ⟨"'", l 6⟩ (.item (.word ⟨"-8", l 7⟩ (by decide)))))
      ⟨")", l 9⟩)),
    .dot (l 11)]

theorem dottedPairDot_all :
    (∀ t ∈ dottedPairDot.flatMap Expr.tokens, t.Readable (.ok 4)) ∧
    (readText (.ok 4) "(a . '-8) .".toList "dots" 1).forms = dottedPairDot.map Expr.tree := by
  have readable : ∀ t ∈ dottedPairDot.flatMap Expr.tokens, t.Readable (.ok 4) := by
    simp only [dottedPairDot, List.flatMap_cons, List.flatMap_nil, Expr.tokens, Item.tokens,
      Tail.tokens, List.cons_append, List.nil_append, List.append_nil, List.forall_mem_cons]
    refine ⟨Mark.readable_token (by simp) (by simp) _, Mark.readable_word (by decide),
      readable_dotToken _, Mark.readable_token (by simp) (by simp) _,
      Mark.readable_numeral (n := ⟨true, [8]⟩) (by decide) (by decide) (by decide),
      Mark.readable_token (by simp) (by simp) _, readable_dotToken _, by simp⟩
  have eq : tokens "(a . '-8) .".toList "dots" 1 = dottedPairDot.flatMap Expr.tokens := by decide
  refine ⟨readable, ?_⟩
  rw [readText, eq, ((TokenStream.all_eq_grammar (by simpa using readable)).2.1 dottedPairDot
    (by simp)).1]

end MiniLisp
