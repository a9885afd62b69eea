import MiniLisp.Proofs.Parsing

/-!
# Two spellings of a quotation

`'x` and `(quote x)` are read alike. The first one waits for an expression after a quote mark, the
second one for an item of a list, and an expression is read in the same way wherever it is awaited.
There is one exception: a bare dot is an expression, but among the items of a list it is
punctuation.

* `Reader.step_onto`, `Reader.Leads.onto`: what is read does not depend on the constructs that were
  begun before, a bare dot apart;
* `TokenStream.Reads`: a stream that is one expression;
* `TokenStream.spellings_agree`: the result.
-/

namespace MiniLisp

namespace Reader

variable {width : Except Fault Nat} {state state' : State} {t : Token} {ts us : List Token}
  {v : Value} {st : Step}

/-! ## Reading inside of other constructs -/

/-- The state, inside of further constructs. -/
def State.onto (below : List Pending) : State → State
  | .awaiting stack => .awaiting (stack ++ below)
  | .closing opened reversed tail stack => .closing opened reversed tail (stack ++ below)

/-- The step, inside of further constructs: a complete expression is handed on to them. -/
def Step.onto (below : List Pending) : Step → Step
  | .next state => .next (state.onto below)
  | .done v => complete v below
  | .refuse fault => .refuse fault
  | .refuseAhead fault => .refuseAhead fault

theorem complete_append (v : Value) (stack below : List Pending) :
    complete v (stack ++ below) = (complete v stack).onto below := by
  induction stack generalizing v with
  | nil => rfl
  | cons pending stack ih =>
    cases pending with
    | quote loc => exact ih (quotation loc v)
    | items | tail => rfl

theorem start_append (width : Except Fault Nat) (stack below : List Pending) (t : Token) :
    start width (stack ++ below) t = (start width stack t).onto below := by
  unfold start
  cases t.kind with
  | symbol =>
    dsimp only
    cases atom width t.text t.loc with
    | ok v => exact complete_append v stack below
    | error fault => rfl
  | _ => rfl

/-- What a token leads to is the same inside of further constructs. Where the first token of an
expression is awaited, these must not take it for anything else. -/
theorem step_onto (width : Except Fault Nat) (state : State) (below : List Pending) (t : Token)
    (begins : state = .awaiting [] → TakesDot below ∨ t.BeginsItem) :
    step width (state.onto below) t = (step width state t).onto below := by
  cases state with
  | closing opened reversed tail stack =>
    unfold State.onto step
    dsimp only
    split
    · exact complete_append _ stack below
    · rfl
  | awaiting stack =>
    cases stack with
    | nil =>
      show step width (.awaiting below) t = (start width [] t).onto below
      rw [step_awaiting (begins rfl)]
      exact start_append width [] below t
    | cons pending stack =>
      have started := start_append width (pending :: stack) below t
      cases pending with
      | quote | tail => exact started
      | items opened reversed =>
        unfold State.onto step
        dsimp only [List.cons_append]
        split
        · exact complete_append _ stack below
        · split
          · split <;> rfl
          · exact started

/-- An expression that is handed on leaves the reader inside of a construct. -/
theorem complete_ne_next_nil (v : Value) (stack : List Pending) :
    complete v stack ≠ .next (.awaiting []) := by
  induction stack generalizing v with
  | nil => simp [complete]
  | cons pending stack ih =>
    cases pending with
    | quote loc => exact ih (quotation loc v)
    | items | tail => simp [complete]

/-- A token that does not end an expression begins a construct or stays inside of one. -/
theorem step_ne_next_nil (width : Except Fault Nat) (state : State) (t : Token) :
    step width state t ≠ .next (.awaiting []) := by
  have started (stack : List Pending) : start width stack t ≠ .next (.awaiting []) := by
    unfold start
    cases t.kind with
    | symbol =>
      dsimp only
      cases atom width t.text t.loc with
      | ok v => exact complete_ne_next_nil v stack
      | error fault => simp
    | _ => simp
  unfold step
  split
  · split
    · exact complete_ne_next_nil _ _
    · simp
  · split
    · exact complete_ne_next_nil _ _
    · split
      · split <;> simp
      · exact started _
  · exact started _

theorem Leads.onto (h : Leads width state ts st) (below : List Pending)
    (begins : state = .awaiting [] → TakesDot below ∨ ∀ t ∈ ts.head?, t.BeginsItem) :
    Leads width (state.onto below) ts (st.onto below) := by
  induction h with
  | @last state t st one =>
    refine .last ?_
    rw [step_onto width state below t ?_, one]
    intro top
    simpa using begins top
  | @more state state' t ts st one _ ih =>
    refine .more ?_ (ih ?_)
    · rw [step_onto width state below t ?_, one]
      · rfl
      · intro top
        simpa using begins top
    · rintro rfl
      exact absurd one (step_ne_next_nil width state t)

/-! ## One expression -/

theorem one_of_leads_next (h : Leads width state ts (.next state')) (us : List Token) :
    one width state (ts ++ us) = one width state' us := by
  generalize reached : Step.next state' = st at h
  induction h with
  | last step =>
    subst reached
    simp [one, step]
  | more step _ ih => simp [one, step, ih reached]

/-- Reading stops after the last token of an expression. -/
theorem one_append_of_leads (h : Leads width state us (.done v)) (rest : List Token) :
    one width state (us ++ rest) = (.ok (some v), ⟨none, rest⟩) := by
  generalize reached : Step.done v = st at h
  induction h with
  | last step =>
    subst reached
    simp [one, step]
  | more step _ ih => simp [one, step, ih reached]

theorem one_of_leads_done (h : Leads width state ts (.done v)) :
    one width state ts = (.ok (some v), ⟨none, []⟩) := by
  have read := one_append_of_leads h []
  rwa [List.append_nil] at read

/-- What is read is complete after the tokens at the front. -/
theorem exists_leads_of_one (read : (one width state ts).1 = .ok (some v)) :
    ∃ us rest, ts = us ++ rest ∧ Leads width state us (.done v) := by
  induction ts generalizing state with
  | nil =>
    unfold one at read
    cases ended : atEnd state <;> simp [ended] at read
  | cons t ts ih =>
    unfold one at read
    cases stepped : step width state t with
    | next state' =>
      rw [stepped] at read
      obtain ⟨us, rest, rfl, leads⟩ := ih read
      exact ⟨t :: us, rest, rfl, .more stepped leads⟩
    | done w =>
      rw [stepped] at read
      cases read
      exact ⟨[t], ts, rfl, .last stepped⟩
    | refuse | refuseAhead =>
      rw [stepped] at read
      cases read

theorem leads_done_of_one (read : (one width state ts).1 = .ok (some v))
    (all : (one width state ts).2.remaining = []) : Leads width state ts (.done v) := by
  obtain ⟨us, rest, rfl, leads⟩ := exists_leads_of_one read
  rw [one_append_of_leads leads] at all
  obtain rfl : rest = [] := all
  rwa [List.append_nil]

/-- The first token of an expression begins an item, unless the expression is a bare dot. A closing
parenthesis is refused where nothing has been opened. -/
theorem Leads.dot_or_beginsItem (h : Leads width (.awaiting []) ts (.done v)) :
    (∃ t, ts = [t] ∧ isDot t = true) ∨ ∀ t ∈ ts.head?, t.BeginsItem := by
  have notClose {t : Token} {st : Step} (one : step width (.awaiting []) t = st)
      (notRefused : ∀ fault, st ≠ .refuse fault) : t.kind ≠ .rparen := by
    intro close
    refine notRefused (.syntaxError .unmatchedClose t.loc) ?_
    rw [← one]
    simp [step, start, close]
  cases h with
  | @last _ t _ one =>
    by_cases dot : isDot t = true
    · exact .inl ⟨t, rfl, dot⟩
    · refine .inr fun u mem => ?_
      obtain rfl : t = u := by simpa using mem
      exact ⟨notClose one (by simp), by simpa using dot⟩
  | @more _ _ t _ _ one _ =>
    refine .inr fun u mem => ?_
    obtain rfl : t = u := by simpa using mem
    refine ⟨notClose one (by simp), ?_⟩
    cases dot : isDot t with
    | false => rfl
    | true =>
      rw [eq_dotToken_of_isDot dot] at one
      exact absurd (one.symm.trans (start_dotToken t.loc [])) (by simp [complete])

end Reader

theorem Value.same_self (v : Value) : v.same v = true := by
  induction v with
  | cell first rest loc ihFirst ihRest => simp [same, ihFirst, ihRest]
  | _ => simp [same]

namespace TokenStream

open Reader

variable {width : Except Fault Nat} {s : TokenStream} {v : Value}

/-- Reading one expression takes all tokens of the stream, and gives the value. -/
structure Reads (width : Except Fault Nat) (s : TokenStream) (v : Value) : Prop where
  value : (s.expression width).1 = .ok (some v)
  all : (s.expression width).2.remaining = []

theorem reads_iff_leads :
    s.Reads width v ↔ Leads width (.awaiting []) s.remaining (.done v) := by
  constructor
  · rintro ⟨value, all⟩
    exact leads_done_of_one value all
  · intro leads
    have read : s.expression width = (.ok (some v), ⟨none, []⟩) := one_of_leads_done leads
    exact ⟨by rw [read], by rw [read]; rfl⟩

/-- A quote mark in front of an expression makes it a quotation. -/
theorem Reads.marked (read : s.Reads width v) (q : Mark) {marked : TokenStream}
    (tokens : marked.remaining = q.token .quote :: s.remaining) :
    marked.Reads width (quotation q.loc v) := by
  rw [reads_iff_leads] at read ⊢
  rw [tokens]
  exact .more (step_quote rfl []) (read.onto [.quote q.loc] fun _ => .inl trivial)

/-- The word `quote`, as the first item of a list. -/
theorem leads_quote_word (o : Mark) (l : Location) :
    Leads width (.awaiting []) [o.token .lparen, Mark.token ⟨"quote", l⟩ .symbol]
      (.next (.awaiting [.items o.loc [.symbol "quote" l]])) := by
  have word : Text.Numeral.ofLiteral? "quote".toList = none := by decide
  have atom : Mark.atom ⟨"quote", l⟩ = .symbol "quote" l := by
    simp only [Mark.atom, word, String.reduceEq, reduceIte]
  have begins : (Mark.token ⟨"quote", l⟩ .symbol).BeginsItem := ⟨by simp, by simp [isDot]⟩
  refine .more (step_lparen rfl []) (.last ?_)
  rw [step_awaiting (.inr begins), start_symbol (Mark.readable_word word) rfl, Mark.token_text,
    Mark.token_loc, atom]
  rfl

/-- The stream is a bare dot, which is the only expression that no list can have for an item. -/
def IsDot (s : TokenStream) : Prop := ∃ t, s.remaining = [t] ∧ Reader.isDot t = true

/-- A list of the word `quote` and an expression other than a bare dot is a quotation. -/
theorem Reads.spelled (read : s.Reads width v) (notDot : ¬ s.IsDot) (o c : Mark) (l : Location)
    {spelled : TokenStream}
    (tokens : spelled.remaining = o.token .lparen :: Mark.token ⟨"quote", l⟩ .symbol ::
      (s.remaining ++ [c.token .rparen])) :
    spelled.Reads width (.cell (.symbol "quote" l) (.cell v (.nil c.loc) v.loc) o.loc) := by
  rw [reads_iff_leads] at read ⊢
  rw [tokens]
  have begins := read.dot_or_beginsItem.resolve_left notDot
  have item := read.onto [.items o.loc [.symbol "quote" l]] fun _ => .inr begins
  have closed : Leads width (.awaiting [.items o.loc [v, .symbol "quote" l]]) [c.token .rparen]
      (.done (.cell (.symbol "quote" l) (.cell v (.nil c.loc) v.loc) o.loc)) :=
    .last (step_items_rparen rfl ..)
  exact (leads_quote_word o l).append (item.append closed)

/-- After the word `quote` a bare dot stands before a tail, and the closing parenthesis is none. -/
theorem IsDot.refused (dot : s.IsDot) (width : Except Fault Nat) (o c : Mark) (l : Location)
    {spelled : TokenStream}
    (tokens : spelled.remaining = o.token .lparen :: Mark.token ⟨"quote", l⟩ .symbol ::
      (s.remaining ++ [c.token .rparen])) :
    spelled.expression width = (.error (.syntaxError .unmatchedClose c.loc), ⟨none, []⟩) := by
  obtain ⟨t, only, isDot⟩ := dot
  have dotted : Leads width (.awaiting [.items o.loc [.symbol "quote" l]]) [t]
      (.next (.awaiting [.tail o.loc [.symbol "quote" l]])) := by
    rw [eq_dotToken_of_isDot isDot]
    exact .last (step_items_dot ..)
  unfold expression
  rw [tokens, only]
  show one width _ ([o.token .lparen, Mark.token ⟨"quote", l⟩ .symbol] ++ [t] ++ _) = _
  rw [one_of_leads_next ((leads_quote_word o l).append dotted)]
  simp [one, step, start]

/-- Given an expression that is read to its end, a quote mark in front of it makes the list of the
symbol `quote` and its value, and so does the list of the word `quote` and the expression, unless
the expression is a bare dot. In that list the dot is punctuation, so it is refused at its end. -/
theorem spellings_agree (read : s.Reads width v) (q o c : Mark) (l : Location)
    (marked spelled : TokenStream) (afterMark : marked.remaining = q.token .quote :: s.remaining)
    (inList : spelled.remaining = o.token .lparen :: Mark.token ⟨"quote", l⟩ .symbol ::
      (s.remaining ++ [c.token .rparen])) :
    marked.Reads width (quotation q.loc v) ∧
    (¬ s.IsDot → ∃ w, spelled.Reads width w ∧
      w = .cell (.symbol "quote" l) (.cell v (.nil c.loc) v.loc) o.loc ∧
      (quotation q.loc v).same w = true) ∧
    (s.IsDot →
      spelled.expression width = (.error (.syntaxError .unmatchedClose c.loc), ⟨none, []⟩)) := by
  refine ⟨read.marked q afterMark, fun notDot => ?_, fun dot => dot.refused width o c l inList⟩
  refine ⟨_, read.spelled notDot o c l inList, rfl, ?_⟩
  simp [quotation, Value.same, v.same_self]

/-- The tokens of `(a . '.)`, an expression with a dot as punctuation and a dot as an atom. -/
def dottedDot : List Token :=
  [⟨.lparen, "(", .unknown⟩, ⟨.symbol, "a", .unknown⟩, dotToken .unknown, ⟨.quote, "'", .unknown⟩,
    dotToken .unknown, ⟨.rparen, ")", .unknown⟩]

theorem dottedDot_spellings :
    ∃ v w, (ofTokens dottedDot).Reads (.ok 32) v ∧
      (ofTokens (⟨.quote, "'", .unknown⟩ :: dottedDot)).Reads (.ok 32) (quotation .unknown v) ∧
      (ofTokens (⟨.lparen, "(", .unknown⟩ :: ⟨.symbol, "quote", .unknown⟩ ::
        (dottedDot ++ [⟨.rparen, ")", .unknown⟩]))).Reads (.ok 32) w ∧
      (quotation .unknown v).same w = true := by
  have read : (ofTokens dottedDot).Reads (.ok 32) (.cell (.symbol "a" .unknown)
      (.cell (.symbol "quote" .unknown) (.cell (.symbol "." .unknown) (.nil .unknown) .unknown)
        .unknown) .unknown) := ⟨rfl, rfl⟩
  have notDot : ¬ (ofTokens dottedDot).IsDot := by
    rintro ⟨t, only, -⟩
    cases only
  obtain ⟨marked, spelled, -⟩ := spellings_agree read ⟨"'", .unknown⟩ ⟨"(", .unknown⟩
    ⟨")", .unknown⟩ .unknown (ofTokens (⟨.quote, "'", .unknown⟩ :: dottedDot))
    (ofTokens (⟨.lparen, "(", .unknown⟩ :: ⟨.symbol, "quote", .unknown⟩ ::
      (dottedDot ++ [⟨.rparen, ")", .unknown⟩]))) rfl rfl
  obtain ⟨w, inList, -, same⟩ := spelled notDot
  exact ⟨_, w, read, marked, inList, same⟩

/-- The tokens of `.` are an expression, and so are those of `'.`, but those of `(quote .)` are not:
for a bare dot the two spellings differ. -/
theorem bareDot_spellings_differ :
    (ofTokens [dotToken .unknown]).Reads (.ok 32) (.symbol "." .unknown) ∧
    (ofTokens [⟨.quote, "'", .unknown⟩, dotToken .unknown]).Reads (.ok 32)
      (quotation .unknown (.symbol "." .unknown)) ∧
    ∀ w, ¬ (ofTokens [⟨.lparen, "(", .unknown⟩, ⟨.symbol, "quote", .unknown⟩, dotToken .unknown,
      ⟨.rparen, ")", .unknown⟩]).Reads (.ok 32) w := by
  refine ⟨⟨rfl, rfl⟩, ⟨rfl, rfl⟩, ?_⟩
  rintro w ⟨value, -⟩
  cases value

end TokenStream

end MiniLisp
