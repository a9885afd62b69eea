import MiniLisp.Reader

/-!
# No token is lost

A stream of tokens is touched in two ways only: the next token is looked at, or it is taken. That
holds for whoever holds the stream and for the reader on its behalf. A list looks at a token before
it takes it, because the token may not be its own; every other construct takes the next token
unseen.

So whatever is asked of a stream comes to a sequence of accesses, and what each access keeps, all
of them keep, also if an expression is abandoned in the middle.

* `Lookahead`: a stream whose buffer has room for any number of tokens, and
  `TokenStream.after_lookahead`: it never holds more than one;
* `TokenStream.handed_append_remaining`: the tokens that were taken, and those still to be read;
* `Reader.pull`, `Reader.one_eq_pull`: the reader by accesses;
* `TokenStream.answers_eq`: requests by accesses;
* `TokenStream.answers_congr`, `TokenStream.history_congr`: nothing but the tokens still to be read
  matters to later requests;
* `TokenStream.tokens_conserved`: the result.
-/

namespace MiniLisp

/-- An access to a stream: the next token is looked at, or it is taken. -/
inductive Access
  | peek
  | advance
deriving DecidableEq

/-- What was done came to these accesses, in order, and to this result. -/
structure Trace (α : Type) where
  accesses : List Access
  result : α

/-! ## A buffer with room -/

/-- Tokens that are still to be read: those that were drawn to be looked at, and behind them those
that were not. -/
structure Lookahead where
  buffer : List Token
  undrawn : List Token

namespace Lookahead

/-- A stream from which nothing has been drawn. -/
def ofTokens (ts : List Token) : Lookahead := ⟨[], ts⟩

/-- Tokens in the buffer come first. A token is drawn only if there are none. -/
def access : Lookahead → Access → Option Token × Lookahead
  | ⟨t :: waiting, ts⟩, .peek => (some t, ⟨t :: waiting, ts⟩)
  | ⟨t :: waiting, ts⟩, .advance => (some t, ⟨waiting, ts⟩)
  | ⟨[], t :: ts⟩, .peek => (some t, ⟨[t], ts⟩)
  | ⟨[], t :: ts⟩, .advance => (some t, ⟨[], ts⟩)
  | ⟨[], []⟩, _ => (none, ⟨[], []⟩)

/-- What accesses leave. -/
def after (l : Lookahead) : List Access → Lookahead
  | [] => l
  | a :: as => (l.access a).2.after as

end Lookahead

namespace TokenStream

variable {s s' : TokenStream} {t : Token} {ts : List Token}

/-! ## Accesses -/

/-- What an access reports and leaves. -/
def access (s : TokenStream) : Access → Option Token × TokenStream
  | .peek => s.peek
  | .advance => s.advance

/-- What accesses leave. -/
def after (s : TokenStream) : List Access → TokenStream
  | [] => s
  | a :: as => (s.access a).2.after as

/-- The tokens that accesses take, in order. -/
def handed (s : TokenStream) : List Access → List Token
  | [] => []
  | .peek :: as => s.peek.2.handed as
  | .advance :: as => s.advance.1.toList ++ s.advance.2.handed as

/-- The stream with its token ahead in a buffer. -/
def lookahead (s : TokenStream) : Lookahead := ⟨s.ahead.toList, s.rest⟩

theorem after_append (s : TokenStream) (as bs : List Access) :
    s.after (as ++ bs) = (s.after as).after bs := by
  induction as generalizing s with
  | nil => rfl
  | cons a as ih => exact ih _

/-- A buffer that holds at most one token is all that is ever needed. -/
theorem access_lookahead (s : TokenStream) (a : Access) :
    s.lookahead.access a = ((s.access a).1, (s.access a).2.lookahead) := by
  rcases s with ⟨_ | _, _ | _⟩ <;> cases a <;> rfl

theorem after_lookahead (s : TokenStream) (as : List Access) :
    s.lookahead.after as = (s.after as).lookahead := by
  induction as generalizing s with
  | nil => rfl
  | cons a as ih =>
    show (s.lookahead.access a).2.after as = _
    rw [access_lookahead]
    exact ih _

theorem length_buffer_le (s : TokenStream) : s.lookahead.buffer.length ≤ 1 := by
  rcases s with ⟨_ | _, _⟩ <;> simp [lookahead]

/-- The tokens that were taken and those that are left are the tokens there were. -/
theorem handed_append_remaining (s : TokenStream) (as : List Access) :
    s.handed as ++ (s.after as).remaining = s.remaining := by
  induction as generalizing s with
  | nil => rfl
  | cons a as ih =>
    cases a with
    | peek => exact (ih s.peek.2).trans (remaining_peek s)
    | advance =>
      show s.advance.1.toList ++ s.advance.2.handed as ++ (s.advance.2.after as).remaining = _
      rw [List.append_assoc, ih, ← remaining_advance]

/-! ### What an access depends on -/

theorem eq_of_remaining_nil (exhausted : s.remaining = []) : s = ⟨none, []⟩ := by
  rcases s with ⟨_ | _, _ | _⟩ <;> simp_all [remaining]

theorem peek_of_remaining (next : s.remaining = t :: ts) : s.peek = (some t, ⟨some t, ts⟩) := by
  rcases s with ⟨_ | _, _ | _⟩ <;> simp_all [remaining, peek]

theorem advance_of_remaining (next : s.remaining = t :: ts) :
    s.advance = (some t, ⟨none, ts⟩) := by
  rcases s with ⟨_ | _, _ | _⟩ <;> simp_all [remaining, advance]

theorem access_fst (s : TokenStream) (a : Access) : (s.access a).1 = s.remaining.head? := by
  rcases s with ⟨_ | _, _ | _⟩ <;> cases a <;> rfl

/-- After an access it makes no difference whether a token had been looked at before it. -/
theorem access_congr (same : s.remaining = s'.remaining) (a : Access) :
    s.access a = s'.access a := by
  cases left : s.remaining with
  | nil => rw [eq_of_remaining_nil left, eq_of_remaining_nil (same.symm.trans left)]
  | cons t ts =>
    have left' := same.symm.trans left
    cases a with
    | peek => exact (peek_of_remaining left).trans (peek_of_remaining left').symm
    | advance => exact (advance_of_remaining left).trans (advance_of_remaining left').symm

theorem handed_congr (same : s.remaining = s'.remaining) (as : List Access) :
    s.handed as = s'.handed as := by
  cases as with
  | nil => rfl
  | cons a as =>
    have met := access_congr same a
    cases a with
    | peek => exact congrArg (·.2.handed as) met
    | advance => exact congrArg (fun met => met.1.toList ++ met.2.handed as) met

theorem remaining_after_congr (same : s.remaining = s'.remaining) (as : List Access) :
    (s.after as).remaining = (s'.after as).remaining := by
  cases as with
  | nil => exact same
  | cons a as =>
    show ((s.access a).2.after as).remaining = ((s'.access a).2.after as).remaining
    rw [access_congr same]

/-- At its end a stream stays as it is. -/
theorem after_of_remaining_nil (exhausted : s.remaining = []) (as : List Access) :
    s.after as = s := by
  obtain rfl := eq_of_remaining_nil exhausted
  induction as with
  | nil => rfl
  | cons a as ih => cases a <;> exact ih

end TokenStream

namespace Reader

open TokenStream

variable {width : Except Fault Nat} {state : State} {s s' : TokenStream} {t : Token}
  {ts : List Token}

/-! ## The reader by accesses -/

/-- How the next token is met. A list looks at it, and so does one whose tail has been read; after a
quote mark and after a dot it is taken at once. -/
def State.first : State → Access
  | .awaiting (.items .. :: _) | .closing .. => .peek
  | .awaiting _ => .advance

/-- How the next token is taken, from meeting it on. -/
def State.taking (state : State) : List Access :=
  match state.first with
  | .peek => [.peek, .advance]
  | .advance => [.advance]

theorem after_taking (state : State) (next : s.remaining = t :: ts) :
    s.after state.taking = ⟨none, ts⟩ := by
  unfold State.taking
  split
  · show s.peek.2.advance.2 = _
    rw [peek_of_remaining next]
    rfl
  · show s.advance.2 = _
    rw [advance_of_remaining next]

/-- What the end of the tokens comes to. -/
def ended (state : State) : Except Fault (Option Value) :=
  match atEnd state with
  | some fault => .error fault
  | none => .ok none

/-- Reads one expression from a stream by looking at its tokens and taking them one by one. -/
def pull (width : Except Fault Nat) (state : State) (s : TokenStream) :
    Trace (Except Fault (Option Value)) :=
  match _ : (s.access state.first).1 with
  | none => ⟨[state.first], ended state⟩
  | some t =>
    match step width state t with
    | .next state' =>
      let later := pull width state' (s.after state.taking)
      ⟨state.taking ++ later.accesses, later.result⟩
    | .done v => ⟨state.taking, .ok (some v)⟩
    | .refuse fault => ⟨state.taking, .error fault⟩
    | .refuseAhead fault => ⟨[state.first], .error fault⟩
termination_by s.remaining.length
decreasing_by
  obtain ⟨ts, next⟩ := List.head?_eq_some_iff.mp ((access_fst s state.first).symm.trans ‹_›)
  rw [after_taking state next, next]
  exact Nat.lt_succ_self _

theorem pull_of_remaining_nil (exhausted : s.remaining = []) :
    pull width state s = ⟨[state.first], ended state⟩ := by
  rw [pull]
  split
  · rfl
  · next met =>
    rw [access_fst, exhausted] at met
    cases met

theorem pull_of_remaining_cons (next : s.remaining = t :: ts) :
    pull width state s =
      match step width state t with
      | .next state' =>
        ⟨state.taking ++ (pull width state' ⟨none, ts⟩).accesses,
          (pull width state' ⟨none, ts⟩).result⟩
      | .done v => ⟨state.taking, .ok (some v)⟩
      | .refuse fault => ⟨state.taking, .error fault⟩
      | .refuseAhead fault => ⟨[state.first], .error fault⟩ := by
  rw [pull]
  split
  · next met =>
    rw [access_fst, next] at met
    cases met
  · next u met =>
    rw [access_fst, next] at met
    obtain rfl : t = u := Option.some.inj met
    rw [after_taking state next]

theorem pull_congr (width : Except Fault Nat) (state : State)
    (same : s.remaining = s'.remaining) : pull width state s = pull width state s' := by
  cases left : s.remaining with
  | nil => rw [pull_of_remaining_nil left, pull_of_remaining_nil (same.symm.trans left)]
  | cons t ts => rw [pull_of_remaining_cons left, pull_of_remaining_cons (same.symm.trans left)]

/-! ### The reader and its accesses -/

theorem complete_ne_refuseAhead (v : Value) (stack : List Pending) (fault : Fault) :
    complete v stack ≠ .refuseAhead fault := by
  induction stack generalizing v with
  | nil => nofun
  | cons pending stack ih =>
    cases pending with
    | quote loc => exact ih (quotation loc v)
    | items | tail => nofun

/-- Only a token that was looked at is refused without being taken. -/
theorem first_of_refuseAhead {fault : Fault} (refused : step width state t = .refuseAhead fault) :
    state.first = .peek := by
  cases state with
  | closing => rfl
  | awaiting stack =>
    have started (stack : List Pending) : start width stack t ≠ .refuseAhead fault := by
      unfold start
      cases t.kind with
      | symbol =>
        dsimp only
        cases atom width t.text t.loc with
        | ok v => exact complete_ne_refuseAhead v stack fault
        | error => nofun
      | _ => nofun
    cases stack with
    | nil => exact absurd refused (started [])
    | cons pending below =>
      cases pending with
      | items => rfl
      | quote | tail => exact absurd refused (started _)

/-- The reader comes to what its accesses come to. A token that is taken leaves the same stream
behind, whether it had been looked at or not. -/
theorem one_eq_pull (width : Except Fault Nat) (state : State) (s : TokenStream) :
    one width state s.remaining =
      ((pull width state s).result, s.after (pull width state s).accesses) := by
  induction left : s.remaining generalizing state s with
  | nil =>
    rw [pull_of_remaining_nil left, after_of_remaining_nil left, eq_of_remaining_nil left]
    rfl
  | cons t ts ih =>
    have taken := after_taking state left
    rw [pull_of_remaining_cons left]
    unfold one
    cases stepped : step width state t with
    | next state' =>
      dsimp only
      rw [after_append, taken]
      exact ih state' ⟨none, ts⟩ rfl
    | done | refuse =>
      dsimp only
      rw [taken]
    | refuseAhead fault =>
      dsimp only
      rw [first_of_refuseAhead stepped]
      show _ = (_, s.peek.2)
      rw [peek_of_remaining left]

/-- The dot and the token that is left behind are looked at, but not the two of the tail. -/
example :
    let s := ofTokens (tokens "(a . 'b c)".toList "<input>" 1)
    (pull (.ok 32) (.awaiting []) s).accesses =
      [.advance, .peek, .advance, .peek, .advance, .advance, .advance, .peek] := by decide +kernel

end Reader

namespace TokenStream

/-! ## Requests -/

/-- What is asked of a stream. The width is asked anew for each expression. -/
inductive Request
  | peek
  | advance
  | expression (width : Except Fault Nat)
  | list (width : Except Fault Nat) (opened : Location)

/-- What a request is answered with: a token, unless the stream is at its end, or what reading came
to. -/
inductive Reply
  | token (t? : Option Token)
  | read (result : Except Fault (Option Value))

variable {s s' : TokenStream}

/-- The answer to a request, and the stream after it. -/
def answer (s : TokenStream) : Request → Reply × TokenStream
  | .peek => (.token s.peek.1, s.peek.2)
  | .advance => (.token s.advance.1, s.advance.2)
  | .expression width => (.read (s.expression width).1, (s.expression width).2)
  | .list width opened => (.read (s.list width opened).1, (s.list width opened).2)

/-- The answers to requests, and the stream after them. -/
def answers (s : TokenStream) : List Request → List Reply × TokenStream
  | [] => ([], s)
  | r :: rs => ((s.answer r).1 :: ((s.answer r).2.answers rs).1, ((s.answer r).2.answers rs).2)

/-- The accesses that a request comes to, and its answer. -/
def trace (s : TokenStream) : Request → Trace Reply
  | .peek => ⟨[.peek], .token (s.access .peek).1⟩
  | .advance => ⟨[.advance], .token (s.access .advance).1⟩
  | .expression width =>
    let reading := Reader.pull width (.awaiting []) s
    ⟨reading.accesses, .read reading.result⟩
  | .list width opened =>
    let reading := Reader.pull width (.awaiting [.items opened []]) s
    ⟨reading.accesses, .read reading.result⟩

/-- The accesses that requests come to, and their answers. -/
def history (s : TokenStream) : List Request → Trace (List Reply)
  | [] => ⟨[], []⟩
  | r :: rs =>
    let later := (s.after (s.trace r).accesses).history rs
    ⟨(s.trace r).accesses ++ later.accesses, (s.trace r).result :: later.result⟩

theorem answer_eq (s : TokenStream) (r : Request) :
    s.answer r = ((s.trace r).result, s.after (s.trace r).accesses) := by
  cases r with
  | peek | advance => rfl
  | expression width | list width opened =>
    show (Reply.read (Reader.one ..).1, (Reader.one ..).2) = _
    rw [Reader.one_eq_pull]
    rfl

/-- Requests do to a stream what their accesses do. -/
theorem answers_eq (s : TokenStream) (rs : List Request) :
    s.answers rs = ((s.history rs).result, s.after (s.history rs).accesses) := by
  induction rs generalizing s with
  | nil => rfl
  | cons r rs ih =>
    unfold answers history
    rw [answer_eq, ih, after_append]

/-! ## What later requests can tell -/

theorem answer_congr (same : s.remaining = s'.remaining) (r : Request) :
    s.answer r = s'.answer r := by
  cases r with
  | peek => exact congrArg (fun met => (Reply.token met.1, met.2)) (access_congr same .peek)
  | advance => exact congrArg (fun met => (Reply.token met.1, met.2)) (access_congr same .advance)
  | expression width | list width opened =>
    simp only [answer, expression, list, same]

theorem answers_congr (same : s.remaining = s'.remaining) (rs : List Request) :
    (s.answers rs).1 = (s'.answers rs).1 := by
  cases rs with
  | nil => rfl
  | cons r rs => simp only [answers, answer_congr same]

theorem trace_congr (same : s.remaining = s'.remaining) (r : Request) : s.trace r = s'.trace r := by
  cases r with
  | peek | advance => simp only [trace, access_congr same]
  | expression width | list width opened => simp only [trace, Reader.pull_congr _ _ same]

theorem history_congr (same : s.remaining = s'.remaining) (rs : List Request) :
    s.history rs = s'.history rs := by
  induction rs generalizing s s' with
  | nil => rfl
  | cons r rs ih =>
    unfold history
    rw [trace_congr same, ih (remaining_after_congr same _)]

/-- A token that is asked for is the first of those still to be read. -/
theorem eq_head?_of_answer {r : Request} {t? : Option Token}
    (answered : (s.answer r).1 = .token t?) : t? = s.remaining.head? := by
  cases r with
  | peek =>
    injection answered with met
    exact met.symm.trans (access_fst s .peek)
  | advance =>
    injection answered with met
    exact met.symm.trans (access_fst s .advance)
  | expression | list => cases answered

/-- At the end of a stream every token that is asked for is missing. -/
theorem eq_none_of_mem_answers (exhausted : s.remaining = []) {rs : List Request}
    {t? : Option Token} (mem : .token t? ∈ (s.answers rs).1) : t? = none := by
  induction rs with
  | nil => cases mem
  | cons r rs ih =>
    have stays : (s.answer r).2 = s := by
      rw [answer_eq]
      exact after_of_remaining_nil exhausted _
    simp only [answers, List.mem_cons, stays] at mem
    rcases mem with first | later
    · rw [eq_head?_of_answer first.symm, exhausted]
      rfl
    · exact ih later

/-- Requests for the next token and for expressions, in any order, neither lose nor repeat nor
reorder a token, also if an expression is refused.

* What is asked of a stream comes to looking at tokens and taking them, and nothing else changes the
  stream.
* At each moment, also within a request, the buffer holds at most one token, and the tokens that
  were taken, those in the buffer and those not drawn are the ones that there were, in their order.
* Looking at a token shows the one that is taken next, by whatever request. It makes no difference
  to the answers to later requests, nor to the tokens that they take.
* Once the end was met, it is all that is ever met. -/
theorem tokens_conserved (ts : List Token) (rs : List Request) :
    let s := ofTokens ts
    let past := s.history rs
    let now := s.after past.accesses
    s.answers rs = (past.result, now) ∧
    (∀ soFar, soFar <+: past.accesses →
      let buffered := (Lookahead.ofTokens ts).after soFar
      buffered = (s.after soFar).lookahead ∧ buffered.buffer.length ≤ 1 ∧
      s.handed soFar ++ buffered.buffer ++ buffered.undrawn = ts) ∧
    (now.peek.1 = now.peek.2.advance.1 ∧ ∀ later,
      (now.peek.2.answers later).1 = (now.answers later).1 ∧
      now.peek.2.handed (now.peek.2.history later).accesses =
        now.handed (now.history later).accesses ∧
      ∀ t, (now.handed (now.history later).accesses).head? = some t → now.peek.1 = some t) ∧
    ∀ soFar, soFar <+: past.accesses → ∀ a, ((s.after soFar).access a).1 = none →
      (∀ others b, (((s.after soFar).after others).access b).1 = none) ∧
      ∀ later t?, .token t? ∈ (now.answers later).1 → t? = none := by
  intro s past now
  have atEnd {soFar : List Access} {a : Access} (met : ((s.after soFar).access a).1 = none) :
      (s.after soFar).remaining = [] := by
    rw [access_fst] at met
    exact List.head?_eq_none_iff.mp met
  refine ⟨answers_eq s rs, fun soFar _ => ?_, ⟨?_, fun later => ⟨?_, ?_, fun t first => ?_⟩⟩,
    fun soFar begins a met => ⟨fun others b => ?_, fun later t? mem => ?_⟩⟩
  · have buffered : (Lookahead.ofTokens ts).after soFar = (s.after soFar).lookahead :=
      after_lookahead s soFar
    rw [buffered]
    refine ⟨rfl, length_buffer_le _, ?_⟩
    calc s.handed soFar ++ (s.after soFar).lookahead.buffer ++ (s.after soFar).lookahead.undrawn
        = s.handed soFar ++ (s.after soFar).remaining := List.append_assoc ..
      _ = s.remaining := handed_append_remaining s soFar
      _ = ts := remaining_ofTokens ts
  · calc now.peek.1 = now.remaining.head? := access_fst now .peek
      _ = now.peek.2.remaining.head? := by rw [remaining_peek]
      _ = now.peek.2.advance.1 := (access_fst now.peek.2 .advance).symm
  · exact answers_congr (remaining_peek now) later
  · rw [history_congr (remaining_peek now)]
    exact handed_congr (remaining_peek now) _
  · have met : now.peek.1 = now.remaining.head? := access_fst now .peek
    rw [met, ← handed_append_remaining now (now.history later).accesses, List.head?_append, first]
    rfl
  · rw [after_of_remaining_nil (atEnd met), access_fst, atEnd met]
    rfl
  · -- whatever was asked after the end was met, nothing has changed since
    obtain ⟨rest, split⟩ := begins
    have stays : now = s.after soFar := by
      show s.after past.accesses = _
      rw [← split, after_append, after_of_remaining_nil (atEnd met)]
    rw [stays] at mem
    exact eq_none_of_mem_answers (atEnd met) mem

/-- A list is abandoned at what follows its tail. That token waits in the buffer, behind those that
were taken and before those not drawn. And a stream that was read to its end has no further token to
show, after a list was asked of it in vain. -/
theorem abandonedList_conserved :
    (let ts := tokens "(a . b c) d".toList "<input>" 1
      let s := ofTokens ts
      let accesses := (s.history [.expression (.ok 32)]).accesses
      let left := s.after accesses
      left.lookahead.buffer = [⟨.symbol, "c", ⟨"<input>", 1, 8⟩⟩] ∧
      s.handed accesses ++ left.lookahead.buffer ++ left.lookahead.undrawn = ts ∧
      (left.peek.2.answers [.expression (.ok 32)]).1 = (left.answers [.expression (.ok 32)]).1) ∧
    let s := ofTokens (tokens "a".toList "<input>" 1)
    ∀ t?, .token t? ∈ ((s.after [.advance]).answers [.list (.ok 32) .unknown, .peek]).1 →
      t? = none := by
  refine ⟨?_, ?_⟩
  · intro ts s accesses left
    obtain ⟨asked, kept, ⟨-, looked⟩, -⟩ := tokens_conserved ts [.expression (.ok 32)]
    obtain ⟨buffered, -, conserved⟩ := kept accesses List.prefix_rfl
    rw [buffered] at conserved
    have read : left = (s.answers [.expression (.ok 32)]).2 := congrArg Prod.snd asked.symm
    refine ⟨?_, conserved, (looked [.expression (.ok 32)]).1⟩
    rw [read]
    decide
  · intro s t?
    obtain ⟨-, -, -, atEnd⟩ := tokens_conserved (tokens "a".toList "<input>" 1) [.advance]
    exact (atEnd [.advance] List.prefix_rfl .peek rfl).2 _ t?

end TokenStream

end MiniLisp
