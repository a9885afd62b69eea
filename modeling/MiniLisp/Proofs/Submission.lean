import MiniLisp.Proofs.Increments
import MiniLisp.Proofs.Sessions

/-!
# What a session submits

A session that comes to the end of its input has answered chunk after chunk, whether or not it
invited the lines, and whatever the answers were: values, errors or syntax errors. The chunks, and
what is left over, have the tokens of the input, each at its place in the input.

* `Eval.Fed`: a session that is given some lines, line by line;
* `Eval.feedAll_eq_ok_iff`: this is how a session comes to the end of its lines;
* `Eval.Fed.chunks_eq`: the chunks do not depend on the answers;
* `Eval.answerChunk_eq_consume`: the answer to a chunk depends on the tokens of the chunk only;
* `Eval.submitted_tokens`: the result.
-/

namespace MiniLisp.Eval

/-- A session is given some lines and comes to the end of them: these are the chunks that it answers
on the way, the session that is left, and the machine. -/
inductive Fed (ev : Evaluator) (root : FrameId) (interactive : Bool) (prompt : String)
    (c : Context) :
    Session → List (List Char) → Machine → List Chunk → Session → Machine → Prop
  /-- No line is left when the session asks for one. -/
  | finished {s : Session} {m m₁ : Machine} :
      invite interactive prompt s c m = .ok () m₁ →
      Fed ev root interactive prompt c s [] m [] s m₁
  /-- The line does not complete a chunk. -/
  | waits {s next last : Session} {line : List Char} {rest : List (List Char)}
      {m m₁ m₂ : Machine} {chunks : List Chunk} :
      invite interactive prompt s c m = .ok () m₁ →
      s.take line = (none, next) →
      Fed ev root interactive prompt c next rest m₁ chunks last m₂ →
      Fed ev root interactive prompt c s (line :: rest) m chunks last m₂
  /-- The line completes a chunk, which is answered. -/
  | submits {s next last : Session} {line : List Char} {rest : List (List Char)} {chunk : Chunk}
      {m m₁ m₂ m₃ : Machine} {chunks : List Chunk} :
      invite interactive prompt s c m = .ok () m₁ →
      s.take line = (some chunk, next) →
      answerChunk ev root chunk c m₁ = .ok () m₂ →
      Fed ev root interactive prompt c next rest m₂ chunks last m₃ →
      Fed ev root interactive prompt c s (line :: rest) m (chunk :: chunks) last m₃

section Feeding

variable {ev : Evaluator} {root : FrameId} {interactive : Bool} {prompt : String} {c : Context}
  {s next last : Session} {line : List Char} {lines : List (List Char)} {chunk : Chunk}
  {chunks : List Chunk} {m m' : Machine}

theorem feed_of_waits (taken : s.take line = (none, next)) :
    feed ev root s line = pure next := by
  unfold feed
  rw [taken]

theorem feed_of_submits (taken : s.take line = (some chunk, next)) :
    feed ev root s line = (answerChunk ev root chunk >>= fun _ => pure next) := by
  unfold feed
  rw [taken]

/-- A session comes to the end of its lines by waiting and submitting. -/
theorem feedAll_eq_ok_iff : feedAll ev root interactive prompt s lines c m = .ok () m' ↔
    ∃ chunks last, Fed ev root interactive prompt c s lines m chunks last m' := by
  have step (s : Session) (line : List Char) (rest : List (List Char)) :
      feedAll ev root interactive prompt s (line :: rest) = (invite interactive prompt s >>=
        fun _ => feed ev root s line >>= fun next =>
          feedAll ev root interactive prompt next rest) := rfl
  constructor
  · intro ended
    induction lines generalizing s m with
    | nil => exact ⟨[], s, .finished ended⟩
    | cons line rest ih =>
      rw [step] at ended
      obtain ⟨_, m₁, invited, later⟩ := exists_ok_of_bind ended
      obtain ⟨next, m₂, fed, rest'⟩ := exists_ok_of_bind later
      obtain ⟨chunks, last, after⟩ := ih rest'
      rcases taken : s.take line with ⟨_ | chunk, next'⟩
      · rw [feed_of_waits taken] at fed
        cases fed
        exact ⟨chunks, last, .waits invited taken after⟩
      · rw [feed_of_submits taken] at fed
        obtain ⟨_, m₃, answered, returned⟩ := exists_ok_of_bind fed
        cases returned
        exact ⟨chunk :: chunks, last, .submits invited taken answered after⟩
  · rintro ⟨chunks, last, fed⟩
    induction fed with
    | finished invited => exact invited
    | waits invited taken _ ih =>
      rw [step, bind_apply, invited, feed_of_waits taken]
      exact ih
    | submits invited taken answered _ ih =>
      rw [step, bind_apply, invited, feed_of_submits taken, bind_assoc]
      dsimp only
      rw [bind_apply, answered]
      exact ih

/-- Which chunks are submitted depends on the lines only. -/
theorem Fed.chunks_eq (fed : Fed ev root interactive prompt c s lines m chunks last m') :
    s.chunks lines = (chunks, last) := by
  induction fed with
  | finished => rfl
  | waits _ taken _ ih =>
    rw [Session.chunks_cons, taken, ih]
    rfl
  | submits _ taken _ _ ih =>
    rw [Session.chunks_cons, taken, ih]
    rfl

end Feeding

/-- The tokens of a chunk are all that its answer depends on: what is evaluated and reported for it
is what the reader makes of them. -/
theorem answerChunk_eq_consume (ev : Evaluator) (root : FrameId) (chunk : Chunk) (c : Context)
    (m : Machine) : answerChunk ev root chunk c m = reportingError (do
      answerForms ev root
        (Reader.consume c.settings.readingWidth (.awaiting []) chunk.tokens).1
      reportFault (Reader.finalFault
        (Reader.consume c.settings.readingWidth (.awaiting []) chunk.tokens).2)) c m := by
  obtain ⟨forms, fault⟩ := Reader.chunkReading_eq_consume c.settings.readingWidth chunk
  rw [answerChunk_eq_reporting, forms, fault]

/-- The tokens of a text are those of its parts, if it is cut at the end of a line. Hence a session
that comes to the end of its input has submitted chunks that have, in order and together with what
is left over, exactly the tokens of the input, on the same lines and in the same columns. -/
theorem submitted_tokens :
    (∀ text : List Char, (∀ ch ∈ text.getLast?, ch = '\n') → ∀ rest source line,
      tokens (text ++ rest) source line =
        tokens text source line ++ tokens rest source (line + text.count '\n')) ∧
    ∀ ev root input interactive prompt c m m',
      session ev root input interactive prompt c m = .ok () m' →
        ∃ chunks last m₁ m₂, log interpreterLog "repl started" c m = .ok () m₁ ∧
          Fed ev root interactive (prompt.getD c.settings.promptText) c .fresh
            (Session.lines input) m₁ chunks last m₂ ∧
          log interpreterLog "repl finished" c m₂ = .ok () m' ∧
          chunks.flatMap Chunk.tokens ++ last.tokens = tokens input Session.source 1 := by
  refine ⟨fun text ends rest source line => tokens_append ends rest source line, ?_⟩
  intro ev root input interactive prompt c m m' ended
  change (log interpreterLog "repl started" >>= fun _ =>
    feedAll ev root interactive (prompt.getD c.settings.promptText) .fresh (Session.lines input)
      >>= fun _ => log interpreterLog "repl finished") c m = _ at ended
  obtain ⟨_, m₁, started, later⟩ := exists_ok_of_bind ended
  obtain ⟨_, m₂, finished, closed⟩ := exists_ok_of_bind later
  obtain ⟨chunks, last, fed⟩ := feedAll_eq_ok_iff.mp finished
  refine ⟨chunks, last, m₁, m₂, started, fed, closed, ?_⟩
  have all := Session.tokens_chunks_lines input
  rwa [fed.chunks_eq] at all

/-- A list over three lines, a blank line, a stray parenthesis, an unbound name, and a list that is
not closed. -/
def mixedLines : List Char := "'(1 ; one\n ;)\n2)\n\n)\nmissing\n(car '".toList

theorem mixedLines_tokens :
    tokens ("(a ; b\n".toList ++ "c)".toList) "x" 3 =
      tokens "(a ; b\n".toList "x" 3 ++ tokens "c)".toList "x" 4 ∧
    ∃ m', session (evaluate 5) 0 mixedLines true none (.ofSettings .unset) quoting = .ok () m' ∧
      ∃ chunks last m₁ m₂,
        log interpreterLog "repl started" (.ofSettings .unset) quoting = .ok () m₁ ∧
        Fed (evaluate 5) 0 true Settings.unset.promptText (.ofSettings .unset) .fresh
          (Session.lines mixedLines) m₁ chunks last m₂ ∧
        log interpreterLog "repl finished" (.ofSettings .unset) m₂ = .ok () m' ∧
        chunks.flatMap Chunk.tokens ++ last.tokens = tokens mixedLines Session.source 1 := by
  have newline : "(a ; b\n".toList.getLast? = some '\n' := by decide +kernel
  refine ⟨submitted_tokens.1 _ (fun ch mem => ?_) _ _ _, ?_⟩
  · rw [newline] at mem
    exact (Option.mem_some_iff.mp mem).symm
  have finishes : (machineOfOk (session (evaluate 5) 0 mixedLines true none) (.ofSettings .unset)
      quoting).isSome = true := by decide +kernel
  obtain ⟨m', left⟩ := Option.isSome_iff_exists.mp finishes
  obtain ⟨_, ended⟩ := exists_ok_of_machineOfOk left
  exact ⟨m', ended, submitted_tokens.2 _ _ _ _ _ _ _ _ ended⟩

end MiniLisp.Eval
