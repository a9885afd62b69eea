import MiniLisp.Proofs.Batches
import MiniLisp.Proofs.Submission

/-!
# When a chunk is complete

A session waits for another line as long as more parentheses are opened than closed, whatever else
there is in the text. The reader agrees. It is only at the end of a text that it can find a list
which is not closed, and as many lists are open then as parentheses; and when it has read everything
no list is open.

* `Reader.openDepth_pos`: where a list is not closed, a parenthesis is open;
* `Reader.openDepth_eq_zero`: where nothing is missing, none is;
* `Eval.answerChunk_of_closed`: what is reported for a chunk that a session submits;
* `Eval.chunks_are_complete`: the result.
-/

namespace MiniLisp

/-- The fault is that a list is not closed. -/
def Fault.IsUnmatchedOpen (fault : Fault) : Prop := ∃ loc, fault = .syntaxError .unmatchedOpen loc

namespace Reader

variable {width : Except Fault Nat} {state : State} {t : Token} {ts : List Token}
  {vs : List Value} {fault : Fault} {text : List Char} {source : String} {line : Int}

/-! ## Refused tokens -/

/-- If the token is refused, something else is wrong than that a list is not closed. -/
def Step.ForOtherReason : Step → Prop
  | .next _ => True
  | .done _ => True
  | .refuse fault => ¬ fault.IsUnmatchedOpen
  | .refuseAhead fault => ¬ fault.IsUnmatchedOpen

theorem forOtherReason_complete (v : Value) (stack : List Pending) :
    (complete v stack).ForOtherReason := by
  fun_induction complete v stack with
  | case2 v loc below ih => exact ih
  | _ => trivial

/-- A word is refused for the number that it spells. -/
theorem not_isUnmatchedOpen_of_atom
    (known : ∀ fault, width = .error fault → ¬ fault.IsUnmatchedOpen) {word : String}
    {loc : Location} (refused : atom width word loc = .error fault) :
    ¬ fault.IsUnmatchedOpen := by
  unfold atom at refused
  split at refused
  · cases refused
  · split at refused
    · cases refused
    · split at refused
      · cases refused
      · split at refused
        · cases refused
          rintro ⟨_, ⟨⟩⟩
        · split at refused
          · cases refused
            exact known _ rfl
          · split at refused
            · cases refused
            · cases refused
              rintro ⟨_, ⟨⟩⟩

theorem forOtherReason_start (known : ∀ fault, width = .error fault → ¬ fault.IsUnmatchedOpen)
    (stack : List Pending) (t : Token) : (start width stack t).ForOtherReason := by
  unfold start
  cases t.kind with
  | symbol =>
    cases read : atom width t.text t.loc with
    | ok v => exact forOtherReason_complete v stack
    | error fault => exact not_isUnmatchedOpen_of_atom known read
  | quote => trivial
  | lparen => trivial
  | rparen => rintro ⟨_, ⟨⟩⟩
  | other => rintro ⟨_, ⟨⟩⟩

theorem forOtherReason_step (known : ∀ fault, width = .error fault → ¬ fault.IsUnmatchedOpen)
    (state : State) (t : Token) : (step width state t).ForOtherReason := by
  unfold step
  split
  · split
    · exact forOtherReason_complete _ _
    · rintro ⟨_, ⟨⟩⟩
  · split
    · exact forOtherReason_complete _ _
    · split
      · split
        · rintro ⟨_, ⟨⟩⟩
        · trivial
      · exact forOtherReason_start known _ t
  · exact forOtherReason_start known _ t

theorem not_isUnmatchedOpen_of_consume
    (known : ∀ fault, width = .error fault → ¬ fault.IsUnmatchedOpen)
    (refused : consume width state ts = (vs, .error fault)) : ¬ fault.IsUnmatchedOpen := by
  induction ts generalizing state vs with
  | nil => cases refused
  | cons t ts ih =>
    have reason := forOtherReason_step known state t
    cases stepped : step width state t with
    | next next =>
      rw [consume_of_next stepped] at refused
      exact ih refused
    | done v =>
      rw [consume_of_done stepped] at refused
      exact ih (Prod.ext rfl (Prod.mk.inj refused).2)
    | refuse =>
      rw [consume_of_refused (.inl stepped)] at refused
      rw [stepped] at reason
      cases refused
      exact reason
    | refuseAhead =>
      rw [consume_of_refused (.inr stepped)] at refused
      rw [stepped] at reason
      cases refused
      exact reason

/-! ## The end of a text -/

theorem openLists_pos_of_atEnd (h : atEnd state = some fault) (unmatched : fault.IsUnmatchedOpen) :
    0 < state.openLists := by
  obtain ⟨loc, rfl⟩ := unmatched
  cases state with
  | closing opened reversed tail below => exact Nat.succ_pos _
  | awaiting stack =>
    cases stack with
    | nil => cases h
    | cons pending below =>
      cases pending with
      | quote => cases h
      | items | tail => exact Nat.succ_pos _

/-- Where a list is not closed, more parentheses are opened than closed. -/
theorem openDepth_pos (known : ∀ fault, width = .error fault → ¬ fault.IsUnmatchedOpen)
    (h : (readText width text source line).fault = some fault)
    (unmatched : fault.IsUnmatchedOpen) : 0 < openDepth text := by
  rw [(readText_eq_consume width text source line).2] at h
  rcases read : consume width (.awaiting []) (tokens text source line) with ⟨vs, reason | state⟩
  · rw [read] at h
    cases h
    exact absurd unmatched (not_isUnmatchedOpen_of_consume known read)
  · rw [read] at h
    have opened := openLists_of_consume read
    have positive := openLists_pos_of_atEnd h unmatched
    have start : (State.awaiting []).openLists = 0 := rfl
    rw [Token.openDepth_eq text source line]
    omega

/-- Where nothing is missing, as many parentheses are opened as closed. -/
theorem openDepth_eq_zero (h : (readText width text source line).fault = none) :
    openDepth text = 0 := by
  rw [(readText_eq_consume width text source line).2] at h
  rcases read : consume width (.awaiting []) (tokens text source line) with ⟨vs, reason | state⟩
  · rw [read] at h
    cases h
  · rw [read] at h
    cases eq_awaiting_of_atEnd h
    have opened := openLists_of_consume read
    have start : (State.awaiting []).openLists = 0 := rfl
    rw [Token.openDepth_eq text source line]
    omega

end Reader

/-! ## Settings -/

/-- An invalid setting is no list that is not closed. -/
theorem Settings.not_isUnmatchedOpen {s : Settings} {fault : Fault}
    (failed : s.readingWidth = .error fault) : ¬ fault.IsUnmatchedOpen := by
  rintro ⟨loc, rfl⟩
  exact not_isReported failed trivial

/-! ## Sessions -/

namespace Session

variable {s next : Session} {line : List Char} {chunk : Chunk}

theorem openDepth_of_submits (taken : s.take line = (some chunk, next)) :
    openDepth chunk.text ≤ 0 := by
  by_cases waits : 0 < openDepth (s.pending ++ line)
  · rw [take_of_open waits] at taken
    cases taken
  · rw [take_of_closed waits] at taken
    cases taken
    exact Int.not_lt.mp waits

theorem openDepth_of_waits (taken : s.take line = (none, next)) :
    0 < openDepth (s.pending ++ line) := by
  by_cases waits : 0 < openDepth (s.pending ++ line)
  · exact waits
  · rw [take_of_closed waits] at taken
    cases taken

end Session

namespace Eval

/-- No text in which at least as many parentheses are closed as opened has a list that is not
closed. -/
theorem fault_ne_unmatchedOpen (c : Context) {text : List Char} (closed : openDepth text ≤ 0)
    (source : String) (line : Int) (loc : Location) :
    (readText c.settings.readingWidth text source line).fault ≠
      some (.syntaxError .unmatchedOpen loc) := by
  intro refused
  have opened := Reader.openDepth_pos (fun _ => Settings.not_isUnmatchedOpen) refused ⟨loc, rfl⟩
  exact absurd closed (Int.not_le.mpr opened)

/-- What is reported for a chunk in which at least as many parentheses are closed as opened is not
that a list is not closed. -/
theorem answerChunk_of_closed {chunk : Chunk} (closed : openDepth chunk.text ≤ 0) (ev : Evaluator)
    (root : FrameId) (c : Context) (m : Machine) :
    let reading := chunk.reading c.settings.readingWidth
    answerChunk ev root chunk c m = reportingError (do
        answerForms ev root reading.forms
        reportFault reading.fault) c m ∧
      ∀ loc, reading.fault ≠ some (.syntaxError .unmatchedOpen loc) :=
  ⟨answerChunk_eq_reporting ev root chunk c m,
    fault_ne_unmatchedOpen c closed Session.source chunk.line⟩

/-- A text in which at least as many parentheses are closed as opened may have syntax errors, but
not that a list is not closed; and in a text without a syntax error as many are closed as opened.
Hence no chunk that a session submits has a list that is not closed, and no text that it waits to
complete, or that is left over, can be read without a fault. -/
theorem chunks_are_complete (c : Context) :
    let width := c.settings.readingWidth
    (∀ text source line, openDepth text ≤ 0 → ∀ loc,
      (readText width text source line).fault ≠ some (.syntaxError .unmatchedOpen loc)) ∧
    (∀ text source line, (readText width text source line).fault = none → openDepth text = 0) ∧
    (∀ (s : Session) line chunk next, s.take line = (some chunk, next) → ∀ loc,
      (chunk.reading width).fault ≠ some (.syntaxError .unmatchedOpen loc)) ∧
    (∀ (s : Session) line next, s.take line = (none, next) → ∀ source first,
      (readText width (s.pending ++ line) source first).fault ≠ none) ∧
    ∀ ev root interactive prompt input m chunks last m',
      Fed ev root interactive prompt c .fresh (Session.lines input) m chunks last m' →
        (∀ chunk ∈ chunks, ∀ loc,
          (chunk.reading width).fault ≠ some (.syntaxError .unmatchedOpen loc)) ∧
        (last.pending = [] ∨ ∀ source first,
          (readText width last.pending source first).fault ≠ none) := by
  intro width
  have incomplete {text : List Char} (opened : 0 < openDepth text) (source : String)
      (line : Int) : (readText width text source line).fault ≠ none :=
    fun complete => Int.ne_of_gt opened (Reader.openDepth_eq_zero complete)
  refine ⟨fun text source line closed => fault_ne_unmatchedOpen c closed source line,
    fun text source line => ?_, ?_, ?_, ?_⟩
  · exact Reader.openDepth_eq_zero
  · intro s line chunk next taken
    exact fault_ne_unmatchedOpen c (Session.openDepth_of_submits taken) Session.source chunk.line
  · intro s line next taken
    exact incomplete (Session.openDepth_of_waits taken)
  · intro ev root interactive prompt input m chunks last m' fed
    refine ⟨fun chunk mem => fault_ne_unmatchedOpen c ?_ Session.source chunk.line, ?_⟩
    · rw [Token.openDepth_eq chunk.text Session.source chunk.line]
      have submitted : chunk ∈ (Session.fresh.chunks (Session.lines input)).1 := by
        rw [fed.chunks_eq]
        exact mem
      exact Session.depth_tokens_le_of_mem_chunks submitted
    · have left := Session.pending_chunks (s := .fresh) (Session.lines input) (.inl rfl)
      rw [fed.chunks_eq] at left
      exact left.imp id incomplete

/-- A pair over two lines with parentheses that do not match after it, and a list that is not
closed. -/
def strayLines : List Char := "(a . ;(\n b) ) (\n'(c".toList

theorem strayLines_complete :
    let width := Settings.unset.readingWidth
    (openDepth ") (".toList ≤ 0 ∧ (readText width ") (".toList "x" 1).fault ≠
      some (.syntaxError .unmatchedOpen ⟨"x", 1, 3⟩)) ∧
    ((readText width "'(a . b)".toList "x" 1).fault = none ∧ openDepth "'(a . b)".toList = 0) ∧
    (∃ chunk next, Session.fresh.take ") (\n".toList = (some chunk, next) ∧
      (chunk.reading width).fault ≠ some (.syntaxError .unmatchedOpen ⟨"<stdin>", 1, 3⟩)) ∧
    (∃ next, Session.fresh.take "(a\n".toList = (none, next) ∧
      (readText width "(a\n".toList "x" 1).fault ≠ none) ∧
    ∃ chunks last m', Fed (evaluate 5) 0 false "" (.ofSettings .unset) .fresh
        (Session.lines strayLines) quoting chunks last m' ∧
      (∀ chunk ∈ chunks, ∀ loc,
        (chunk.reading width).fault ≠ some (.syntaxError .unmatchedOpen loc)) ∧
      (last.pending = [] ∨ ∀ source first,
        (readText width last.pending source first).fault ≠ none) := by
  intro width
  obtain ⟨closed, complete, submits, waits, sessions⟩ := chunks_are_complete (.ofSettings .unset)
  have finishes : (machineOfOk (feedAll (evaluate 5) 0 false "" .fresh
      (Session.lines strayLines)) (.ofSettings .unset) quoting).isSome = true := by decide +kernel
  have read : (readText width "'(a . b)".toList "x" 1).fault = none := by decide +kernel
  refine ⟨⟨by decide, closed _ _ _ (by decide) _⟩, ⟨read, complete _ _ _ read⟩,
    ⟨_, _, rfl, submits .fresh ") (\n".toList _ _ rfl _⟩, ⟨_, rfl, waits .fresh _ _ rfl _ _⟩, ?_⟩
  obtain ⟨m', left⟩ := Option.isSome_iff_exists.mp finishes
  obtain ⟨_, ended⟩ := exists_ok_of_machineOfOk left
  obtain ⟨chunks, last, fed⟩ := feedAll_eq_ok_iff.mp ended
  exact ⟨chunks, last, m', fed, sessions _ _ _ _ _ _ _ _ _ fed⟩

end Eval

end MiniLisp
