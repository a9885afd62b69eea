import MiniLisp.Proofs.Chunking
import MiniLisp.Proofs.Resuming
import MiniLisp.Proofs.Unseen

/-!
# Sessions and whole texts

A session reads its input chunk by chunk. Most of the time that comes to reading the input as one
text: the forms of the chunks are the forms of the input, in the same order, and a syntax error of
the input is reported. There are two exceptions.

* A chunk that ends in a quote mark is refused, although what is quoted may come on the next line.
* Text that is left over when the input ends is dropped, although a parenthesis is open in it.

`Eval.session_by_chunks` says what a session does in every case.
-/

namespace MiniLisp

/-- What the chunk is read as. -/
def Chunk.reading (width : Except Fault Nat) (chunk : Chunk) : Reader.Reading :=
  readText width chunk.text Session.source chunk.line

/-- The forms of chunks, in order. -/
def Chunk.formsOf (width : Except Fault Nat) (chunks : List Chunk) : List Value :=
  chunks.flatMap fun chunk => (chunk.reading width).forms

namespace Session

/-- The chunks of an input. -/
def submitted (input : List Char) : List Chunk := (fresh.chunks (lines input)).1

/-- The text that is incomplete when the input ends. -/
def leftOver (input : List Char) : List Char := (fresh.chunks (lines input)).2.pending

/-- What the input is read as if it is one text. -/
def wholeReading (width : Except Fault Nat) (input : List Char) : Reader.Reading :=
  readText width input source 1

end Session

/-! ## Reading -/

namespace Reader

variable {width : Except Fault Nat} {chunks : List Chunk}

/-- A chunk is read as its tokens are. -/
theorem chunkReading_eq_consume (width : Except Fault Nat) (chunk : Chunk) :
    (chunk.reading width).forms = (consume width (.awaiting []) chunk.tokens).1 ∧
      (chunk.reading width).fault =
        finalFault (consume width (.awaiting []) chunk.tokens).2 :=
  readText_eq_consume width chunk.text Session.source chunk.line

/-- After chunks that are read without a fault, reading is where it was before. -/
theorem consume_chunks (read : ∀ chunk ∈ chunks, (chunk.reading width).fault = none)
    (us : List Token) : consume width (.awaiting []) (chunks.flatMap Chunk.tokens ++ us) =
      (Chunk.formsOf width chunks ++ (consume width (.awaiting []) us).1,
        (consume width (.awaiting []) us).2) := by
  induction chunks with
  | nil => rfl
  | cons chunk chunks ih =>
    obtain ⟨first, later⟩ := List.forall_mem_cons.mp read
    obtain ⟨forms, fault⟩ := chunkReading_eq_consume width chunk
    rw [Chunk.formsOf, List.flatMap_cons, List.flatMap_cons, List.append_assoc,
      List.append_assoc, forms]
    rw [fault] at first
    rcases ended : consume width (.awaiting []) chunk.tokens with ⟨vs, reason | state⟩
    · rw [ended] at first
      cases first
    · rw [ended] at first
      cases eq_awaiting_of_atEnd first
      rw [consume_append ended, ih later]
      rfl

/-- The first of the chunks that are not read without a fault. -/
theorem exists_first_fault (faulty : ¬ ∀ chunk ∈ chunks, (chunk.reading width).fault = none) :
    ∃ before chunk after reason, chunks = before ++ chunk :: after ∧
      (∀ chunk ∈ before, (chunk.reading width).fault = none) ∧
      (chunk.reading width).fault = some reason := by
  induction chunks with
  | nil => exact absurd (fun _ mem => absurd mem List.not_mem_nil) faulty
  | cons first chunks ih =>
    cases fault : (first.reading width).fault with
    | some reason =>
      exact ⟨[], first, chunks, reason, rfl, fun _ mem => absurd mem List.not_mem_nil, fault⟩
    | none =>
      obtain ⟨before, chunk, after, reason, rfl, read, refused⟩ := ih fun read =>
        faulty (List.forall_mem_cons.mpr ⟨fault, read⟩)
      exact ⟨first :: before, chunk, after, reason, rfl,
        List.forall_mem_cons.mpr ⟨fault, read⟩, refused⟩

end Reader

namespace Session

open Reader

variable {width : Except Fault Nat} {input : List Char}

/-- An input is read as the tokens of its chunks are, with those of what is left over. -/
theorem wholeReading_eq_consume (width : Except Fault Nat) (input : List Char) :
    ∃ us : List Token, Token.depth us = openDepth (leftOver input) ∧
      (leftOver input = [] → us = []) ∧
      (wholeReading width input).forms = (consume width (.awaiting [])
        ((submitted input).flatMap Chunk.tokens ++ us)).1 ∧
      (wholeReading width input).fault = finalFault (consume width (.awaiting [])
        ((submitted input).flatMap Chunk.tokens ++ us)).2 := by
  let last := (fresh.chunks (lines input)).2
  refine ⟨last.tokens, (Token.openDepth_eq last.pending source last.line).symm, ?_, ?_⟩
  · intro nothing
    have empty : last.pending = [] := nothing
    unfold tokens
    rw [empty]
    rfl
  · have read := readText_eq_consume width input source 1
    rwa [← tokens_chunks_lines input] at read

/-- If every chunk is read without a fault, the forms are those of the input, as far as they have
been submitted. All have been if and only if the input is read without a fault. -/
theorem forms_of_read
    (read : ∀ chunk ∈ submitted input, (chunk.reading width).fault = none) :
    Chunk.formsOf width (submitted input) <+: (wholeReading width input).forms ∧
      ((wholeReading width input).fault = none ↔ leftOver input = []) ∧
      (leftOver input = [] →
        Chunk.formsOf width (submitted input) = (wholeReading width input).forms) := by
  obtain ⟨us, depth, nothing, forms, fault⟩ := wholeReading_eq_consume width input
  rw [consume_chunks read] at forms fault
  refine ⟨⟨_, forms.symm⟩, ⟨fun complete => ?_, fun empty => ?_⟩, fun empty => ?_⟩
  · rcases pending_chunks (s := fresh) (lines input) (.inl rfl) with empty | opened
    · exact empty
    · rw [complete] at fault
      rcases ended : consume width (.awaiting []) us with ⟨vs, reason | state⟩
      · rw [ended] at fault
        cases fault
      · rw [ended] at fault
        cases eq_awaiting_of_atEnd fault.symm
        have closed := openLists_of_consume ended
        have positive : 0 < Token.depth us := depth ▸ opened
        have awaiting : (State.awaiting []).openLists = 0 := rfl
        omega
  · rw [fault, nothing empty]
    rfl
  · rw [forms, nothing empty]
    exact (List.append_nil _).symm

/-- The first chunk with a fault has the fault of the input, or it breaks off. Up to there the forms
are those of the input. -/
theorem forms_of_first_fault {before after : List Chunk} {chunk : Chunk} {reason : Fault}
    (split : submitted input = before ++ chunk :: after)
    (read : ∀ chunk ∈ before, (chunk.reading width).fault = none)
    (refused : (chunk.reading width).fault = some reason) :
    Chunk.formsOf width before ++ (chunk.reading width).forms <+:
        (wholeReading width input).forms ∧
      ((wholeReading width input).fault = some reason ∨
        ∃ vs state, consume width (.awaiting []) chunk.tokens = (vs, .ok state) ∧
          atEnd state = some reason) := by
  obtain ⟨us, -, -, forms, fault⟩ := wholeReading_eq_consume width input
  rw [split, List.flatMap_append, List.flatMap_cons, List.append_assoc, List.append_assoc,
    consume_chunks read] at forms fault
  obtain ⟨chunkForms, chunkFault⟩ := chunkReading_eq_consume width chunk
  rw [refused] at chunkFault
  rw [chunkForms, forms]
  rcases ended : consume width (.awaiting []) chunk.tokens with ⟨vs, g | state⟩
  · rw [ended] at chunkFault
    rw [consume_append_of_refused ended] at fault ⊢
    exact ⟨List.prefix_refl _, .inl (fault.trans chunkFault.symm)⟩
  · rw [ended] at chunkFault
    rw [consume_append ended]
    refine ⟨?_, .inr ⟨vs, state, rfl, chunkFault.symm⟩⟩
    dsimp only
    rw [← List.append_assoc]
    exact List.prefix_append _ _

/-- If the input is read without a fault, a chunk has one if and only if some chunk ends in a quote
mark. -/
theorem read_iff_of_wholeReading (complete : (wholeReading width input).fault = none) :
    (∀ chunk ∈ submitted input, (chunk.reading width).fault = none) ↔
      ∀ chunk ∈ submitted input, ∀ t, chunk.tokens.getLast? = some t → t.kind ≠ .quote := by
  constructor
  · intro read chunk mem t last quote
    have fault := (chunkReading_eq_consume width chunk).2
    rw [read chunk mem] at fault
    exact not_complete_of_getLast?_quote last quote fault.symm
  · intro noQuote
    by_contra faulty
    obtain ⟨before, chunk, after, reason, split, read, refused⟩ := exists_first_fault faulty
    have mem : chunk ∈ submitted input := by
      rw [split]
      exact List.mem_append_right before List.mem_cons_self
    rcases (forms_of_first_fault split read refused).2 with fault | ⟨vs, state, ended, fault⟩
    · rw [complete] at fault
      cases fault
    · rcases awaiting_of_closed ended (depth_tokens_le_of_mem_chunks mem) with
        rfl | ⟨loc, below, rfl⟩
      · cases fault
      · have some : chunk.tokens ≠ [] := by
          intro none
          rw [none] at ended
          cases ended
        obtain ⟨t, last, quote⟩ := exists_getLast?_quote some ended
        exact noQuote chunk mem t last quote

end Session

/-! ## Answering -/

namespace Eval

variable {α β : Type} {c : Context} {m m' : Machine} {ev : Evaluator} {root : FrameId}

/-- The computation does not end in an error. -/
def NoError (x : Eval α) (c : Context) (m : Machine) : Prop := ∀ e m', x c m ≠ .error e m'

theorem NoError.first {x : Eval α} {k : α → Eval β} (h : NoError (x >>= k) c m) :
    NoError x c m := by
  intro e m' failed
  refine h e m' ?_
  rw [bind_apply, failed]

theorem NoError.later {x : Eval α} {k : α → Eval β} (h : NoError (x >>= k) c m) {a : α}
    (ended : x c m = .ok a m') : NoError (k a) c m' := by
  intro e m₁ failed
  refine h e m₁ ?_
  rw [bind_apply, ended]
  exact failed

theorem exists_ok_of_bind {x : Eval α} {k : α → Eval β} {b : β}
    (h : (x >>= k) c m = .ok b m') : ∃ a m₁, x c m = .ok a m₁ ∧ k a c m₁ = .ok b m' := by
  rw [bind_apply] at h
  cases ended : x c m with
  | ok a m₁ =>
    rw [ended] at h
    exact ⟨a, m₁, rfl, h⟩
  | error | fault | exhausted =>
    rw [ended] at h
    cases h

theorem reportingError_eq {x : Eval Unit} (h : NoError x c m) : reportingError x c m = x c m := by
  unfold reportingError
  rw [bind_apply]
  unfold catchError
  cases ended : x c m with
  | error e m' => exact absurd ended (h e m')
  | _ => rfl

theorem bind_unit (x : Eval Unit) : (x >>= fun _ => pure ()) = x := by
  funext c m
  rw [bind_apply]
  cases x c m <;> rfl

/-- Evaluates and answers chunks one after the other. -/
def answerChunks (ev : Evaluator) (root : FrameId) : List Chunk → Eval Unit
  | [] => return ()
  | chunk :: rest => do
    answerChunk ev root chunk
    answerChunks ev root rest

/-- Lines are answered chunk by chunk, if nobody is invited to write them. -/
theorem feedAll_eq (ev : Evaluator) (root : FrameId) (prompt : String) (s : Session)
    (lines : List (List Char)) :
    feedAll ev root false prompt s lines = answerChunks ev root (s.chunks lines).1 := by
  induction lines generalizing s with
  | nil => rfl
  | cons line rest ih =>
    show (feed ev root s line >>= fun s => feedAll ev root false prompt s rest) = _
    rw [Session.chunks_cons]
    unfold feed
    rcases s.take line with ⟨_ | chunk, next⟩
    · exact ih next
    · show ((answerChunk ev root chunk >>= fun _ => pure next) >>= fun s =>
        feedAll ev root false prompt s rest) = _
      rw [bind_assoc]
      show (answerChunk ev root chunk >>= fun _ => feedAll ev root false prompt next rest) = _
      rw [ih next]
      rfl

theorem session_eq (ev : Evaluator) (root : FrameId) (input : List Char)
    (prompt : Option String) : session ev root input false prompt = (do
      log interpreterLog "repl started"
      answerChunks ev root (Session.submitted input)
      log interpreterLog "repl finished") := by
  funext c m
  show (log interpreterLog "repl started" >>= fun _ =>
    feedAll ev root false (prompt.getD c.settings.promptText) .fresh (Session.lines input) >>=
      fun _ => log interpreterLog "repl finished") c m = _
  rw [feedAll_eq]
  rfl

theorem answerForms_append (ev : Evaluator) (root : FrameId) (forms later : List Value) :
    answerForms ev root (forms ++ later) = (answerForms ev root forms >>= fun _ =>
      answerForms ev root later) := by
  induction forms with
  | nil => rfl
  | cons form forms ih =>
    show (ev root form >>= fun v => printed v >>= fun text => put (text ++ "\n") >>= fun _ =>
      answerForms ev root (forms ++ later)) = _
    rw [ih]
    show _ = (ev root form >>= fun v => printed v >>= fun text => put (text ++ "\n") >>= fun _ =>
      answerForms ev root forms) >>= fun _ => answerForms ev root later
    simp only [bind_assoc]

theorem noError_reportFault (fault : Option Fault) : NoError (reportFault fault) c m := by
  intro e m' failed
  unfold reportFault at failed
  split at failed
  · have ended : Outcome.ok () m = .error e m' := failed
    cases ended
  · cases failed
  · cases failed

/-- What is evaluated and reported for a chunk is what the chunk is read as. -/
theorem answerChunk_eq_reporting (ev : Evaluator) (root : FrameId) (chunk : Chunk) (c : Context)
    (m : Machine) : answerChunk ev root chunk c m = reportingError (do
      answerForms ev root (chunk.reading c.settings.readingWidth).forms
      reportFault (chunk.reading c.settings.readingWidth).fault) c m := rfl

/-- If no form ends in an error, a chunk is answered form by form up to its fault. -/
theorem answerChunk_eq (chunk : Chunk)
    (fine : NoError (answerForms ev root (chunk.reading c.settings.readingWidth).forms) c m) :
    answerChunk ev root chunk c m = (do
      answerForms ev root (chunk.reading c.settings.readingWidth).forms
      reportFault (chunk.reading c.settings.readingWidth).fault) c m := by
  rw [answerChunk_eq_reporting]
  refine reportingError_eq fun e m' failed => ?_
  rw [bind_apply] at failed
  cases ended : answerForms ev root (chunk.reading c.settings.readingWidth).forms c m with
  | error e m₁ => exact fine e m₁ ended
  | ok a m₁ =>
    rw [ended] at failed
    exact noError_reportFault _ e m' failed
  | fault | exhausted =>
    rw [ended] at failed
    cases failed

/-- Chunks that are read without a fault are answered form by form. -/
theorem answerChunks_eq {chunks : List Chunk}
    (read : ∀ chunk ∈ chunks, (chunk.reading c.settings.readingWidth).fault = none)
    (fine : NoError (answerForms ev root (Chunk.formsOf c.settings.readingWidth chunks)) c m)
    (rest : List Chunk) :
    answerChunks ev root (chunks ++ rest) c m = (do
      answerForms ev root (Chunk.formsOf c.settings.readingWidth chunks)
      answerChunks ev root rest) c m := by
  induction chunks generalizing m with
  | nil => rfl
  | cons chunk chunks ih =>
    obtain ⟨first, later⟩ := List.forall_mem_cons.mp read
    have forms : Chunk.formsOf c.settings.readingWidth (chunk :: chunks) =
      (chunk.reading c.settings.readingWidth).forms ++
        Chunk.formsOf c.settings.readingWidth chunks := List.flatMap_cons
    rw [forms, answerForms_append] at fine ⊢
    have answered := answerChunk_eq chunk fine.first
    rw [first] at answered
    have unreported : (answerForms ev root (chunk.reading c.settings.readingWidth).forms >>=
      fun _ => reportFault none) = answerForms ev root _ := bind_unit _
    rw [unreported] at answered
    show (answerChunk ev root chunk >>= fun _ => answerChunks ev root (chunks ++ rest)) c m = _
    rw [bind_apply, answered, bind_assoc, bind_apply]
    cases ended : answerForms ev root (chunk.reading c.settings.readingWidth).forms c m with
    | ok a m₁ => exact ih later (fine.later ended)
    | error | fault | exhausted => rfl

/-- The first chunk with a syntax error is answered up to there, and the error is reported. -/
theorem answerChunks_of_first_fault {before after : List Chunk} {chunk : Chunk}
    {problem : SyntaxProblem} {loc : Location}
    (read : ∀ chunk ∈ before, (chunk.reading c.settings.readingWidth).fault = none)
    (refused : (chunk.reading c.settings.readingWidth).fault = some (.syntaxError problem loc))
    (fine : NoError (answerForms ev root (Chunk.formsOf c.settings.readingWidth before ++
      (chunk.reading c.settings.readingWidth).forms)) c m) :
    answerChunks ev root (before ++ chunk :: after) c m = (do
      answerForms ev root (Chunk.formsOf c.settings.readingWidth before ++
        (chunk.reading c.settings.readingWidth).forms)
      complain (Fault.syntaxError problem loc).message
      answerChunks ev root after) c m := by
  rw [answerForms_append] at fine ⊢
  rw [answerChunks_eq read fine.first, bind_assoc, bind_apply, bind_apply]
  cases ended : answerForms ev root (Chunk.formsOf c.settings.readingWidth before) c m with
  | ok a m₁ =>
    have answered := answerChunk_eq chunk (fine.later ended)
    rw [refused] at answered
    show (answerChunk ev root chunk >>= fun _ => answerChunks ev root after) c m₁ = _
    rw [bind_apply, answered]
    dsimp only
    rw [← bind_assoc, bind_apply]
    rfl
  | error | fault | exhausted => rfl

/-! ## Answering and evaluating -/

theorem Closed.answerForms {P : FrameId → {α : Type} → Eval α → Prop} (closed : Closed P)
    (hev : ∀ f expr, P f (ev f expr)) (f : FrameId) (forms : List Value) :
    P f (Eval.answerForms ev f forms) := by
  induction forms with
  | nil => exact closed.pure ()
  | cons form forms ih =>
    have delivered (text : String) : P f (put text) := by
      refine closed.bind (closed.attempt text) fun failure => ?_
      cases failure with
      | none => exact closed.pure ()
      | some reason => exact closed.abandon _
    refine closed.bind (hev f form) fun v => closed.bind (closed.ofExcept v.written) fun text => ?_
    exact closed.bind (delivered _) fun _ => ih

theorem changing_err : Changing fun _ m m' => m'.err = m.err where
  refl _ _ := rfl
  trans first second := second.trans first
  counted _ _ := rfl
  written _ _ _ := rfl
  bind _ _ _ _ := rfl
  assign _ _ _ _ := rfl
  inNewFrame _ _ _ _ _ _ inside := inside

theorem put_eq_of_accepting (accepting : ∀ n text, c.sink n text = none) (text : String)
    (m : Machine) :
    put text c m = .ok () { m with out := m.out ++ text, writes := m.writes + 1 } := by
  unfold put
  rw [bind_apply]
  unfold attempt
  rw [accepting]
  rfl

/-- If forms can be evaluated without an error, they can be answered without one. -/
theorem noError_answerForms (accepting : ∀ n text, c.sink n text = none) {fuel : Nat}
    {last v : Value} {forms : List Value}
    (evaluated : evalForms (evaluate fuel) root last forms c m = .ok v m') {m₁ : Machine}
    (akin : m.Akin m₁) : NoError (answerForms (evaluate fuel) root forms) c m₁ := by
  have steady : c.Steady := fun n n' text => (accepting n text).trans (accepting n' text).symm
  induction forms generalizing last m m₁ with
  | nil =>
    intro e m₂ failed
    have ended : Outcome.ok () m₁ = .error e m₂ := failed
    cases ended
  | cons form forms ih =>
    obtain ⟨w, n, first, later⟩ := exists_ok_of_bind evaluated
    obtain ⟨n', first', akin'⟩ := (unseen_evaluate fuel root form).exists_ok steady akin first
    intro e m₂ failed
    change (evaluate fuel root form >>= fun w => printed w >>= fun text =>
      put (text ++ "\n") >>= fun _ => answerForms (evaluate fuel) root forms) c m₁ = _ at failed
    rw [bind_apply, first'] at failed
    dsimp only at failed
    unfold printed at failed
    cases written : w.written with
    | error reason =>
      rw [written] at failed
      cases failed
    | ok text =>
      rw [written] at failed
      change (put (text ++ "\n") >>= fun _ => answerForms (evaluate fuel) root forms) c n' = _
        at failed
      rw [bind_apply, put_eq_of_accepting accepting] at failed
      have unwritten : n.Akin
          { n' with out := n'.out ++ (text ++ "\n"), writes := n'.writes + 1 } :=
        ⟨akin'.store, akin'.serial⟩
      exact ih later unwritten e m₂ failed

/-- Diagnostics are not seen either. -/
theorem exists_log (source line : String) (c : Context) (m : Machine) :
    ∃ m', log source line c m = .ok () m' ∧ m.Akin m' := by
  show ∃ m', (if c.verbose then _ else _ : Eval Unit) c m = _ ∧ _
  cases c.verbose with
  | false => exact ⟨m, rfl, .refl m⟩
  | true => exact ⟨_, rfl, ⟨rfl, rfl⟩⟩

theorem session_eq_of_answerChunks {input : List Char} {x : Eval Unit}
    (answered : ∀ m₁, m.Akin m₁ →
      answerChunks ev root (Session.submitted input) c m₁ = x c m₁) (prompt : Option String) :
    session ev root input false prompt c m = (do
      log interpreterLog "repl started"
      x
      log interpreterLog "repl finished") c m := by
  obtain ⟨m₁, logged, akin⟩ := exists_log interpreterLog "repl started" c m
  rw [session_eq, bind_apply, bind_apply, logged]
  dsimp only
  rw [bind_apply, bind_apply, answered m₁ akin]

/-- A session on an input that has no fault but a syntax error, and whose forms can be evaluated in
order without an error.

* If every chunk is read without a fault, the session comes to answering the forms of the chunks.
  These are all forms of the input unless text is left over, which is so if and only if the input
  has a syntax error; that error is not reported.
* Otherwise some forms of the input are answered, a syntax error is reported, and the session goes
  on with the remaining chunks.
* If the input has no syntax error, what makes the difference is whether a chunk ends in a quote
  mark.

Answering forms writes nothing to standard error. -/
theorem session_by_chunks (accepting : ∀ n text, c.sink n text = none) {fuel : Nat}
    {input : List Char}
    (syntactic : ∀ reason,
      (Session.wholeReading c.settings.readingWidth input).fault = some reason →
        ∃ problem loc, reason = .syntaxError problem loc) {v : Value}
    (evaluated : evalForms (evaluate fuel) root (.nil .unknown)
      (Session.wholeReading c.settings.readingWidth input).forms c m = .ok v m')
    (prompt : Option String) :
    let width := c.settings.readingWidth
    let whole := Session.wholeReading width input
    let chunks := Session.submitted input
    ((∀ chunk ∈ chunks, (chunk.reading width).fault = none) →
      session (evaluate fuel) root input false prompt c m = (do
        log interpreterLog "repl started"
        answerForms (evaluate fuel) root (Chunk.formsOf width chunks)
        log interpreterLog "repl finished") c m ∧
      Chunk.formsOf width chunks <+: whole.forms ∧
      (whole.fault = none ↔ Session.leftOver input = []) ∧
      (Session.leftOver input = [] → Chunk.formsOf width chunks = whole.forms)) ∧
    ((¬ ∀ chunk ∈ chunks, (chunk.reading width).fault = none) →
      ∃ forms problem loc later, forms <+: whole.forms ∧
        session (evaluate fuel) root input false prompt c m = (do
          log interpreterLog "repl started"
          answerForms (evaluate fuel) root forms
          complain (Fault.syntaxError problem loc).message
          answerChunks (evaluate fuel) root later
          log interpreterLog "repl finished") c m) ∧
    (whole.fault = none → ((∀ chunk ∈ chunks, (chunk.reading width).fault = none) ↔
      ∀ chunk ∈ chunks, ∀ t, chunk.tokens.getLast? = some t → t.kind ≠ .quote)) ∧
    ∀ forms m₁ m₂, (answerForms (evaluate fuel) root forms c m₁).machine? = some m₂ →
      m₂.err = m₁.err := by
  intro width whole chunks
  have fine {forms : List Value} (begins : forms <+: whole.forms) {m₁ : Machine}
      (akin : m.Akin m₁) : NoError (answerForms (evaluate fuel) root forms) c m₁ := by
    obtain ⟨later, all⟩ := begins
    have allFine := noError_answerForms accepting evaluated akin
    change NoError (answerForms (evaluate fuel) root whole.forms) c m₁ at allFine
    rw [← all, answerForms_append] at allFine
    exact allFine.first
  refine ⟨fun read => ?_, fun faulty => ?_, fun complete => ?_, fun forms m₁ m₂ ended => ?_⟩
  · obtain ⟨begins, complete, all⟩ := Session.forms_of_read read
    refine ⟨session_eq_of_answerChunks (fun m₁ akin => ?_) prompt, begins, complete, all⟩
    have answered := answerChunks_eq read (fine begins akin) []
    rw [List.append_nil] at answered
    exact answered.trans (congrFun (congrFun (bind_unit _) c) m₁)
  · obtain ⟨before, chunk, after, reason, split, read, refused⟩ :=
      Reader.exists_first_fault faulty
    obtain ⟨begins, cause⟩ := Session.forms_of_first_fault split read refused
    have isSyntaxError : ∃ problem loc, reason = .syntaxError problem loc := by
      rcases cause with fault | ⟨vs, state, -, fault⟩
      · exact syntactic reason fault
      · exact Reader.exists_syntaxError_of_atEnd fault
    obtain ⟨problem, loc, rfl⟩ := isSyntaxError
    refine ⟨_, problem, loc, after, begins, ?_⟩
    have answered (m₁ : Machine) (akin : m.Akin m₁) :
        answerChunks (evaluate fuel) root chunks c m₁ = (do
          answerForms (evaluate fuel) root
            (Chunk.formsOf width before ++ (chunk.reading width).forms)
          complain (Fault.syntaxError problem loc).message
          answerChunks (evaluate fuel) root after) c m₁ := by
      rw [split]
      exact answerChunks_of_first_fault read refused (fine begins akin)
    rw [session_eq_of_answerChunks answered prompt]
    simp only [bind_assoc]
  · exact Session.read_iff_of_wholeReading complete
  · have kept := changing_err.closed.answerForms (changing_err.evaluate fuel) root forms
    exact kept.run ended

/-- A root frame that binds `quote`. -/
def quoting : Machine :=
  ⟨(Store.empty.newFrame none).bind 0 (.symbol "quote" .unknown) (.native .quote 0), 1, "", 0, ""⟩

/-- A pair over two lines, a comment, and a last line without a newline. -/
def pairOverLines : List Char := "'(1\n . 2) ; two lines\n() 'x".toList

theorem pairOverLines_session :
    ∃ v m', evalForms (evaluate 5) 0 (.nil .unknown)
        (Session.wholeReading Settings.unset.readingWidth pairOverLines).forms
        (.ofSettings .unset) quoting = .ok v m' ∧
      session (evaluate 5) 0 pairOverLines false none (.ofSettings .unset) quoting = (do
        log interpreterLog "repl started"
        answerForms (evaluate 5) 0
          (Session.wholeReading Settings.unset.readingWidth pairOverLines).forms
        log interpreterLog "repl finished") (.ofSettings .unset) quoting := by
  have complete :
      (Session.wholeReading Settings.unset.readingWidth pairOverLines).fault = none := by
    decide +kernel
  have read : ∀ chunk ∈ Session.submitted pairOverLines,
      (chunk.reading Settings.unset.readingWidth).fault = none := by decide +kernel
  have nothing : Session.leftOver pairOverLines = [] := by decide +kernel
  have syntactic : ∀ reason,
      (Session.wholeReading Settings.unset.readingWidth pairOverLines).fault = some reason →
        ∃ problem loc, reason = .syntaxError problem loc := by
    intro reason fault
    rw [complete] at fault
    cases fault
  have ends : ∃ v m', evalForms (evaluate 5) 0 (.nil .unknown)
      (Session.wholeReading Settings.unset.readingWidth pairOverLines).forms
      (.ofSettings .unset) quoting = .ok v m' := ⟨_, _, rfl⟩
  obtain ⟨v, m', evaluated⟩ := ends
  refine ⟨v, m', evaluated, ?_⟩
  have agrees := session_by_chunks (c := .ofSettings .unset) (fun _ _ => rfl) syntactic
    evaluated none
  obtain ⟨same, -, -, all⟩ := agrees.1 read
  have forms : Chunk.formsOf Settings.unset.readingWidth (Session.submitted pairOverLines) =
      (Session.wholeReading Settings.unset.readingWidth pairOverLines).forms := all nothing
  rw [← forms]
  exact same

/-- A quotation over two lines. -/
def cutQuotation : List Char := "'\n(a b)\n".toList

/-- A list that is not closed. -/
def openList : List Char := "(car 1".toList

/-- The quotation is refused, although the input has no fault, and the list is dropped without a
word. -/
theorem lost_lines :
    ((Session.wholeReading Settings.unset.readingWidth cutQuotation).fault = none ∧
      (∃ v m', evalForms (evaluate 5) 0 (.nil .unknown)
        (Session.wholeReading Settings.unset.readingWidth cutQuotation).forms
        (.ofSettings .unset) quoting = .ok v m') ∧
      ∃ m', (session (evaluate 5) 0 cutQuotation false none (.ofSettings .unset)
        quoting).machine? = some m' ∧ m'.err ≠ quoting.err) ∧
    (Session.wholeReading Settings.unset.readingWidth openList).forms = [] ∧
    (Session.wholeReading Settings.unset.readingWidth openList).fault =
      some (.syntaxError .unmatchedOpen ⟨"<stdin>", 1, 1⟩) ∧
    ∃ m', (session (evaluate 5) 0 openList false none (.ofSettings .unset)
      quoting).machine? = some m' ∧ m'.err = quoting.err := by
  have refused : ((session (evaluate 5) 0 cutQuotation false none (.ofSettings .unset)
      quoting).machine?.map fun m => decide (m.err = quoting.err)) = some false := by
    decide +kernel
  have dropped : ((session (evaluate 5) 0 openList false none (.ofSettings .unset)
      quoting).machine?.map Machine.err) = some quoting.err := by decide +kernel
  obtain ⟨m₁, ended₁, reported⟩ := Option.map_eq_some_iff.mp refused
  obtain ⟨m₂, ended₂, silent⟩ := Option.map_eq_some_iff.mp dropped
  refine ⟨⟨by decide +kernel, ⟨_, _, rfl⟩, m₁, ended₁, of_decide_eq_false reported⟩, ?_⟩
  exact ⟨by decide +kernel, by decide +kernel, m₂, ended₂, silent⟩

end Eval

end MiniLisp
