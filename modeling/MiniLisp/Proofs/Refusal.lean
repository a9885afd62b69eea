import MiniLisp.Proofs.Loading
import MiniLisp.Proofs.PrintedWord
import MiniLisp.Proofs.Sessions

/-!
# Why reading fails

A text is refused for one of three reasons. Its tokens are in a wrong order, or an integer does not
have the width: then the fault is a syntax error, and it is reported where one of the tokens stands.
An integer literal has too many digits to be read: that is a fault of its own, and nobody who waits
for syntax errors only is prepared for it. Or there is no room for the bounds of the width.

* `HasLongLiteral`: a literal of the text has too many digits;
* `Reader.explained_step`, `Reader.fault_of_many`: what a token is refused for, and some tokens;
* `Refusal`, `refusal_of_fault`: the reasons, and that there is no other;
* `Eval.answerChunk_of_fault`, `Eval.runFile_of_fault`: who reads a text and is spared a long
  literal fails only where a form does.
-/

namespace MiniLisp

/-! ## Literals -/

/-- The numeral that the token spells, if it is a literal. -/
def Token.numeral? (t : Token) : Option Text.Numeral :=
  if t.kind = .symbol then Text.Numeral.ofLiteral? t.text.toList else none

theorem Token.numeral?_eq_some {t : Token} {n : Text.Numeral} :
    t.numeral? = some n ↔ t.kind = .symbol ∧ Text.Numeral.ofLiteral? t.text.toList = some n := by
  simp [numeral?]

/-- The token is a literal of more digits than are read. -/
def Token.IsLongLiteral (t : Token) : Prop := ∃ n, t.numeral? = some n ∧ n.tooLong = true

instance (t : Token) : Decidable t.IsLongLiteral :=
  decidable_of_iff (t.numeral?.any (·.tooLong) = true) (by
    simp [Token.IsLongLiteral, Option.any_eq_true])

/-- A literal of the text has more digits than are read. -/
def HasLongLiteral (text : List Char) : Prop := ∃ t ∈ tokens text "<input>" 1, t.IsLongLiteral

instance (text : List Char) : Decidable (HasLongLiteral text) :=
  inferInstanceAs (Decidable (∃ t ∈ tokens text "<input>" 1, t.IsLongLiteral))

theorem Token.numeral?_of_content {t u : Token} (same : t.content = u.content) :
    t.numeral? = u.numeral? := by
  obtain ⟨kind, text⟩ := Prod.mk.inj same
  unfold numeral?
  rw [kind, text]

/-- Where the text stands makes no difference to its literals. -/
theorem hasLongLiteral_iff (text : List Char) (source : String) (line : Int) :
    HasLongLiteral text ↔ ∃ t ∈ tokens text source line, t.IsLongLiteral := by
  have transfer {ts us : List Token} (same : ts.map Token.content = us.map Token.content) :
      (∃ t ∈ ts, t.IsLongLiteral) → ∃ t ∈ us, t.IsLongLiteral := by
    rintro ⟨t, mem, n, spelled, long⟩
    obtain ⟨u, memU, content⟩ := List.mem_map.mp (same ▸ List.mem_map_of_mem mem)
    exact ⟨u, memU, n, (Token.numeral?_of_content content).trans spelled, long⟩
  have same := Token.map_content_tokens text "<input>" source 1 line
  exact ⟨transfer same, transfer same.symm⟩

/-- The fault is a syntax error that is reported at the location. -/
def Fault.IsSyntaxErrorAt (reason : Fault) (loc : Location) : Prop :=
  ∃ problem, reason = .syntaxError problem loc

namespace Reader

variable {width : Except Fault Nat} {state state' : State} {t : Token} {ts : List Token}
  {reason : Fault}

/-! ## One token -/

/-- The token is a literal that cannot be read: it is too long, or there is no width that it could
be compared with. -/
def UnreadLiteral (width : Except Fault Nat) (t : Token) (reason : Fault) : Prop :=
  ∃ n, t.numeral? = some n ∧
    if n.tooLong then reason = .literalTooLong n.digits.length else width = .error reason

theorem fault_of_atom (kind : t.kind = .symbol)
    (refused : atom width t.text t.loc = .error reason) :
    reason.IsSyntaxErrorAt t.loc ∨ UnreadLiteral width t reason := by
  have spelled : t.numeral? = Text.Numeral.ofLiteral? t.text.toList := if_pos kind
  unfold atom at refused
  split at refused
  · cases refused
  split at refused
  · cases refused
  split at refused
  · cases refused
  next numeral literal =>
  rw [← spelled] at literal
  split at refused
  · next long =>
    cases refused
    exact .inr ⟨numeral, literal, by rw [if_pos long]⟩
  next short =>
  split at refused
  · cases refused
    exact .inr ⟨numeral, literal, by rw [if_neg short]⟩
  · split at refused
    · cases refused
    · cases refused
      exact .inl ⟨_, rfl⟩

/-- The place where the construct was begun. -/
def Pending.begun : Pending → Location
  | .quote loc => loc
  | .items opened _ => opened
  | .tail opened _ => opened

/-- The places where the constructs were begun that are not finished yet. -/
def State.begun : State → List Location
  | .awaiting stack => stack.map Pending.begun
  | .closing opened _ _ below => opened :: below.map Pending.begun

/-- What the token may lead to where constructs were begun at the given places: no construct is
begun anywhere but at the token, and if the token is refused, it is for its own sake. -/
def Step.Explained (width : Except Fault Nat) (t : Token) (places : List Location) : Step → Prop
  | .next state => ∀ loc ∈ state.begun, loc = t.loc ∨ loc ∈ places
  | .done _ => True
  | .refuse reason => reason.IsSyntaxErrorAt t.loc ∨ UnreadLiteral width t reason
  | .refuseAhead reason => reason.IsSyntaxErrorAt t.loc ∨ UnreadLiteral width t reason

theorem Step.Explained.mono {places places' : List Location} {s : Step}
    (among : ∀ loc ∈ places, loc ∈ places') (h : s.Explained width t places) :
    s.Explained width t places' := by
  cases s with
  | next state => exact fun loc mem => (h loc mem).imp_right (among loc)
  | done => trivial
  | refuse | refuseAhead => exact h

theorem explained_complete (v : Value) (stack : List Pending) :
    (complete v stack).Explained width t (stack.map Pending.begun) := by
  fun_induction complete v stack with
  | case1 v => trivial
  | case2 v loc below ih => exact ih.mono fun _ => List.mem_cons_of_mem loc
  | case3 v opened reversed below => exact fun loc => .inr
  | case4 v opened reversed below => exact fun loc => .inr

theorem explained_start (stack : List Pending) (t : Token) :
    (start width stack t).Explained width t (stack.map Pending.begun) := by
  unfold start
  split
  · next kind =>
    split
    · exact explained_complete _ stack
    · next failed => exact fault_of_atom kind failed
  · exact fun loc => List.mem_cons.mp
  · exact fun loc => List.mem_cons.mp
  · exact .inl ⟨_, rfl⟩
  · exact .inl ⟨_, rfl⟩

theorem explained_step (width : Except Fault Nat) (state : State) (t : Token) :
    (step width state t).Explained width t state.begun := by
  unfold step
  split
  · split
    · exact (explained_complete _ _).mono fun _ => List.mem_cons_of_mem _
    · exact .inl ⟨_, rfl⟩
  · split
    · exact (explained_complete _ _).mono fun _ => List.mem_cons_of_mem _
    · split
      · split
        · exact .inl ⟨_, rfl⟩
        · exact fun loc => .inr
      · exact explained_start _ t
  · exact explained_start _ t

theorem isNot_of_numeral? {n : Text.Numeral} (spelled : t.numeral? = some n) (word : String)
    (none : Text.Numeral.ofLiteral? word.toList = none) : (t.text == word) = false := by
  obtain ⟨-, literal⟩ := Token.numeral?_eq_some.mp spelled
  rw [beq_eq_false_iff_ne]
  rintro rfl
  rw [none] at literal
  cases literal

theorem start_of_tooLong {n : Text.Numeral} (spelled : t.numeral? = some n)
    (tooLong : n.tooLong = true) (width : Except Fault Nat) (stack : List Pending) :
    start width stack t = .refuse (.literalTooLong n.digits.length) := by
  obtain ⟨kind, literal⟩ := Token.numeral?_eq_some.mp spelled
  unfold start atom
  rw [kind, isNot_of_numeral? spelled "nil" rfl, isNot_of_numeral? spelled "t" rfl, literal]
  dsimp only
  rw [if_pos tooLong]
  rfl

/-- A literal that is too long is refused in every state. -/
theorem refused_of_isLongLiteral (width : Except Fault Nat) (long : t.IsLongLiteral)
    (state : State) :
    ∃ reason, step width state t = .refuse reason ∨ step width state t = .refuseAhead reason := by
  obtain ⟨n, spelled, tooLong⟩ := long
  have kind : t.kind = .symbol := (Token.numeral?_eq_some.mp spelled).1
  have noClose : (t.kind == .rparen) = false := by rw [kind]; rfl
  have noDot : isDot t = false := by
    unfold isDot
    rw [isNot_of_numeral? spelled "." rfl, Bool.and_false]
  unfold step
  split
  · rw [noClose]
    exact ⟨_, .inr rfl⟩
  · rw [noClose, noDot]
    exact ⟨_, .inl (start_of_tooLong spelled tooLong width _)⟩
  · exact ⟨_, .inl (start_of_tooLong spelled tooLong width _)⟩

/-! ## Some tokens -/

theorem fault_of_atEnd (h : atEnd state = some reason) :
    ∃ loc ∈ state.begun, reason.IsSyntaxErrorAt loc := by
  cases state with
  | closing opened =>
    cases h
    exact ⟨opened, List.mem_cons_self, _, rfl⟩
  | awaiting stack =>
    cases stack with
    | nil => cases h
    | cons pending below =>
      cases pending <;> cases h
      all_goals exact ⟨_, List.mem_cons_self, _, rfl⟩

/-- A fault that ends reading is a syntax error at one of the tokens, or where a construct had been
begun before, or one of the tokens is a literal that cannot be read. -/
theorem fault_of_many (h : (many width state ts).fault = some reason) :
    (∃ loc, reason.IsSyntaxErrorAt loc ∧ (loc ∈ state.begun ∨ ∃ t ∈ ts, loc = t.loc)) ∨
      ∃ t ∈ ts, UnreadLiteral width t reason := by
  induction ts generalizing state with
  | nil =>
    obtain ⟨loc, mem, refused⟩ := fault_of_atEnd h
    exact .inl ⟨loc, refused, .inl mem⟩
  | cons t ts ih =>
    have explained := explained_step width state t
    have here (refused : reason.IsSyntaxErrorAt t.loc ∨ UnreadLiteral width t reason) :
        (∃ loc, reason.IsSyntaxErrorAt loc ∧ (loc ∈ state.begun ∨ ∃ u ∈ t :: ts, loc = u.loc)) ∨
          ∃ u ∈ t :: ts, UnreadLiteral width u reason :=
      refused.imp (fun refused => ⟨t.loc, refused, .inr ⟨t, List.mem_cons_self, rfl⟩⟩)
        fun unread => ⟨t, List.mem_cons_self, unread⟩
    unfold many at h
    split at h
    · next next stepped =>
      rw [stepped] at explained
      rcases ih h with ⟨loc, refused, begun | ⟨u, mem, rfl⟩⟩ | ⟨u, mem, unread⟩
      · rcases explained loc begun with rfl | begun
        · exact here (.inl refused)
        · exact .inl ⟨loc, refused, .inl begun⟩
      · exact .inl ⟨_, refused, .inr ⟨u, List.mem_cons_of_mem t mem, rfl⟩⟩
      · exact .inr ⟨u, List.mem_cons_of_mem t mem, unread⟩
    · -- a complete expression leaves nothing begun
      rcases ih h with ⟨loc, refused, begun | ⟨u, mem, rfl⟩⟩ | ⟨u, mem, unread⟩
      · cases begun
      · exact .inl ⟨_, refused, .inr ⟨u, List.mem_cons_of_mem t mem, rfl⟩⟩
      · exact .inr ⟨u, List.mem_cons_of_mem t mem, unread⟩
    · next stepped =>
      cases h
      rw [stepped] at explained
      exact here explained
    · next stepped =>
      cases h
      rw [stepped] at explained
      exact here explained

/-- Reading does not get past a literal that is too long. -/
theorem fault_ne_none_of_isLongLiteral (mem : t ∈ ts) (long : t.IsLongLiteral) (state : State) :
    (many width state ts).fault ≠ none := by
  obtain ⟨before, after, rfl⟩ := List.append_of_mem mem
  rw [(many_eq_consume state _).2]
  rcases earlier : consume width state before with ⟨vs, fault | next⟩
  · rw [consume_append_of_refused earlier]
    nofun
  · obtain ⟨reason, refused⟩ := refused_of_isLongLiteral width long next
    rw [consume_append earlier, consume_of_refused refused]
    nofun

end Reader

/-! ## Texts -/

namespace Settings

variable {s : Settings} {bits : Nat}

theorem readingWidth_of_width (width : s.width = .ok bits) (room : bits - 1 ≤ memoryBound) :
    s.readingWidth = .ok bits := by
  have address : bits - 1 ≤ addressBound := Nat.le_trans room (by decide)
  simp only [readingWidth, widthWithRoom, width, bind, Except.bind]
  rw [if_neg (Nat.not_lt.mpr address), if_neg (Nat.not_lt.mpr room)]
  rfl

/-- If there is a width and it still cannot be had for reading, it is enormous. -/
theorem fault_of_readingWidth (width : s.width = .ok bits) {reason : Fault}
    (failed : s.readingWidth = .error reason) :
    memoryBound < bits - 1 ∧ (reason = .widthTooLarge ∨ reason = .outOfMemory) := by
  have enormous : memoryBound < bits - 1 := by
    refine Nat.not_le.mp fun room => ?_
    rw [readingWidth_of_width width room] at failed
    cases failed
  refine ⟨enormous, ?_⟩
  simp only [readingWidth, widthWithRoom, width, bind, Except.bind] at failed
  split at failed
  · cases failed
    exact .inl rfl
  · cases failed
    exact .inr rfl

end Settings

/-- Why a text with these tokens cannot be read to its end where integers have the width.

* `misplaced`: there is a syntax error, and it is reported where one of the tokens stands;
* `tooLong`: one of the tokens is a literal of too many digits;
* `noAddress`, `noMemory`: the width is so enormous that integers cannot be compared with its
  bounds. -/
inductive Refusal (bits : Nat) (ts : List Token) : Fault → Prop
  | misplaced {t : Token} (problem : SyntaxProblem) : t ∈ ts →
      Refusal bits ts (.syntaxError problem t.loc)
  | tooLong {t : Token} {n : Text.Numeral} : t ∈ ts → t.numeral? = some n → n.tooLong = true →
      Refusal bits ts (.literalTooLong n.digits.length)
  | noAddress : Settings.memoryBound < bits - 1 → Refusal bits ts .widthTooLarge
  | noMemory : Settings.memoryBound < bits - 1 → Refusal bits ts .outOfMemory

/-- Every fault that ends reading is a refusal. -/
theorem refusal_of_fault {s : Settings} {bits : Nat} (width : s.width = .ok bits)
    {text : List Char} {source : String} {line : Int} {reason : Fault}
    (refused : (readText s.readingWidth text source line).fault = some reason) :
    Refusal bits (tokens text source line) reason := by
  rcases Reader.fault_of_many refused with
    ⟨loc, ⟨problem, rfl⟩, begun | ⟨t, mem, rfl⟩⟩ | ⟨t, mem, n, spelled, unread⟩
  · -- nothing is begun before the first token
    cases begun
  · exact .misplaced problem mem
  · split at unread
    · next long =>
      cases unread
      exact .tooLong mem spelled long
    · obtain ⟨enormous, rfl | rfl⟩ := Settings.fault_of_readingWidth width unread
      · exact .noAddress enormous
      · exact .noMemory enormous

/-- A text is not read to its end if one of its literals is too long. -/
theorem HasLongLiteral.refused {text : List Char} (long : HasLongLiteral text)
    (width : Except Fault Nat) (source : String) (line : Int) :
    (readText width text source line).fault ≠ none := by
  obtain ⟨t, mem, long⟩ := (hasLongLiteral_iff text source line).mp long
  exact Reader.fault_ne_none_of_isLongLiteral mem long _

/-- Where no literal is too long and there is room for the width, nothing but a syntax error ends
reading. -/
theorem syntaxError_of_fault {s : Settings} {bits : Nat} (width : s.width = .ok bits)
    (room : bits - 1 ≤ Settings.memoryBound) {text : List Char} (short : ¬ HasLongLiteral text)
    {source : String} {line : Int} {reason : Fault}
    (refused : (readText s.readingWidth text source line).fault = some reason) :
    ∃ t ∈ tokens text source line, reason.IsSyntaxErrorAt t.loc := by
  cases refusal_of_fault width refused with
  | misplaced problem mem => exact ⟨_, mem, problem, rfl⟩
  | tooLong mem spelled long =>
    exact absurd ((hasLongLiteral_iff text source line).mpr ⟨_, mem, _, spelled, long⟩) short
  | noAddress enormous | noMemory enormous => exact absurd room (Nat.not_le.mpr enormous)

namespace Eval

variable {ev : Evaluator} {root : FrameId} {c : Context} {bits : Nat} {m m' : Machine}
  {reason : Fault}

/-- Reading does not end a session: if a chunk does, then one of its forms. -/
theorem answerChunk_of_fault (width : c.settings.width = .ok bits)
    (room : bits - 1 ≤ Settings.memoryBound) (chunk : Chunk) (short : ¬ HasLongLiteral chunk.text)
    (failed : answerChunk ev root chunk c m = .fault reason m') :
    answerForms ev root (chunk.reading c.settings.readingWidth).forms c m = .fault reason m' := by
  have reported (m₁ : Machine) :
      ∃ m₂, reportFault (chunk.reading c.settings.readingWidth).fault c m₁ = .ok () m₂ := by
    cases refused : (chunk.reading c.settings.readingWidth).fault with
    | none => exact ⟨m₁, rfl⟩
    | some reason =>
      obtain ⟨t, -, problem, rfl⟩ := syntaxError_of_fault width room short refused
      exact ⟨_, rfl⟩
  change reportingError (do
    answerForms ev root (chunk.reading c.settings.readingWidth).forms
    reportFault (chunk.reading c.settings.readingWidth).fault) c m = _ at failed
  unfold reportingError at failed
  rw [bind_apply] at failed
  unfold catchError at failed
  rw [bind_apply] at failed
  cases ended : answerForms ev root (chunk.reading c.settings.readingWidth).forms c m with
  | ok a m₁ =>
    obtain ⟨m₂, reported⟩ := reported m₁
    rw [ended] at failed
    dsimp only at failed
    rw [reported] at failed
    cases failed
  | error | exhausted =>
    rw [ended] at failed
    cases failed
  | fault reason₁ m₁ =>
    rw [ended] at failed
    cases failed
    rfl

/-- A chunk without a form ends the session with its fault, unless that is a syntax error. -/
theorem answerChunk_of_refused (chunk : Chunk) {rest : TokenStream}
    (read : chunk.reading c.settings.readingWidth = ⟨[], some reason, rest⟩)
    (unexpected : ∀ problem loc, reason ≠ .syntaxError problem loc) :
    answerChunk ev root chunk c m = .fault reason m := by
  show reportingError (do
    answerForms ev root (chunk.reading c.settings.readingWidth).forms
    reportFault (chunk.reading c.settings.readingWidth).fault) c m = _
  rw [read]
  cases reason with
  | syntaxError problem loc => exact absurd rfl (unexpected problem loc)
  | _ => rfl

/-- Reading does not end a batch: if a text does, then one of its forms. -/
theorem runFile_of_fault (width : c.settings.width = .ok bits)
    (room : bits - 1 ≤ Settings.memoryBound) {files : FileReader} {path : String}
    {text : List Char} (opened : sourceAt files path = .ok text) (short : ¬ HasLongLiteral text)
    (failed : runFile ev root files path c m = .fault reason m') :
    evalForms ev root (.nil .unknown)
      (readText c.settings.readingWidth text (Path.normal path) 1).forms c (opening c path m) =
        .fault reason m' := by
  rw [runFile_apply, loadFile_of_text opened] at failed
  cases ended : evalForms ev root (.nil .unknown)
      (readText c.settings.readingWidth text (Path.normal path) 1).forms c (opening c path m) with
  | ok v m₁ =>
    rw [ended] at failed
    cases refused : (readText c.settings.readingWidth text (Path.normal path) 1).fault with
    | none =>
      rw [refused] at failed
      cases failed
    | some reason =>
      obtain ⟨t, -, problem, rfl⟩ := syntaxError_of_fault width room short refused
      rw [refused] at failed
      cases failed
  | error | exhausted =>
    rw [ended] at failed
    cases failed
  | fault reason₁ m₁ =>
    rw [ended] at failed
    cases reason₁ <;> cases failed <;> rfl

/-- What ends reading a text, and who is prepared for it.

* Every fault is a refusal, and a literal that is too long is always refused.
* Without such a literal, and with room for the width, only a syntax error ends reading, and it is
  reported where a token stands. Then whoever waits for syntax errors survives the text: a chunk of
  a session and a file of a batch end in a fault only if one of their forms does. -/
theorem reading_ends_in_refusal {c : Context} {bits : Nat} (width : c.settings.width = .ok bits)
    (text : List Char) (source : String) (line : Int) :
    let reading := readText c.settings.readingWidth text source line
    (∀ reason, reading.fault = some reason → Refusal bits (tokens text source line) reason) ∧
    (HasLongLiteral text → reading.fault ≠ none) ∧
    (¬ HasLongLiteral text → bits - 1 ≤ Settings.memoryBound →
      (∀ reason, reading.fault = some reason →
        ∃ t ∈ tokens text source line, reason.IsSyntaxErrorAt t.loc) ∧
      ∀ (fuel : Nat) (root : FrameId) (m m' : Machine) (reason : Fault),
        (answerChunk (evaluate fuel) root ⟨text, line⟩ c m = .fault reason m' →
          answerForms (evaluate fuel) root
            (readText c.settings.readingWidth text Session.source line).forms c m =
              .fault reason m') ∧
        ∀ (files : FileReader) (path : String), sourceAt files path = .ok text →
          runFile (evaluate fuel) root files path c m = .fault reason m' →
          evalForms (evaluate fuel) root (.nil .unknown)
            (readText c.settings.readingWidth text (Path.normal path) 1).forms c
            (opening c path m) = .fault reason m') := by
  intro reading
  refine ⟨fun reason => refusal_of_fault width, fun long => long.refused _ source line,
    fun short room => ⟨fun reason => syntaxError_of_fault width room short, ?_⟩⟩
  intro fuel root m m' reason
  exact ⟨answerChunk_of_fault width room ⟨text, line⟩ short,
    fun files path opened => runFile_of_fault width room opened short⟩

/-- A closing parenthesis too many. -/
theorem strayParenthesis_is_syntaxError :
    ∃ t ∈ tokens "(car 'x)) 12".toList "<input>" 1,
      Fault.IsSyntaxErrorAt (.syntaxError .unmatchedClose ⟨"<input>", 1, 9⟩) t.loc :=
  ((reading_ends_in_refusal (c := .ofSettings .unset) rfl "(car 'x)) 12".toList
    "<input>" 1).2.2 (by decide +kernel) (by decide)).1 _ (by decide +kernel)

end Eval

/-! ## A literal that is too long -/

theorem tokens_word {cs : List Char} (some : cs ≠ [])
    (word : ∀ c ∈ cs, Token.isWordChar c = true) (source : String) (line : Int) :
    tokens cs source line = [⟨.symbol, String.ofList cs, .start source line⟩] := by
  have scanned := Token.scan_word some word Token.delimited_nil (.start source line)
  rw [List.append_nil] at scanned
  exact scanned

/-- A text that is nothing but a run of too many digits is refused as that. -/
theorem readText_of_digits {cs : List Char} {ds : List Nat} (some : cs ≠ [])
    (word : ∀ c ∈ cs, Token.isWordChar c = true)
    (spelled : cs.mapM Text.digitValue? = .some ds) (long : Text.digitLimit < ds.length)
    (width : Except Fault Nat) (source : String) (line : Int) :
    readText width cs source line = ⟨[], .some (.literalTooLong ds.length), ⟨none, []⟩⟩ := by
  have digits : Text.Numeral.digits? cs = .some ds := by simp [Text.Numeral.digits?, some, spelled]
  have numeral : Token.numeral? ⟨.symbol, String.ofList cs, .start source line⟩ =
      .some ⟨false, ds⟩ := by
    simp [Token.numeral?, Text.Numeral.ofLiteral?, Text.Numeral.takeSign_of_mapM spelled, digits]
  have stepped : Reader.step width (.awaiting [])
      ⟨.symbol, String.ofList cs, .start source line⟩ = .refuse (.literalTooLong ds.length) :=
    Reader.start_of_tooLong numeral (decide_eq_true long) width []
  show Reader.many width (.awaiting []) (tokens cs source line) = _
  rw [tokens_word some word]
  unfold Reader.many
  rw [stepped]

theorem mapM_digitValue?_replicate (n : Nat) :
    (List.replicate n '9').mapM Text.digitValue? = some (List.replicate n 9) := by
  induction n with
  | zero => rfl
  | succ n ih =>
    have nine : Text.digitValue? '9' = some 9 := by decide
    simp [List.replicate_succ, ih, nine]

/-- As many nines as have one digit too many to be read. -/
def manyNines : List Char := List.replicate (Text.digitLimit + 1) '9'

theorem readText_manyNines (width : Except Fault Nat) (source : String) (line : Int) :
    readText width manyNines source line =
      ⟨[], some (.literalTooLong (Text.digitLimit + 1)), ⟨none, []⟩⟩ := by
  have word : ∀ c ∈ manyNines, Token.isWordChar c = true := by
    intro c mem
    rw [List.eq_of_mem_replicate mem]
    decide
  have some : manyNines ≠ [] := List.ne_nil_of_length_eq_add_one List.length_replicate
  have read := readText_of_digits some word (mapM_digitValue?_replicate _)
    (by rw [List.length_replicate]; exact Nat.lt_succ_self _) width source line
  rwa [List.length_replicate] at read

/-- Not every fault that ends reading is a syntax error, and the one that a long literal leads to
ends a session. -/
theorem longLiteral_is_no_syntaxError :
    ¬ (∀ (text : List Char) (source : String) (line : Int) (reason : Fault),
      (readText (Settings.readingWidth .unset) text source line).fault = some reason →
      ∃ t ∈ tokens text source line, reason.IsSyntaxErrorAt t.loc) ∧
    Eval.answerChunk (Eval.evaluate 1) 0 ⟨manyNines, 1⟩ (.ofSettings .unset) .initial =
      .fault (.literalTooLong (Text.digitLimit + 1)) .initial := by
  refine ⟨fun all => ?_, ?_⟩
  · obtain ⟨t, -, problem, eq⟩ := all manyNines "<input>" 1 _
      (congrArg Reader.Reading.fault (readText_manyNines _ _ _))
    cases eq
  · exact Eval.answerChunk_of_refused ⟨manyNines, 1⟩ (readText_manyNines _ _ _) nofun

end MiniLisp
