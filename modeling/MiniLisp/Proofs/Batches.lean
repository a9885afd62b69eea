import MiniLisp.Proofs.FaultFree
import MiniLisp.Proofs.Refusal

/-!
# How a batch ends

A batch gets over a file that cannot be opened, that has a syntax error or that ends in an error: it
writes one line about it and goes on in the store that the file left. It does not get over a path
that contains a null character, over bytes that are no text, and over a literal that is too long.
There it ends, and the files that follow are never attempted.

* `Eval.Attempts`: the batch gets over some files, one after the other;
* `Eval.BatchEnds`, `Eval.batchEnds`: the four ways for a batch to end, and that there is no other;
* `Eval.runFiles_append`: a batch in two parts;
* `Eval.batch_goes_on`: the result.
-/

namespace MiniLisp

/-- A batch reports the fault on a line and goes on. -/
def Fault.IsReported : Fault → Prop
  | .syntaxError .. => True
  | .unreadable .. => True
  | _ => False

/-- A setting is invalid or too large: that is nothing to do with a file. -/
theorem Settings.not_isReported {s : Settings} {exponent : Nat → Nat} {reason : Fault}
    (failed : s.widthWithRoom exponent = .error reason) : ¬ reason.IsReported := by
  have integer {setting : String} {raw : Option String}
      (failed : readInteger setting raw = .error reason) : ¬ reason.IsReported := by
    unfold readInteger at failed
    repeat' split at failed
    all_goals cases failed
    all_goals exact id
  have asked (failed : s.width = .error reason) : ¬ reason.IsReported := by
    unfold width at failed
    split at failed
    · next failed' =>
      cases failed
      exact integer failed'
    · cases failed
    · split at failed
      · cases failed
        exact id
      · cases failed
  unfold widthWithRoom at failed
  cases known : s.width with
  | error reason' =>
    rw [known] at failed
    cases failed
    exact asked known
  | ok bits =>
    simp only [known, bind, Except.bind] at failed
    split at failed
    · cases failed
      exact id
    · split at failed
      · cases failed
        exact id
      · cases failed

/-- Of the faults of reading, a batch reports the syntax errors. -/
theorem syntaxError_of_isReported {s : Settings} {text : List Char} {source : String} {line : Int}
    {reason : Fault} (refused : (readText s.readingWidth text source line).fault = some reason)
    (reported : reason.IsReported) : ∃ problem loc, reason = .syntaxError problem loc := by
  rcases Reader.fault_of_many refused with ⟨loc, ⟨problem, rfl⟩, -⟩ | ⟨t, -, n, -, unread⟩
  · exact ⟨problem, loc, rfl⟩
  · split at unread
    · subst unread
      exact reported.elim
    · exact absurd reported (Settings.not_isReported unread)

/-- Two integers that cannot be joined are nothing to do with a file either. -/
theorem FoldRule.not_isReported {rule : FoldRule} {a b : Int} {reason : Fault}
    (failed : rule.join a b = .error reason) : ¬ reason.IsReported := by
  cases rule with
  | sum | difference | product => cases failed
  | quotient | remainder =>
    unfold join at failed
    dsimp only at failed
    split at failed
    · cases failed
      exact id
    · cases failed

theorem Fold.not_isReported {operations : String → Int → Int → Int} {operation : Fold} {a b : Int}
    {reason : Fault} (failed : operation.join operations a b = .error reason) :
    ¬ reason.IsReported := by
  unfold join at failed
  split at failed
  · exact FoldRule.not_isReported failed
  · cases failed

namespace Policy

variable {p : Policy} {c : Context} {n : Nat}

/-- Whatever may happen except that an evaluation ends in a fault which a batch would report. -/
def unreported : Policy := { any with fault := fun reason => ¬ reason.IsReported }

theorem sound_unreported (c : Context) : unreported.Sound c :=
  { sound_any c with
    widthless := Settings.not_isReported
    unjoined := fun _ _ => Fold.not_isReported
    unwritten := fun _ _ => id }

theorem Safe.of_store {m m' : Machine} (safe : p.Safe n m) (same : m'.store = m.store) :
    p.Safe n m' := by
  unfold Safe
  rwa [same]

/-- A store in which a policy holds is well-formed, whatever the policy is. -/
theorem Safe.unreported {m : Machine} (safe : p.Safe n m) : unreported.Safe n m :=
  ⟨safe.1, safe.2.imp fun _ _ => trivial⟩

/-- Evaluating the forms of a text keeps a policy that allows them to stand anywhere. -/
theorem Sound.keeps_evalForms (sound : p.Sound c) (anywhere : ∀ loc, p.place loc) {root : FrameId}
    {m : Machine} (safe : p.Safe (root + 1) m) (fuel : Nat) (text : List Char) (source : String)
    (line : Int) {o : Outcome Value}
    (ended : Eval.evalForms (Eval.evaluate fuel) root (.nil .unknown)
      (readText c.settings.readingWidth text source line).forms c m = o) :
    p.Keeps (root + 1) (fun n v => v = .nil .unknown ∨ p.Good n v) o := by
  exact sound.keeps_forms fuel (Nat.lt_succ_self root)
    (good_readText sound.toFair fun t _ => anywhere t.loc) safe ended

end Policy

namespace Eval

variable {ev : Evaluator} {root : FrameId} {files : FileReader} {path : String}
  {paths later : List String} {c : Context} {m m₁ m₂ : Machine} {line : Option String}
  {lines : List (Option String)} {reason : Fault} {fuel : Nat}

/-! ## One file -/

/-- A batch does not get over the path: this is the fault that it ends in, and the machine that it
leaves. -/
inductive Breaks (ev : Evaluator) (root : FrameId) (files : FileReader) (c : Context)
    (path : String) (m : Machine) : Fault → Machine → Prop
  | null : sourceAt files path = .error .embeddedNull →
      Breaks ev root files c path m .embeddedNull (opening c path m)
  | undecodable {e : Text.Utf8Error} : sourceAt files path = .error (.undecodable e) →
      Breaks ev root files c path m (.undecodable e) (opening c path m)
  | refused {text : List Char} {v : Value} {reason : Fault} {m₁ : Machine} :
      sourceAt files path = .ok text →
      evalForms ev root (.nil .unknown)
        (readText c.settings.readingWidth text (Path.normal path) 1).forms c
        (opening c path m) = .ok v m₁ →
      (readText c.settings.readingWidth text (Path.normal path) 1).fault = some reason →
      ¬ reason.IsReported →
      Breaks ev root files c path m reason m₁

/-- The forms of the file at the path do not end in a value or an error. -/
inductive Astray (ev : Evaluator) (root : FrameId) (files : FileReader) (c : Context)
    (path : String) (m : Machine) : Outcome Bool → Prop
  | endless {text : List Char} : sourceAt files path = .ok text →
      evalForms ev root (.nil .unknown)
        (readText c.settings.readingWidth text (Path.normal path) 1).forms c
        (opening c path m) = .exhausted →
      Astray ev root files c path m .exhausted
  | abandoned {text : List Char} {reason : Fault} {m₁ : Machine} : sourceAt files path = .ok text →
      evalForms ev root (.nil .unknown)
        (readText c.settings.readingWidth text (Path.normal path) 1).forms c
        (opening c path m) = .fault reason m₁ →
      ¬ reason.IsReported →
      Astray ev root files c path m (.fault reason m₁)

theorem Astray.outcome {o : Outcome Bool} (astray : Astray ev root files c path m o) :
    o = .exhausted ∨ ∃ reason m₁, o = .fault reason m₁ := by
  cases astray with
  | endless => exact .inl rfl
  | abandoned => exact .inr ⟨_, _, rfl⟩

theorem fault_of_sourceAt (failed : sourceAt files path = .error reason) :
    reason = .embeddedNull ∨ (∃ name problem, reason = .unreadable name problem) ∨
      ∃ e, reason = .undecodable e := by
  unfold sourceAt at failed
  split at failed
  · cases failed
    exact .inl rfl
  · split at failed
    · cases failed
      exact .inr (.inl ⟨_, _, rfl⟩)
    · unfold sourceText at failed
      split at failed
      · cases failed
      · cases failed
        exact .inr (.inr ⟨_, rfl⟩)

/-- A fault that the batch does not report ends it. -/
theorem runFile_of_loadFile (failed : loadFile ev root files path c m = .fault reason m₁)
    (unreported : ¬ reason.IsReported) :
    runFile ev root files path c m = .fault reason m₁ := by
  rw [runFile_apply, failed]
  cases reason with
  | syntaxError | unreadable => exact absurd trivial unreported
  | _ => rfl

theorem runFile_of_breaks (breaks : Breaks ev root files c path m reason m₁) :
    runFile ev root files path c m = .fault reason m₁ := by
  cases breaks with
  | null opened | undecodable opened =>
    refine runFile_of_loadFile ?_ id
    rw [loadFile_apply, opened]
  | refused opened evaluated fault unreported =>
    refine runFile_of_loadFile ?_ unreported
    rw [loadFile_of_text opened, evaluated, fault]

theorem runFile_of_astray {o : Outcome Bool} (astray : Astray ev root files c path m o) :
    runFile ev root files path c m = o := by
  cases astray with
  | endless opened evaluated => rw [runFile_apply, loadFile_of_text opened, evaluated]
  | abandoned opened evaluated unreported =>
    refine runFile_of_loadFile ?_ unreported
    rw [loadFile_of_text opened, evaluated]

/-- The batch gets over the path, or it does not, or the forms of the file go astray. -/
theorem attempted_or_not (safe : Policy.unreported.Safe (root + 1) m) (fuel : Nat)
    (files : FileReader) (path : String) (c : Context) :
    (∃ line m₁, Attempted (evaluate fuel) root files c path m line m₁) ∨
    (∃ reason m₁, Breaks (evaluate fuel) root files c path m reason m₁) ∨
    ∃ o, Astray (evaluate fuel) root files c path m o := by
  cases opened : sourceAt files path with
  | error reason =>
    rcases fault_of_sourceAt opened with rfl | ⟨name, problem, rfl⟩ | ⟨e, rfl⟩
    · exact .inr (.inl ⟨_, _, .null opened⟩)
    · exact .inl ⟨_, _, .unreadable opened⟩
    · exact .inr (.inl ⟨_, _, .undecodable opened⟩)
  | ok text =>
    cases evaluated : evalForms (evaluate fuel) root (.nil .unknown)
        (readText c.settings.readingWidth text (Path.normal path) 1).forms c
        (opening c path m) with
    | ok v m₁ =>
      cases fault : (readText c.settings.readingWidth text (Path.normal path) 1).fault with
      | none => exact .inl ⟨_, _, .finished opened evaluated fault⟩
      | some reason =>
        by_cases reported : reason.IsReported
        · obtain ⟨problem, loc, rfl⟩ := syntaxError_of_isReported fault reported
          exact .inl ⟨_, _, .refused opened evaluated fault⟩
        · exact .inr (.inl ⟨_, _, .refused opened evaluated fault reported⟩)
    | error e m₁ => exact .inl ⟨_, _, .failed opened evaluated⟩
    | fault reason m₁ =>
      have kept := (Policy.sound_unreported c).keeps_evalForms (fun _ => trivial)
        (safe.of_store (store_opening c path m)) fuel text _ 1 evaluated
      exact .inr (.inr ⟨_, .abandoned opened evaluated kept.2⟩)
    | exhausted => exact .inr (.inr ⟨_, .endless opened evaluated⟩)

/-- A file that a batch gets over leaves a store in which the policy still holds. -/
theorem Attempted.safe {p : Policy} (sound : p.Sound c) (anywhere : ∀ loc, p.place loc)
    (attempted : Attempted (evaluate fuel) root files c path m line m₁)
    (safe : p.Safe (root + 1) m) : p.Safe (root + 1) (withLine line m₁) := by
  have opened : p.Safe (root + 1) (opening c path m) := safe.of_store (store_opening c path m)
  refine Policy.Safe.of_store ?_ (store_withLine line m₁)
  cases attempted with
  | unreadable => exact opened
  | refused _ evaluated | finished _ evaluated =>
    exact (sound.keeps_evalForms anywhere opened fuel _ _ 1 evaluated).1
  | failed _ evaluated =>
    have kept := sound.keeps_evalForms anywhere opened fuel _ _ 1 evaluated
    exact kept.1.of_store (store_noted c _ _ _)

/-- Without diagnostics, a file writes nothing to standard error but its line. -/
theorem Attempted.err (quiet : c.verbose = false)
    (attempted : Attempted (evaluate fuel) root files c path m line m₁) : m₁.err = m.err := by
  have silent (source line : String) (m : Machine) : noted c source line m = m := by
    unfold noted
    rw [quiet]
    rfl
  have evaluated {forms : List Value} {o : Outcome Value} {m₁ : Machine}
      (ended : evalForms (evaluate fuel) root (.nil .unknown) forms c (opening c path m) = o)
      (left : o.machine? = some m₁) : m₁.err = m.err := by
    have kept := changing_err.closed.evalForms (changing_err.evaluate fuel) (f := root)
      (.nil .unknown) forms
    rw [kept.run (ended ▸ left), opening, silent]
  cases attempted with
  | unreadable => rw [opening, silent]
  | refused _ ended | finished _ ended => exact evaluated ended rfl
  | failed _ ended =>
    rw [silent]
    exact evaluated ended rfl

/-! ## Several files -/

/-- The batch gets over the files at the paths, each in the store that the one before it left: these
are the lines that it reports, and the machine that is left. -/
inductive Attempts (ev : Evaluator) (root : FrameId) (files : FileReader) (c : Context) :
    List String → Machine → List (Option String) → Machine → Prop
  | nil {m : Machine} : Attempts ev root files c [] m [] m
  | cons {path : String} {paths : List String} {m m₁ m₂ : Machine} {line : Option String}
      {lines : List (Option String)} :
      Attempted ev root files c path m line m₁ →
      Attempts ev root files c paths (withLine line m₁) lines m₂ →
      Attempts ev root files c (path :: paths) m (line :: lines) m₂

/-- How a batch ends: it gets over all files and tells whether one of them was reported, or it ends
at the first one that it does not get over or whose forms go astray. -/
inductive BatchEnds (ev : Evaluator) (root : FrameId) (files : FileReader) (c : Context) :
    List String → Machine → Outcome Bool → Prop
  | finished {paths : List String} {m m₁ : Machine} {lines : List (Option String)} :
      Attempts ev root files c paths m lines m₁ →
      BatchEnds ev root files c paths m (.ok (lines.any Option.isSome) m₁)
  | broken {before after : List String} {path : String} {m m₁ m₂ : Machine}
      {lines : List (Option String)} {reason : Fault} :
      Attempts ev root files c before m lines m₁ →
      Breaks ev root files c path m₁ reason m₂ →
      BatchEnds ev root files c (before ++ path :: after) m (.fault reason m₂)
  | astray {before after : List String} {path : String} {m m₁ : Machine}
      {lines : List (Option String)} {o : Outcome Bool} :
      Attempts ev root files c before m lines m₁ →
      Astray ev root files c path m₁ o →
      BatchEnds ev root files c (before ++ path :: after) m o

theorem runFiles_cons (ev : Evaluator) (root : FrameId) (files : FileReader) (path : String)
    (paths : List String) (c : Context) (m : Machine) :
    runFiles ev root files (path :: paths) c m = match runFile ev root files path c m with
      | .ok failed m₁ => match runFiles ev root files paths c m₁ with
        | .ok laterFailed m₂ => .ok (failed || laterFailed) m₂
        | .error e m₂ => .error e m₂
        | .fault reason m₂ => .fault reason m₂
        | .exhausted => .exhausted
      | .error e m₁ => .error e m₁
      | .fault reason m₁ => .fault reason m₁
      | .exhausted => .exhausted := by
  show (runFile ev root files path >>= fun failed => runFiles ev root files paths >>=
    fun laterFailed => pure (failed || laterFailed)) c m = _
  rw [bind_apply]
  cases runFile ev root files path c m with
  | ok failed m₁ =>
    dsimp only
    rw [bind_apply]
    cases runFiles ev root files paths c m₁ <;> rfl
  | error | fault | exhausted => rfl

/-- A batch that gets over all files tells whether one of them was reported. -/
theorem runFiles_of_attempts (attempts : Attempts ev root files c paths m lines m₁) :
    runFiles ev root files paths c m = .ok (lines.any Option.isSome) m₁ := by
  induction attempts with
  | nil => rfl
  | cons attempted _ ih =>
    rw [runFiles_cons, runFile_of_attempted attempted]
    dsimp only
    rw [ih]
    rfl

/-- A file in front of a batch that ends in some way. -/
theorem BatchEnds.cons {o : Outcome Bool}
    (attempted : Attempted ev root files c path m line m₁)
    (ends : BatchEnds ev root files c paths (withLine line m₁) o)
    (ran : runFiles ev root files paths c (withLine line m₁) = o) :
    BatchEnds ev root files c (path :: paths) m (runFiles ev root files (path :: paths) c m) := by
  rw [runFiles_cons, runFile_of_attempted attempted]
  dsimp only
  rw [ran]
  cases ends with
  | finished rest => exact .finished (.cons attempted rest)
  | broken before breaks => exact .broken (.cons attempted before) breaks
  | astray before astray =>
    obtain rfl | ⟨reason, m₂, rfl⟩ := astray.outcome
    · exact .astray (.cons attempted before) astray
    · exact .astray (.cons attempted before) astray

/-- There is no other way for a batch to end. -/
theorem batchEnds (safe : Policy.unreported.Safe (root + 1) m) (fuel : Nat) (files : FileReader)
    (paths : List String) (c : Context) :
    BatchEnds (evaluate fuel) root files c paths m
      (runFiles (evaluate fuel) root files paths c m) := by
  induction paths generalizing m with
  | nil => exact .finished .nil
  | cons path paths ih =>
    rcases attempted_or_not safe fuel files path c with
      ⟨line, m₁, attempted⟩ | ⟨reason, m₁, breaks⟩ | ⟨o, astray⟩
    · have later := attempted.safe (Policy.sound_unreported c) (fun _ => trivial) safe
      exact (ih later).cons attempted rfl
    · rw [runFiles_cons, runFile_of_breaks breaks]
      show BatchEnds (evaluate fuel) root files c ([] ++ path :: paths) m _
      exact .broken .nil breaks
    · rw [runFiles_cons, runFile_of_astray astray]
      show BatchEnds (evaluate fuel) root files c ([] ++ path :: paths) m _
      obtain rfl | ⟨reason, m₁, rfl⟩ := astray.outcome
      · exact .astray .nil astray
      · exact .astray .nil astray

theorem Attempts.safe {p : Policy} (sound : p.Sound c) (anywhere : ∀ loc, p.place loc)
    (attempts : Attempts (evaluate fuel) root files c paths m lines m₁)
    (safe : p.Safe (root + 1) m) : p.Safe (root + 1) m₁ := by
  induction attempts with
  | nil => exact safe
  | cons attempted _ ih => exact ih (attempted.safe sound anywhere safe)

/-- What a batch writes to standard error about the files that it gets over. -/
def reportText (lines : List (Option String)) : String :=
  String.join (lines.map fun line => (line.map (· ++ "\n")).getD "")

theorem Attempts.err (quiet : c.verbose = false)
    (attempts : Attempts (evaluate fuel) root files c paths m lines m₁) :
    m₁.err = m.err ++ reportText lines := by
  induction attempts with
  | nil => simp [reportText]
  | @cons path paths m m₁ m₂ line lines attempted _ ih =>
    rw [ih]
    cases line with
    | none => simp [withLine, attempted.err quiet, reportText]
    | some line => simp [withLine, attempted.err quiet, reportText, String.append_assoc]

/-- A batch in two parts: the second one starts where the first one ended. -/
theorem runFiles_append (ev : Evaluator) (root : FrameId) (files : FileReader)
    (paths later : List String) :
    runFiles ev root files (paths ++ later) = (do
      let failed ← runFiles ev root files paths
      let laterFailed ← runFiles ev root files later
      return failed || laterFailed) := by
  induction paths with
  | nil =>
    funext c m
    show _ = (runFiles ev root files later >>= fun laterFailed => pure (false || laterFailed)) c m
    rw [bind_apply]
    show runFiles ev root files later c m = _
    cases runFiles ev root files later c m <;> rfl
  | cons path paths ih =>
    show (runFile ev root files path >>= fun failed => runFiles ev root files (paths ++ later) >>=
      fun laterFailed => pure (failed || laterFailed)) =
      (runFile ev root files path >>= fun failed => runFiles ev root files paths >>=
        fun laterFailed => pure (failed || laterFailed)) >>= _
    rw [ih]
    simp only [bind_assoc]
    refine congrArg _ (funext fun first => congrArg _ (funext fun failed => ?_))
    show _ = runFiles ev root files later >>= fun laterFailed =>
      pure (first || failed || laterFailed)
    refine congrArg _ (funext fun laterFailed => ?_)
    show (pure (first || (failed || laterFailed)) : Eval Bool) = _
    rw [Bool.or_assoc]

/-! ## The result -/

/-- No batch gets over the path: it contains a null character, or the file holds bytes that are no
text, or a literal that is too long. -/
inductive Unloadable (files : FileReader) (path : String) : Prop
  | null : sourceAt files path = .error .embeddedNull → Unloadable files path
  | undecodable {e : Text.Utf8Error} : sourceAt files path = .error (.undecodable e) →
      Unloadable files path
  | longLiteral {text : List Char} : sourceAt files path = .ok text → HasLongLiteral text →
      Unloadable files path

theorem Breaks.unloadable {bits : Nat} (width : c.settings.width = .ok bits)
    (room : bits - 1 ≤ Settings.memoryBound)
    (breaks : Breaks ev root files c path m reason m₁) : Unloadable files path := by
  cases breaks with
  | null opened => exact .null opened
  | undecodable opened => exact .undecodable opened
  | @refused text _ _ _ opened _ fault unreported =>
    by_cases long : HasLongLiteral text
    · exact .longLiteral opened long
    · obtain ⟨t, -, problem, rfl⟩ := syntaxError_of_fault width room long fault
      exact absurd trivial unreported

/-- How a batch of any paths ends, in any well-formed store.

* It gets over all files, or it ends in a fault at the first path that it does not get over, or the
  forms of a file go astray.
* If every integer of the width can be written and the forms of the files end, only a path that is
  unloadable stops it. Otherwise it attempts all files in order, each in the store left by those
  before it. It writes one line for each file that cannot be opened, has a syntax error or ends in
  an error, and none for the others, and its result tells whether there was such a file.
* Two batches, one after the other, come to one batch. -/
theorem batch_goes_on (safe : Policy.any.Safe (root + 1) m) (fuel : Nat) (files : FileReader)
    (paths : List String) (c : Context) :
    let run := runFiles (evaluate fuel) root files
    BatchEnds (evaluate fuel) root files c paths m (run paths c m) ∧
    (∀ bits, c.settings.width = .ok bits →
      (∀ i, Width.fits bits i = true → Text.tooLongToWrite i = false) →
      (Policy.ofWidth bits).Safe (root + 1) m → (∀ path ∈ paths, ¬ Unloadable files path) →
      run paths c m ≠ .exhausted →
      ∃ lines m₁, Attempts (evaluate fuel) root files c paths m lines m₁ ∧
        run paths c m = .ok (lines.any Option.isSome) m₁ ∧
        (c.verbose = false → m₁.err = m.err ++ reportText lines)) ∧
    ∀ later, run (paths ++ later) = (do
      let failed ← run paths
      let laterFailed ← run later
      return failed || laterFailed) := by
  intro run
  have ends := batchEnds safe.unreported fuel files paths c
  refine ⟨ends, fun bits width writable holds loadable halts => ?_, runFiles_append _ _ _ paths⟩
  have room : bits - 1 ≤ Settings.memoryBound :=
    Nat.le_trans (Nat.sub_le bits 1) (Nat.le_trans (Width.le_of_writable writable) (by decide))
  have sound := Policy.sound_ofWidth width writable
  change BatchEnds (evaluate fuel) root files c paths m (run paths c m) at ends
  generalize run paths c m = o at ends halts
  cases ends with
  | finished attempts => exact ⟨_, _, attempts, rfl, fun quiet => attempts.err quiet⟩
  | broken _ breaks =>
    exact absurd (breaks.unloadable width room) (loadable _ (by simp))
  | astray before astray =>
    have kept := before.safe sound (fun _ => trivial) holds
    cases astray with
    | endless => exact absurd rfl halts
    | abandoned _ evaluated =>
      have faultless := sound.keeps_evalForms (fun _ => trivial)
        (kept.of_store (store_opening c _ _)) fuel _ _ 1 evaluated
      exact faultless.2.elim

/-! ## A file that can be loaded, one that is missing, and one that is no text -/

/-- A file that assigns to a name, at `a`, and one whose second byte begins no character, at `b`. -/
def twoFiles : FileReader := fun name =>
  if name = "a" then .ok ("(setq x t)".toList.map fun c => UInt8.ofNat c.toNat)
  else if name = "b" then .ok [0x28, 0xff, 0x29]
  else .error .missing

/-- A path of one character that is neither a slash nor a dot is its own normal form. -/
theorem normal_of_oneChar {path : String}
    (one : ¬ String.Pos.Raw.atEnd path 0 = true ∧
      String.Pos.Raw.atEnd path (String.Pos.Raw.next path 0) = true)
    (noSlash : ¬ (String.Pos.Raw.get path 0 == String.Pos.Raw.get "/" 0) = true)
    (whole : String.Pos.Raw.extract path 0 (String.Pos.Raw.next path 0) = path)
    (visible : path ≠ "" ∧ path ≠ "." ∧ Path.root path = "") : Path.normal path = path := by
  have single : path.splitOn "/" = [path] := by
    unfold String.splitOn
    rw [if_neg (by decide)]
    unfold String.splitOnAux
    rw [if_neg one.1, if_neg noSlash]
    have same : String.Pos.Raw.unoffsetBy 0 0 = 0 := by decide
    rw [same]
    unfold String.splitOnAux
    rw [if_pos one.2]
    show [String.Pos.Raw.extract path 0 (String.Pos.Raw.next path 0)] = [path]
    rw [whole]
  simp [Path.normal, Path.components, single, visible]

/-- The names of the files that are loaded below. -/
def fileNames : List String := ["a", "b", "c"]

theorem normal_of_mem_fileNames : ∀ name ∈ fileNames, Path.normal name = name := by
  unfold fileNames
  simp only [List.forall_mem_cons, List.not_mem_nil, false_implies, implies_true, and_true]
  refine ⟨?_, ?_, ?_⟩
  all_goals
    exact normal_of_oneChar (by decide +kernel) (by decide +kernel) (by decide +kernel)
      (by decide +kernel)

theorem sourceAt_a : sourceAt twoFiles "a" = .ok "(setq x t)".toList := by
  unfold sourceAt
  rw [normal_of_mem_fileNames "a" (by simp [fileNames])]
  decide +kernel

theorem sourceAt_b :
    sourceAt twoFiles "b" = .error (.undecodable ⟨0xff, 1, 1, .invalidStart⟩) := by
  unfold sourceAt
  rw [normal_of_mem_fileNames "b" (by simp [fileNames])]
  decide +kernel

theorem sourceAt_c : sourceAt twoFiles "c" = .error (.unreadable "c" .missing) := by
  unfold sourceAt
  rw [normal_of_mem_fileNames "c" (by simp [fileNames])]
  decide +kernel

/-- The only form of the file at `a`. -/
def formOfA : Value :=
  .cell (.symbol "setq" ⟨"a", 1, 2⟩) (.cell (.symbol "x" ⟨"a", 1, 7⟩)
    (.cell (.truth ⟨"a", 1, 9⟩) (.nil ⟨"a", 1, 10⟩) ⟨"a", 1, 9⟩) ⟨"a", 1, 7⟩) ⟨"a", 1, 1⟩

/-- The file at `a` is evaluated to its end, whatever was reported before. -/
theorem attempted_a (err : String) :
    ∃ m₁, Attempted (evaluate 5) 0 twoFiles (.ofSettings .unset) "a" { assigning with err }
      none m₁ := by
  have forms : (readText (Settings.readingWidth .unset) "(setq x t)".toList "a" 1).forms =
      [formOfA] := by decide +kernel
  have read : (readText (Settings.readingWidth .unset) "(setq x t)".toList "a" 1).fault = none := by
    decide +kernel
  have evaluated : ∃ v m₁, evalForms (evaluate 5) 0 (.nil .unknown) [formOfA]
      (.ofSettings .unset) { assigning with err } = .ok v m₁ := ⟨_, _, rfl⟩
  obtain ⟨v, m₁, evaluated⟩ := evaluated
  rw [← forms] at evaluated
  rw [← normal_of_mem_fileNames "a" (by simp [fileNames])] at evaluated read
  exact ⟨m₁, .finished sourceAt_a evaluated read⟩

/-- The missing file is reported, and the batch goes on. -/
theorem missingFile_batch :
    let run := runFiles (evaluate 5) 0 twoFiles
    ∃ lines m₁,
      Attempts (evaluate 5) 0 twoFiles (.ofSettings .unset) ["c", "a"] assigning lines m₁ ∧
      run ["c", "a"] (.ofSettings .unset) assigning = .ok (lines.any Option.isSome) m₁ ∧
      m₁.err = reportText lines := by
  intro run
  have writable (i : Int) (has : Width.fits 32 i = true) : Text.tooLongToWrite i = false :=
    Width.writable_of_le (by decide) (by decide) has
  have holds {p : Policy} (native : p.value (.native .setq 0)) : p.Safe 1 assigning :=
    ⟨by decide, (Policy.holds_empty.newFrame (by simp)).bind 0 rfl ⟨trivial, native⟩⟩
  have loadable : ∀ path ∈ ["c", "a"], ¬ Unloadable twoFiles path := by
    rintro path mem unloadable
    obtain rfl | rfl : path = "c" ∨ path = "a" := by simpa using mem
    · cases unloadable with
      | null opened | undecodable opened | longLiteral opened =>
        rw [sourceAt_c] at opened
        cases opened
    · cases unloadable with
      | null opened | undecodable opened =>
        rw [sourceAt_a] at opened
        cases opened
      | longLiteral opened long =>
        rw [sourceAt_a] at opened
        cases opened
        exact absurd long (by decide +kernel)
  have halts : run ["c", "a"] (.ofSettings .unset) assigning ≠ .exhausted := by
    have missing : Attempted (evaluate 5) 0 twoFiles (.ofSettings .unset) "c" assigning _ _ :=
      .unreadable sourceAt_c
    obtain ⟨m₁, attempted⟩ := attempted_a _
    rw [show run ["c", "a"] (.ofSettings .unset) assigning = _ from
      runFiles_of_attempts (.cons missing (.cons attempted .nil))]
    nofun
  have goesOn := batch_goes_on (holds trivial) 5 twoFiles ["c", "a"] (.ofSettings .unset)
  obtain ⟨lines, m₁, attempts, ran, err⟩ :=
    goesOn.2.1 32 rfl writable (holds (by decide : Operator.setq ∈ Operator.standard)) loadable
      halts
  exact ⟨lines, m₁, attempts, ran, err (by decide +kernel)⟩

/-- The batch ends at the file that is no text. The file after it is never attempted, although the
batch would get over it. -/
theorem undecodableFile_breaks_batch :
    let run := runFiles (evaluate 5) 0 twoFiles
    (¬ ∃ failed m₁, run ["b", "a"] (.ofSettings .unset) assigning = .ok failed m₁) ∧
    ∃ m₁, run ["a"] (.ofSettings .unset) assigning = .ok false m₁ := by
  intro run
  have breaks : Breaks (evaluate 5) 0 twoFiles (.ofSettings .unset) "b" assigning _ _ :=
    .undecodable sourceAt_b
  obtain ⟨m₁, attempted⟩ := attempted_a ""
  refine ⟨?_, m₁, runFiles_of_attempts (.cons attempted .nil)⟩
  rintro ⟨failed, m₁, ran⟩
  rw [show run ["b", "a"] (.ofSettings .unset) assigning = _ from runFiles_cons _ _ _ _ _ _ _,
    runFile_of_breaks breaks] at ran
  cases ran

end Eval

end MiniLisp
