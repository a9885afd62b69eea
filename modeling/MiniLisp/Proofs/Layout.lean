import MiniLisp.Proofs.Lexing
import MiniLisp.Proofs.Lockstep

/-!
# Layout makes no difference

The layout of a text, its comments, the name of its source and the number of its first line go into
the locations of tokens and nowhere else. From there they get into the locations of values, which an
evaluation hands on and never looks at.

* `Reader.alike_many`: reading tokens that differ in their locations gives values that do;
* `Coupling.Agrees.evalTextFrom`: so does evaluating texts with such tokens;
* `Eval.evalTextFrom_alike`: the result in plain terms.
-/

namespace MiniLisp

namespace Reader

variable {r : Likeness} {width : Except Fault Nat} {v v' : Value} {l l' : Location}

/-- Two tokens differ in their locations at most. -/
structure TokenAlike (r : Likeness) (t t' : Token) : Prop where
  kind : t'.kind = t.kind
  text : t'.text = t.text
  loc : r.located t.loc t'.loc

/-- Two constructs of one sort wait, after items that are alike. -/
inductive PendingAlike (r : Likeness) : Pending → Pending → Prop
  | quote {l l' : Location} : r.located l l' → PendingAlike r (.quote l) (.quote l')
  | items {l l' : Location} {vs vs' : List Value} :
      r.located l l' → List.Forall₂ (Value.Alike r) vs vs' →
      PendingAlike r (.items l vs) (.items l' vs')
  | tail {l l' : Location} {vs vs' : List Value} :
      r.located l l' → List.Forall₂ (Value.Alike r) vs vs' →
      PendingAlike r (.tail l vs) (.tail l' vs')

/-- Two states in which the next token is read in the same way. -/
inductive StateAlike (r : Likeness) : State → State → Prop
  | awaiting {stack stack' : List Pending} :
      List.Forall₂ (PendingAlike r) stack stack' → StateAlike r (.awaiting stack) (.awaiting stack')
  | closing {l l' : Location} {vs vs' : List Value} {tail tail' : Value}
      {below below' : List Pending} :
      r.located l l' → List.Forall₂ (Value.Alike r) vs vs' → tail.Alike r tail' →
      List.Forall₂ (PendingAlike r) below below' →
      StateAlike r (.closing l vs tail below) (.closing l' vs' tail' below')

/-- Two tokens lead to the same. -/
inductive StepAlike (r : Likeness) : Step → Step → Prop
  | next {state state' : State} :
      StateAlike r state state' → StepAlike r (.next state) (.next state')
  | done {v v' : Value} : v.Alike r v' → StepAlike r (.done v) (.done v')
  | refuse {fault fault' : Fault} :
      fault.Alike r fault' → StepAlike r (.refuse fault) (.refuse fault')
  | refuseAhead {fault fault' : Fault} :
      fault.Alike r fault' → StepAlike r (.refuseAhead fault) (.refuseAhead fault')

/-- What two readings came to differs in locations at most. -/
structure ReadingAlike (r : Likeness) (reading reading' : Reading) : Prop where
  forms : List.Forall₂ (Value.Alike r) reading.forms reading'.forms
  fault : Option.Rel (Fault.Alike r) reading.fault reading'.fault

theorem alike_atom (width : Except Fault Nat) (word : String) (loc : r.located l l') :
    AlikeExcept (Fault.Alike r) (Value.Alike r) (atom width word l) (atom width word l') := by
  unfold atom
  split
  · exact .ok (.nil loc)
  · split
    · exact .ok (.truth loc)
    · cases Text.Numeral.ofLiteral? word.toList with
      | none => exact .ok (.symbol word loc)
      | some numeral =>
        dsimp only
        split
        · exact .error (.same _)
        · cases width with
          | error fault => exact .error (.same fault)
          | ok bits =>
            dsimp only
            split
            · exact .ok (.integer numeral.value loc)
            · exact .error (.syntaxError _ loc)

theorem alike_quotation (loc : r.located l l') (alike : v.Alike r v') :
    (quotation l v).Alike r (quotation l' v') :=
  .cell (.symbol "quote" loc) (.cell alike (.nil loc) loc) loc

theorem alike_cells (loc : r.located l l') {vs vs' : List Value}
    (alikes : List.Forall₂ (Value.Alike r) vs vs') {tail tail' : Value}
    (alike : tail.Alike r tail') :
    (cells l vs tail).Alike r (cells l' vs' tail') := by
  induction alikes generalizing tail tail' with
  | nil => exact alike
  | cons first later ih =>
    cases later with
    | nil => exact .cell first alike loc
    | cons second later => exact ih (.cell first alike first.loc)

theorem alike_complete {stack stack' : List Pending}
    (waiting : List.Forall₂ (PendingAlike r) stack stack') (alike : v.Alike r v') :
    StepAlike r (complete v stack) (complete v' stack') := by
  induction waiting generalizing v v' with
  | nil => exact .done alike
  | cons pending below ih =>
    cases pending with
    | quote loc => exact ih (alike_quotation loc alike)
    | items loc reversed =>
      exact .next (.awaiting (.cons (.items loc (.cons alike reversed)) below))
    | tail loc reversed => exact .next (.closing loc reversed alike below)

variable {t t' : Token}

theorem alike_start (width : Except Fault Nat) {stack stack' : List Pending}
    (waiting : List.Forall₂ (PendingAlike r) stack stack') (token : TokenAlike r t t') :
    StepAlike r (start width stack t) (start width stack' t') := by
  unfold start
  rw [token.kind, token.text]
  cases t.kind with
  | symbol =>
    have read := alike_atom width t.text token.loc
    dsimp only
    generalize atom width t.text t.loc = result, atom width t.text t'.loc = result' at read
    cases read with
    | ok alike => exact alike_complete waiting alike
    | error fault => exact .refuse fault
  | quote => exact .next (.awaiting (.cons (.quote token.loc) waiting))
  | lparen => exact .next (.awaiting (.cons (.items token.loc .nil) waiting))
  | rparen => exact .refuse (.syntaxError .unmatchedClose token.loc)
  | other name => exact .refuse (.syntaxError _ token.loc)

theorem alike_step (width : Except Fault Nat) {state state' : State}
    (states : StateAlike r state state') (token : TokenAlike r t t') :
    StepAlike r (step width state t) (step width state' t') := by
  have dot : isDot t' = isDot t := by
    unfold isDot
    rw [token.kind, token.text]
  cases states with
  | closing loc reversed tail below =>
    unfold step
    dsimp only
    rw [token.kind]
    split
    · exact alike_complete below (alike_cells loc reversed tail)
    · exact .refuseAhead (.syntaxError .contentAfterTail token.loc)
  | awaiting waiting =>
    have started := alike_start width waiting token
    cases waiting with
    | nil => exact started
    | cons pending below =>
      cases pending with
      | quote => exact started
      | tail => exact started
      | @items _ _ vs vs' loc reversed =>
        have empty : vs'.isEmpty = vs.isEmpty := by cases reversed <;> rfl
        unfold step
        dsimp only
        rw [token.kind, dot, empty]
        split
        · exact alike_complete below (alike_cells loc reversed (.nil token.loc))
        · split
          · split
            · exact .refuse (.syntaxError .dotWithoutElement token.loc)
            · exact .next (.awaiting (.cons (.tail loc reversed) below))
          · exact started

theorem alike_atEnd {state state' : State} (states : StateAlike r state state') :
    Option.Rel (Fault.Alike r) (atEnd state) (atEnd state') := by
  cases states with
  | closing loc => exact .some (.syntaxError .unmatchedOpen loc)
  | awaiting waiting =>
    cases waiting with
    | nil => exact .none
    | cons pending =>
      cases pending with
      | quote loc => exact .some (.syntaxError .quoteAtEnd loc)
      | items loc => exact .some (.syntaxError .unmatchedOpen loc)
      | tail loc => exact .some (.syntaxError .unmatchedOpen loc)

theorem alike_many (width : Except Fault Nat) {ts ts' : List Token}
    (tokens : List.Forall₂ (TokenAlike r) ts ts') {state state' : State}
    (states : StateAlike r state state') :
    ReadingAlike r (many width state ts) (many width state' ts') := by
  induction tokens generalizing state state' with
  | nil => exact ⟨.nil, alike_atEnd states⟩
  | cons token _ ih =>
    have stepped := alike_step width states token
    unfold many
    generalize step width state _ = result, step width state' _ = result' at stepped
    cases stepped with
    | next states => exact ih states
    | done alike =>
      have later := ih (StateAlike.awaiting (r := r) .nil)
      exact ⟨.cons alike later.forms, later.fault⟩
    | refuse fault => exact ⟨.nil, .some fault⟩
    | refuseAhead fault => exact ⟨.nil, .some fault⟩

/-- Where locations do not matter, tokens of the same content are alike. -/
theorem alike_of_content (any : ∀ l l', r.located l l') {ts ts' : List Token}
    (same : ts'.map Token.content = ts.map Token.content) :
    List.Forall₂ (TokenAlike r) ts ts' := by
  induction ts generalizing ts' with
  | nil =>
    cases List.map_eq_nil_iff.mp same
    exact .nil
  | cons t ts ih =>
    cases ts' with
    | nil => cases same
    | cons t' ts' =>
      obtain ⟨first, later⟩ := List.cons.inj same
      obtain ⟨kind, text⟩ := Prod.mk.inj first
      exact .cons ⟨kind, text, any _ _⟩ (ih later)

end Reader

/-! ## Evaluating a text -/

namespace Coupling

open Eval

variable {p : Coupling} {c : Context} {ev : Evaluator} {root : FrameId}

theorem Agrees.evalForms (agrees : p.Agrees c ev) (shared : p.shared root) {last last' : Value}
    (likeLast : p.Like last last') {forms forms' : List Value}
    (likeForms : List.Forall₂ p.Like forms forms') :
    p.Lockstep c p.Like (evalForms ev root last forms) (evalForms ev root last' forms') := by
  induction likeForms generalizing last last' with
  | nil => exact .pure likeLast
  | cons likeForm _ ih =>
    unfold Eval.evalForms
    apply (agrees shared likeForm).bind
    intro v v' likeV
    exact ih likeV

theorem Agrees.evalReading (agrees : p.Agrees c ev) (shared : p.shared root)
    {reading reading' : Reader.Reading}
    (alike : Reader.ReadingAlike p.toLikeness reading reading') :
    p.Lockstep c p.Like (evalReading ev root reading) (evalReading ev root reading') := by
  have fault := alike.fault
  unfold Eval.evalReading
  apply (agrees.evalForms shared (.nil p.unknown) alike.forms).bind
  intro v v' likeV
  generalize reading.fault = found, reading'.fault = found' at fault
  cases fault with
  | none => exact .pure likeV
  | some fault => exact .abandon fault

/-- The name of the source is told in the diagnostics, and nowhere else. -/
theorem Lockstep.loggingError {α : Type} {R : α → α → Prop} {x y : Eval α}
    (h : p.Lockstep c R x y) (source source' : String) :
    p.Lockstep c R (loggingError source x) (loggingError source' y) := by
  apply h.catchError.bind
  intro ended ended' caught
  cases caught with
  | ok related => exact .pure related
  | error alike =>
    apply (Lockstep.log interpreterLog _ _).bind
    intro _ _ _
    exact .fail alike

theorem Agrees.evalTextFrom (agrees : p.Agrees c ev) (shared : p.shared root)
    {text text' : List Char} {source source' : String} {line line' : Int}
    (alike : List.Forall₂ (Reader.TokenAlike p.toLikeness) (tokens text source line)
      (tokens text' source' line')) :
    p.Lockstep c p.Like (evalTextFrom ev root text source line)
      (evalTextFrom ev root text' source' line') := by
  apply Lockstep.settings.bind
  rintro _ settings rfl
  apply Lockstep.loggingError
  apply agrees.evalReading shared
  unfold readText TokenStream.all
  rw [TokenStream.remaining_ofTokens, TokenStream.remaining_ofTokens]
  exact Reader.alike_many settings.readingWidth alike (.awaiting .nil)

/-- Runs that may differ in all locations, and in nothing else. -/
def anyLocation : Coupling where
  located _ _ := True
  shared _ := True
  unknown := trivial
  left := .empty
  right := .empty
  fresh _ := trivial

end Coupling

/-- Two machines differ in the locations of values, and in what was written to standard error, at
most. -/
structure Machine.Alike (m m' : Machine) : Prop where
  frames : m'.store.nextFrame = m.store.nextFrame
  store (f : FrameId) : Option.Rel (Frame.Alike Coupling.anyLocation.toLikeness) (m.store.frame? f)
    (m'.store.frame? f)
  serial : m'.serial = m.serial
  out : m'.out = m.out
  writes : m'.writes = m.writes

theorem Machine.alike_iff {m m' : Machine} : m.Alike m' ↔ Coupling.anyLocation.Machines m m' := by
  constructor
  · rintro ⟨frames, store, serial, out, writes⟩
    have stores : Coupling.anyLocation.Stores m.store m'.store :=
      ⟨frames, Nat.zero_le _, fun _ => store _, fun other => absurd trivial other,
        fun other => absurd trivial other⟩
    exact ⟨stores, serial, out, writes⟩
  · rintro ⟨stores, serial, out, writes⟩
    exact ⟨stores.frames, fun f => stores.alike trivial, serial, out, writes⟩

namespace Eval

/-- Two texts with the same tokens, evaluated by machines that differ in the locations of values,
end in the same way: with values, error values or faults that differ in locations at most, after the
same output, and with machines of which that is true again. -/
theorem evalTextFrom_alike {text text' : List Char} {source source' : String} {line line' : Int}
    (same : (tokens text' source' line').map Token.content =
      (tokens text source line).map Token.content) {m m' : Machine} (machines : m.Alike m')
    (c : Context) (fuel : Nat) (root : FrameId) :
    Outcome.Both Machine.Alike (Value.Alike Coupling.anyLocation.toLikeness)
      (ErrorValue.Alike Coupling.anyLocation.toLikeness)
      (Fault.Alike Coupling.anyLocation.toLikeness)
      (evalTextFrom (evaluate fuel) root text source line c m)
      (evalTextFrom (evaluate fuel) root text' source' line' c m') := by
  have alike := Reader.alike_of_content (r := Coupling.anyLocation.toLikeness)
    (fun _ _ => trivial) same
  have agrees : Coupling.anyLocation.Agrees c (evaluate fuel) := Coupling.agrees_evaluate _ c fuel
  have shared : Coupling.anyLocation.shared root := trivial
  have ended := (agrees.evalTextFrom shared alike).run m m' (Machine.alike_iff.mp machines)
  apply ended.imp
  · intro m₁ m₁' related
    exact Machine.alike_iff.mpr related
  · intro v v' related
    exact related
  · intro e e' related
    exact related
  · intro reason reason' related
    exact related

/-- A root frame that binds `quote`, and `x` to a nil from the given place. -/
def quotingAt (l : Location) : Machine :=
  let root := Store.empty.newFrame none
  let quoting := root.bind 0 (.symbol "quote" .unknown) (.native .quote 0)
  ⟨quoting.bind 0 (.symbol "x" l) (.nil l), 1, "", 0, ""⟩

theorem quotingAt_alike (l l' : Location) : (quotingAt l).Alike (quotingAt l') := by
  have empty : Coupling.anyLocation.Stores .empty .empty := by
    refine ⟨rfl, Nat.le_refl _, ?_, fun other => absurd trivial other, fun _ => rfl⟩
    intro f _
    rw [Store.frame?_eq_none (Nat.zero_le f)]
    exact .none
  have stores : Coupling.anyLocation.Stores (quotingAt l).store (quotingAt l').store := by
    apply Coupling.Stores.bind _ trivial (.symbol "x" trivial) (.nil trivial)
    apply Coupling.Stores.bind _ trivial (.symbol "quote" trivial) (.native .quote 0)
    exact empty.newFrame nofun
  exact Machine.alike_iff.mpr ⟨stores, rfl, rfl, rfl⟩

/-- The texts `'(x . y) ; a pair` and `' ( x` with `. y)` on the next line. -/
theorem quotedPair_alike :
    (tokens "'(x . y) ; a pair".toList "a" 1).map Token.content =
        (tokens "' ( x\n . y)".toList "b" 7).map Token.content ∧
      (quotingAt (.start "a" 1)).Alike (quotingAt .unknown) ∧
      Outcome.Both Machine.Alike (Value.Alike Coupling.anyLocation.toLikeness)
        (ErrorValue.Alike Coupling.anyLocation.toLikeness)
        (Fault.Alike Coupling.anyLocation.toLikeness)
        (evalTextFrom (evaluate 5) 0 "' ( x\n . y)".toList "b" 7 (.ofSettings .unset)
          (quotingAt (.start "a" 1)))
        (evalTextFrom (evaluate 5) 0 "'(x . y) ; a pair".toList "a" 1 (.ofSettings .unset)
          (quotingAt .unknown)) := by
  have same : (tokens "'(x . y) ; a pair".toList "a" 1).map Token.content =
      (tokens "' ( x\n . y)".toList "b" 7).map Token.content := by decide
  have machines := quotingAt_alike (.start "a" 1) .unknown
  exact ⟨same, machines, evalTextFrom_alike same machines (.ofSettings .unset) 5 0⟩

end Eval

end MiniLisp
