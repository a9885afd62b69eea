import MiniLisp.Proofs.Histories
import MiniLisp.Proofs.Lexing

/-!
# Where values come from

The evaluator stamps what it makes with the location of something it was given, and the reader with
that of a token. So a value that is stored or returned stands, in all its parts, where a token of
some text stands that was run. Only native operators stand nowhere, and an error may be reported
there when it is about a native operator.
-/

namespace MiniLisp

/-- A token of the text of one of the calls stands there. -/
def FromText (calls : List Call) (loc : Location) : Prop :=
  ∃ call ∈ calls, ∃ t ∈ tokens call.text call.source 1, t.loc = loc

/-- The unknown location is that of no token. -/
theorem FromText.ne_unknown {calls : List Call} {loc : Location} (h : FromText calls loc) :
    loc ≠ .unknown := by
  rintro rfl
  obtain ⟨call, _, t, mem, eq⟩ := h
  have positive : (1 : Int) ≤ t.loc.line := Token.line_le_of_mem_tokens mem
  rw [eq] at positive
  exact absurd positive (by decide)

/-- The value is no error, and it stands where a token does if it is no native operator. -/
def Value.FromText (calls : List Call) : Value → Prop
  | .native .. => True
  | .error _ => False
  | v => MiniLisp.FromText calls v.loc

/-- All parts of what the computation leaves, and of its result, stand where tokens do. An error is
reported at a token, or at the unknown location of a native operator. -/
def Outcome.FromText (calls : List Call) : Outcome Value → Prop
  | .ok v m => v.Every (Value.FromText calls) ∧ m.store.Every (Value.FromText calls)
  | .error e m => (MiniLisp.FromText calls e.loc ∨ e.loc = .unknown) ∧
      m.store.Every (Value.FromText calls)
  | .fault _ m => m.store.Every (Value.FromText calls)
  | .exhausted => True

namespace Policy

/-- Values stand where tokens of the texts do; whatever else may happen. -/
def fromText (calls : List Call) : Policy where
  value := Value.FromText calls
  integer _ := True
  place := FromText calls
  reported loc := FromText calls loc ∨ loc = .unknown
  fault _ := True

variable {calls : List Call} {c : Context} {n : Nat}

theorem sound_fromText (calls : List Call) (c : Context) : (fromText calls).Sound c where
  place_of {v} allowed link := by
    cases v with
    | nil | cell => exact allowed
    | _ => cases link
  reported_of {v} allowed := by
    cases v with
    | native => exact .inr rfl
    | error => exact allowed.elim
    | _ => exact .inl allowed
  integer_of _ := trivial
  nil place := place
  truth place := place
  symbol _ place := place
  integer _ place := place
  cell _ _ place := place
  closure _ _ _ _ _ place := place
  zero := trivial
  wrapped _ _ := trivial
  fitting _ _ := trivial
  widthless _ := trivial
  unjoined _ _ _ := trivial
  unwritten _ _ := trivial

theorem fromText_allows {call : Call} (mem : call ∈ calls) : (fromText calls).Allows call :=
  ⟨sound_fromText calls call.context, fun t among => ⟨call, mem, t, among, rfl⟩, fun _ => trivial⟩

theorem Keeps.fromText {o : Outcome Value}
    (h : (fromText calls).Keeps n (fromText calls).Good o) : o.FromText calls := by
  cases o with
  | ok v m => exact ⟨h.2.every, h.1.2.every⟩
  | error e m => exact ⟨h.2, h.1.2.every⟩
  | fault reason m => exact h.1.2.every
  | exhausted => trivial

/-- Evaluation keeps to the locations that there are. -/
theorem Holds.evaluate_fromText {m : Machine} (holds : (fromText calls).Holds m.store)
    {f : FrameId} (inside : f < m.store.nextFrame) {expr : Value}
    (good : (fromText calls).Good m.store.nextFrame expr) (fuel : Nat) (c : Context) :
    (Eval.evaluate fuel f expr c m).FromText calls := by
  have kept := (sound_fromText calls c).keeps_evaluate fuel inside good ⟨Nat.le_refl _, holds⟩ rfl
  exact kept.fromText

end Policy

/-- Whatever texts were run and whatever they ended in, the store holds nothing but native operators
and values that stand where tokens of these texts do. For the text that is run next, the same is
true of what the evaluation of each of its forms results in and leaves, and an error is reported
where a token stands or where native operators do. It is true of any evaluation on the way: in any
frame of a store of such values, of any such expression. -/
theorem fromText_of_reached {calls : List Call} {root : FrameId} {m : Machine}
    (h : Reached calls root m) :
    m.store.Every (Value.FromText calls) ∧
    (∀ (call : Call) (front : List Value) (form : Value) (back : List Value),
      (readText call.context.settings.readingWidth call.text call.source 1).forms =
        front ++ form :: back →
      ∀ (v : Value) (m₁ : Machine), Eval.evalForms (Eval.evaluate call.fuel) root (.nil .unknown)
        front call.context m = .ok v m₁ →
      (Eval.evaluate call.fuel root form call.context m₁).FromText (call :: calls)) ∧
    (∀ (m₁ : Machine) (f : FrameId) (expr : Value), (Policy.fromText calls).Holds m₁.store →
      f < m₁.store.nextFrame → (Policy.fromText calls).Good m₁.store.nextFrame expr →
      ∀ (c : Context) (fuel : Nat), (Eval.evaluate fuel f expr c m₁).FromText calls) ∧
    ∀ loc, FromText calls loc → loc ≠ .unknown := by
  have safe (more : List Call) : (Policy.fromText (more ++ calls)).Safe (root + 1) m :=
    Policy.safe_of_reached h (fun _ _ _ => trivial) fun call mem =>
      Policy.fromText_allows (List.mem_append_right more mem)
  refine ⟨(safe []).2.every, fun call front form back read v m₁ ended => ?_, ?_, ?_⟩
  · have allows : (Policy.fromText (call :: calls)).Allows call :=
      Policy.fromText_allows List.mem_cons_self
    have among (w : Value) (mem : w ∈ front ++ form :: back) :
        w ∈ (readText call.context.settings.readingWidth call.text call.source 1).forms := by
      rwa [read]
    have kept := allows.keeps_forms (Nat.lt_succ_self root)
      (fun w mem => among w (List.mem_append_left _ mem)) (safe [call]) ended
    have good : (Policy.fromText (call :: calls)).Good m₁.store.nextFrame form :=
      Policy.good_readText allows.sound.toFair allows.place form
        (among form (List.mem_append_right front List.mem_cons_self))
    exact kept.1.2.evaluate_fromText kept.1.1 good call.fuel call.context
  · exact fun m₁ f expr holds inside good c fuel => holds.evaluate_fromText inside good fuel c
  · exact fun loc => FromText.ne_unknown

/-- A function and an expander that make values of their arguments and of each other, an error at a
native operator, and a text that breaks off. -/
def stampingCalls : List Call :=
  let call (text : String) : Call := ⟨.ofSettings .unset, 20, text.toList, "calls"⟩
  [call "(setq l (f (print) l)) '", call "(+ 1 car)",
    call "(setq l ((macro (x) (cons f (cons (quote (< 1 2)) (cons x ())))) (+)))",
    call "(fn f (x y) (cons (while x) (cons (if x y) y)))"]

theorem stampingCalls_fromText :
    ∃ (root : FrameId) (m : Machine), Reached stampingCalls root m ∧
      m.store.Every (Value.FromText stampingCalls) := by
  have ends : (replay (.ofSettings .unset) stampingCalls).isSome = true := by decide +kernel
  obtain ⟨⟨root, m⟩, replayed⟩ := Option.isSome_iff_exists.mp ends
  have reached := reached_of_replay replayed
  exact ⟨root, m, reached, (fromText_of_reached reached).1⟩

end MiniLisp
