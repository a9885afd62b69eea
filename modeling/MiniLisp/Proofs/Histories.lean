import MiniLisp.Proofs.Keeping

/-!
# Histories of an interpreter

An interpreter starts with a root frame of standard operators and then runs one text after the
other in it. `Reached calls root m` says that the calls, the latest first, can lead to the machine
`m`, whatever each of them ended in. A policy that allows the calls (`Policy.Allows`) holds in every
machine reached (`Policy.safe_of_reached`), and the values in its store have identities of their own
(`Policy.safeAt_of_reached`).
-/

namespace MiniLisp

variable {α : Type}

/-- The machine that a computation leaves, if it ends. -/
def Outcome.machine? : Outcome α → Option Machine
  | .ok _ m => some m
  | .error _ m => some m
  | .fault _ m => some m
  | .exhausted => none

/-- The running of a text, in its context and with its fuel. -/
structure Call where
  context : Context
  fuel : Nat
  text : List Char
  source : String

/-- Runs the text in a root frame. -/
def Call.run (call : Call) (root : FrameId) (m : Machine) : Outcome Value :=
  Eval.evalText (Eval.evaluate call.fuel) root call.text call.source call.context m

/-- The calls, the latest first, lead from a new root frame to the machine. -/
inductive Reached : List Call → FrameId → Machine → Prop
  | start {c : Context} {root : FrameId} {m : Machine} :
      Eval.newRoot c .initial = .ok root m → Reached [] root m
  | call {calls : List Call} {root : FrameId} {m m' : Machine} (call : Call) :
      Reached calls root m → (call.run root m).machine? = some m' → Reached (call :: calls) root m'

/-- The root frame and the machine that some calls lead to, the latest first. -/
def replay (c : Context) : List Call → Option (FrameId × Machine)
  | [] => match Eval.newRoot c .initial with
    | .ok root m => some (root, m)
    | _ => none
  | call :: earlier => do
    let (root, m) ← replay c earlier
    let m' ← (call.run root m).machine?
    return (root, m')

theorem reached_of_replay {c : Context} {calls : List Call} {root : FrameId} {m : Machine}
    (h : replay c calls = some (root, m)) : Reached calls root m := by
  induction calls generalizing m with
  | nil =>
    unfold replay at h
    split at h
    · next made =>
      cases h
      exact .start made
    · cases h
  | cons call earlier ih =>
    obtain ⟨⟨root', m₁⟩, before, h⟩ := Option.bind_eq_some_iff.mp h
    obtain ⟨m₂, ended, h⟩ := Option.bind_eq_some_iff.mp h
    cases h
    exact .call call (ih before) ended

namespace Policy

open Eval Reader

variable {p : Policy} {c : Context} {n : Nat} {now : Moment}

/-! ## Reading -/

/-- The value is good and stands at an allowed place. -/
def Placed (p : Policy) (n : Nat) (v : Value) : Prop := p.Good n v ∧ p.place v.loc

/-- What the construct holds is good and stands at allowed places. -/
def PendingPlaced (p : Policy) (n : Nat) : Pending → Prop
  | .quote loc => p.place loc
  | .items opened reversed => p.place opened ∧ ∀ v ∈ reversed, p.Placed n v
  | .tail opened reversed => p.place opened ∧ ∀ v ∈ reversed, p.Placed n v

/-- What the reader has built so far is good and stands at allowed places. -/
def StatePlaced (p : Policy) (n : Nat) : State → Prop
  | .awaiting stack => ∀ pending ∈ stack, p.PendingPlaced n pending
  | .closing opened reversed tail below => p.place opened ∧ (∀ v ∈ reversed, p.Placed n v) ∧
      p.Placed n tail ∧ ∀ pending ∈ below, p.PendingPlaced n pending

/-- What the reader goes on with, or has read, is good and stands at allowed places. -/
def StepPlaced (p : Policy) (n : Nat) : Step → Prop
  | .next state => p.StatePlaced n state
  | .done v => p.Placed n v
  | .refuse _ => True
  | .refuseAhead _ => True

theorem placed_atom (fair : p.Fair c) {word : String} {loc : Location} (place : p.place loc)
    {v : Value} (read : atom c.settings.readingWidth word loc = .ok v) : p.Placed n v := by
  unfold atom at read
  split at read
  · cases read
    exact ⟨good_nil fair place, place⟩
  split at read
  · cases read
    exact ⟨good_truth fair place, place⟩
  split at read
  · cases read
    exact ⟨good_symbol fair word place, place⟩
  split at read
  · cases read
  split at read
  · cases read
  · next bits asked =>
    split at read
    · next fits =>
      cases read
      exact ⟨good_integer fair (fair.fitting asked fits) place, place⟩
    · cases read

theorem placed_quotation (fair : p.Fair c) {loc : Location} (place : p.place loc) {v : Value}
    (h : p.Placed n v) : p.Placed n (quotation loc v) := by
  have ending : p.Good n (.cell v (.nil loc) loc) :=
    good_cell fair h.1 (good_nil fair place) place
  exact ⟨good_cell fair (good_symbol fair "quote" place) ending place, place⟩

theorem placed_cells (fair : p.Fair c) {opened : Location} (place : p.place opened)
    {reversed : List Value} {tail : Value} (items : ∀ v ∈ reversed, p.Placed n v)
    (hTail : p.Placed n tail) : p.Placed n (cells opened reversed tail) := by
  fun_induction cells opened reversed tail with
  | case1 tail => exact hTail
  | case2 v tail => exact ⟨good_cell fair (items v List.mem_cons_self).1 hTail.1 place, place⟩
  | case3 v vs tail _ ih =>
    obtain ⟨good, itsPlace⟩ := items v List.mem_cons_self
    exact ih (fun w mem => items w (List.mem_cons_of_mem v mem))
      ⟨good_cell fair good hTail.1 itsPlace, itsPlace⟩

theorem stepPlaced_complete (fair : p.Fair c) {v : Value} (h : p.Placed n v)
    {stack : List Pending} (held : ∀ pending ∈ stack, p.PendingPlaced n pending) :
    p.StepPlaced n (complete v stack) := by
  induction stack generalizing v with
  | nil => exact h
  | cons pending below ih =>
    obtain ⟨top, heldBelow⟩ := List.forall_mem_cons.mp held
    cases pending with
    | quote loc => exact ih (placed_quotation fair top h) heldBelow
    | items opened reversed =>
      exact List.forall_mem_cons.mpr ⟨⟨top.1, List.forall_mem_cons.mpr ⟨h, top.2⟩⟩, heldBelow⟩
    | tail opened reversed => exact ⟨top.1, top.2, h, heldBelow⟩

theorem stepPlaced_start (fair : p.Fair c) {t : Token} (place : p.place t.loc)
    {stack : List Pending} (held : ∀ pending ∈ stack, p.PendingPlaced n pending) :
    p.StepPlaced n (start c.settings.readingWidth stack t) := by
  unfold start
  split
  · split
    · next v read => exact stepPlaced_complete fair (placed_atom fair place read) held
    · trivial
  · exact List.forall_mem_cons.mpr ⟨place, held⟩
  · exact List.forall_mem_cons.mpr ⟨⟨place, by simp⟩, held⟩
  · trivial
  · trivial

theorem stepPlaced_step (fair : p.Fair c) {t : Token} (place : p.place t.loc) {state : State}
    (held : p.StatePlaced n state) : p.StepPlaced n (step c.settings.readingWidth state t) := by
  unfold step
  split
  · split
    · obtain ⟨opened, items, tail, below⟩ := held
      exact stepPlaced_complete fair (placed_cells fair opened items tail) below
    · trivial
  · next opened reversed below =>
    obtain ⟨list, heldBelow⟩ := List.forall_mem_cons.mp held
    split
    · exact stepPlaced_complete fair
        (placed_cells fair list.1 list.2 ⟨good_nil fair place, place⟩) heldBelow
    · split
      · split
        · trivial
        · exact List.forall_mem_cons.mpr ⟨list, heldBelow⟩
      · exact stepPlaced_start fair place held
  · exact stepPlaced_start fair place held

/-- Whatever is read is good, if the tokens stand at allowed places. -/
theorem good_many (fair : p.Fair c) {ts : List Token} (places : ∀ t ∈ ts, p.place t.loc)
    {state : State} (held : p.StatePlaced n state) :
    ∀ v ∈ (many c.settings.readingWidth state ts).forms, p.Good n v := by
  induction ts generalizing state with
  | nil => exact fun v mem => absurd mem List.not_mem_nil
  | cons t ts ih =>
    obtain ⟨place, later⟩ := List.forall_mem_cons.mp places
    have stepped := stepPlaced_step fair place held
    unfold many
    split
    · next state' eq =>
      rw [eq] at stepped
      exact ih later stepped
    · next v eq =>
      rw [eq] at stepped
      exact List.forall_mem_cons.mpr ⟨stepped.1, ih later fun _ mem => absurd mem List.not_mem_nil⟩
    · exact fun v mem => absurd mem List.not_mem_nil
    · exact fun v mem => absurd mem List.not_mem_nil

theorem good_readText (fair : p.Fair c) {text : List Char} {source : String} {line : Int}
    (places : ∀ t ∈ tokens text source line, p.place t.loc) :
    ∀ v ∈ (readText c.settings.readingWidth text source line).forms, p.Good n v := by
  unfold readText TokenStream.all
  rw [TokenStream.remaining_ofTokens]
  exact good_many fair places fun _ mem => absurd mem List.not_mem_nil

/-! ## Running texts -/

/-- The result of forms is that of the last one, or what there was before if there is none. -/
theorem Respects.evalForms {ev : Evaluator} (respects : p.Respects c ev) {root : FrameId}
    (inside : root < now.frames) {last : Value} {forms : List Value}
    (goods : ∀ v ∈ forms, p.Fine now v) :
    p.Triple c now (evalForms ev root last forms) fun later v => v = last ∨ p.Fine later v := by
  induction forms generalizing now last with
  | nil => exact .pure (.inl rfl)
  | cons form forms ih =>
    obtain ⟨good, others⟩ := List.forall_mem_cons.mp goods
    refine (respects inside good).bind fun now₁ v le₁ goodV => ?_
    have others₁ : ∀ w ∈ forms, p.Fine now₁ w := fun w mem => (others w mem).mono le₁
    refine (ih (le₁.inside inside) others₁).weaken fun now₂ w le₂ ended => .inr ?_
    rcases ended with rfl | goodW
    · exact goodV.mono le₂
    · exact goodW

theorem Triple.loggingError {Q : Moment → α → Prop} {x : Eval α} (h : p.Triple c now x Q)
    (source : String) : p.Triple c now (loggingError source x) Q := by
  refine h.catchError.bind fun now₁ ended _ result => ?_
  cases ended with
  | ok a => exact .pure result
  | error e =>
    refine (Triple.log _ _).bind fun now₂ _ le₂ _ => ?_
    exact .fail ⟨le₂.made result.1, result.2⟩

/-- The policy allows the call: it is sound in its context, it allows new values at the tokens of
its text, and any fault. -/
structure Allows (p : Policy) (call : Call) : Prop where
  sound : p.Sound call.context
  place : ∀ t ∈ tokens call.text call.source 1, p.place t.loc
  fault : ∀ reason, p.fault reason

section Texts

variable {root : FrameId} {forms : List Value} {last : Value} {m : Machine} {o : Outcome Value}

/-- Without a record, the result of forms is good unless there is none. -/
theorem Triple.keeps_result {x : Eval Value}
    (h : p.Triple c (.unrecorded n) x fun later v => v = last ∨ p.Fine later v)
    (safe : p.Safe n m) (ended : x c m = o) :
    p.Keeps n (fun n v => v = last ∨ p.Good n v) o :=
  h.keeps (fun _ _ _ le => Or.imp_right (Fine.good le)) safe ended

theorem Sound.keeps_forms (sound : p.Sound c) (fuel : Nat) (inside : root < n)
    (goods : ∀ v ∈ forms, p.Good n v) (safe : p.Safe n m)
    (ended : Eval.evalForms (evaluate fuel) root last forms c m = o) :
    p.Keeps n (fun n v => v = last ∨ p.Good n v) o := by
  have respects : p.Respects c (evaluate fuel) := sound.respects_evaluate fuel
  have fine (v : Value) (mem : v ∈ forms) : p.Fine (.unrecorded n) v := (goods v mem).fine
  exact Triple.keeps_result (respects.evalForms inside fine) safe ended

variable {call : Call} (allows : p.Allows call)
include allows

theorem Allows.triple (inside : root < now.frames) :
    p.Triple call.context now
      (evalText (evaluate call.fuel) root call.text call.source) fun later v =>
        v = .nil .unknown ∨ p.Fine later v := by
  have settings : p.Triple call.context now Eval.settings fun _ s => s = call.context.settings :=
    ⟨fun _ safe => safe.reaches rfl⟩
  refine settings.bind fun now₁ s le₁ eq => ?_
  subst eq
  refine Triple.loggingError ?_ call.source
  have respects : p.Respects call.context (evaluate call.fuel) :=
    allows.sound.respects_evaluate call.fuel
  refine (respects.evalForms (le₁.inside inside)
    (good_readText allows.sound.within allows.place)).bind fun now₂ v le₂ result => ?_
  split
  · exact .pure result
  · exact .abandon (allows.fault _)

theorem Allows.keeps (inside : root < n) (safe : p.Safe n m) (ended : call.run root m = o) :
    p.Keeps n (fun n v => v = .nil .unknown ∨ p.Good n v) o :=
  Triple.keeps_result (allows.triple inside) safe ended

/-- Any forms of the text may be evaluated. -/
theorem Allows.keeps_forms (inside : root < n)
    (read : ∀ v ∈ forms,
      v ∈ (readText call.context.settings.readingWidth call.text call.source 1).forms)
    (safe : p.Safe n m)
    (ended : Eval.evalForms (evaluate call.fuel) root last forms call.context m = o) :
    p.Keeps n (fun n v => v = last ∨ p.Good n v) o := by
  have goods (v : Value) (mem : v ∈ forms) : p.Good n v :=
    good_readText allows.sound.toFair allows.place v (read v mem)
  exact allows.sound.keeps_forms call.fuel inside goods safe ended

end Texts

/-- The result of forms of which there may be none. -/
theorem every_of_result {v : Value} (result : v = .nil .unknown ∨ p.Good n v)
    (empty : p.value (.nil .unknown)) : v.Every p.value := by
  rcases result with rfl | good
  · exact empty
  · exact good.every

/-! ## Root frames -/

theorem triple_bindOperators (root : FrameId) {ops : List Operator}
    (natives : ∀ op ∈ ops, ∀ identity, p.value (.native op identity)) :
    p.Triple c now (bindOperators root ops) fun _ _ => True := by
  induction ops generalizing now with
  | nil => exact .pure trivial
  | cons op ops ih =>
    obtain ⟨native, others⟩ := List.forall_mem_cons.mp natives
    have fresh : p.Triple c now (freshNative op) p.Fine :=
      .fresh (fun _ => rfl) fun _ identity _ made => ⟨trivial, native identity, fun _ => made⟩
    refine fresh.bind fun now₁ v _ goodV => ?_
    exact (Triple.bindSymbol root rfl goodV).bind fun _ _ _ _ => ih others

theorem triple_bindStandard (root : FrameId)
    (natives : ∀ op ∈ Operator.standard, ∀ identity, p.value (.native op identity)) :
    p.Triple c now (bindStandard root) fun _ _ => True := by
  unfold bindStandard
  exact (triple_bindOperators root natives).bind fun _ _ _ _ => .log _ _

theorem triple_newRoot
    (natives : ∀ op ∈ Operator.standard, ∀ identity, p.value (.native op identity)) :
    p.Triple c now newRoot fun later root => root < later.frames := by
  have noOuter : ∀ g, (none : Option FrameId) = some g → g < now.frames := fun g eq => by cases eq
  unfold newRoot
  refine (Triple.newFrame noOuter).bind fun now₁ root _ inside => ?_
  refine (triple_bindStandard root natives).bind fun now₂ _ le₂ _ => ?_
  exact .pure (le₂.inside inside)

/-! ## Histories -/

theorem Continues.reaches {Q : Moment → α → Prop} {o : Outcome α} (h : p.Continues now Q o)
    {m : Machine} (ended : o.machine? = some m) : p.Reaches now m fun _ => True := by
  cases o with
  | exhausted => cases ended
  | _ =>
    obtain rfl := Option.some.inj ended
    exact Reaches.imp h fun _ _ _ => trivial

section Reached

variable {calls : List Call} {root : FrameId} {m : Machine} (h : Reached calls root m)
  (natives : ∀ op ∈ Operator.standard, ∀ identity, p.value (.native op identity))
  (allows : ∀ call ∈ calls, p.Allows call)
include h natives allows

/-- A policy that allows every call of a history holds in the machine reached, whatever the calls
ended in. The store is made of what is on record, and no two values on record share an identity. -/
theorem safeAt_of_reached :
    ∃ now : Moment, root < now.frames ∧ now.Distinct ∧ p.SafeAt now m := by
  induction h with
  | @start c root m made =>
    obtain ⟨now, le, safe, inside⟩ := (triple_newRoot natives).continues safeAt_start made
    exact ⟨now, inside, le.distinct Moment.distinct_start, safe⟩
  | call call _ ended ih =>
    obtain ⟨allowed, earlier⟩ := List.forall_mem_cons.mp allows
    obtain ⟨now, inside, distinct, safe⟩ := ih earlier
    obtain ⟨later, le, safe', -⟩ := ((allowed.triple inside).run _ safe).reaches ended
    exact ⟨later, le.inside inside, le.distinct distinct, safe'⟩

theorem safe_of_reached : p.Safe (root + 1) m := by
  obtain ⟨now, inside, -, safe⟩ := safeAt_of_reached h natives allows
  exact safe.safe inside

end Reached

end Policy

end MiniLisp
