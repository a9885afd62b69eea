import MiniLisp.Proofs.Equality
import MiniLisp.Proofs.WellFormed

/-!
# Identities tell values apart

Structural equality compares closures, native operators and errors as they are, with all that is in
them. For those that a run makes their identities would do, since no two have the same one. So two
values that a text finds in the store, leaves there or ends in are structurally equal if and only if
they agree when locations are erased and each closure, native operator and error is replaced by its
identity.

* `Store.Contains`, `Outcome.Shows`: which values there are before and after a computation;
* `Moment.Distinct.distinguishes`: the identities on record tell apart what is on record;
* `distinguishes_of_reached`, `same_iff_of_reached`: the results.
-/

namespace MiniLisp

/-- Some slot of some frame holds the value, whether a name still refers to the slot or not. -/
def Store.Contains (s : Store) (v : Value) : Prop :=
  ∃ (f : FrameId) (frame : Frame) (index : Nat) (b : Binding), s.frame? f = some frame ∧
    frame.slots[index]? = some b ∧ b.value = v

/-- The value that a computation ended in, which may be an error. -/
def Outcome.value? : Outcome Value → Option Value
  | .ok v _ => some v
  | .error e _ => some (.error e)
  | .fault .. => none
  | .exhausted => none

/-- The value is what the computation ended in, or the store contains it afterwards. -/
def Outcome.Shows (o : Outcome Value) (v : Value) : Prop :=
  o.value? = some v ∨ ∃ m, o.machine? = some m ∧ m.store.Contains v

/-- Every leaf has an identity. -/
theorem Value.exists_identity {v w : Value} (mem : w ∈ v.leaves) :
    ∃ identity, w.identity? = some identity := by
  induction v with
  | cell first rest _ ihFirst ihRest => exact (List.mem_append.mp mem).elim ihFirst ihRest
  | closure | native | error =>
    obtain rfl := List.mem_singleton.mp mem
    exact ⟨_, rfl⟩
  | _ => exact absurd mem List.not_mem_nil

/-- Every leaf of the value is on record. -/
def Moment.Covers (now : Moment) (v : Value) : Prop := ∀ w ∈ v.leaves, now.made w

theorem Moment.Covers.mono {now later : Moment} (le : now.Le later) {v : Value}
    (h : now.Covers v) : later.Covers v := fun w mem => le.made (h w mem)

/-- Identities that are distinct tell two values apart whose leaves are on record. -/
theorem Moment.Distinct.distinguishes {now : Moment} (distinct : now.Distinct) {a b : Value}
    (left : now.Covers a) (right : now.Covers b) :
    Value.Distinguishes Value.identity? a b := by
  intro v inLeft w inRight equal
  obtain ⟨identity, found⟩ := Value.exists_identity inLeft
  exact distinct.unique (left v inLeft) (right w inRight) found (equal ▸ found)

namespace Policy

variable {p : Policy} {now : Moment} {m : Machine} {v : Value}

theorem Fine.covers (h : p.Fine now v) : now.Covers v := by
  induction v with
  | cell first rest _ ihFirst ihRest =>
    exact List.forall_mem_append.mpr ⟨ihFirst h.first, ihRest h.rest⟩
  | closure | native | error => exact List.forall_mem_singleton.mpr (h.value.2 rfl)
  | _ => exact fun w mem => absurd mem List.not_mem_nil

theorem SafeAt.covers (safe : p.SafeAt now m) (stored : m.store.Contains v) : now.Covers v := by
  obtain ⟨f, frame, index, b, found, inSlot, rfl⟩ := stored
  have fine : p.Fine { now with frames := m.store.nextFrame } b.value :=
    (safe.holds f frame found).value inSlot
  exact fine.covers

theorem Reaches.exists_covers {P : Moment → Prop} (h : p.Reaches now m P) {o : Outcome Value}
    (left : o.machine? = some m)
    (ended : ∀ later v, P later → o.value? = some v → later.Covers v) :
    ∃ later, now.Le later ∧ ∀ v, o.Shows v → later.Covers v := by
  obtain ⟨later, le, safe, holds⟩ := h
  refine ⟨later, le, fun v shown => ?_⟩
  rcases shown with shown | ⟨m', left', stored⟩
  · exact ended later v holds shown
  · obtain rfl := Option.some.inj (left.symm.trans left')
    exact safe.covers stored

/-- What a computation shows is on record at some later moment. -/
theorem Continues.exists_covers {Q : Moment → Value → Prop} {o : Outcome Value}
    (h : p.Continues now Q o) (result : ∀ later v, Q later v → later.Covers v) :
    ∃ later, now.Le later ∧ ∀ v, o.Shows v → later.Covers v := by
  cases o with
  | ok v m =>
    refine Reaches.exists_covers h rfl fun later v' ended shown => ?_
    cases shown
    exact result later v ended
  | error e m =>
    refine Reaches.exists_covers h rfl fun later v raised shown => ?_
    cases shown
    exact List.forall_mem_singleton.mpr raised.1
  | fault reason m =>
    refine Reaches.exists_covers h rfl fun later v _ shown => ?_
    cases shown
  | exhausted =>
    refine ⟨now, .refl now, fun v shown => ?_⟩
    rcases shown with shown | ⟨m, left, -⟩
    · cases shown
    · cases left

end Policy

section Reached

variable {calls : List Call} {root : FrameId} {m : Machine} (h : Reached calls root m) (call : Call)
  {a b : Value} (first : m.store.Contains a ∨ (call.run root m).Shows a)
  (second : m.store.Contains b ∨ (call.run root m).Shows b)
include h first second

/-- Whatever texts were run and whatever they ended in, identities tell apart what is in the values
that the store contains and in those that the next text leaves in it or ends in. -/
theorem distinguishes_of_reached : Value.Distinguishes Value.identity? a b := by
  obtain ⟨now, inside, distinct, safe⟩ := Policy.safeAt_of_reached (p := .any) h
    (fun _ _ _ => trivial) fun call _ => Policy.any_allows call
  have ending := ((Policy.any_allows call).triple inside).continues safe rfl
  have result (later : Moment) (v : Value) (ended : v = .nil .unknown ∨ Policy.any.Fine later v) :
      later.Covers v := by
    rcases ended with rfl | fine
    · exact fun w mem => absurd mem List.not_mem_nil
    · exact fine.covers
  obtain ⟨later, le, shown⟩ := ending.exists_covers result
  have covers {v : Value} (among : m.store.Contains v ∨ (call.run root m).Shows v) :
      later.Covers v := by
    rcases among with stored | shows
    · exact (safe.covers stored).mono le
    · exact shown v shows
  exact (le.distinct distinct).distinguishes (covers first) (covers second)

/-- Any two of these values are structurally equal if and only if the same is left of them without
locations and with identities in place of closures, native operators and errors. -/
theorem same_iff_of_reached :
    a.same b = true ↔ a.outline Value.identity? = b.outline Value.identity? :=
  Value.same_iff_outline (distinguishes_of_reached h call first second)

end Reached

end MiniLisp
