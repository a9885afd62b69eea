import MiniLisp.Proofs.Policy

/-!
# Moments of a run

Closures, native operators and errors are equal to themselves only, so each has an identity. A
`Moment` keeps a record of what was made with an identity so far. While a run goes on, moments only
get later: what is on record stays there, and as long as each new value gets an identity that was
not given out before, no two values on record share one.

* `Moment.Distinct`: no two values on record share an identity;
* `Moment.Le`: one moment is not later than the other;
* `Moment.le_record`: making a value with a new identity leads to a later moment;
* `Policy.within`: the policy, for values made of what is on record;
* `Policy.SafeAt`: a machine at a moment, in whose store the policy holds for such values.
-/

namespace MiniLisp

/-- The identity of a closure, a native operator or an error. -/
def Value.identity? : Value → Option Identity
  | closure _ _ _ _ _ identity => some identity
  | native _ identity => some identity
  | error e => some e.identity
  | _ => none

/-- How far a run has come: how many frames there are at least, how many identities were given out
at least, and which closures, native operators and errors are on record. -/
structure Moment where
  frames : Nat
  serial : Identity
  made : Value → Prop

namespace Moment

/-- Nothing was made yet. -/
def start : Moment := ⟨0, 0, fun _ => False⟩

/-- There is no record, so anything may have been made. -/
def unrecorded (frames : Nat) : Moment := ⟨frames, 0, fun _ => True⟩

/-- The moment with a value added that was made with the given identity. -/
def record (now : Moment) (v : Value) (identity : Identity) : Moment :=
  ⟨now.frames, identity + 1, fun w => now.made w ∨ w = v⟩

/-- The identities on record were given out before, and no two values on record share one. -/
structure Distinct (now : Moment) : Prop where
  given {v : Value} {identity : Identity} : now.made v → v.identity? = some identity →
    identity < now.serial
  unique {v w : Value} {identity : Identity} : now.made v → now.made w →
    v.identity? = some identity → w.identity? = some identity → v = w

theorem distinct_start : start.Distinct := ⟨False.elim, False.elim⟩

/-- What is on record stays there, and identities that are distinct remain so. -/
structure Le (now later : Moment) : Prop where
  frames : now.frames ≤ later.frames
  made {v : Value} : now.made v → later.made v
  distinct : now.Distinct → later.Distinct

variable {now later last : Moment}

theorem Le.refl (now : Moment) : now.Le now := ⟨Nat.le_refl _, id, id⟩

theorem Le.trans (first : now.Le later) (second : later.Le last) : now.Le last :=
  ⟨Nat.le_trans first.frames second.frames, second.made ∘ first.made,
    second.distinct ∘ first.distinct⟩

/-- A frame that exists goes on to exist. -/
theorem Le.inside (le : now.Le later) {f : FrameId} (inside : f < now.frames) : f < later.frames :=
  Nat.lt_of_lt_of_le inside le.frames

theorem le_frames {n : Nat} (le : now.frames ≤ n) : now.Le { now with frames := n } :=
  ⟨le, id, fun distinct => ⟨distinct.given, distinct.unique⟩⟩

/-- A value is told apart from all that is on record by an identity that was not given out. -/
theorem le_record {v : Value} {identity : Identity} (fresh : now.serial ≤ identity)
    (itself : v.identity? = some identity) : now.Le (now.record v identity) := by
  refine ⟨Nat.le_refl _, .inl, fun distinct => ⟨?_, ?_⟩⟩
  · rintro w given (before | rfl) found
    · exact Nat.lt_succ_of_lt (Nat.lt_of_lt_of_le (distinct.given before found) fresh)
    · rw [itself] at found
      cases found
      exact Nat.lt_succ_self identity
  · have old {w : Value} (before : now.made w) : w.identity? ≠ some identity := fun found =>
      absurd fresh (Nat.not_le.mpr (distinct.given before found))
    rintro w w' given (before | rfl) (before' | rfl) found found'
    · exact distinct.unique before before' found found'
    · rw [itself] at found'
      cases found'
      exact absurd found (old before)
    · rw [itself] at found
      cases found
      exact absurd found' (old before')
    · rfl

end Moment

/-! ## Policies at a moment -/

namespace Policy

variable {p : Policy} {c : Context} {n : Nat} {now later : Moment} {m : Machine}

/-- The policy, but only the given closures, native operators and errors may occur. -/
def within (p : Policy) (made : Value → Prop) : Policy :=
  { p with value := fun v => p.value v ∧ (v.identity?.isSome = true → made v) }

/-- Operators other than `fn` and `macro` make nothing that has an identity. -/
theorem Fair.within (fair : p.Fair c) {made : Value → Prop} : (p.within made).Fair c where
  place_of allowed := fair.place_of allowed.1
  reported_of allowed := fair.reported_of allowed.1
  integer_of allowed := fair.integer_of allowed.1
  nil place := ⟨fair.nil place, nofun⟩
  truth place := ⟨fair.truth place, nofun⟩
  symbol name place := ⟨fair.symbol name place, nofun⟩
  integer allowed place := ⟨fair.integer allowed place, nofun⟩
  cell first rest place := ⟨fair.cell first rest place, nofun⟩
  zero := fair.zero
  wrapped := fair.wrapped
  fitting := fair.fitting
  widthless := fair.widthless
  unjoined allowed := fair.unjoined allowed.1
  unwritten allowed := fair.unwritten (Value.Every.imp (fun _ both => both.1) allowed)

theorem within_mono {made made' : Value → Prop} (more : ∀ {v}, made v → made' v) (v : Value)
    (h : (p.within made).value v) : (p.within made').value v :=
  ⟨h.1, fun identified => more (h.2 identified)⟩

/-- The value is good at the moment: it is made of what is on record. -/
abbrev Fine (p : Policy) (now : Moment) (v : Value) : Prop :=
  (p.within now.made).Good now.frames v

theorem Fine.mono (le : now.Le later) {v : Value} (h : p.Fine now v) : p.Fine later v :=
  (Good.mono le.frames h).imp (within_mono le.made)

/-- A value that is good at a moment is good, whatever is on record. -/
theorem Fine.good (le : now.frames ≤ n) {v : Value} (h : p.Fine now v) : p.Good n v :=
  (Good.mono le h).imp fun _ allowed => allowed.1

/-- Without a record, a good value is good. -/
theorem Good.fine {v : Value} (h : p.Good n v) : p.Fine (.unrecorded n) v :=
  h.imp fun _ allowed => ⟨allowed, fun _ => trivial⟩

/-- The machine's store has at least `n` frames, and the policy holds in it. -/
def Safe (p : Policy) (n : Nat) (m : Machine) : Prop := n ≤ m.store.nextFrame ∧ p.Holds m.store

/-- The machine has come to the moment, and its store holds nothing but values that are made of what
is on record. -/
structure SafeAt (p : Policy) (now : Moment) (m : Machine) : Prop where
  frames : now.frames ≤ m.store.nextFrame
  serial : now.serial ≤ m.serial
  holds : (p.within now.made).Holds m.store

theorem safeAt_start : p.SafeAt .start .initial := ⟨Nat.zero_le _, Nat.zero_le _, holds_empty⟩

theorem Safe.unrecorded (safe : p.Safe n m) : p.SafeAt (.unrecorded n) m :=
  ⟨safe.1, Nat.zero_le _, safe.2.imp fun _ allowed => ⟨allowed, fun _ => trivial⟩⟩

theorem SafeAt.safe (le : n ≤ now.frames) (safe : p.SafeAt now m) : p.Safe n m :=
  ⟨Nat.le_trans le safe.frames, safe.holds.imp fun _ allowed => allowed.1⟩

/-- A value that is made with the next identity is put on record. -/
theorem SafeAt.record (safe : p.SafeAt now m) (v : Value) :
    p.SafeAt (now.record v m.serial) { m with serial := m.serial + 1 } :=
  ⟨safe.frames, Nat.le_refl _, safe.holds.imp (within_mono .inl)⟩

end Policy

end MiniLisp
