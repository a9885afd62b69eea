import Mathlib.Data.List.Perm.Subperm
import MiniLisp.Proofs.WellFormed

/-!
# What a name denotes after a change

Seen from a frame, a name denotes the slot that the innermost of the frames around gives it. A new
binding hides those further out from the frames inside, and is itself hidden from where a frame on
the way binds the name too. An assignment is seen from wherever a name denotes the slot.

* `Store.Climbs`: the way from a frame to one outside it, link by link;
* `Store.Acyclic`: no way leads back;
* `Store.Acyclic.outward_eq`: a lookup goes all the way, in spite of its bound;
* `Store.Visible`: a name of one frame is not hidden from another frame;
* `Store.find?_bind_visible`, `Store.find?_bind_hidden`: the slot that a name denotes after a symbol
  has been bound;
* `Store.reads_after_writes`: what every name denotes in every frame after each of the two changes;
* `references_of_reached`: the store of an interpreter is one of those that this is about.
-/

namespace MiniLisp

namespace Store

variable {s : Store} {f g h : FrameId} {inner outer : List FrameId} {frame : Frame} {key : Key}
  {symbol value : Value} {bound : Nat}

/-! ## The way outward -/

/-- The frames of the list, of which `g` is the first, lead to `f`: each is inside the next one, and
the last is inside `f`. -/
inductive Climbs (s : Store) : (g : FrameId) → (inner : List FrameId) → (f : FrameId) → Prop
  | here (f : FrameId) : s.Climbs f [] f
  | outward {g h f : FrameId} {inner : List FrameId} :
      s.outer? g = some h → s.Climbs h inner f → s.Climbs g (g :: inner) f

/-- No way outward leads back to where it began. -/
def Acyclic (s : Store) : Prop := ∀ f inner, ¬ s.Climbs f (f :: inner) f

/-- Every frame on the way can be climbed to. -/
theorem Climbs.exists_of_mem (climbs : s.Climbs g inner f) (mem : h ∈ inner ++ [f]) :
    ∃ passed, s.Climbs g passed h := by
  induction climbs with
  | here f =>
    cases List.mem_singleton.mp mem
    exact ⟨[], .here _⟩
  | outward link _ ih =>
    rcases List.mem_cons.mp mem with rfl | mem
    · exact ⟨[], .here _⟩
    · obtain ⟨passed, climbs⟩ := ih mem
      exact ⟨_, .outward link climbs⟩

/-- The frames on the way exist, since all but the last have an outer frame. -/
theorem Climbs.inside (climbs : s.Climbs g inner f) (inside : f < s.nextFrame) :
    ∀ h ∈ inner ++ [f], h < s.nextFrame := by
  induction climbs with
  | here f =>
    intro h mem
    rwa [List.mem_singleton.mp mem]
  | @outward g _ _ _ link _ ih =>
    intro h mem
    rcases List.mem_cons.mp mem with rfl | mem
    · refine Nat.lt_of_not_le fun outside => ?_
      unfold outer? at link
      rw [frame?_eq_none outside] at link
      cases link
    · exact ih inside h mem

theorem Acyclic.nodup (acyclic : s.Acyclic) (climbs : s.Climbs g inner f) :
    (inner ++ [f]).Nodup := by
  induction climbs with
  | here f => exact List.pairwise_singleton _ f
  | outward link climbs ih =>
    refine List.nodup_cons.mpr ⟨fun again => ?_, ih⟩
    obtain ⟨passed, back⟩ := climbs.exists_of_mem again
    exact acyclic _ passed (.outward link back)

/-- The way leads through each frame at most once, so it has fewer links than there are frames. -/
theorem Acyclic.length_lt (acyclic : s.Acyclic) (climbs : s.Climbs g inner f)
    (inside : f < s.nextFrame) : inner.length < s.nextFrame := by
  have among : inner ++ [f] ⊆ List.range s.nextFrame := fun h mem =>
    List.mem_range.mpr (climbs.inside inside h mem)
  have few := (List.subperm_of_subset (acyclic.nodup climbs) among).length_le
  rwa [List.length_append, List.length_singleton, List.length_range] at few

theorem Climbs.outwardWithin_eq (climbs : s.Climbs g inner f) (short : inner.length < bound) :
    ∃ outer, s.outwardWithin bound g = inner ++ f :: outer := by
  induction climbs generalizing bound with
  | here f =>
    obtain ⟨bound, rfl⟩ := Nat.exists_eq_succ_of_ne_zero (Nat.ne_zero_of_lt short)
    exact ⟨_, rfl⟩
  | @outward g h f inner link _ ih =>
    obtain ⟨bound, rfl⟩ := Nat.exists_eq_succ_of_ne_zero (Nat.ne_zero_of_lt short)
    obtain ⟨outer, passed⟩ := ih (Nat.lt_of_succ_lt_succ short)
    have next : (s.frame? g).bind Frame.outer = some h := link
    refine ⟨outer, ?_⟩
    unfold outwardWithin
    rw [next]
    dsimp only
    rw [passed]
    rfl

/-- A lookup passes through all frames on the way to an outer one, for they are no more than its
bound allows. -/
theorem Acyclic.outward_eq (acyclic : s.Acyclic) (climbs : s.Climbs g inner f)
    (inside : f < s.nextFrame) : ∃ outer, s.outward g = inner ++ f :: outer :=
  climbs.outwardWithin_eq (acyclic.length_lt climbs inside)

/-- A lookup climbs to every frame that it passes through. -/
theorem climbs_of_outwardWithin (passed : s.outwardWithin bound g = inner ++ f :: outer) :
    s.Climbs g inner f := by
  induction inner generalizing bound g with
  | nil =>
    cases bound with
    | zero => cases passed
    | succ bound =>
      unfold outwardWithin at passed
      cases (List.cons.inj passed).1
      exact .here _
  | cons first inner ih =>
    cases bound with
    | zero => cases passed
    | succ bound =>
      unfold outwardWithin at passed
      obtain ⟨rfl, later⟩ := List.cons.inj passed
      cases link : (s.frame? g).bind Frame.outer with
      | none =>
        rw [link] at later
        cases inner <;> cases later
      | some h =>
        rw [link] at later
        exact .outward link (ih later)

/-- Where the outer frame is always the older one, the way leads downward. -/
theorem Older.climbs_le (older : s.Older) (climbs : s.Climbs g inner f) :
    f + inner.length ≤ g := by
  induction climbs with
  | here f => exact Nat.le_refl f
  | @outward g h f inner link _ ih =>
    have below : h < g := older g h link
    exact Nat.le_trans (Nat.succ_le_succ ih) below

theorem Older.acyclic (older : s.Older) : s.Acyclic := fun _ _ climbs =>
  absurd (older.climbs_le climbs) (Nat.not_le_of_lt (Nat.lt_add_of_pos_right (Nat.succ_pos _)))

/-! ## Binding -/

/-- The slot after all others of a frame holds nothing. -/
theorem binding?_size (found : s.frame? f = some frame) :
    s.binding? ⟨f, frame.slots.size⟩ = none := by
  unfold binding?
  rw [found]
  exact Array.getElem?_eq_none (Nat.le_refl _)

/-- No name denotes the slot that the next binding of a frame will get. -/
theorem Backed.find?_ne (backed : s.Backed) (found : s.frame? f = some frame) :
    s.find? g key ≠ some ⟨f, frame.slots.size⟩ := by
  intro denoted
  obtain ⟨b, held⟩ := backed.exists_binding? denoted
  rw [binding?_size found] at held
  cases held

/-- The frame `f` is `g` or a frame around it, and no frame on the way from `g` to `f` binds the
key. -/
def Visible (s : Store) (key : Key) (g f : FrameId) : Prop :=
  ∃ inner, s.Climbs g inner f ∧ ∀ h ∈ inner, s.slotIn? key h = none

theorem outward_bind (s : Store) (f : FrameId) (symbol value : Value) (g : FrameId) :
    (s.bind f symbol value).outward g = s.outward g := by
  have size : (s.bind f symbol value).frames.size = s.frames.size :=
    s.nextFrame_bind f symbol value
  unfold outward
  rw [size, outwardWithin_congr fun h _ => s.outer?_bind f h symbol value]

/-- From where the frame is visible under the name of the symbol, the name denotes the new slot. -/
theorem find?_bind_visible (acyclic : s.Acyclic) (found : s.frame? f = some frame)
    (value : Value) (visible : s.Visible symbol.name? g f) :
    (s.bind f symbol value).find? g symbol.name? = some ⟨f, frame.slots.size⟩ := by
  obtain ⟨inner, climbs, unbound⟩ := visible
  have inside : f < s.nextFrame := (Array.getElem?_eq_some_iff.mp found).1
  obtain ⟨outer, passed⟩ := acyclic.outward_eq climbs inside
  have apart := (List.nodup_append.mp (acyclic.nodup climbs)).2.2
  have stillUnbound :
      inner.findSome? ((s.bind f symbol value).slotIn? symbol.name?) = none := by
    refine List.findSome?_eq_none_iff.mpr fun h mem => ?_
    have ne : h ≠ f := apart h mem f (List.mem_singleton.mpr rfl)
    rw [slotIn?_bind found, if_neg fun both => ne both.1]
    exact unbound h mem
  unfold find?
  rw [outward_bind, passed, List.findSome?_append, stillUnbound, List.findSome?_cons,
    slotIn?_bind found, if_pos ⟨rfl, rfl⟩]
  rfl

/-- Every other name, and this name from wherever else, denotes what it denoted. -/
theorem find?_bind_hidden (found : s.frame? f = some frame) (symbol value : Value)
    (hidden : ¬ (key = symbol.name? ∧ s.Visible key g f)) :
    (s.bind f symbol value).find? g key = s.find? g key := by
  have sameIn {h : FrameId} (apart : ¬ (h = f ∧ key = symbol.name?)) :
      (s.bind f symbol value).slotIn? key h = s.slotIn? key h := by
    rw [slotIn?_bind found, if_neg apart]
  unfold find?
  rw [outward_bind]
  by_cases named : key = symbol.name?
  · by_cases passes : f ∈ s.outward g
    · -- some frame on the way to the first occurrence of `f` binds the name
      obtain ⟨inner, outer, passed, first⟩ := List.eq_append_cons_of_mem passes
      have inSame : inner.findSome? ((s.bind f symbol value).slotIn? key) =
          inner.findSome? (s.slotIn? key) :=
        findSome?_slotIn?_eq fun h mem => sameIn fun both => first (both.1 ▸ mem)
      rw [passed, List.findSome?_append, List.findSome?_append, inSame]
      cases denoted : inner.findSome? (s.slotIn? key) with
      | none =>
        exact absurd ⟨named, inner, climbs_of_outwardWithin passed,
          List.findSome?_eq_none_iff.mp denoted⟩ hidden
      | some slot => rfl
    · exact findSome?_slotIn?_eq fun h mem => sameIn fun both => passes (both.1 ▸ mem)
  · exact findSome?_slotIn?_eq fun h _ => sameIn fun both => named both.2

/-- A slot that a name denoted before holds what it held. -/
theorem Backed.lookup?_bind (backed : s.Backed) (found : s.frame? f = some frame)
    (same : (s.bind f symbol value).find? g key = s.find? g key) :
    (s.bind f symbol value).lookup? g key = s.lookup? g key := by
  unfold lookup?
  rw [same]
  cases denoted : s.find? g key with
  | none => rfl
  | some slot =>
    have old : slot ≠ ⟨f, frame.slots.size⟩ := fun new =>
      backed.find?_ne found (denoted.trans (congrArg some new))
    rw [Option.bind_some, Option.bind_some, binding?_bind found, if_neg old]

/-! ## What every name denotes -/

/-- In a store whose outer links do not lead back, each change is seen from where it should be and
from nowhere else.

* Binding a symbol in a frame puts the value in a slot that was not there before. The names of the
  frame keep their order, and the name of the symbol comes last if it is new. From just those frames
  from which this one is visible under the name, the name denotes the new slot. Wherever else, and
  under every other name, lookup gives the same slot with the same value as before.
* Assigning to the slot that a name denotes leaves every name with the slot that it denotes. Those
  that denote this slot have the new value, whatever the frame; all others have their old value. -/
theorem reads_after_writes (acyclic : s.Acyclic) (backed : s.Backed) :
    (∀ (f : FrameId) (frame : Frame) (symbol value : Value), s.frame? f = some frame →
      s.binding? ⟨f, frame.slots.size⟩ = none ∧
      (s.bind f symbol value).binding? ⟨f, frame.slots.size⟩ = some ⟨symbol, value⟩ ∧
      (∃ frame', (s.bind f symbol value).frame? f = some frame' ∧
        frame'.keys = if symbol.name? ∈ frame.keys then frame.keys
          else frame.keys ++ [symbol.name?]) ∧
      ∀ (g : FrameId) (key : Key),
        ((s.bind f symbol value).find? g key = some ⟨f, frame.slots.size⟩ ↔
          key = symbol.name? ∧ s.Visible key g f) ∧
        (¬ (key = symbol.name? ∧ s.Visible key g f) →
          (s.bind f symbol value).find? g key = s.find? g key ∧
          (s.bind f symbol value).lookup? g key = s.lookup? g key)) ∧
    ∀ (f : FrameId) (key : Key) (slot : Slot) (value : Value), s.find? f key = some slot →
      ∀ (g : FrameId) (other : Key),
        (s.assign slot value).find? g other = s.find? g other ∧
        (s.find? g other = some slot →
          ((s.assign slot value).lookup? g other).map Binding.value = some value) ∧
        (s.find? g other ≠ some slot →
          (s.assign slot value).lookup? g other = s.lookup? g other) := by
  refine ⟨fun f frame symbol value found => ?_, fun f key slot value denoted g other => ?_⟩
  · have bound := frame?_bind_self found symbol value
    refine ⟨binding?_size found, ?_, ⟨_, bound, frame.keys_bind symbol value⟩,
      fun g key => ⟨⟨?_, ?_⟩, ?_⟩⟩
    · rw [binding?_bind found, if_pos rfl]
    · intro denoted
      refine Classical.byContradiction fun hidden => ?_
      rw [find?_bind_hidden found symbol value hidden] at denoted
      exact backed.find?_ne found denoted
    · rintro ⟨rfl, visible⟩
      exact find?_bind_visible acyclic found value visible
    · intro hidden
      have same := find?_bind_hidden found symbol value hidden
      exact ⟨same, backed.lookup?_bind found same⟩
  · obtain ⟨b, held⟩ := backed.exists_binding? denoted
    refine ⟨s.find?_assign slot value g other, fun shared => ?_, fun elsewhere => ?_⟩
    · rw [lookup?_assign_of_eq shared held value]
      rfl
    · exact lookup?_assign_of_ne elsewhere value

/-- A root that binds `x` to nil, a frame inside it, a frame inside that one, and another frame
inside the root. -/
def branching : Store :=
  let root := (Store.empty.newFrame none).bind 0 (.symbol "x" .unknown) (.nil .unknown)
  ((root.newFrame (some 0)).newFrame (some 1)).newFrame (some 0)

/-- When the first frame inside the root binds `x` too, the frame inside it sees this and the other
one does not. When the root's `x` is assigned to instead, as found from inside, both see it. -/
theorem branching_reads :
    branching.Acyclic ∧ branching.Backed ∧
    (branching.bind 1 (.symbol "x" .unknown) (.truth .unknown)).find? 2 (some "x") =
      some ⟨1, 0⟩ ∧
    (branching.bind 1 (.symbol "x" .unknown) (.truth .unknown)).find? 3 (some "x") =
      some ⟨0, 0⟩ ∧
    branching.find? 2 (some "x") = some ⟨0, 0⟩ ∧
    ((branching.assign ⟨0, 0⟩ (.truth .unknown)).lookup? 3 (some "x")).map Binding.value =
      some (.truth .unknown) := by
  have good : Policy.any.Good 1 (.nil .unknown) :=
    Policy.good_nil (Policy.sound_any (.ofSettings .unset)).toFair trivial
  have root : Policy.any.Holds
      ((Store.empty.newFrame none).bind 0 (.symbol "x" .unknown) (.nil .unknown)) :=
    (Policy.holds_empty.newFrame (by simp)).bind 0 rfl good
  have holds : Policy.any.Holds branching :=
    ((root.newFrame (by simp)).newFrame (by simp)).newFrame (by simp)
  have acyclic := holds.older.acyclic
  have reads := reads_after_writes acyclic holds.backed
  have seen := (reads.1 1 (.empty (some 0)) (.symbol "x" .unknown) (.truth .unknown) rfl).2.2.2
  have assigned := reads.2 2 (some "x") ⟨0, 0⟩ (.truth .unknown) rfl 3 (some "x")
  refine ⟨acyclic, holds.backed, ?_, ?_, rfl, assigned.2.1 rfl⟩
  · refine (seen 2 (some "x")).1.mpr ⟨rfl, [2], .outward rfl (.here 1), fun h mem => ?_⟩
    rw [List.mem_singleton.mp mem]
    rfl
  · refine ((seen 3 (some "x")).2 ?_).1
    rintro ⟨_, inner, climbs, _⟩
    cases climbs with
    | outward link climbs =>
      have atRoot : some 0 = some _ := link
      cases atRoot
      cases climbs with
      | outward link _ => cases link

end Store

/-! ## Histories -/

/-- The outer links in the store of an interpreter never lead back, and its references lead
somewhere. -/
theorem references_of_reached {calls : List Call} {root : FrameId} {m : Machine}
    (h : Reached calls root m) : m.store.Acyclic ∧ m.store.Backed ∧ m.store.Linked := by
  have safe := Policy.safe_of_reached (p := .any) h (fun _ _ _ => trivial) fun call _ =>
    Policy.any_allows call
  exact ⟨safe.2.older.acyclic, safe.2.backed, safe.2.linked⟩

end MiniLisp
