import MiniLisp.Reader

/-!
# Reading part by part

The reader may stop after any token and go on later from the state that it is in. How many lists are
open then is what the parentheses say that were read so far, so a text whose parentheses are closed
breaks off after a quote mark or not at all.

* `Reader.consume`: what some tokens are read as, and where reading is afterwards;
  `Reader.consume_append` reads them in two parts;
* `Reader.openLists_of_consume`: open lists are open parentheses;
* `Reader.awaiting_of_closed`: where reading can be when no parenthesis is open;
* `Reader.exists_getLast?_quote`, `Reader.not_complete_of_getLast?_quote`: a quotation is open if
  and only if the last token is a quote mark.
-/

namespace MiniLisp.Reader

variable {width : Except Fault Nat} {state state' : State} {ts : List Token} {vs : List Value}
  {fault : Fault}

/-- What some tokens are read as: the values that they complete, and the state that they leave
reading in, or the fault for which one of them is refused. -/
def consume (width : Except Fault Nat) : State → List Token → List Value × Except Fault State
  | state, [] => ([], .ok state)
  | state, t :: ts =>
    match step width state t with
    | .next state => consume width state ts
    | .done v =>
      let (vs, ended) := consume width (.awaiting []) ts
      (v :: vs, ended)
    | .refuse fault => ([], .error fault)
    | .refuseAhead fault => ([], .error fault)

/-- The fault of tokens that are not followed by any other. -/
def finalFault : Except Fault State → Option Fault
  | .ok state => atEnd state
  | .error fault => some fault

theorem consume_of_next {t : Token} {next : State} (h : step width state t = .next next)
    (ts : List Token) : consume width state (t :: ts) = consume width next ts := by
  rw [consume, h]

theorem consume_of_done {t : Token} {v : Value} (h : step width state t = .done v)
    (ts : List Token) : consume width state (t :: ts) =
      (v :: (consume width (.awaiting []) ts).1, (consume width (.awaiting []) ts).2) := by
  rw [consume, h]

theorem consume_of_refused {t : Token}
    (h : step width state t = .refuse fault ∨ step width state t = .refuseAhead fault)
    (ts : List Token) : consume width state (t :: ts) = ([], .error fault) := by
  rcases h with h | h
  · rw [consume, h]
  · rw [consume, h]

/-- If tokens are read, the first of them leads to a state that the others are read in, or it
completes a value. -/
theorem consume_cons_cases {t : Token} (h : consume width state (t :: ts) = (vs, .ok state')) :
    (∃ next, step width state t = .next next ∧ consume width next ts = (vs, .ok state')) ∨
    ∃ v later, step width state t = .done v ∧ vs = v :: later ∧
      consume width (.awaiting []) ts = (later, .ok state') := by
  cases stepped : step width state t with
  | next next =>
    rw [consume_of_next stepped] at h
    exact .inl ⟨next, rfl, h⟩
  | done v =>
    rw [consume_of_done stepped] at h
    obtain ⟨rfl, ended⟩ := Prod.mk.inj h
    exact .inr ⟨v, _, rfl, rfl, Prod.ext rfl ended⟩
  | refuse =>
    rw [consume_of_refused (.inl stepped)] at h
    cases h
  | refuseAhead =>
    rw [consume_of_refused (.inr stepped)] at h
    cases h

theorem many_eq_consume (state : State) (ts : List Token) :
    (many width state ts).forms = (consume width state ts).1 ∧
      (many width state ts).fault = finalFault (consume width state ts).2 := by
  induction ts generalizing state with
  | nil => exact ⟨rfl, rfl⟩
  | cons t ts ih =>
    unfold many
    cases stepped : step width state t with
    | next next =>
      rw [consume_of_next stepped]
      exact ih next
    | done v =>
      rw [consume_of_done stepped]
      obtain ⟨forms, fault⟩ := ih (.awaiting [])
      exact ⟨congrArg (v :: ·) forms, fault⟩
    | refuse fault =>
      rw [consume_of_refused (.inl stepped)]
      exact ⟨rfl, rfl⟩
    | refuseAhead fault =>
      rw [consume_of_refused (.inr stepped)]
      exact ⟨rfl, rfl⟩

/-- A text is read as its tokens are. -/
theorem readText_eq_consume (width : Except Fault Nat) (text : List Char) (source : String)
    (line : Int) :
    (readText width text source line).forms =
        (consume width (.awaiting []) (tokens text source line)).1 ∧
      (readText width text source line).fault =
        finalFault (consume width (.awaiting []) (tokens text source line)).2 := by
  unfold readText TokenStream.all
  rw [TokenStream.remaining_ofTokens]
  exact many_eq_consume _ _

/-! ## Two parts -/

/-- Reading goes on with what the first part left. -/
theorem consume_append (h : consume width state ts = (vs, .ok state')) (us : List Token) :
    consume width state (ts ++ us) =
      (vs ++ (consume width state' us).1, (consume width state' us).2) := by
  induction ts generalizing state vs with
  | nil =>
    cases h
    rfl
  | cons t ts ih =>
    rw [List.cons_append]
    rcases consume_cons_cases h with ⟨next, stepped, later⟩ | ⟨v, more, stepped, rfl, later⟩
    · rw [consume_of_next stepped]
      exact ih later
    · rw [consume_of_done stepped, ih later]
      rfl

/-- A token that is refused ends reading, whatever comes after it. -/
theorem consume_append_of_refused (h : consume width state ts = (vs, .error fault))
    (us : List Token) : consume width state (ts ++ us) = (vs, .error fault) := by
  induction ts generalizing state vs with
  | nil => cases h
  | cons t ts ih =>
    rw [List.cons_append]
    cases stepped : step width state t with
    | next next =>
      rw [consume_of_next stepped] at h ⊢
      exact ih h
    | done v =>
      rw [consume_of_done stepped] at h ⊢
      obtain ⟨rfl, refused⟩ := Prod.mk.inj h
      rw [ih (Prod.ext rfl refused)]
    | refuse =>
      rw [consume_of_refused (.inl stepped)] at h ⊢
      exact h
    | refuseAhead =>
      rw [consume_of_refused (.inr stepped)] at h ⊢
      exact h

/-! ## Open lists -/

/-- The number of lists that begun constructs stand for. -/
def openIn : List Pending → Nat
  | [] => 0
  | .quote _ :: below => openIn below
  | .items .. :: below => openIn below + 1
  | .tail .. :: below => openIn below + 1

/-- The number of lists that are open. -/
def State.openLists : State → Nat
  | .awaiting stack => openIn stack
  | .closing _ _ _ below => openIn below + 1

/-- If reading goes on, that many lists are open, and none if a value is complete. -/
def Step.LeavesOpen (n : Int) : Step → Prop
  | .next state => state.openLists = n
  | .done _ => n = 0
  | .refuse _ => True
  | .refuseAhead _ => True

theorem leavesOpen_complete (v : Value) (stack : List Pending) :
    (complete v stack).LeavesOpen (openIn stack) := by
  fun_induction complete v stack with
  | case1 v => rfl
  | case2 v loc below ih => exact ih
  | case3 v opened reversed below => rfl
  | case4 v opened reversed below => rfl

theorem leavesOpen_start (stack : List Pending) (t : Token) :
    (start width stack t).LeavesOpen (openIn stack + t.depthChange) := by
  unfold start Token.depthChange
  cases t.kind with
  | symbol =>
    dsimp only
    split
    · exact leavesOpen_complete _ stack
    · trivial
  | quote => rfl
  | lparen => rfl
  | rparen => trivial
  | other => trivial

/-- A token changes the number of open lists as it changes that of open parentheses. -/
theorem leavesOpen_step (width : Except Fault Nat) (state : State) (t : Token) :
    (step width state t).LeavesOpen (state.openLists + t.depthChange) := by
  have closed (below : List Pending) (closes : (t.kind == .rparen) = true) :
      ((openIn below + 1 : Nat) : Int) + t.depthChange = openIn below := by
    unfold Token.depthChange
    rw [eq_of_beq closes]
    exact Int.add_neg_cancel_right (openIn below) 1
  unfold step
  split
  · next opened reversed tail below =>
    split
    · next closes =>
      show (complete _ below).LeavesOpen (((openIn below + 1 : Nat) : Int) + t.depthChange)
      rw [closed below closes]
      exact leavesOpen_complete _ below
    · trivial
  · next opened reversed below =>
    split
    · next closes =>
      show (complete _ below).LeavesOpen (((openIn below + 1 : Nat) : Int) + t.depthChange)
      rw [closed below closes]
      exact leavesOpen_complete _ below
    · split
      · next dot =>
        split
        · trivial
        · unfold isDot at dot
          rw [Bool.and_eq_true] at dot
          unfold Token.depthChange
          rw [eq_of_beq dot.1]
          exact (Int.add_zero _).symm
      · exact leavesOpen_start _ t
  · exact leavesOpen_start _ t

/-- As many lists are open as there are open parentheses. A complete value leaves no list open, and
reading begins again like that. -/
theorem openLists_of_consume (h : consume width state ts = (vs, .ok state')) :
    (state'.openLists : Int) = state.openLists + Token.depth ts := by
  induction ts generalizing state vs with
  | nil =>
    cases h
    exact (Int.add_zero _).symm
  | cons t ts ih =>
    have balanced := leavesOpen_step width state t
    show (state'.openLists : Int) = state.openLists + (t.depthChange + Token.depth ts)
    rw [← Int.add_assoc]
    rcases consume_cons_cases h with ⟨next, stepped, later⟩ | ⟨v, more, stepped, -, later⟩
    · rw [stepped] at balanced
      have opened : (next.openLists : Int) = state.openLists + t.depthChange := balanced
      rw [ih later, opened]
    · rw [stepped] at balanced
      have closed : state.openLists + t.depthChange = 0 := balanced
      rw [ih later, closed]
      rfl

/-! ## The end of a text -/

theorem eq_awaiting_of_atEnd (h : atEnd state = none) : state = .awaiting [] := by
  cases state with
  | closing => cases h
  | awaiting stack =>
    cases stack with
    | nil => rfl
    | cons pending below => cases pending <;> cases h

theorem exists_syntaxError_of_atEnd (h : atEnd state = some fault) :
    ∃ problem loc, fault = .syntaxError problem loc := by
  cases state with
  | closing opened =>
    cases h
    exact ⟨_, opened, rfl⟩
  | awaiting stack =>
    cases stack with
    | nil => cases h
    | cons pending below =>
      cases pending <;> cases h
      all_goals exact ⟨_, _, rfl⟩

/-- If no parenthesis is open, an expression is awaited, perhaps by a quotation. -/
theorem awaiting_of_closed (h : consume width (.awaiting []) ts = (vs, .ok state))
    (closed : Token.depth ts ≤ 0) :
    state = .awaiting [] ∨ ∃ loc below, state = .awaiting (.quote loc :: below) := by
  have opened := openLists_of_consume h
  have none : state.openLists = 0 := by
    have start : (State.awaiting []).openLists = 0 := rfl
    omega
  cases state with
  | closing => cases none
  | awaiting stack =>
    cases stack with
    | nil => exact .inl rfl
    | cons pending below =>
      cases pending with
      | quote loc => exact .inr ⟨loc, below, rfl⟩
      | items | tail => cases none

/-! ## Quote marks -/

theorem complete_ne_quote (v : Value) (stack : List Pending) (loc : Location)
    (below : List Pending) : complete v stack ≠ .next (.awaiting (.quote loc :: below)) := by
  fun_induction complete v stack with
  | case2 v loc below ih => exact ih
  | _ => nofun

/-- Only a quote mark begins a quotation. -/
theorem kind_of_step_quote {t : Token} {loc : Location} {below : List Pending}
    (h : step width state t = .next (.awaiting (.quote loc :: below))) : t.kind = .quote := by
  have started (stack : List Pending)
      (h : start width stack t = .next (.awaiting (.quote loc :: below))) : t.kind = .quote := by
    unfold start at h
    split at h
    · split at h
      · exact absurd h (complete_ne_quote _ _ _ _)
      · cases h
    · next quote => exact quote
    all_goals cases h
  unfold step at h
  split at h
  · split at h
    · exact absurd h (complete_ne_quote _ _ _ _)
    · cases h
  · split at h
    · exact absurd h (complete_ne_quote _ _ _ _)
    · split at h
      · split at h <;> cases h
      · exact started _ h
  · exact started _ h

/-- After a quote mark a quotation is open, or the mark is refused. -/
theorem step_of_quote (width : Except Fault Nat) {t : Token} (quote : t.kind = .quote)
    (state : State) :
    (∃ loc below, step width state t = .next (.awaiting (.quote loc :: below))) ∨
      ∃ fault, step width state t = .refuseAhead fault := by
  have started (stack : List Pending) :
      start width stack t = .next (.awaiting (.quote t.loc :: stack)) := by
    unfold start
    rw [quote]
  have noClose : (t.kind == .rparen) = false := by rw [quote]; rfl
  have noDot : isDot t = false := by
    unfold isDot
    rw [quote]
    rfl
  unfold step
  split
  · rw [noClose]
    exact .inr ⟨_, rfl⟩
  · rw [noClose, noDot]
    exact .inl ⟨_, _, started _⟩
  · exact .inl ⟨_, _, started _⟩

/-- An open quotation was begun by the last token. -/
theorem exists_getLast?_quote {loc : Location} {below : List Pending} (some : ts ≠ [])
    (h : consume width state ts = (vs, .ok (.awaiting (.quote loc :: below)))) :
    ∃ t, ts.getLast? = .some t ∧ t.kind = .quote := by
  induction ts generalizing state vs with
  | nil => exact absurd rfl some
  | cons t ts ih =>
    cases ts with
    | nil =>
      refine ⟨t, rfl, ?_⟩
      rcases consume_cons_cases h with ⟨next, stepped, later⟩ | ⟨v, more, -, -, later⟩
      · cases later
        exact kind_of_step_quote stepped
      · cases later
    | cons u us =>
      rw [List.getLast?_cons_cons]
      rcases consume_cons_cases h with ⟨next, -, later⟩ | ⟨v, more, -, -, later⟩
      · exact ih (List.cons_ne_nil u us) later
      · exact ih (List.cons_ne_nil u us) later

/-- After a quote mark nothing is complete. -/
theorem not_complete_of_getLast?_quote {t : Token} (last : ts.getLast? = some t)
    (quote : t.kind = .quote) : finalFault (consume width state ts).2 ≠ none := by
  obtain ⟨front, rfl⟩ := List.getLast?_eq_some_iff.mp last
  rcases before : consume width state front with ⟨vs, fault | next⟩
  · rw [consume_append_of_refused before]
    nofun
  · rw [consume_append before]
    rcases step_of_quote width quote next with ⟨loc, below, begun⟩ | ⟨fault, refused⟩
    · rw [consume_of_next begun]
      nofun
    · rw [consume_of_refused (.inr refused)]
      nofun

end MiniLisp.Reader
