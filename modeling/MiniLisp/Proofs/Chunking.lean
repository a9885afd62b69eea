import MiniLisp.Proofs.Lexing
import MiniLisp.Session

/-!
# Texts in chunks

No token and no comment goes on beyond the end of a line, so a text may be cut there without any
difference to its tokens. A session cuts its input in this way, and numbers the lines of each chunk
as they are numbered in the input.

* `tokens_append`: the tokens of a text that is cut after some lines;
* `map_content_tokens`: what tokens a text has does not depend on where it stands;
* `Session.tokens_chunks`: the chunks of a session, and what is left over, have the tokens of its
  input.
-/

namespace MiniLisp

namespace Token

/-! ## Cutting after a newline -/

/-- At a newline the lexer forgets what it has seen. -/
theorem scan_append_newline (l : Location) (state : Scan) (cs rest : List Char) :
    scan l state (cs ++ '\n' :: rest) =
      scan l state (cs ++ ['\n']) ++ scan (l.after (cs ++ ['\n'])) .between rest := by
  induction cs generalizing l state with
  | nil => cases state <;> rfl
  | cons c cs ih =>
    have later (state : Scan) : scan (l.next c) state (cs ++ '\n' :: rest) =
        scan (l.next c) state (cs ++ ['\n']) ++
          scan (l.after (c :: cs ++ ['\n'])) .between rest := ih (l.next c) state
    have between : scan l .between (c :: cs ++ '\n' :: rest) =
        scan l .between (c :: cs ++ ['\n']) ++
          scan (l.after (c :: cs ++ ['\n'])) .between rest := by
      rw [List.cons_append, List.cons_append, scan_between_cons, scan_between_cons, later,
        List.append_assoc]
      rfl
    cases state with
    | between => exact between
    | comment => exact later _
    | word start reversed =>
      rw [List.cons_append, scan_word_cons, List.cons_append, scan_word_cons]
      split
      · exact later _
      · exact congrArg (ofWord start reversed :: ·) between

end Token

/-- The tokens of a text that is cut at the end of a line. -/
theorem tokens_append {text : List Char} (ends : ∀ c ∈ text.getLast?, c = '\n')
    (rest : List Char) (source : String) (line : Int) :
    tokens (text ++ rest) source line =
      tokens text source line ++ tokens rest source (line + text.count '\n') := by
  rcases List.eq_nil_or_concat text with rfl | ⟨cs, c, rfl⟩
  · show tokens rest source line = [] ++ tokens rest source (line + 0)
    rw [Int.add_zero]
    rfl
  · obtain rfl : c = '\n' := ends c (by simp)
    rw [List.concat_eq_append, List.append_assoc]
    show Token.scan _ _ (cs ++ '\n' :: rest) = _
    rw [Token.scan_append_newline, Location.after_newline]
    rfl

/-! ## What does not depend on the place -/

namespace Token

/-- The state, without the place of the word that was begun. -/
def Scan.unplaced : Scan → Scan
  | .word _ reversed => .word .unknown reversed
  | state => state

theorem opening_unplaced (l l' : Location) (c : Char) :
    (opening l c).1.toList.map content = (opening l' c).1.toList.map content ∧
      (opening l c).2.unplaced = (opening l' c).2.unplaced := by
  unfold opening
  repeat' split
  all_goals exact ⟨rfl, rfl⟩

theorem map_content_scan {state state' : Scan} (same : state.unplaced = state'.unplaced)
    (l l' : Location) (cs : List Char) :
    (scan l state cs).map content = (scan l' state' cs).map content := by
  induction cs generalizing l l' state state' with
  | nil =>
    cases state <;> cases state' <;> cases same <;> rfl
  | cons c cs ih =>
    have between : (scan l .between (c :: cs)).map content =
        (scan l' .between (c :: cs)).map content := by
      obtain ⟨first, later⟩ := opening_unplaced l l' c
      rw [scan_between_cons, scan_between_cons, List.map_append, List.map_append, first,
        ih later (l.next c) (l'.next c)]
    cases state with
    | between =>
      cases state' <;> cases same
      exact between
    | comment =>
      cases state' <;> cases same
      exact ih rfl _ _
    | word start reversed =>
      cases state' <;> cases same
      rw [scan_word_cons, scan_word_cons]
      split
      · refine ih ?_ _ _
        rfl
      · exact congrArg (content (ofWord start reversed) :: ·) between

/-- What tokens a text has does not depend on where it stands. -/
theorem map_content_tokens (text : List Char) (source source' : String) (line line' : Int) :
    (tokens text source line).map content = (tokens text source' line').map content :=
  map_content_scan rfl _ _ text

theorem depth_eq_of_content {ts us : List Token} (same : ts.map content = us.map content) :
    depth ts = depth us := by
  induction ts generalizing us with
  | nil =>
    cases List.map_eq_nil_iff.mp same.symm
    rfl
  | cons t ts ih =>
    obtain ⟨u, later, rfl, first, rest⟩ := List.map_eq_cons_iff.mp same.symm
    have change : t.depthChange = u.depthChange := by
      unfold depthChange
      rw [(Prod.mk.inj first).1]
    show t.depthChange + depth ts = u.depthChange + depth later
    rw [change, ih rest.symm]

/-- The number of open parentheses of a text can be counted at any place. -/
theorem openDepth_eq (text : List Char) (source : String) (line : Int) :
    openDepth text = depth (tokens text source line) :=
  depth_eq_of_content (map_content_tokens text "<input>" source 1 line)

end Token

/-! ## Lines -/

namespace Session

theorem flatten_lines (text : List Char) : (lines text).flatten = text := by
  induction text with
  | nil => rfl
  | cons c cs ih =>
    unfold lines
    split
    · exact congrArg (c :: ·) ih
    · split
      · next none =>
        rw [none] at ih
        exact congrArg (c :: ·) ih
      · next line rest some =>
        rw [some] at ih
        exact congrArg (c :: ·) ih

/-- Every line but the last one ends in a newline. -/
theorem getLast?_of_mem_dropLast_lines {text line : List Char}
    (mem : line ∈ (lines text).dropLast) : line.getLast? = some '\n' := by
  induction text generalizing line with
  | nil => cases mem
  | cons c cs ih =>
    unfold lines at mem
    split at mem
    · next newline =>
      cases rest : lines cs with
      | nil =>
        rw [rest] at mem
        cases mem
      | cons next more =>
        rw [rest, List.dropLast_cons_cons] at mem
        rcases List.mem_cons.mp mem with rfl | mem
        · rw [eq_of_beq newline]
          rfl
        · exact ih (rest ▸ mem)
    · split at mem
      · cases mem
      · next first rest some =>
        cases rest with
        | nil => cases mem
        | cons next more =>
          rw [some, List.dropLast_cons_cons] at ih
          rw [List.dropLast_cons_cons] at mem
          rcases List.mem_cons.mp mem with rfl | mem
          · have ends := ih List.mem_cons_self
            rw [List.getLast?_cons, ends]
            rfl
          · exact ih (List.mem_cons_of_mem first mem)

/-! ## Chunks -/

/-- The chunks that some lines complete, in order, and the session after them. -/
def chunks : Session → List (List Char) → List Chunk × Session
  | s, [] => ([], s)
  | s, line :: rest =>
    let (chunk, next) := s.take line
    let (later, last) := next.chunks rest
    (chunk.toList ++ later, last)

/-- The tokens of the incomplete chunk. -/
def tokens (s : Session) : List Token := MiniLisp.tokens s.pending source s.line

end Session

/-- The tokens of the chunk. -/
def Chunk.tokens (chunk : Chunk) : List Token :=
  MiniLisp.tokens chunk.text Session.source chunk.line

namespace Session

variable {s : Session} {line : List Char}

theorem take_of_open (h : 0 < openDepth (s.pending ++ line)) :
    s.take line = (none, { s with pending := s.pending ++ line }) := if_pos h

theorem take_of_closed (h : ¬ 0 < openDepth (s.pending ++ line)) :
    s.take line = (some ⟨s.pending ++ line, s.line⟩,
      ⟨[], s.line + (s.pending ++ line).count '\n'⟩) := if_neg h

theorem chunks_cons (s : Session) (line : List Char) (rest : List (List Char)) :
    s.chunks (line :: rest) = ((s.take line).1.toList ++ ((s.take line).2.chunks rest).1,
      ((s.take line).2.chunks rest).2) := rfl

/-- No token of the input is lost, repeated or misplaced. -/
theorem tokens_chunks (s : Session) {lines : List (List Char)}
    (ends : ∀ line ∈ lines.dropLast, line.getLast? = some '\n') :
    (s.chunks lines).1.flatMap Chunk.tokens ++ (s.chunks lines).2.tokens =
      MiniLisp.tokens (s.pending ++ lines.flatten) source s.line := by
  induction lines generalizing s with
  | nil =>
    rw [List.flatten_nil, List.append_nil]
    rfl
  | cons line rest ih =>
    have later : ∀ next ∈ rest.dropLast, next.getLast? = some '\n' := by
      intro next mem
      cases rest with
      | nil => cases mem
      | cons => exact ends next (List.mem_cons_of_mem line mem)
    rw [chunks_cons, List.flatMap_append, List.append_assoc, ih (s.take line).2 later,
      List.flatten_cons, ← List.append_assoc]
    by_cases waits : 0 < openDepth (s.pending ++ line)
    · rw [take_of_open waits]
      rfl
    · rw [take_of_closed waits]
      show Chunk.tokens ⟨s.pending ++ line, s.line⟩ ++ [] ++
        MiniLisp.tokens rest.flatten source (s.line + (s.pending ++ line).count '\n') = _
      rw [List.append_nil]
      cases rest with
      | nil =>
        rw [List.flatten_nil, List.append_nil]
        exact List.append_nil _
      | cons next more =>
        have newline : line.getLast? = some '\n' := ends line List.mem_cons_self
        refine (tokens_append (fun c mem => ?_) _ source s.line).symm
        rw [List.getLast?_append, newline] at mem
        exact (Option.mem_some_iff.mp mem).symm

theorem tokens_chunks_lines (text : List Char) :
    (fresh.chunks (lines text)).1.flatMap Chunk.tokens ++ (fresh.chunks (lines text)).2.tokens =
      MiniLisp.tokens text source 1 := by
  rw [tokens_chunks fresh fun line => getLast?_of_mem_dropLast_lines, flatten_lines]
  rfl

/-- Every chunk closes all its parentheses. -/
theorem depth_tokens_le_of_mem_chunks {lines : List (List Char)} {chunk : Chunk}
    (mem : chunk ∈ (s.chunks lines).1) : Token.depth chunk.tokens ≤ 0 := by
  induction lines generalizing s with
  | nil => cases mem
  | cons line rest ih =>
    rw [chunks_cons] at mem
    rcases List.mem_append.mp mem with here | mem
    · by_cases waits : 0 < openDepth (s.pending ++ line)
      · rw [take_of_open waits] at here
        cases here
      · rw [take_of_closed waits] at here
        obtain rfl := List.mem_singleton.mp here
        rw [Token.openDepth_eq _ source s.line] at waits
        exact Int.not_lt.mp waits
    · exact ih mem

/-- What is left over is nothing, or a parenthesis is open in it. -/
theorem pending_chunks (lines : List (List Char))
    (waits : s.pending = [] ∨ 0 < openDepth s.pending) :
    (s.chunks lines).2.pending = [] ∨ 0 < openDepth (s.chunks lines).2.pending := by
  induction lines generalizing s with
  | nil => exact waits
  | cons line rest ih =>
    refine ih (s := (s.take line).2) ?_
    by_cases waits : 0 < openDepth (s.pending ++ line)
    · rw [take_of_open waits]
      exact .inr waits
    · rw [take_of_closed waits]
      exact .inl rfl

end Session

end MiniLisp
