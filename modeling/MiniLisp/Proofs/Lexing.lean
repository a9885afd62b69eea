import MiniLisp.Token

/-!
# Lexing what is written

What the lexer makes of blanks, of a mark of one character and of a word that stand in front of
the rest of a text. A word is one token if what follows cannot continue it (`Delimited`).

Each token stands where its first character does (`Token.exists_after_of_mem_tokens`).
-/

namespace MiniLisp

/-- The place after some characters. -/
def Location.after (l : Location) (cs : List Char) : Location := cs.foldl Location.next l

theorem Location.line_after (l : Location) (cs : List Char) :
    (l.after cs).line = l.line + cs.count '\n' := by
  induction cs generalizing l with
  | nil => exact (Int.add_zero _).symm
  | cons c cs ih =>
    have line : (l.next c).line = l.line + [c].count '\n' := by
      by_cases newline : c = '\n' <;> simp [next, newline]
    have counted : ([c] ++ cs).count '\n' = [c].count '\n' + cs.count '\n' := List.count_append
    show ((l.next c).after cs).line = l.line + ([c] ++ cs).count '\n'
    rw [ih, line, counted, Int.natCast_add, Int.add_assoc]

theorem Location.source_after (l : Location) (cs : List Char) : (l.after cs).source = l.source := by
  induction cs generalizing l with
  | nil => rfl
  | cons c cs ih =>
    have source : (l.next c).source = l.source := by
      unfold next
      split <;> rfl
    exact (ih (l.next c)).trans source

/-- After a newline comes the first place of the next line. -/
theorem Location.after_newline (l : Location) (cs : List Char) :
    l.after (cs ++ ['\n']) = start l.source (l.line + (cs ++ ['\n']).count '\n') := by
  have column : (l.after (cs ++ ['\n'])).column = 1 := by
    unfold after
    rw [List.foldl_append]
    rfl
  show (⟨(l.after (cs ++ ['\n'])).source, (l.after (cs ++ ['\n'])).line,
    (l.after (cs ++ ['\n'])).column⟩ : Location) = _
  rw [source_after, line_after, column]
  rfl

namespace Token

/-- What a token is, wherever it stands. -/
def content (t : Token) : TokenKind × String := (t.kind, t.text)

/-- The text cannot continue a word: it is empty or begins with a character that ends words. -/
def Delimited (rest : List Char) : Prop := ∀ c ∈ rest.head?, isWordChar c = false

theorem delimited_nil : Delimited [] := by simp [Delimited]

theorem delimited_cons {c : Char} (h : isWordChar c = false) (rest : List Char) :
    Delimited (c :: rest) := by simpa [Delimited] using h

theorem isWordChar_eq_false_of_isBlank {c : Char} (h : Text.isBlank c = true) :
    isWordChar c = false := by simp [isWordChar, h]

theorem delimited_append_of_allBlank {blanks : List Char} (some : blanks ≠ [])
    (blank : Text.allBlank blanks = true) (rest : List Char) : Delimited (blanks ++ rest) := by
  obtain ⟨c, more, rfl⟩ := List.exists_cons_of_ne_nil some
  simp only [Text.allBlank, List.all_cons, Bool.and_eq_true] at blank
  exact delimited_cons (isWordChar_eq_false_of_isBlank blank.1) _

/-! ## One character -/

theorem opening_of_isBlank {c : Char} (h : Text.isBlank c = true) (l : Location) :
    opening l c = (none, .between) := by simp [opening, h]

/-- A character of a word begins a word. -/
theorem opening_of_isWordChar {c : Char} (h : isWordChar c = true) (l : Location) :
    opening l c = (none, .word l [c]) := by
  simp only [isWordChar, Bool.not_eq_true', Bool.or_eq_false_iff] at h
  simp [opening, h]

theorem scan_lparen (l : Location) (rest : List Char) :
    scan l .between ('(' :: rest) = ⟨.lparen, "(", l⟩ :: scan (l.next '(') .between rest := by
  rw [scan_between_cons]
  rfl

theorem scan_rparen (l : Location) (rest : List Char) :
    scan l .between (')' :: rest) = ⟨.rparen, ")", l⟩ :: scan (l.next ')') .between rest := by
  rw [scan_between_cons]
  rfl

theorem scan_blank (l : Location) (rest : List Char) :
    scan l .between (' ' :: rest) = scan (l.next ' ') .between rest := by
  rw [scan_between_cons]
  rfl

/-! ## Blanks and words -/

theorem scan_blanks {blanks : List Char} (blank : Text.allBlank blanks = true) (l : Location)
    (rest : List Char) :
    scan l .between (blanks ++ rest) = scan (l.after blanks) .between rest := by
  induction blanks generalizing l with
  | nil => rfl
  | cons c more ih =>
    simp only [Text.allBlank, List.all_cons, Bool.and_eq_true] at blank
    rw [List.cons_append, scan_between_cons, opening_of_isBlank blank.1]
    exact ih blank.2 (l.next c)

/-- The characters of a word are collected up to the end of the word. -/
theorem scan_word_append {cs rest : List Char} (word : ∀ c ∈ cs, isWordChar c = true)
    (delimited : Delimited rest) (l start : Location) (reversed : List Char) :
    scan l (.word start reversed) (cs ++ rest) =
      ofWord start (cs.reverse ++ reversed) :: scan (l.after cs) .between rest := by
  induction cs generalizing l reversed with
  | nil =>
    cases rest with
    | nil => rfl
    | cons c rest =>
      have ends : isWordChar c = false := delimited c rfl
      rw [List.nil_append, scan_word_cons, ends]
      rfl
  | cons c cs ih =>
    have continues : isWordChar c = true := word c List.mem_cons_self
    rw [List.cons_append, scan_word_cons, continues, if_pos rfl,
      ih fun d mem => word d (List.mem_cons_of_mem c mem)]
    simp [Location.after]

/-- A word in front of what cannot continue it is one token. -/
theorem scan_word {cs rest : List Char} (some : cs ≠ []) (word : ∀ c ∈ cs, isWordChar c = true)
    (delimited : Delimited rest) (l : Location) :
    scan l .between (cs ++ rest) =
      ⟨.symbol, String.ofList cs, l⟩ :: scan (l.after cs) .between rest := by
  obtain ⟨c, more, rfl⟩ := List.exists_cons_of_ne_nil some
  have begins : isWordChar c = true := word c List.mem_cons_self
  have later : ∀ d ∈ more, isWordChar d = true := fun d mem => word d (List.mem_cons_of_mem c mem)
  rw [List.cons_append, scan_between_cons, opening_of_isWordChar begins]
  show scan (l.next c) (.word l [c]) (more ++ rest) = _
  rw [scan_word_append later delimited]
  simp [ofWord, Location.after]

/-! ## Where tokens stand -/

theorem loc_of_opening {l : Location} {c : Char} {t : Token} (h : (opening l c).1 = some t) :
    t.loc = l := by
  unfold opening at h
  repeat' split at h
  all_goals cases h
  all_goals rfl

theorem start_of_opening {l start : Location} {c : Char} {reversed : List Char}
    (h : (opening l c).2 = .word start reversed) : start = l := by
  unfold opening at h
  repeat' split at h
  all_goals cases h
  rfl

/-- A token stands where some of the characters have been passed, unless it is the word that was
begun before. -/
theorem exists_after_of_mem_scan {l : Location} {state : Scan} {cs : List Char} {t : Token}
    (mem : t ∈ scan l state cs) :
    (∃ reversed, state = .word t.loc reversed) ∨ ∃ front, front <+: cs ∧ t.loc = l.after front := by
  induction cs generalizing l state with
  | nil =>
    cases state with
    | word start reversed =>
      obtain rfl := List.mem_singleton.mp mem
      exact .inl ⟨reversed, rfl⟩
    | _ => cases mem
  | cons c cs ih =>
    have later {state : Scan} (new : ∀ start reversed, state = .word start reversed → start = l)
        (mem : t ∈ scan (l.next c) state cs) :
        ∃ front, front <+: c :: cs ∧ t.loc = l.after front := by
      rcases ih mem with ⟨reversed, eq⟩ | ⟨front, begins, eq⟩
      · exact ⟨[], List.nil_prefix, new _ reversed eq⟩
      · exact ⟨c :: front, List.cons_prefix_cons.mpr ⟨rfl, begins⟩, eq⟩
    have between (mem : t ∈ scan l .between (c :: cs)) :
        ∃ front, front <+: c :: cs ∧ t.loc = l.after front := by
      rw [scan_between_cons] at mem
      rcases List.mem_append.mp mem with here | mem
      · exact ⟨[], List.nil_prefix, loc_of_opening (Option.mem_toList.mp here)⟩
      · exact later (fun _ _ => start_of_opening) mem
    cases state with
    | between => exact .inr (between mem)
    | comment =>
      refine .inr (later (fun start reversed eq => ?_) mem)
      split at eq <;> cases eq
    | word start reversed =>
      rw [scan_word_cons] at mem
      split at mem
      · rcases ih mem with ⟨reversed', eq⟩ | ⟨front, begins, eq⟩
        · cases eq
          exact .inl ⟨reversed, rfl⟩
        · exact .inr ⟨c :: front, List.cons_prefix_cons.mpr ⟨rfl, begins⟩, eq⟩
      · rcases List.mem_cons.mp mem with rfl | mem
        · exact .inl ⟨reversed, rfl⟩
        · exact .inr (between mem)

/-- A token stands where some of the characters of its text have been passed. -/
theorem exists_after_of_mem_tokens {text : List Char} {source : String} {line : Int} {t : Token}
    (mem : t ∈ tokens text source line) :
    ∃ front, front <+: text ∧ t.loc = (Location.start source line).after front := by
  rcases exists_after_of_mem_scan mem with ⟨_, eq⟩ | stands
  · cases eq
  · exact stands

/-- No token stands before the first line of its text. -/
theorem line_le_of_mem_tokens {text : List Char} {source : String} {line : Int} {t : Token}
    (mem : t ∈ tokens text source line) : line ≤ t.loc.line := by
  obtain ⟨front, _, eq⟩ := exists_after_of_mem_tokens mem
  rw [eq, Location.line_after]
  exact Int.le_add_of_nonneg_right (Int.natCast_nonneg _)

end Token

end MiniLisp
