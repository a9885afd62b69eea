import Mathlib.Data.List.Sort
import Mathlib.Data.List.TakeWhile
import MiniLisp.Proofs.Lexing

/-!
# Tokens tile a text

The tokens of a text are told by what is in the text, without regard to how a lexer goes through it.
Each stands at an offset and is made of the characters there; what lies between them is blank or
belongs to comments; a word is as long as it can be; and the location of a token counts the newlines
before its offset, and the characters since the last of them. No other tokens are like that.

* `BeginsComment`, `InComment`: the comments of a text;
* `Token.Spelled`: what a token is made of, and what may come after it;
* `Token.Placed.Fits`, `Token.Tiles`: one token at its offset, and all tokens;
* `Location.after_take`: the location at an offset;
* `Token.lexerTiles`: the tokens of the lexer tile the text;
* `Token.Tiles.eq`: nothing else does;
* `Token.tokens_tile`: the result.
-/

namespace MiniLisp

/-! ## Offsets and locations -/

/-- The line that goes on to the offset `p` starts at `q`: there is a newline before `q`, or
nothing, and none from there to `p`. -/
structure LineStart (text : List Char) (p q : Nat) : Prop where
  le : q ≤ p
  starts : q = 0 ∨ text[q - 1]? = some '\n'
  unbroken : ∀ i, q ≤ i → i < p → text[i]? ≠ some '\n'

theorem exists_lineStart (text : List Char) (p : Nat) : ∃ q, LineStart text p q := by
  induction p with
  | zero => exact ⟨0, Nat.le_refl 0, .inl rfl, fun i _ lt => absurd lt (Nat.not_lt_zero i)⟩
  | succ p ih =>
    by_cases newline : text[p]? = some '\n'
    · exact ⟨p + 1, Nat.le_refl _, .inr newline, fun i le lt => absurd lt (Nat.not_lt.mpr le)⟩
    · obtain ⟨q, le, starts, unbroken⟩ := ih
      refine ⟨q, Nat.le_succ_of_le le, starts, fun i from_q lt => ?_⟩
      rcases Nat.lt_succ_iff_lt_or_eq.mp lt with lt | rfl
      · exact unbroken i from_q lt
      · exact newline

theorem LineStart.eq {text : List Char} {p q q' : Nat} (line : LineStart text p q)
    (line' : LineStart text p q') :
    q = q' := by
  have le {q q' : Nat} (line : LineStart text p q) (line' : LineStart text p q') : q ≤ q' := by
    rcases line.starts with rfl | newline
    · exact Nat.zero_le q'
    · by_contra gt
      have from_q' : q' ≤ q - 1 := by omega
      exact line'.unbroken (q - 1) from_q' (by have := line.le; omega) newline
  exact Nat.le_antisymm (le line line') (le line' line)

namespace Location

theorem after_append (l : Location) (cs ds : List Char) :
    l.after (cs ++ ds) = (l.after cs).after ds := List.foldl_append

theorem column_after_take {text : List Char} {p q : Nat} (line : LineStart text p q)
    (le : p ≤ text.length) (source : String) (first : Int) :
    ((start source first).after (text.take p)).column = p - q + 1 := by
  induction p with
  | zero =>
    obtain rfl : q = 0 := Nat.le_zero.mp line.le
    rfl
  | succ p ih =>
    have here : text[p]? = some text[p] := List.getElem?_eq_getElem le
    rw [List.take_succ_eq_append_getElem le, after_append]
    show (((start source first).after (text.take p)).next text[p]).column = _
    by_cases newline : text[p] = '\n'
    · -- the line starts right after the newline
      rw [newline] at here
      have begins : q = p + 1 := by
        by_contra ne
        exact line.unbroken p (by have := line.le; omega) (Nat.lt_succ_self p) here
      simp [next, newline, begins]
    · have started : q ≤ p := by
        by_contra gt
        obtain rfl : q = p + 1 := by have := line.le; omega
        rcases line.starts with zero | before
        · cases zero
        · exact newline (Option.some.inj (here.symm.trans before))
      have column := ih
        ⟨started, line.starts, fun i from_q lt => line.unbroken i from_q (Nat.lt_succ_of_lt lt)⟩
        (Nat.le_of_succ_le le)
      simp only [next, beq_iff_eq, newline, if_false, column]
      omega

/-- The location at an offset counts the newlines before it and the characters since the last. -/
theorem after_take {text : List Char} {p q : Nat} (line : LineStart text p q)
    (le : p ≤ text.length) (source : String) (first : Int) :
    (start source first).after (text.take p) =
      ⟨source, first + (text.take p).count '\n', p - q + 1⟩ := by
  rw [← column_after_take line le source first]
  let l := (start source first).after (text.take p)
  show l = ⟨source, first + (text.take p).count '\n', l.column⟩
  have source' : l.source = source := source_after _ _
  have line' : l.line = first + (text.take p).count '\n' := line_after _ _
  rw [← source', ← line']

end Location

/-! ## Comments -/

/-- A comment begins at the offset: a semicolon stands there, and every comment that begins before
it ends at a newline before it. -/
def BeginsComment (text : List Char) (p : Nat) : Prop :=
  text[p]? = some ';' ∧ ∀ k, k < p → BeginsComment text k →
    ∃ j, k < j ∧ j < p ∧ text[j]? = some '\n'
termination_by p

/-- The offset is within a comment, which goes on up to the next newline or to the end. -/
def InComment (text : List Char) (i : Nat) : Prop :=
  ∃ p ≤ i, BeginsComment text p ∧ ∀ j, p ≤ j → j ≤ i → text[j]? ≠ some '\n'

/-- Semicolons within a comment make no difference to it, since the comment goes on beyond them. -/
theorem inComment_iff {text : List Char} {i : Nat} :
    InComment text i ↔
      ∃ p ≤ i, text[p]? = some ';' ∧ ∀ j, p ≤ j → j ≤ i → text[j]? ≠ some '\n' := by
  constructor
  · rintro ⟨p, le, begins, unbroken⟩
    rw [BeginsComment] at begins
    exact ⟨p, le, begins.1, unbroken⟩
  · rintro ⟨p, le, semicolon, unbroken⟩
    by_cases begins : BeginsComment text p
    · exact ⟨p, le, begins, unbroken⟩
    rw [BeginsComment] at begins
    simp only [not_and, not_forall, not_exists] at begins
    obtain ⟨k, lt, earlier, goesOn⟩ := begins semicolon
    refine ⟨k, by omega, earlier, fun j from_k to_i newline => ?_⟩
    rcases Nat.lt_or_ge j p with before | from_p
    · rcases Nat.eq_or_lt_of_le from_k with rfl | after
      · rw [BeginsComment, newline] at earlier
        exact absurd earlier.1 (by decide)
      · exact goesOn j after before newline
    · exact unbroken j from_p to_i newline

/-- No comment goes on to the offset or beyond. -/
def CommentsEnd (text : List Char) (n : Nat) : Prop :=
  ∀ k, k < n → text[k]? = some ';' → ∃ j, k < j ∧ j < n ∧ text[j]? = some '\n'

theorem commentsEnd_zero (text : List Char) : CommentsEnd text 0 :=
  fun k lt => absurd lt (Nat.not_lt_zero k)

theorem commentsEnd_after_newline {text : List Char} {n : Nat} (newline : text[n]? = some '\n') :
    CommentsEnd text (n + 1) := by
  intro k lt semicolon
  have ne : k ≠ n := by
    rintro rfl
    rw [newline] at semicolon
    cases semicolon
  exact ⟨n, by omega, Nat.lt_succ_self n, newline⟩

section CommentsEnd

variable {text : List Char} {n n' : Nat}

/-- Comments begin at semicolons only. -/
theorem CommentsEnd.extend (closed : CommentsEnd text n) (le : n ≤ n')
    (none : ∀ i, n ≤ i → i < n' → text[i]? ≠ some ';') : CommentsEnd text n' := by
  intro k lt semicolon
  rcases Nat.lt_or_ge k n with before | from_n
  · obtain ⟨j, after, before, newline⟩ := closed k before semicolon
    exact ⟨j, after, Nat.lt_of_lt_of_le before le, newline⟩
  · exact absurd semicolon (none k from_n lt)

theorem CommentsEnd.not_inComment (closed : CommentsEnd text n)
    (none : ∀ i, n ≤ i → i < n' → text[i]? ≠ some ';') {i : Nat} (from_n : n ≤ i) (lt : i < n') :
    ¬ InComment text i := by
  rw [inComment_iff]
  rintro ⟨p, le, semicolon, unbroken⟩
  rcases Nat.lt_or_ge p n with before | after
  · obtain ⟨j, later, before, newline⟩ := closed p before semicolon
    exact unbroken j (Nat.le_of_lt later) (by omega) newline
  · exact none p after (by omega) semicolon

end CommentsEnd

namespace Token

/-! ## Tokens at offsets -/

/-- What a token of each kind may be made of, and what may come after it: the characters of a word
are neither blank nor one of `( ) ' ;`, and the word is as long as it can be. -/
inductive Spelled : TokenKind → List Char → List Char → Prop
  | quote {rest : List Char} : Spelled .quote ['\''] rest
  | lparen {rest : List Char} : Spelled .lparen ['('] rest
  | rparen {rest : List Char} : Spelled .rparen [')'] rest
  | word {cs rest : List Char} : cs ≠ [] → (∀ c ∈ cs, isWordChar c = true) → Delimited rest →
      Spelled .symbol cs rest

/-- A token and the offset of its first character. -/
structure Placed where
  offset : Nat
  token : Token

namespace Placed

/-- The characters of the token. -/
def chars (p : Placed) : List Char := p.token.text.toList

/-- The offset after its last character. -/
def stop (p : Placed) : Nat := p.offset + p.chars.length

/-- The offset is that of one of its characters. -/
def Covers (p : Placed) (i : Nat) : Prop := p.offset ≤ i ∧ i < p.stop

/-- The first token stands before the second, and they do not overlap. -/
def Before (p q : Placed) : Prop := p.offset < q.offset ∧ p.stop ≤ q.offset

instance : Std.Irrefl Before := ⟨fun _ before => Nat.lt_irrefl _ before.1⟩

instance : Std.Antisymm Before :=
  ⟨fun _ _ before after => absurd before.1 (Nat.lt_asymm after.1)⟩

/-- The token fits the text at its offset. -/
structure Fits (text : List Char) (source : String) (line : Int) (p : Placed) : Prop where
  stands : p.chars <+: text.drop p.offset
  spelled : Spelled p.token.kind p.chars (text.drop p.stop)
  located : ∃ q, LineStart text p.offset q ∧
    p.token.loc = ⟨source, line + (text.take p.offset).count '\n', p.offset - q + 1⟩
  uncommented : ∀ i, p.Covers i → ¬ InComment text i

end Placed

/-- The tokens tile the text from an offset on: each fits, they stand in order without overlap, and
what no token covers is blank or in a comment. -/
structure TilesFrom (text : List Char) (source : String) (line : Int) (n : Nat)
    (placed : List Placed) : Prop where
  fits : ∀ p ∈ placed, p.Fits text source line
  from_offset : ∀ p ∈ placed, n ≤ p.offset
  ordered : placed.Pairwise Placed.Before
  covered : ∀ i c, n ≤ i → text[i]? = some c →
    (∃ p ∈ placed, p.Covers i) ∨ Text.isBlank c = true ∨ InComment text i

/-- The tokens tile the whole text. -/
def Tiles (text : List Char) (source : String) (line : Int) (placed : List Placed) : Prop :=
  TilesFrom text source line 0 placed

section Tiles

variable {text cs rest : List Char} {source : String} {line : Int} {n : Nat} {kind : TokenKind}
  {c : Char} {p : Placed} {placed other : List Placed}

/-! ## Spelling -/

theorem Spelled.ne_nil (spelled : Spelled kind cs rest) : cs ≠ [] := by
  cases spelled with
  | word some => exact some
  | _ => exact List.cons_ne_nil _ _

theorem Spelled.isBlank_eq_false (spelled : Spelled kind cs rest) (mem : c ∈ cs) :
    Text.isBlank c = false := by
  cases spelled with
  | word some word =>
    have begins := word c mem
    simp only [isWordChar, Bool.not_eq_true', Bool.or_eq_false_iff] at begins
    exact begins.1.1.1.1
  | _ =>
    obtain rfl := List.mem_singleton.mp mem
    decide

theorem Spelled.ne_semicolon (spelled : Spelled kind cs rest) (mem : c ∈ cs) : c ≠ ';' := by
  rintro rfl
  cases spelled with
  | word some word => exact absurd (word _ mem) (by decide)
  | _ => exact absurd (List.mem_singleton.mp mem) (by decide)

/-- Only a word has more than one character. -/
theorem Spelled.isWordChar_of_long (spelled : Spelled kind cs rest) (long : 2 ≤ cs.length)
    (mem : c ∈ cs) : isWordChar c = true := by
  cases spelled with
  | word some word => exact word c mem
  | _ => exact absurd long (by decide)

/-- A word is not followed by a character of a word. -/
theorem Spelled.delimited (spelled : Spelled kind cs rest) (mem : c ∈ cs)
    (word : isWordChar c = true) : Delimited rest := by
  cases spelled with
  | word some word delimited => exact delimited
  | _ =>
    obtain rfl := List.mem_singleton.mp mem
    exact absurd word (by decide)

/-- A character that is neither blank nor a semicolon begins a token. -/
theorem exists_spelled (visible : Text.isBlank c = false) (noComment : c ≠ ';') (cs : List Char) :
    ∃ kind word rest, c :: cs = word ++ rest ∧ Spelled kind word rest := by
  by_cases word : isWordChar c = true
  · refine ⟨.symbol, (c :: cs).takeWhile isWordChar, (c :: cs).dropWhile isWordChar,
      List.takeWhile_append_dropWhile.symm, .word ?_ ?_ ?_⟩
    · rw [List.takeWhile_cons, if_pos word]
      exact List.cons_ne_nil _ _
    · exact fun d mem => List.mem_takeWhile_imp mem
    · intro d head
      have ends := List.head?_dropWhile_not isWordChar (c :: cs)
      rw [Option.mem_def.mp head] at ends
      exact ends
  · have mark : c = '(' ∨ c = ')' ∨ c = '\'' := by
      simp [isWordChar, visible, noComment] at word
      tauto
    rcases mark with rfl | rfl | rfl
    · exact ⟨.lparen, ['('], cs, rfl, .lparen⟩
    · exact ⟨.rparen, [')'], cs, rfl, .rparen⟩
    · exact ⟨.quote, ['\''], cs, rfl, .quote⟩

/-- A token is read where it is spelled. -/
theorem scan_spelled (spelled : Spelled kind cs rest) (l : Location) :
    scan l .between (cs ++ rest) =
      ⟨kind, String.ofList cs, l⟩ :: scan (l.after cs) .between rest := by
  cases spelled with
  | word some word delimited => exact scan_word some word delimited l
  | _ =>
    rw [List.singleton_append, scan_between_cons]
    rfl

/-! ## Offsets in the rest of a text -/

theorem getElem?_of_drop (here : text.drop n = cs ++ rest) {k : Nat} (lt : k < cs.length) :
    text[n + k]? = some cs[k] := by
  rw [← List.getElem?_drop, here, List.getElem?_append_left lt, List.getElem?_eq_getElem lt]

/-- A character at an offset among some characters is one of them. -/
theorem mem_of_drop (here : text.drop n = cs ++ rest) {i : Nat} (le : n ≤ i)
    (lt : i < n + cs.length) (found : text[i]? = some c) : c ∈ cs := by
  obtain ⟨k, rfl⟩ := Nat.exists_eq_add_of_le le
  have inside : k < cs.length := Nat.lt_of_add_lt_add_left lt
  rw [getElem?_of_drop here inside] at found
  exact Option.some.inj found ▸ List.getElem_mem inside

theorem drop_add_of_drop (here : text.drop n = cs ++ rest) :
    text.drop (n + cs.length) = rest := by
  rw [← List.drop_drop, here, List.drop_left]

theorem take_add_of_drop (here : text.drop n = cs ++ rest) :
    text.take (n + cs.length) = text.take n ++ cs := by
  rw [List.take_add, here, List.take_left]

theorem add_length_le_of_drop (here : text.drop n = cs ++ rest) (some : cs ≠ []) :
    n + cs.length ≤ text.length := by
  have positive := List.length_pos_iff.mpr some
  have lengths := congrArg List.length here
  rw [List.length_drop, List.length_append] at lengths
  omega

/-! ## Tilings from an offset on -/

/-- What is blank or in a comment may be left out. -/
theorem TilesFrom.gap {n' : Nat} (later : TilesFrom text source line n' placed) (le : n ≤ n')
    (left_out : ∀ i c, n ≤ i → i < n' → text[i]? = some c →
      Text.isBlank c = true ∨ InComment text i) :
    TilesFrom text source line n placed where
  fits := later.fits
  from_offset p mem := Nat.le_trans le (later.from_offset p mem)
  ordered := later.ordered
  covered i c from_n found := by
    rcases Nat.lt_or_ge i n' with before | after
    · exact .inr (left_out i c from_n before found)
    · exact later.covered i c after found

theorem tilesFrom_nil (le : text.length ≤ n) : TilesFrom text source line n [] where
  fits _ mem := absurd mem List.not_mem_nil
  from_offset _ mem := absurd mem List.not_mem_nil
  ordered := .nil
  covered i c from_n found := by
    rw [List.getElem?_eq_none (Nat.le_trans le from_n)] at found
    cases found

/-- The token at the offset, with the location there. -/
def placedAt (text : List Char) (source : String) (line : Int) (n : Nat) (kind : TokenKind)
    (cs : List Char) : Placed :=
  ⟨n, kind, String.ofList cs, (Location.start source line).after (text.take n)⟩

theorem fits_placedAt (closed : CommentsEnd text n) (here : text.drop n = cs ++ rest)
    (spelled : Spelled kind cs rest) :
    (placedAt text source line n kind cs).Fits text source line := by
  have chars : (placedAt text source line n kind cs).chars = cs := String.toList_ofList
  have stop : (placedAt text source line n kind cs).stop = n + cs.length := by
    rw [Placed.stop, chars]
    rfl
  refine ⟨?_, ?_, ?_, fun i covers => ?_⟩
  · rw [chars]
    exact ⟨rest, here.symm⟩
  · rw [chars, stop, drop_add_of_drop here]
    exact spelled
  · obtain ⟨q, lineStart⟩ := exists_lineStart text n
    have inside : n ≤ text.length :=
      Nat.le_trans (Nat.le_add_right n _) (add_length_le_of_drop here spelled.ne_nil)
    exact ⟨q, lineStart, Location.after_take lineStart inside source line⟩
  · rw [Placed.Covers, stop] at covers
    refine closed.not_inComment (fun j from_n lt semicolon => ?_) covers.1 covers.2
    exact spelled.ne_semicolon (mem_of_drop here from_n lt semicolon) rfl

theorem TilesFrom.cons (later : TilesFrom text source line (n + cs.length) placed)
    (closed : CommentsEnd text n) (here : text.drop n = cs ++ rest)
    (spelled : Spelled kind cs rest) :
    TilesFrom text source line n (placedAt text source line n kind cs :: placed) := by
  have fits : (placedAt text source line n kind cs).Fits text source line :=
    fits_placedAt closed here spelled
  have stop : (placedAt text source line n kind cs).stop = n + cs.length := by
    rw [Placed.stop, Placed.chars, placedAt, String.toList_ofList]
  have positive := List.length_pos_iff.mpr spelled.ne_nil
  refine ⟨List.forall_mem_cons.mpr ⟨fits, later.fits⟩, ?_, ?_, fun i c from_n found => ?_⟩
  · refine List.forall_mem_cons.mpr ⟨Nat.le_refl n, fun p mem => ?_⟩
    exact Nat.le_trans (Nat.le_add_right n _) (later.from_offset p mem)
  · refine List.pairwise_cons.mpr ⟨fun p mem => ?_, later.ordered⟩
    have after := later.from_offset p mem
    exact ⟨Nat.lt_of_lt_of_le (Nat.lt_add_of_pos_right positive) after, stop ▸ after⟩
  · rcases Nat.lt_or_ge i (n + cs.length) with before | after
    · exact .inl ⟨_, List.mem_cons_self, from_n, stop ▸ before⟩
    · rcases later.covered i c after found with ⟨p, mem, covers⟩ | left_out
      · exact .inl ⟨p, List.mem_cons_of_mem _ mem, covers⟩
      · exact .inr left_out

/-! ## The tokens of the lexer -/

/-- From the offset on the tokens of the lexer tile the text. -/
def LexerTiles (text : List Char) (source : String) (line : Int) (n : Nat) : Prop :=
  ∃ placed, TilesFrom text source line n placed ∧ placed.map Placed.token =
    scan ((Location.start source line).after (text.take n)) .between (text.drop n)

theorem lexerTiles_of_gap (here : text.drop n = cs ++ rest)
    (left_out : ∀ i c, n ≤ i → i < n + cs.length → text[i]? = some c →
      Text.isBlank c = true ∨ InComment text i)
    (passed : ∀ l, scan l .between (cs ++ rest) = scan (l.after cs) .between rest)
    (later : LexerTiles text source line (n + cs.length)) : LexerTiles text source line n := by
  obtain ⟨placed, tiles, tokens⟩ := later
  refine ⟨placed, tiles.gap (Nat.le_add_right n _) left_out, ?_⟩
  rw [tokens, here, passed, take_add_of_drop here, drop_add_of_drop here, Location.after_append]

theorem lexerTiles_of_token (closed : CommentsEnd text n) (here : text.drop n = cs ++ rest)
    (spelled : Spelled kind cs rest) (later : LexerTiles text source line (n + cs.length)) :
    LexerTiles text source line n := by
  obtain ⟨placed, tiles, tokens⟩ := later
  refine ⟨_, tiles.cons closed here spelled, ?_⟩
  rw [List.map_cons, tokens, here, scan_spelled spelled, take_add_of_drop here,
    drop_add_of_drop here, Location.after_append]
  rfl

theorem lexerTiles_of_blank (blank : Text.isBlank c = true) (here : text.drop n = [c] ++ rest)
    (later : LexerTiles text source line (n + 1)) : LexerTiles text source line n := by
  refine lexerTiles_of_gap here (fun i d from_n lt found => ?_) (fun l => ?_) later
  · rw [List.mem_singleton.mp (mem_of_drop here from_n lt found)]
    exact .inl blank
  · rw [List.singleton_append, scan_between_cons, opening_of_isBlank blank]
    rfl

/-- A comment is passed over up to its newline. -/
theorem scan_comment_append (noNewline : ∀ c ∈ cs, c ≠ '\n') (l : Location) :
    scan l .comment (cs ++ rest) = scan (l.after cs) .comment rest := by
  induction cs generalizing l with
  | nil => rfl
  | cons c cs ih =>
    obtain ⟨here, later⟩ := List.forall_mem_cons.mp noNewline
    show scan (l.next c) (if c == '\n' then .between else .comment) (cs ++ rest) = _
    rw [if_neg (by simpa using here)]
    exact ih later (l.next c)

theorem inComment_of_drop (noNewline : ∀ c ∈ cs, c ≠ '\n')
    (here : text.drop n = ';' :: cs ++ rest) {i : Nat} (from_n : n ≤ i)
    (lt : i < n + (';' :: cs).length) : InComment text i := by
  refine inComment_iff.mpr ⟨n, from_n, ?_, fun j from_n to_i newline => ?_⟩
  · exact getElem?_of_drop here (Nat.succ_pos _)
  · have mem := mem_of_drop here from_n (Nat.lt_of_le_of_lt to_i lt) newline
    rcases List.mem_cons.mp mem with eq | mem
    · cases eq
    · exact noNewline _ mem rfl

/-- A comment and its newline may be left out. -/
theorem lexerTiles_of_comment (noNewline : ∀ c ∈ cs, c ≠ '\n')
    (here : text.drop n = ';' :: cs ++ '\n' :: rest)
    (later : LexerTiles text source line (n + (';' :: cs ++ ['\n']).length)) :
    LexerTiles text source line n := by
  have whole : text.drop n = (';' :: cs ++ ['\n']) ++ rest := by
    rw [here, List.append_assoc]
    rfl
  refine lexerTiles_of_gap whole (fun i c from_n lt found => ?_) (fun l => ?_) later
  · rcases Nat.lt_or_ge i (n + (';' :: cs).length) with before | after
    · exact .inr (inComment_of_drop noNewline here from_n before)
    · have last : text.drop (n + (';' :: cs).length) = ['\n'] ++ rest := drop_add_of_drop here
      rw [List.length_append, ← Nat.add_assoc] at lt
      have newline := mem_of_drop last after lt found
      rw [List.mem_singleton.mp newline]
      exact .inl rfl
  · rw [List.append_assoc, List.cons_append, scan_between_cons]
    show scan (l.next ';') .comment (cs ++ '\n' :: rest) = _
    rw [scan_comment_append noNewline, Location.after_append]
    rfl

theorem lexerTiles_of_end (atEnd : text.drop n = []) : LexerTiles text source line n := by
  refine ⟨[], tilesFrom_nil (List.drop_eq_nil_iff.mp atEnd), ?_⟩
  rw [atEnd]
  rfl

/-- A comment that goes on to the end leaves nothing. -/
theorem lexerTiles_of_lastComment (noNewline : ∀ c ∈ cs, c ≠ '\n')
    (here : text.drop n = ';' :: cs) : LexerTiles text source line n := by
  have whole : text.drop n = ';' :: cs ++ [] := by rw [here, List.append_nil]
  refine lexerTiles_of_gap whole (fun i c from_n lt _ => ?_) (fun l => ?_)
    (lexerTiles_of_end (drop_add_of_drop whole))
  · exact .inr (inComment_of_drop noNewline whole from_n lt)
  · rw [List.cons_append, scan_between_cons]
    show scan (l.next ';') .comment (cs ++ []) = _
    rw [scan_comment_append noNewline]
    rfl

/-- Some characters go up to a newline or to the end. -/
theorem exists_line (cs : List Char) :
    ∃ body, (∀ c ∈ body, c ≠ '\n') ∧ (cs = body ∨ ∃ rest, cs = body ++ '\n' :: rest) := by
  induction cs with
  | nil => exact ⟨[], fun c mem => absurd mem List.not_mem_nil, .inl rfl⟩
  | cons c cs ih =>
    by_cases newline : c = '\n'
    · subst newline
      exact ⟨[], fun c mem => absurd mem List.not_mem_nil, .inr ⟨cs, rfl⟩⟩
    · obtain ⟨body, noNewline, parts⟩ := ih
      refine ⟨c :: body, List.forall_mem_cons.mpr ⟨newline, noNewline⟩, ?_⟩
      rcases parts with rfl | ⟨rest, rfl⟩
      · exact .inl rfl
      · exact .inr ⟨rest, rfl⟩

theorem lexerTiles (text : List Char) (source : String) (line : Int) (n : Nat)
    (closed : CommentsEnd text n) : LexerTiles text source line n := by
  induction remaining : text.length - n using Nat.strong_induction_on generalizing n with
  | _ size ih =>
  subst remaining
  have next {cs rest : List Char} (here : text.drop n = cs ++ rest) (some : cs ≠ [])
      (closed : CommentsEnd text (n + cs.length)) :
      LexerTiles text source line (n + cs.length) := by
    have inside := add_length_le_of_drop here some
    have positive := List.length_pos_iff.mpr some
    exact ih _ (by omega) (n + cs.length) closed rfl
  have extended {cs rest : List Char} (here : text.drop n = cs ++ rest)
      (noSemicolon : ';' ∉ cs) : CommentsEnd text (n + cs.length) :=
    closed.extend (Nat.le_add_right n _) fun i from_n lt semicolon =>
      noSemicolon (mem_of_drop here from_n lt semicolon)
  cases atOffset : text.drop n with
  | nil => exact lexerTiles_of_end atOffset
  | cons c cs =>
    by_cases blank : Text.isBlank c = true
    · have here : text.drop n = [c] ++ cs := atOffset
      have noSemicolon : ';' ∉ [c] := by
        intro mem
        rw [← List.mem_singleton.mp mem] at blank
        cases blank
      exact lexerTiles_of_blank blank here
        (next here (List.cons_ne_nil c []) (extended here noSemicolon))
    by_cases semicolon : c = ';'
    · subst semicolon
      obtain ⟨body, noNewline, rfl | ⟨rest, rfl⟩⟩ := exists_line cs
      · exact lexerTiles_of_lastComment noNewline atOffset
      · have here : text.drop n = (';' :: body ++ ['\n']) ++ rest := by
          rw [atOffset, List.append_assoc]
          rfl
        have atNewline : text.drop (n + (';' :: body).length) = ['\n'] ++ rest :=
          drop_add_of_drop atOffset
        have newline := getElem?_of_drop (k := 0) atNewline (Nat.succ_pos 0)
        have ended : CommentsEnd text (n + (';' :: body ++ ['\n']).length) := by
          rw [List.length_append, ← Nat.add_assoc]
          exact commentsEnd_after_newline newline
        exact lexerTiles_of_comment noNewline atOffset
          (next here (List.cons_ne_nil _ _) ended)
    · obtain ⟨kind, word, rest, split, spelled⟩ :=
        exists_spelled (Bool.eq_false_iff.mpr blank) semicolon cs
      have here : text.drop n = word ++ rest := atOffset.trans split
      have noSemicolon : ';' ∉ word := fun mem => spelled.ne_semicolon mem rfl
      exact lexerTiles_of_token closed here spelled
        (next here spelled.ne_nil (extended here noSemicolon))

/-! ## No other tokens -/

namespace Placed

variable {q : Placed} {i : Nat}

theorem Fits.drop_eq (fits : p.Fits text source line) :
    text.drop p.offset = p.chars ++ text.drop p.stop := by
  obtain ⟨rest, here⟩ := fits.stands
  rw [Placed.stop, drop_add_of_drop here.symm, here]

theorem Fits.lt_stop (fits : p.Fits text source line) : p.offset < p.stop :=
  Nat.lt_add_of_pos_right (List.length_pos_iff.mpr fits.spelled.ne_nil)

theorem Fits.exists_char (fits : p.Fits text source line) (covers : p.Covers i) :
    ∃ c ∈ p.chars, text[i]? = some c := by
  have inside := add_length_le_of_drop fits.drop_eq fits.spelled.ne_nil
  have lt : i < text.length := Nat.lt_of_lt_of_le covers.2 inside
  have found := List.getElem?_eq_getElem lt
  exact ⟨_, mem_of_drop fits.drop_eq covers.1 covers.2 found, found⟩

/-- What a token covers no gap does. -/
theorem Fits.exists_covers (fits : p.Fits text source line) (covers : p.Covers i)
    (tiles : Tiles text source line other) : ∃ q ∈ other, q.Covers i := by
  obtain ⟨c, mem, found⟩ := fits.exists_char covers
  rcases tiles.covered i c (Nat.zero_le i) found with covered | blank | comment
  · exact covered
  · rw [fits.spelled.isBlank_eq_false mem] at blank
    cases blank
  · exact absurd comment (fits.uncommented i covers)

/-- Two tokens at one offset are the same: both are what the lexer reads there. -/
theorem Fits.eq (fits : p.Fits text source line) (fits' : q.Fits text source line)
    (same : p.offset = q.offset) : p = q := by
  rcases p with ⟨offset, kind, word, loc⟩
  rcases q with ⟨offset', kind', word', loc'⟩
  obtain rfl : offset = offset' := same
  have content : (kind, word) = (kind', word') := by
    have read := scan_spelled fits.spelled .unknown
    have read' := scan_spelled fits'.spelled .unknown
    rw [← fits.drop_eq] at read
    rw [← fits'.drop_eq] at read'
    have first := (List.cons.inj (read.symm.trans read')).1
    simpa [chars] using first
  obtain ⟨q, lineStart, located⟩ := fits.located
  obtain ⟨q', lineStart', located'⟩ := fits'.located
  have loc_eq : loc = loc' := by
    rw [lineStart'.eq lineStart] at located'
    exact located.trans located'.symm
  cases content
  rw [loc_eq]

/-- If a token goes on to an offset, the characters there and before it are those of a word. -/
theorem Fits.isWordChar (fits : p.Fits text source line) (covers : p.Covers i)
    (goesOn : p.offset < i) (found : text[i]? = some c ∨ text[i - 1]? = some c) :
    isWordChar c = true := by
  have inside : i < p.offset + p.chars.length := covers.2
  have mem : c ∈ p.chars := by
    rcases found with found | found
    · exact mem_of_drop fits.drop_eq covers.1 inside found
    · exact mem_of_drop fits.drop_eq (Nat.le_sub_one_of_lt goesOn) (by omega) found
  exact fits.spelled.isWordChar_of_long (by omega) mem

end Placed

theorem TilesFrom.before (tiles : TilesFrom text source line n placed) {q : Placed}
    (mem : p ∈ placed) (mem' : q ∈ placed) (lt : p.offset < q.offset) : p.Before q := by
  have ordered : placed.Pairwise fun p q => p.offset < q.offset → p.Before q := by
    refine tiles.ordered.imp ?_
    intro p q before _
    exact before
  have flipped : placed.Pairwise (flip fun p q : Placed => p.offset < q.offset → p.Before q) := by
    refine tiles.ordered.imp ?_
    intro p q before lt
    exact absurd before.1 (Nat.lt_asymm lt)
  have apart := List.Pairwise.forall_of_forall_of_flip
    (fun _ _ lt => absurd lt (Nat.lt_irrefl _)) ordered flipped
  exact apart mem mem' lt

/-- A token of one tiling is a token of every other. Otherwise the other would cut a word there, and
the front of a word is no token, since it is not as long as it can be. -/
theorem Tiles.mem_of_mem (tiles : Tiles text source line placed)
    (others : Tiles text source line other) (mem : p ∈ placed) : p ∈ other := by
  have fits := tiles.fits p mem
  have covers : p.Covers p.offset := ⟨Nat.le_refl _, fits.lt_stop⟩
  obtain ⟨q, memQ, coversQ⟩ := fits.exists_covers covers others
  have fitsQ := others.fits q memQ
  rcases Nat.eq_or_lt_of_le coversQ.1 with same | goesOn
  · exact fits.eq fitsQ same.symm ▸ memQ
  exfalso
  have coversBefore : q.Covers (p.offset - 1) :=
    ⟨Nat.le_sub_one_of_lt goesOn, Nat.lt_of_le_of_lt (Nat.sub_le _ 1) coversQ.2⟩
  obtain ⟨r, memR, coversR⟩ := fitsQ.exists_covers coversBefore tiles
  have fitsR := tiles.fits r memR
  have adjacent : r.stop = p.offset := by
    have before := (tiles.before memR mem (by have := coversR.1; omega)).2
    have upTo := coversR.2
    omega
  obtain ⟨c, -, here⟩ := fits.exists_char covers
  obtain ⟨d, memD, before⟩ := fitsR.exists_char coversR
  have delimited := fitsR.spelled.delimited memD (fitsQ.isWordChar coversQ goesOn (.inr before))
  have head : (text.drop r.stop).head? = some c := by
    rw [adjacent, List.head?_drop, here]
  have ends := delimited c head
  rw [fitsQ.isWordChar coversQ goesOn (.inl here)] at ends
  cases ends

/-- A text is tiled in one way only. -/
theorem Tiles.eq (tiles : Tiles text source line placed)
    (others : Tiles text source line other) : placed = other :=
  tiles.ordered.eq_of_mem_iff others.ordered fun _ =>
    ⟨tiles.mem_of_mem others, others.mem_of_mem tiles⟩

end Tiles

/-- The tokens of the lexer tile the text, and no others do, at whatever offsets. -/
theorem tokens_tile (text : List Char) (source : String) (line : Int) :
    ∃ placed, placed.map Placed.token = tokens text source line ∧
      ∀ other, Tiles text source line other ↔ other = placed := by
  obtain ⟨placed, tiles, read⟩ := lexerTiles text source line 0 (commentsEnd_zero text)
  refine ⟨placed, read, fun other => ⟨fun others => Tiles.eq others tiles, ?_⟩⟩
  rintro rfl
  exact tiles

end Token

end MiniLisp
