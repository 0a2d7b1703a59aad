import Mathlib.Data.List.Induction
import CommandTree.Line

/-!
How lines spell tokens. A word is made of plain characters, escaped ones and quoted groups, and blanks stand between
words; the last word may break off within a group or behind a backslash. Each line is the spelling of some tokens, and
the scan reads just these.
-/

namespace CommandTree

open Text

namespace Spelling

def isPlain (c : Char) : Bool :=
  !isBlank c && c != '"' && c != '\\'

inductive Enclosed where
  | bare (c : Char) (noQuote : c ≠ '"') (noBackslash : c ≠ '\\')
  | escaped (c : Char)

def Enclosed.text : Enclosed → List Char
  | .bare c _ _ => [c]
  | .escaped c => ['\\', c]

def Enclosed.content : Enclosed → Char
  | .bare c _ _ => c
  | .escaped c => c

inductive Piece where
  | plain (c : Char) (h : isPlain c = true)
  | escaped (c : Char)
  | group (inner : List Enclosed)

def Piece.text : Piece → List Char
  | .plain c _ => [c]
  | .escaped c => ['\\', c]
  | .group inner => '"' :: (inner.flatMap Enclosed.text ++ ['"'])

def Piece.content : Piece → List Char
  | .plain c _ => [c]
  | .escaped c => [c]
  | .group inner => inner.map Enclosed.content

structure Word where
  pieces : List Piece
  nonempty : pieces ≠ []

def Word.text (w : Word) : List Char :=
  w.pieces.flatMap Piece.text

def Word.content (w : Word) : List Char :=
  w.pieces.flatMap Piece.content

structure Blanks where
  text : List Char
  blank : ∀ c ∈ text, isBlank c = true

structure Gap extends Blanks where
  nonempty : text ≠ []

inductive Ending where
  | nothing
  | word (w : Word)
  | backslash (pieces : List Piece)
  | group (pieces : List Piece) (inner : List Enclosed) (dangling : Bool)

def Ending.text : Ending → List Char
  | .nothing => []
  | .word w => w.text
  | .backslash pieces => pieces.flatMap Piece.text ++ ['\\']
  | .group pieces inner dangling =>
      pieces.flatMap Piece.text ++ '"' :: (inner.flatMap Enclosed.text ++ if dangling then ['\\'] else [])

def Ending.content? : Ending → Option (List Char)
  | .nothing => none
  | .word w => some w.content
  | .backslash pieces => some (pieces.flatMap Piece.content)
  | .group pieces inner _ => some (pieces.flatMap Piece.content ++ inner.map Enclosed.content)

end Spelling

/-- The parts of a line. Each of `words` has a gap behind it; a word with none is the ending. -/
structure Spelling where
  before : Spelling.Blanks
  words : List (Spelling.Word × Spelling.Gap)
  ending : Spelling.Ending

namespace Spelling

def text (s : Spelling) : List Char :=
  s.before.text ++ (s.words.flatMap (fun (w, gap) => w.text ++ gap.text) ++ s.ending.text)

def line (s : Spelling) : String :=
  String.ofList s.text

def tokens (s : Spelling) : List String :=
  s.words.map (fun (w, _) => String.ofList w.content) ++ (s.ending.content?.map String.ofList).toList

end Spelling

namespace Cursor

def text : Cursor → List Char
  | .between => []
  | .within text _ _ => text

theorem push_eq (k : Cursor) (c : Char) : k.push c = .within (k.text ++ [c]) k.isQuoted false := by
  cases k <;> rfl

theorem escape_eq (k : Cursor) : k.escape = .within k.text k.isQuoted true := by
  cases k <;> rfl

theorem toggle_eq (k : Cursor) : k.toggle = .within k.text (!k.isQuoted) false := by
  cases k <;> rfl

structure Settled (k : Cursor) (text : List Char) : Prop where
  unquoted : k.isQuoted = false
  unescaped : k.isEscaped = false
  text_eq : k.text = text

theorem settled_between : Settled .between [] :=
  ⟨rfl, rfl, rfl⟩

theorem settled_within (text : List Char) : Settled (.within text false false) text :=
  ⟨rfl, rfl, rfl⟩

end Cursor

namespace Scan

variable {finished : List String} {k : Cursor} {c : Char}

theorem step_escaped (h : k.isEscaped = true) : step ⟨finished, k⟩ c = ⟨finished, k.push c⟩ := by
  simp [step, h]

theorem step_backslash (h : k.isEscaped = false) : step ⟨finished, k⟩ '\\' = ⟨finished, k.escape⟩ := by
  simp [step, h]

theorem step_quote (h : k.isEscaped = false) : step ⟨finished, k⟩ '"' = ⟨finished, k.toggle⟩ := by
  simp [step, h]

theorem step_plain (h : k.isEscaped = false) (hc : Spelling.isPlain c = true) :
    step ⟨finished, k⟩ c = ⟨finished, k.push c⟩ := by
  obtain ⟨⟨hb, hq⟩, hs⟩ : (isBlank c = false ∧ c ≠ '"') ∧ c ≠ '\\' := by
    simpa [Spelling.isPlain] using hc
  simp [step, h, hb, hq, hs]

theorem step_enclosed (h : k.isEscaped = false) (hk : k.isQuoted = true) (hq : c ≠ '"') (hs : c ≠ '\\') :
    step ⟨finished, k⟩ c = ⟨finished, k.push c⟩ := by
  simp [step, h, hk, hq, hs]

theorem step_blank {text : List Char} (h : k.Settled text) (hc : isBlank c = true) :
    step ⟨finished, k⟩ c = finish ⟨finished, k⟩ := by
  have hs : c ≠ '\\' := by
    rintro rfl
    simp [isBlank] at hc
  have hq : c ≠ '"' := by
    rintro rfl
    simp [isBlank] at hc
  simp [step, h.unescaped, h.unquoted, hc, hs, hq]

theorem run_append (s : Scan) (xs ys : List Char) : s.run (xs ++ ys) = (s.run xs).run ys :=
  List.foldl_append

theorem run_cons (s : Scan) (x : Char) (xs : List Char) : s.run (x :: xs) = (s.step x).run xs :=
  rfl

theorem run_nil (s : Scan) : s.run [] = s :=
  rfl

end Scan

namespace Spelling

variable {finished : List String} {k : Cursor} {before : List Char}

theorem run_enclosed (finished : List String) (before : List Char) (inner : List Enclosed) :
    Scan.run ⟨finished, .within before true false⟩ (inner.flatMap Enclosed.text) =
      ⟨finished, .within (before ++ inner.map Enclosed.content) true false⟩ := by
  induction inner generalizing before with
  | nil => simp [Scan.run_nil]
  | cons e inner ih =>
      have hstep : Scan.run ⟨finished, .within before true false⟩ e.text =
          ⟨finished, .within (before ++ [e.content]) true false⟩ := by
        cases e with
        | bare c hq hs =>
            rw [Enclosed.text, Scan.run_cons, Scan.step_enclosed rfl rfl hq hs]
            rfl
        | escaped c =>
            rw [Enclosed.text, Scan.run_cons, Scan.step_backslash rfl, Scan.run_cons, Scan.step_escaped rfl]
            rfl
      rw [List.flatMap_cons, Scan.run_append, hstep, ih]
      simp

theorem run_piece (h : k.Settled before) (p : Piece) :
    Scan.run ⟨finished, k⟩ p.text = ⟨finished, .within (before ++ p.content) false false⟩ := by
  cases p with
  | plain c hc =>
      rw [Piece.text, Scan.run_cons, Scan.step_plain h.unescaped hc, k.push_eq, h.text_eq, h.unquoted]
      rfl
  | escaped c =>
      rw [Piece.text, Scan.run_cons, Scan.step_backslash h.unescaped, k.escape_eq, h.text_eq, h.unquoted,
        Scan.run_cons, Scan.step_escaped rfl]
      rfl
  | group inner =>
      rw [Piece.text, Scan.run_cons, Scan.step_quote h.unescaped, k.toggle_eq, h.text_eq, h.unquoted,
        Scan.run_append, Bool.not_false, run_enclosed, Scan.run_cons, Scan.step_quote rfl]
      rfl

theorem run_pieces (h : k.Settled before) (pieces : List Piece) :
    ∃ k' : Cursor, Scan.run ⟨finished, k⟩ (pieces.flatMap Piece.text) = ⟨finished, k'⟩ ∧
      k'.Settled (before ++ pieces.flatMap Piece.content) := by
  induction pieces generalizing k before with
  | nil => exact ⟨k, rfl, by simpa using h⟩
  | cons p pieces ih =>
      obtain ⟨k', hrun, hk⟩ := ih (Cursor.settled_within (before ++ p.content))
      refine ⟨k', ?_, ?_⟩
      · rw [List.flatMap_cons, Scan.run_append, run_piece h, hrun]
      · rwa [List.flatMap_cons, ← List.append_assoc]

theorem run_word (finished : List String) (w : Word) :
    Scan.run ⟨finished, .between⟩ w.text = ⟨finished, .within w.content false false⟩ := by
  obtain ⟨before, last, hw⟩ := (List.eq_nil_or_concat w.pieces).resolve_left w.nonempty
  obtain ⟨k, hrun, hk⟩ := run_pieces Cursor.settled_between before
  rw [Word.text, Word.content, hw, List.concat_eq_append, List.flatMap_append, List.flatMap_append, Scan.run_append,
    hrun]
  simpa using run_piece hk last

theorem run_blanks (finished : List String) (b : Blanks) :
    Scan.run ⟨finished, .between⟩ b.text = ⟨finished, .between⟩ := by
  obtain ⟨text, hb⟩ := b
  induction text with
  | nil => rfl
  | cons c text ih =>
      obtain ⟨hc, hb⟩ := List.forall_mem_cons.mp hb
      rw [Scan.run_cons, Scan.step_blank Cursor.settled_between hc]
      simpa [Scan.finish, Cursor.token?] using ih hb

theorem run_gap (finished : List String) (content : List Char) (gap : Gap) :
    Scan.run ⟨finished, .within content false false⟩ gap.text =
      ⟨finished ++ [String.ofList content], .between⟩ := by
  obtain ⟨⟨text, hb⟩, hn⟩ := gap
  cases text with
  | nil => simp at hn
  | cons c text =>
      obtain ⟨hc, hb⟩ := List.forall_mem_cons.mp hb
      rw [Scan.run_cons, Scan.step_blank (Cursor.settled_within content) hc]
      exact run_blanks (finished ++ [String.ofList content]) ⟨text, hb⟩

theorem run_words (finished : List String) (words : List (Word × Gap)) :
    Scan.run ⟨finished, .between⟩ (words.flatMap fun (w, gap) => w.text ++ gap.text) =
      ⟨finished ++ words.map fun (w, _) => String.ofList w.content, .between⟩ := by
  induction words generalizing finished with
  | nil => simp [Scan.run_nil]
  | cons first words ih =>
      obtain ⟨w, gap⟩ := first
      rw [List.flatMap_cons, Scan.run_append, Scan.run_append, run_word, run_gap, ih]
      simp

theorem run_ending (finished : List String) (e : Ending) :
    (Scan.run ⟨finished, .between⟩ e.text).tokens = finished ++ (e.content?.map String.ofList).toList := by
  cases e with
  | nothing => simp [Ending.text, Ending.content?, Scan.run_nil, Scan.tokens, Cursor.token?]
  | word w =>
      rw [Ending.text, run_word]
      rfl
  | backslash pieces =>
      obtain ⟨k, hrun, hk⟩ := run_pieces Cursor.settled_between pieces
      rw [Ending.text, Scan.run_append, hrun, Scan.run_cons, Scan.step_backslash hk.unescaped, k.escape_eq,
        hk.text_eq]
      rfl
  | group pieces inner dangling =>
      obtain ⟨k, hrun, hk⟩ := run_pieces Cursor.settled_between pieces
      rw [Ending.text, Scan.run_append, hrun, Scan.run_cons, Scan.step_quote hk.unescaped, k.toggle_eq, hk.text_eq,
        hk.unquoted, Scan.run_append, Bool.not_false, run_enclosed]
      cases dangling <;> rfl

theorem tokenize_line (s : Spelling) : tokenize s.line = s.tokens := by
  rw [tokenize, line, String.toList_ofList, text, Scan.run_append, Scan.run_append, Scan.start, run_blanks, run_words,
    run_ending]
  rfl

theorem Ending.exists_of_pieces {c : Char} (pieces : List Piece) (hc : isBlank c = false) :
    ∃ e : Ending, e.text = pieces.flatMap Piece.text ++ [c] := by
  by_cases hs : c = '\\'
  · subst hs
    exact ⟨.backslash pieces, rfl⟩
  by_cases hq : c = '"'
  · subst hq
    exact ⟨.group pieces [] false, by simp [Ending.text]⟩
  have hp : isPlain c = true := by simp [isPlain, hc, hq, hs]
  exact ⟨.word ⟨pieces ++ [.plain c hp], by simp⟩, by simp [Ending.text, Word.text, Piece.text]⟩

theorem Ending.exists_of_group {c : Char} (pieces : List Piece) (inner : List Enclosed) :
    ∃ e : Ending, e.text = (Ending.group pieces inner false).text ++ [c] := by
  by_cases hs : c = '\\'
  · subst hs
    exact ⟨.group pieces inner true, by simp [Ending.text]⟩
  by_cases hq : c = '"'
  · subst hq
    exact ⟨.word ⟨pieces ++ [.group inner], by simp⟩, by simp [Ending.text, Word.text, Piece.text]⟩
  exact ⟨.group pieces (inner ++ [.bare c hq hs]) false, by simp [Ending.text, Enclosed.text]⟩

theorem exists_of_nothing {c : Char} (before : Blanks) (words : List (Word × Gap)) (hc : isBlank c = true) :
    ∃ t : Spelling, t.text = (Spelling.mk before words .nothing).text ++ [c] := by
  rcases List.eq_nil_or_concat words with rfl | ⟨words, ⟨w, gap⟩, rfl⟩
  · have hb : ∀ d ∈ before.text ++ [c], isBlank d = true := by
      simpa [or_imp, forall_and, hc] using before.blank
    exact ⟨⟨⟨before.text ++ [c], hb⟩, [], .nothing⟩, by simp [text, Ending.text]⟩
  · have hb : ∀ d ∈ gap.text ++ [c], isBlank d = true := by
      simpa [or_imp, forall_and, hc] using gap.blank
    exact ⟨⟨before, words ++ [(w, ⟨⟨gap.text ++ [c], hb⟩, by simp⟩)], .nothing⟩, by simp [text, Ending.text]⟩

theorem exists_snoc (s : Spelling) (c : Char) : ∃ t : Spelling, t.text = s.text ++ [c] := by
  obtain ⟨before, words, ending⟩ := s
  have hsame : ∀ e : Ending, e.text = ending.text ++ [c] →
      ∃ t : Spelling, t.text = (Spelling.mk before words ending).text ++ [c] := by
    intro e he
    exact ⟨⟨before, words, e⟩, by simp [text, he]⟩
  cases ending with
  | nothing =>
      cases hc : isBlank c with
      | true => exact exists_of_nothing before words hc
      | false =>
          obtain ⟨e, he⟩ := Ending.exists_of_pieces [] hc
          exact hsame e he
  | word w =>
      cases hc : isBlank c with
      | true =>
          have hb : ∀ d ∈ [c], isBlank d = true := by simpa using hc
          exact ⟨⟨before, words ++ [(w, ⟨⟨[c], hb⟩, by simp⟩)], .nothing⟩, by simp [text, Ending.text]⟩
      | false =>
          obtain ⟨e, he⟩ := Ending.exists_of_pieces w.pieces hc
          exact hsame e he
  | backslash pieces =>
      exact hsame (.word ⟨pieces ++ [.escaped c], by simp⟩) (by simp [Ending.text, Word.text, Piece.text])
  | group pieces inner dangling =>
      cases dangling with
      | true =>
          exact hsame (.group pieces (inner ++ [.escaped c]) false) (by simp [Ending.text, Enclosed.text])
      | false =>
          obtain ⟨e, he⟩ := Ending.exists_of_group pieces inner
          exact hsame e he

theorem exists_text_eq (text : List Char) : ∃ s : Spelling, s.text = text := by
  induction text using List.reverseRecOn with
  | nil => exact ⟨⟨⟨[], by simp⟩, [], .nothing⟩, rfl⟩
  | append_singleton text c ih =>
      obtain ⟨s, rfl⟩ := ih
      exact s.exists_snoc c

theorem lines_are_read_as_spelled :
    (∀ s : Spelling, tokenize s.line = s.tokens) ∧
      ∀ line : String, ∃ s : Spelling, s.line = line ∧ tokenize line = s.tokens := by
  refine ⟨tokenize_line, ?_⟩
  intro line
  obtain ⟨s, hs⟩ := exists_text_eq line.toList
  have hl : s.line = line := by rw [Spelling.line, hs, String.ofList_toList]
  exact ⟨s, hl, hl ▸ s.tokenize_line⟩

end Spelling

end CommandTree
