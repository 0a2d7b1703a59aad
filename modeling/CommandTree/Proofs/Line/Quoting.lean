import CommandTree.Proofs.Line.Spelling

namespace CommandTree

open Text

namespace Spelling

theorem tokenize_word (w : Word) : tokenize (String.ofList w.text) = [String.ofList w.content] := by
  have h := tokenize_line ⟨⟨[], by simp⟩, [], .word w⟩
  simpa [line, text, tokens, Ending.text, Ending.content?] using h

theorem exists_enclosed (content : List Char) :
    ∃ inner : List Enclosed, inner.flatMap Enclosed.text = escapeQuotes content ∧
      inner.map Enclosed.content = content := by
  induction content with
  | nil => exact ⟨[], rfl, rfl⟩
  | cons c content ih =>
      obtain ⟨inner, ht, hc⟩ := ih
      by_cases h : c = '"' ∨ c = '\\'
      · refine ⟨.escaped c :: inner, ?_, ?_⟩
        · simp [escapeQuotes, h, ht, Enclosed.text]
        · simp [hc, Enclosed.content]
      · obtain ⟨hq, hs⟩ := not_or.mp h
        refine ⟨.bare c hq hs :: inner, ?_, ?_⟩
        · simp [escapeQuotes, h, ht, Enclosed.text]
        · simp [hc, Enclosed.content]

theorem exists_plain {content : List Char} (h : ∀ c ∈ content, isPlain c = true) :
    ∃ pieces : List Piece, pieces.flatMap Piece.text = content ∧ pieces.flatMap Piece.content = content := by
  induction content with
  | nil => exact ⟨[], rfl, rfl⟩
  | cons c content ih =>
      obtain ⟨hc, hrest⟩ := List.forall_mem_cons.mp h
      obtain ⟨pieces, ht, hp⟩ := ih hrest
      exact ⟨.plain c hc :: pieces, by simp [Piece.text, ht], by simp [Piece.content, hp]⟩

theorem tokenize_quoted (content : List Char) :
    tokenize (String.ofList ('"' :: (escapeQuotes content ++ ['"']))) = [String.ofList content] := by
  obtain ⟨inner, ht, hc⟩ := exists_enclosed content
  have h := tokenize_word ⟨[.group inner], by simp⟩
  simpa [Word.text, Word.content, Piece.text, Piece.content, ht, hc] using h

theorem tokenize_plain {content : List Char} (hn : content ≠ []) (h : ∀ c ∈ content, isPlain c = true) :
    tokenize (String.ofList content) = [String.ofList content] := by
  obtain ⟨pieces, ht, hc⟩ := exists_plain h
  have hp : pieces ≠ [] := by
    rintro rfl
    exact hn ht.symm
  have hw := tokenize_word ⟨pieces, hp⟩
  simpa only [Word.text, Word.content, ht, hc] using hw

end Spelling

theorem any_isBlank_escapeQuotes (cs : List Char) : (escapeQuotes cs).any isBlank = cs.any isBlank := by
  have hb : isBlank '\\' = false := rfl
  induction cs with
  | nil => rfl
  | cons c cs ih =>
      rw [escapeQuotes]
      split
      · rw [List.any_cons, List.any_cons, List.any_cons, ih, hb, Bool.false_or]
      · rw [List.any_cons, List.any_cons, ih]

theorem any_isBlank_quoteIfNeeded (candidate : String) :
    (quoteIfNeeded candidate).toList.any isBlank = candidate.toList.any isBlank := by
  have hq : isBlank '"' = false := rfl
  rw [quoteIfNeeded]
  split
  · simp only [String.toList_ofList, List.any_cons, List.any_append, List.any_nil, hq, any_isBlank_escapeQuotes,
      Bool.false_or, Bool.or_false]
  · rfl

theorem quoteIfNeeded_injective : Function.Injective quoteIfNeeded := by
  intro a b h
  have hb := congrArg (fun text : String => text.toList.any isBlank) h
  simp only [any_isBlank_quoteIfNeeded] at hb
  rw [quoteIfNeeded, quoteIfNeeded, hb] at h
  split at h
  · have ht := congrArg tokenize h
    rw [Spelling.tokenize_quoted, Spelling.tokenize_quoted, String.ofList_toList, String.ofList_toList] at ht
    exact List.singleton_inj.mp ht
  · exact h

namespace Scan

def contents (s : Scan) : List Char :=
  s.finished.flatMap String.toList ++ s.cursor.text

theorem flatMap_tokens (s : Scan) : s.tokens.flatMap String.toList = s.contents := by
  obtain ⟨finished, k⟩ := s
  cases k <;> simp [tokens, contents, Cursor.token?, Cursor.text]

theorem contents_step (s : Scan) (c : Char) :
    (s.step c).contents = s.contents ++ [c] ∧ (s.step c).cursor.isEscaped = false ∧
        (s.cursor.isEscaped = true ∨ c ≠ '"' ∧ c ≠ '\\') ∨
      (s.step c).contents = s.contents := by
  obtain ⟨finished, k⟩ := s
  rw [step]
  split
  next he => exact .inl ⟨by simp [contents, k.push_eq, Cursor.text], by simp [k.push_eq, Cursor.isEscaped], .inl he⟩
  split
  · exact .inr (by simp [contents, k.escape_eq, Cursor.text])
  next hs =>
  split
  · exact .inr (by simp [contents, k.toggle_eq, Cursor.text])
  next hq =>
  split
  · exact .inr (by cases k <;> simp [contents, finish, Cursor.token?, Cursor.text])
  · exact .inl ⟨by simp [contents, k.push_eq, Cursor.text], by simp [k.push_eq, Cursor.isEscaped], .inr ⟨hq, hs⟩⟩

theorem length_contents_run (cs : List Char) :
    (start.run cs).contents.length ≤ cs.length ∧
      ((start.run cs).cursor.isEscaped = true ∨ (∃ c ∈ cs, c = '"' ∨ c = '\\') →
        (start.run cs).contents.length < cs.length) := by
  induction cs using List.reverseRecOn with
  | nil => simp [run, start, contents, Cursor.text, Cursor.isEscaped]
  | append_singleton cs c ih =>
      obtain ⟨hle, hlt⟩ := ih
      rw [run_append, run_cons, run_nil, List.length_append, List.length_singleton]
      rcases contents_step (start.run cs) c with ⟨hc, he, hread⟩ | hc
      · rw [hc, List.length_append, List.length_singleton]
        refine ⟨by omega, ?_⟩
        rintro (h | ⟨d, hd, hspecial⟩)
        · simp [he] at h
        · -- The quote or backslash stands before this character, or this character stands behind a backslash.
          have hbefore : (start.run cs).contents.length < cs.length := by
            apply hlt
            rcases List.mem_append.mp hd with hd | hd
            · exact .inr ⟨d, hd, hspecial⟩
            · obtain rfl := List.mem_singleton.mp hd
              exact hread.imp_right fun hplain => absurd hspecial (not_or.mpr hplain)
          omega
      · rw [hc]
        exact ⟨by omega, fun _ => by omega⟩

end Scan

theorem length_lt_of_mem_tokenize {line token : String} (h : tokenize line = [token])
    (hspecial : ∃ c ∈ line.toList, c = '"' ∨ c = '\\') : token.toList.length < line.toList.length := by
  have hc := (Scan.start.run line.toList).flatMap_tokens
  rw [← tokenize, h, List.flatMap_singleton] at hc
  have hlt := (Scan.length_contents_run line.toList).2 (.inr hspecial)
  rwa [← hc] at hlt

theorem candidates_read_back_iff (candidate : String) :
    tokenize (quoteIfNeeded candidate) = [candidate] ↔
      (∃ c ∈ candidate.toList, isBlank c = true) ∨
        candidate ≠ "" ∧ ∀ c ∈ candidate.toList, c ≠ '"' ∧ c ≠ '\\' := by
  rw [quoteIfNeeded]
  split
  next hb =>
    have hq := Spelling.tokenize_quoted candidate.toList
    rw [String.ofList_toList] at hq
    exact iff_of_true hq (.inl (List.any_eq_true.mp hb))
  next hb =>
    have hn : ∀ c ∈ candidate.toList, isBlank c = false := by simpa using hb
    constructor
    · intro h
      refine .inr ⟨?_, ?_⟩
      · rintro rfl
        simp [tokenize, Scan.run, Scan.start, Scan.tokens, Cursor.token?] at h
      · intro c hc
        rw [← not_or]
        intro hspecial
        exact Nat.lt_irrefl _ (length_lt_of_mem_tokenize h ⟨c, hc, hspecial⟩)
    · rintro (⟨c, hc, hblank⟩ | ⟨hne, hplain⟩)
      · simp [hn c hc] at hblank
      · have hp : ∀ c ∈ candidate.toList, Spelling.isPlain c = true := by
          intro c hc
          simp [Spelling.isPlain, hn c hc, hplain c hc]
        have ht := Spelling.tokenize_plain (by simpa using hne) hp
        rwa [String.ofList_toList] at ht

theorem backslash_candidate_loses_backslash :
    tokenize (quoteIfNeeded "d\\e") = ["de"] ∧ ¬ ∀ candidate, tokenize (quoteIfNeeded candidate) = [candidate] := by
  have h : tokenize (quoteIfNeeded "d\\e") = ["de"] := by decide
  refine ⟨h, ?_⟩
  intro hall
  have := hall "d\\e"
  simp [h] at this

end CommandTree
