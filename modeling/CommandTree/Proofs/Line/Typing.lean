import CommandTree.Proofs.Line.Spelling

namespace CommandTree

open Text

theorem Cursor.token?_getD (k : Cursor) : k.token?.getD "" = String.ofList k.text := by
  cases k <;> rfl

theorem Cursor.token?_eq_none_iff {k : Cursor} : k.token? = none ↔ k = .between := by
  cases k <;> simp [Cursor.token?]

namespace Scan

structure EndsAt (s : Scan) (c : Char) : Prop where
  blank : isBlank c = true
  unescaped : s.cursor.isEscaped = false
  unquoted : s.cursor.isQuoted = false

variable {s t : Scan} {c : Char}

theorem step_of_endsAt (h : s.EndsAt c) : s.step c = s.finish :=
  step_blank ⟨h.unquoted, h.unescaped, rfl⟩ h.blank

theorem exists_step_of_not_endsAt (h : ¬ s.EndsAt c) :
    ∃ text quoted escaped, s.cursor.text <+: text ∧
      ∀ finished, step ⟨finished, s.cursor⟩ c = ⟨finished, .within text quoted escaped⟩ := by
  cases he : s.cursor.isEscaped with
  | true => exact ⟨_, _, _, List.prefix_append _ _, fun _ => by rw [step_escaped he, s.cursor.push_eq]⟩
  | false =>
      by_cases hs : c = '\\'
      · subst hs
        exact ⟨_, _, _, List.prefix_rfl, fun _ => by rw [step_backslash he, s.cursor.escape_eq]⟩
      by_cases hq : c = '"'
      · subst hq
        exact ⟨_, _, _, List.prefix_rfl, fun _ => by rw [step_quote he, s.cursor.toggle_eq]⟩
      cases hk : s.cursor.isQuoted with
      | true => exact ⟨_, _, _, List.prefix_append _ _, fun _ => by rw [step_enclosed he hk hq hs, s.cursor.push_eq]⟩
      | false =>
          have hb : isBlank c ≠ true := fun hb => h ⟨hb, he, hk⟩
          have hp : Spelling.isPlain c = true := by simp [Spelling.isPlain, hb, hq, hs]
          exact ⟨_, _, _, List.prefix_append _ _, fun _ => by rw [step_plain he hp, s.cursor.push_eq]⟩

inductive Reaches (s : Scan) : Scan → Prop
  | growing {k : Cursor} : s.cursor.text <+: k.text → Reaches s ⟨s.finished, k⟩
  | past {token : String} {others : List String} {k : Cursor} : s.cursor.text <+: token.toList →
      Reaches s ⟨s.finished ++ token :: others, k⟩

theorem Reaches.finish (h : s.Reaches t) : s.Reaches t.finish := by
  cases h with
  | @growing k hk =>
      cases k with
      | between => simpa [Scan.finish, Cursor.token?] using Reaches.growing hk
      | within text quoted escaped => exact .past (by simpa [Cursor.text] using hk)
  | past ht =>
      rw [Scan.finish, List.append_assoc, List.cons_append]
      exact .past ht

theorem Reaches.step (h : s.Reaches t) (c : Char) : s.Reaches (t.step c) := by
  by_cases he : t.EndsAt c
  · rw [step_of_endsAt he]
    exact h.finish
  · obtain ⟨text, quoted, escaped, ht, hs⟩ := exists_step_of_not_endsAt he
    rw [hs t.finished]
    cases h with
    | growing hk => exact .growing (hk.trans ht)
    | past hp => exact .past hp

theorem Reaches.run (h : s.Reaches t) (cs : List Char) : s.Reaches (t.run cs) := by
  induction cs generalizing t with
  | nil => exact h
  | cons c cs ih => exact ih (h.step c)

theorem reaches_run (s : Scan) (cs : List Char) : s.Reaches (s.run cs) := by
  apply Reaches.run
  exact .growing List.prefix_rfl

theorem typed_eq (s : Scan) : s.typed = s.finished ++ [String.ofList s.cursor.text] := by
  rw [typed, Cursor.token?_getD]

theorem Reaches.typed (h : s.Reaches t) :
    ∃ rest others, t.typed = s.finished ++ (String.ofList s.cursor.text ++ rest) :: others := by
  cases h with
  | @growing k hk =>
      obtain ⟨rest, hr⟩ := hk
      refine ⟨String.ofList rest, [], ?_⟩
      rw [typed_eq, ← hr, String.ofList_append]
  | @past token others k ht =>
      obtain ⟨rest, hr⟩ := ht
      refine ⟨String.ofList rest, others ++ [String.ofList k.text], ?_⟩
      rw [typed_eq, List.append_assoc, List.cons_append, ← String.ofList_append, hr, String.ofList_toList]

theorem typed_of_between (h : s.cursor = .between) : s.typed = s.tokens ++ [""] := by
  simp [typed, tokens, h, Cursor.token?]

theorem typed_of_within (h : s.cursor ≠ .between) : s.typed = s.tokens := by
  obtain ⟨token, ht⟩ := Option.ne_none_iff_exists'.mp (mt Cursor.token?_eq_none_iff.mp h)
  simp [typed, tokens, ht]

theorem step_cursor_eq_between_iff : (s.step c).cursor = .between ↔ s.EndsAt c := by
  constructor
  · intro h
    by_contra he
    obtain ⟨text, quoted, escaped, -, hs⟩ := exists_step_of_not_endsAt he
    simp [hs s.finished] at h
  · intro h
    rw [step_of_endsAt h, finish]

theorem run_cursor_eq_between_iff {cs : List Char} :
    (start.run cs).cursor = .between ↔ cs = [] ∨ ∃ before c, cs = before ++ [c] ∧ (start.run before).EndsAt c := by
  rcases List.eq_nil_or_concat cs with rfl | ⟨before, c, rfl⟩
  · simp [run_nil, start]
  · rw [List.concat_eq_append, run_append, run_cons, run_nil, step_cursor_eq_between_iff]
    constructor
    · intro h
      exact .inr ⟨before, c, rfl, h⟩
    · rintro (h | ⟨_, _, h, he⟩)
      · simp at h
      · obtain ⟨rfl, hc⟩ := List.append_inj' h rfl
        obtain rfl := List.singleton_inj.mp hc
        exact he

def behind (finished : List String) (s : Scan) : Scan :=
  ⟨finished ++ s.finished, s.cursor⟩

theorem step_behind (finished : List String) (s : Scan) (c : Char) :
    (s.behind finished).step c = (s.step c).behind finished := by
  by_cases h : s.EndsAt c
  · have hb : (s.behind finished).EndsAt c := ⟨h.blank, h.unescaped, h.unquoted⟩
    rw [step_of_endsAt hb, step_of_endsAt h]
    simp [behind, finish]
  · obtain ⟨text, quoted, escaped, -, hs⟩ := exists_step_of_not_endsAt h
    rw [behind, hs, hs s.finished, behind]

theorem run_behind (finished : List String) (s : Scan) (cs : List Char) :
    (s.behind finished).run cs = (s.run cs).behind finished := by
  induction cs generalizing s with
  | nil => rfl
  | cons c cs ih => rw [run_cons, run_cons, step_behind, ih]

theorem tokens_behind (finished : List String) (s : Scan) : (s.behind finished).tokens = finished ++ s.tokens := by
  rw [tokens, tokens, behind, List.append_assoc]

theorem finish_eq_behind (s : Scan) : s.finish = start.behind s.tokens := by
  rw [finish, behind, start, List.append_nil, tokens]

end Scan

theorem tokenize_cut {a : String} {c : Char} (h : (Scan.start.run a.toList).EndsAt c) (b : String) :
    tokenize (a ++ String.singleton c ++ b) = tokenize a ++ tokenize b := by
  rw [tokenize, String.toList_append, String.toList_append, String.toList_singleton, Scan.run_append, Scan.run_append,
    Scan.run_cons, Scan.run_nil, Scan.step_of_endsAt h, Scan.finish_eq_behind, Scan.run_behind, Scan.tokens_behind]
  rfl

theorem tokenizeTyped_append {line : String} {typed : List String} {current : String}
    (h : tokenizeTyped line = typed ++ [current]) (more : String) :
    ∃ rest others, tokenizeTyped (line ++ more) = typed ++ (current ++ rest) :: others := by
  rw [tokenizeTyped, Scan.typed_eq] at h
  obtain ⟨rfl, hc⟩ := List.append_inj' h rfl
  obtain rfl := List.singleton_inj.mp hc
  rw [tokenizeTyped, String.toList_append, Scan.run_append]
  exact (Scan.reaches_run _ _).typed

theorem tokenizeTyped_eq_or (line : String) :
    tokenizeTyped line = tokenize line ∨ tokenizeTyped line = tokenize line ++ [""] := by
  by_cases h : (Scan.start.run line.toList).cursor = .between
  · exact .inr (Scan.typed_of_between h)
  · exact .inl (Scan.typed_of_within h)

theorem tokenizeTyped_eq_concat_iff (line : String) :
    tokenizeTyped line = tokenize line ++ [""] ↔ (Scan.start.run line.toList).cursor = .between := by
  constructor
  · intro h
    by_contra hk
    rw [tokenizeTyped, Scan.typed_of_within hk, tokenize] at h
    simp at h
  · exact Scan.typed_of_between

theorem run_blank_line {cs : List Char} (h : ∀ c ∈ cs, isBlank c = true) : Scan.start.run cs = Scan.start :=
  Spelling.run_blanks [] ⟨cs, h⟩

theorem typing_on_keeps_finished_tokens (line more : String) :
    (∀ typed current, tokenizeTyped line = typed ++ [current] →
      ∃ rest others, tokenizeTyped (line ++ more) = typed ++ (current ++ rest) :: others) ∧
    (tokenizeTyped line = tokenize line ∨ tokenizeTyped line = tokenize line ++ [""]) ∧
    (tokenizeTyped line = tokenize line ++ [""] ↔
      line = "" ∨ (∀ c ∈ line.toList, isBlank c = true) ∨
        ∃ before c, line.toList = before ++ [c] ∧ (Scan.start.run before).EndsAt c) ∧
    ∀ c, (Scan.start.run line.toList).EndsAt c →
      tokenize (line ++ String.singleton c ++ more) = tokenize line ++ tokenize more := by
  refine ⟨?_, tokenizeTyped_eq_or line, ?_, ?_⟩
  · intro typed current h
    exact tokenizeTyped_append h more
  · rw [tokenizeTyped_eq_concat_iff, Scan.run_cursor_eq_between_iff, String.toList_eq_nil_iff]
    constructor
    · rintro (h | h)
      · exact .inl h
      · exact .inr (.inr h)
    · rintro (h | h | h)
      · exact .inl h
      · rw [← String.toList_eq_nil_iff, ← Scan.run_cursor_eq_between_iff, run_blank_line h]
        rfl
      · exact .inr h
  · intro c h
    exact tokenize_cut h more

theorem quoted_city_is_typed_on :
    tokenizeTyped "fly \"new" = ["fly"] ++ ["new"] ∧
      (∃ rest others, tokenizeTyped ("fly \"new" ++ " york\" now") = ["fly"] ++ ("new" ++ rest) :: others) ∧
      (Scan.start.run "fly".toList).EndsAt ' ' ∧
      tokenize ("fly" ++ String.singleton ' ' ++ "\"new york\"") = tokenize "fly" ++ tokenize "\"new york\"" := by
  have ht : tokenizeTyped "fly \"new" = ["fly"] ++ ["new"] := by decide
  have he : (Scan.start.run "fly".toList).EndsAt ' ' := ⟨by decide, by decide, by decide⟩
  obtain ⟨hgrows, -⟩ := typing_on_keeps_finished_tokens "fly \"new" " york\" now"
  obtain ⟨-, -, -, hcut⟩ := typing_on_keeps_finished_tokens "fly" "\"new york\""
  exact ⟨ht, hgrows _ _ ht, he, hcut ' ' he⟩

end CommandTree
