
namespace CommandTree.Text

def isBlank (c : Char) : Bool :=
  let n := c.toNat
  (0x9 ≤ n && n ≤ 0xd) || n == 0x20 || n == 0x85 || n == 0xa0 || n == 0x1680
    || (0x2000 ≤ n && n ≤ 0x200a) || n == 0x2028 || n == 0x2029 || n == 0x202f || n == 0x205f
    || n == 0x3000

def trimStart (cs : List Char) : List Char :=
  cs.dropWhile isBlank

def trimEnd (cs : List Char) : List Char :=
  (cs.reverse.dropWhile isBlank).reverse

def trim (cs : List Char) : List Char :=
  trimEnd (trimStart cs)

theorem mem_of_mem_trim {text : List Char} {c : Char} (h : c ∈ trim text) : c ∈ text := by
  rw [trim, trimEnd, List.mem_reverse] at h
  have hm := (List.dropWhile_sublist isBlank).mem h
  exact (List.dropWhile_sublist isBlank).mem (List.mem_reverse.mp hm)

theorem isBlank_getLast?_trim {text : List Char} : ∀ c ∈ (trim text).getLast?, isBlank c = false := by
  intro c hc
  have hd := List.head?_dropWhile_not isBlank (trimStart text).reverse
  rw [trim, trimEnd, List.getLast?_reverse] at hc
  rw [Option.mem_def.mp hc] at hd
  exact hd

theorem trim_eq_self {text : List Char} (hs : ∀ c ∈ text.head?, isBlank c = false)
    (he : ∀ c ∈ text.getLast?, isBlank c = false) : trim text = text := by
  have hstart : trimStart text = text := by
    cases text with
    | nil => rfl
    | cons c text => simp [trimStart, hs c rfl]
  rw [trim, hstart, trimEnd]
  rw [List.getLast?_eq_head?_reverse] at he
  have hend : text.reverse.dropWhile isBlank = text.reverse := by
    cases hr : text.reverse with
    | nil => rfl
    | cons c rest => simp [he c (by simp [hr])]
  rw [hend, List.reverse_reverse]

theorem trim_concat_blank {text : List Char} {c : Char} (hn : text ≠ []) (ht : trim text = text)
    (hs : ∀ c ∈ text.head?, isBlank c = false) (hc : isBlank c = true) : trim (text ++ [c]) = text := by
  have hstart : ∀ rest, trimStart (text ++ rest) = text ++ rest := by
    intro rest
    cases text with
    | nil => exact absurd rfl hn
    | cons d text => simp [trimStart, hs d rfl]
  have hend : trimEnd (text ++ [c]) = trimEnd text := by simp [trimEnd, hc]
  rw [trim, hstart, hend]
  have htext := hstart []
  rw [List.append_nil] at htext
  rwa [trim, htext] at ht

def dropReturn (line : List Char) : List Char :=
  match line.reverse with
  | '\r' :: rest => rest.reverse
  | _ => line

/-- The lines of a text whose first line has begun with `current`. A line ends at a line feed; the last
one may lack it, and an empty last line is none. -/
def linesFrom : List Char → List Char → List (List Char)
  | [], [] => []
  | current@(_ :: _), [] => [current]
  | current, c :: rest =>
      if c = '\n' then dropReturn current :: linesFrom [] rest
      else linesFrom (current ++ [c]) rest

def lines (text : List Char) : List (List Char) :=
  linesFrom [] text

theorem dropReturn_eq_self {line : List Char} (h : line.getLast? ≠ some '\r') : dropReturn line = line := by
  rw [List.getLast?_eq_head?_reverse] at h
  unfold dropReturn
  split
  next rest hr => simp [hr] at h
  next => rfl

theorem mem_of_mem_dropReturn {line : List Char} {c : Char} (h : c ∈ dropReturn line) : c ∈ line := by
  unfold dropReturn at h
  split at h
  next rest hr =>
    rw [← List.mem_reverse, hr]
    exact List.mem_cons_of_mem '\r' (List.mem_reverse.mp h)
  next => exact h

theorem linesFrom_nil (current : List Char) : linesFrom current [] = if current = [] then [] else [current] := by
  cases current <;> simp [linesFrom]

theorem linesFrom_feed (current rest : List Char) :
    linesFrom current ('\n' :: rest) = dropReturn current :: linesFrom [] rest := by
  cases current <;> simp [linesFrom]

theorem linesFrom_other {c : Char} (h : c ≠ '\n') (current rest : List Char) :
    linesFrom current (c :: rest) = linesFrom (current ++ [c]) rest := by
  cases current <;> simp [linesFrom, h]

theorem linesFrom_append {line : List Char} (h : '\n' ∉ line) (current rest : List Char) :
    linesFrom current (line ++ rest) = linesFrom (current ++ line) rest := by
  induction line generalizing current with
  | nil => simp
  | cons c line ih =>
      obtain ⟨hc, hl⟩ := List.ne_and_not_mem_of_not_mem_cons h
      rw [List.cons_append, linesFrom_other hc.symm, ih hl, ← List.append_cons]

theorem linesFrom_eq_nil_iff {current text : List Char} : linesFrom current text = [] ↔ current = [] ∧ text = [] := by
  induction text generalizing current with
  | nil => simp [linesFrom_nil]
  | cons c text ih =>
      by_cases hc : c = '\n'
      · simp [hc, linesFrom_feed]
      · simp [linesFrom_other hc, ih]

theorem newline_not_mem_of_mem_linesFrom {current text line : List Char} (hc : '\n' ∉ current)
    (h : line ∈ linesFrom current text) : '\n' ∉ line := by
  induction text generalizing current with
  | nil =>
      rw [linesFrom_nil] at h
      split at h
      · simp at h
      · rwa [List.mem_singleton.mp h]
  | cons c text ih =>
      by_cases hn : c = '\n'
      · rw [hn, linesFrom_feed, List.mem_cons] at h
        rcases h with rfl | h
        · exact fun hm => hc (mem_of_mem_dropReturn hm)
        · exact ih (by simp) h
      · rw [linesFrom_other hn] at h
        exact ih (by simpa [hc, eq_comm] using hn) h

def onLines : List (List Char) → List Char
  | [] => []
  | first :: others => first ++ others.flatMap ('\n' :: ·)

theorem lines_onLines {values : List (List Char)} (h : ∀ v ∈ values, '\n' ∉ v ∧ v.getLast? ≠ some '\r') :
    lines (onLines values) = if values.getLast? = some [] then values.dropLast else values := by
  rw [lines]
  cases values with
  | nil => rfl
  | cons first others =>
      induction others generalizing first with
      | nil =>
          have hf := h first List.mem_cons_self
          rw [onLines, List.flatMap_nil, linesFrom_append hf.1, linesFrom_nil]
          cases first <;> rfl
      | cons second others ih =>
          have hf := h first List.mem_cons_self
          have hothers := ih second fun v hv => h v (List.mem_cons_of_mem first hv)
          have htext : onLines (first :: second :: others) = first ++ '\n' :: onLines (second :: others) := by
            simp [onLines]
          rw [htext, linesFrom_append hf.1, linesFrom_feed, List.nil_append, dropReturn_eq_self hf.2, hothers,
            List.getLast?_cons_cons, List.dropLast_cons_cons]
          split <;> rfl

def wordsFrom : List Char → List Char → List (List Char)
  | [], [] => []
  | current@(_ :: _), [] => [current]
  | current, c :: rest =>
      if isBlank c then
        match current with
        | [] => wordsFrom [] rest
        | _ :: _ => current :: wordsFrom [] rest
      else wordsFrom (current ++ [c]) rest

def words (text : List Char) : List (List Char) :=
  wordsFrom [] text

theorem wordsFrom_append {word : List Char} (h : ∀ c ∈ word, isBlank c = false) (current rest : List Char) :
    wordsFrom current (word ++ rest) = wordsFrom (current ++ word) rest := by
  induction word generalizing current with
  | nil => simp
  | cons c word ih =>
      have hn : isBlank c = false := h c List.mem_cons_self
      have hr := ih fun d hd => h d (List.mem_cons_of_mem c hd)
      cases current <;> simp [wordsFrom, hn, hr]

theorem words_eq_singleton {word : List Char} (hn : word ≠ []) (h : ∀ c ∈ word, isBlank c = false) :
    words word = [word] := by
  have hw := wordsFrom_append h [] []
  rw [List.append_nil, List.nil_append] at hw
  rw [words, hw]
  cases word with
  | nil => exact absurd rfl hn
  | cons c word => rfl

def piecesFrom (isCut : Char → Bool) : List Char → List Char → List (List Char)
  | current, [] => [current]
  | current, c :: rest =>
      if isCut c then current :: piecesFrom isCut [] rest
      else piecesFrom isCut (current ++ [c]) rest

def pieces (isCut : Char → Bool) (text : List Char) : List (List Char) :=
  piecesFrom isCut [] text

theorem piecesFrom_append {isCut : Char → Bool} {piece : List Char} (h : ∀ c ∈ piece, isCut c = false)
    (current rest : List Char) :
    piecesFrom isCut current (piece ++ rest) = piecesFrom isCut (current ++ piece) rest := by
  induction piece generalizing current with
  | nil => simp
  | cons c piece ih =>
      have hn : isCut c = false := h c List.mem_cons_self
      have hr := ih fun d hd => h d (List.mem_cons_of_mem c hd)
      simp [piecesFrom, hn, hr]

theorem pieces_joined {isCut : Char → Bool} {c : Char} (hc : isCut c = true) {first : List Char}
    {others : List (List Char)} (h : ∀ piece ∈ first :: others, ∀ d ∈ piece, isCut d = false) :
    pieces isCut (first ++ others.flatMap (c :: ·)) = first :: others := by
  rw [pieces]
  induction others generalizing first with
  | nil => simpa [piecesFrom] using piecesFrom_append (h first List.mem_cons_self) [] []
  | cons other others ih =>
      have hr := ih fun piece hp => h piece (List.mem_cons_of_mem first hp)
      rw [piecesFrom_append (h first List.mem_cons_self), List.flatMap_cons, List.cons_append]
      simp [piecesFrom, hc, hr]

def cutAt? (isCut : Char → Bool) : List Char → Option (List Char × List Char)
  | [] => none
  | c :: rest =>
      if isCut c then some ([], rest)
      else (cutAt? isCut rest).map fun (before, after) => (c :: before, after)

theorem cutAt?_append {isCut : Char → Bool} {before after : List Char} {c : Char}
    (hb : ∀ b ∈ before, isCut b = false) (hc : isCut c = true) :
    cutAt? isCut (before ++ c :: after) = some (before, after) := by
  induction before with
  | nil => simp [cutAt?, hc]
  | cons b before ih =>
      have hn : isCut b = false := hb b List.mem_cons_self
      have hr := ih fun d hd => hb d (List.mem_cons_of_mem b hd)
      simp [cutAt?, hn, hr]

theorem exists_of_cutAt? {isCut : Char → Bool} {text before after : List Char}
    (h : cutAt? isCut text = some (before, after)) : ∃ c, text = before ++ c :: after := by
  induction text generalizing before with
  | nil => simp [cutAt?] at h
  | cons c text ih =>
      rw [cutAt?] at h
      split at h
      · obtain ⟨rfl, rfl⟩ : [] = before ∧ text = after := by simpa using h
        exact ⟨c, rfl⟩
      · obtain ⟨⟨first, last⟩, hr, he⟩ := Option.map_eq_some_iff.mp h
        obtain ⟨rfl, rfl⟩ := Prod.mk.inj he
        obtain ⟨d, rfl⟩ := ih hr
        exact ⟨d, rfl⟩

theorem cutAt?_eq_none {isCut : Char → Bool} {text : List Char} (h : ∀ c ∈ text, isCut c = false) :
    cutAt? isCut text = none := by
  induction text with
  | nil => rfl
  | cons c text ih =>
      have hn : isCut c = false := h c List.mem_cons_self
      have hr := ih fun d hd => h d (List.mem_cons_of_mem c hd)
      simp [cutAt?, hn, hr]

def dropStart? : List Char → List Char → Option (List Char)
  | [], text => some text
  | _ :: _, [] => none
  | s :: start, c :: text => if s = c then dropStart? start text else none

theorem dropStart?_eq_some {start text rest : List Char} :
    dropStart? start text = some rest ↔ text = start ++ rest := by
  induction start generalizing text with
  | nil => simp [dropStart?]
  | cons s start ih =>
      cases text with
      | nil => simp [dropStart?]
      | cons c text => by_cases h : s = c <;> simp [dropStart?, h, ih, eq_comm]

theorem dropStart?_eq_none {start text : List Char} : dropStart? start text = none ↔ ¬ start <+: text := by
  rw [Option.eq_none_iff_forall_ne_some]
  constructor
  · rintro h ⟨rest, rfl⟩
    exact h rest (dropStart?_eq_some.mpr rfl)
  · intro h rest hrest
    exact h ⟨rest, (dropStart?_eq_some.mp hrest).symm⟩

def dropEnd? (ending text : List Char) : Option (List Char) :=
  (dropStart? ending.reverse text.reverse).map List.reverse

theorem dropEnd?_eq_some {ending text rest : List Char} :
    dropEnd? ending text = some rest ↔ text = rest ++ ending := by
  simp only [dropEnd?, Option.map_eq_some_iff, dropStart?_eq_some]
  constructor
  · rintro ⟨before, ht, rfl⟩
    rw [← List.reverse_reverse text, ht]
    simp
  · rintro rfl
    exact ⟨rest.reverse, by simp, by simp⟩

end CommandTree.Text
