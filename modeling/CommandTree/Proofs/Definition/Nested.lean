import CommandTree.Definition.Block

namespace CommandTree.Definition

open Text

def opensBlock (raw : String) : Bool :=
  (trim raw.toList).head? != some '#' && (trim raw.toList).getLast? == some '\x7b'

def closesBlock (raw : String) : Bool :=
  trim raw.toList == ['\x7d']

theorem opensBlock_eq_true_iff {raw : String} :
    opensBlock raw = true ↔ ∃ header, Line.read raw = .opening header := by
  rw [opensBlock, Line.read]
  generalize trim raw.toList = text
  unfold Line.ofTrimmed
  split
  · simp
  · simp
  · simp
  next hh _ =>
    have hn : text.head? ≠ some '#' := by
      intro h
      obtain ⟨rest, he⟩ := List.head?_eq_some_iff.mp h
      exact hh rest he
    split
    next hl => simp [hn, hl]
    next hl => simp [hl]

theorem closesBlock_eq_true_iff {raw : String} : closesBlock raw = true ↔ Line.read raw = .close := by
  rw [closesBlock, Line.read]
  generalize trim raw.toList = text
  unfold Line.ofTrimmed
  split
  · simp
  · simp
  · simp
  next hc =>
    have hn : text ≠ ['\x7d'] := hc
    split <;> simp [hn]

theorem closesBlock_eq_false_of_opensBlock {raw : String} (h : opensBlock raw = true) :
    closesBlock raw = false := by
  obtain ⟨header, hl⟩ := opensBlock_eq_true_iff.mp h
  rw [Bool.eq_false_iff, ne_eq, closesBlock_eq_true_iff, hl]
  simp

theorem opensBlock_eq_false_of_closesBlock {raw : String} (h : closesBlock raw = true) :
    opensBlock raw = false := by
  rw [Bool.eq_false_iff]
  intro ho
  simp [closesBlock_eq_false_of_opensBlock ho] at h

structure Nested (lines : List String) : Prop where
  closed : lines.countP closesBlock = lines.countP opensBlock
  opened : ∀ k, (lines.take k).countP closesBlock ≤ (lines.take k).countP opensBlock

variable {raw closer : String} {lines inner rest : List String}

theorem nested_nil : Nested [] where
  closed := rfl
  opened := by simp

theorem nested_cons_iff (ho : opensBlock raw = false) (hc : closesBlock raw = false) :
    Nested (raw :: lines) ↔ Nested lines := by
  constructor
  · intro h
    refine ⟨by simpa [ho, hc] using h.closed, ?_⟩
    intro k
    simpa [ho, hc] using h.opened (k + 1)
  · intro h
    refine ⟨by simpa [ho, hc] using h.closed, ?_⟩
    intro k
    cases k with
    | zero => simp
    | succ k => simpa [ho, hc] using h.opened k

theorem take_block (k : Nat) : (raw :: (inner ++ closer :: rest)).take (inner.length + (k + 1) + 1) =
    raw :: (inner ++ closer :: rest.take k) := by
  rw [List.take_succ_cons, List.take_length_add_append, List.take_succ_cons]

theorem countP_block (ho : opensBlock raw = true) (hc : closesBlock closer = true)
    (inner rest : List String) :
    (raw :: (inner ++ closer :: rest)).countP opensBlock = inner.countP opensBlock + rest.countP opensBlock + 1 ∧
      (raw :: (inner ++ closer :: rest)).countP closesBlock =
        inner.countP closesBlock + rest.countP closesBlock + 1 := by
  have hoc := closesBlock_eq_false_of_opensBlock ho
  have hco := opensBlock_eq_false_of_closesBlock hc
  constructor
  · rw [List.countP_cons_of_pos ho, List.countP_append, List.countP_cons_of_neg (by simp [hco])]
  · rw [List.countP_cons_of_neg (by simp [hoc]), List.countP_append, List.countP_cons_of_pos hc, Nat.add_assoc]

theorem nested_block_append_iff (ho : opensBlock raw = true) (hi : Nested inner)
    (hc : closesBlock closer = true) :
    Nested (raw :: (inner ++ closer :: rest)) ↔ Nested rest := by
  have hclosed := hi.closed
  obtain ⟨hopening, hclosing⟩ := countP_block ho hc inner rest
  constructor
  · intro h
    refine ⟨?_, ?_⟩
    · have hall := h.closed
      omega
    · intro k
      have ht := h.opened (inner.length + (k + 1) + 1)
      obtain ⟨hok, hck⟩ := countP_block ho hc inner (rest.take k)
      rw [take_block, hok, hck] at ht
      omega
  · intro h
    refine ⟨?_, ?_⟩
    · have hrest := h.closed
      omega
    · intro k
      rcases Nat.lt_or_ge (inner.length + 1) k with hk | hk
      · obtain ⟨j, rfl⟩ : ∃ j, k = inner.length + (j + 1) + 1 := ⟨k - inner.length - 2, by omega⟩
        have hrest := h.opened j
        obtain ⟨hok, hck⟩ := countP_block ho hc inner (rest.take j)
        rw [take_block, hok, hck]
        omega
      · cases k with
        | zero => simp
        | succ k =>
            have ht := hi.opened k
            have hoc := closesBlock_eq_false_of_opensBlock ho
            rw [List.take_succ_cons, List.take_append_of_le_length (by omega), List.countP_cons_of_pos ho,
              List.countP_cons_of_neg (by simp [hoc])]
            omega

theorem nested_block (ho : opensBlock raw = true) (hi : Nested inner) (hc : closesBlock closer = true) :
    Nested (raw :: (inner ++ [closer])) :=
  (nested_block_append_iff ho hi hc).mpr nested_nil

theorem Nested.append (h : Nested lines) (hr : Nested rest) : Nested (lines ++ rest) where
  closed := by rw [List.countP_append, List.countP_append, h.closed, hr.closed]
  opened := by
    intro k
    rw [List.take_append, List.countP_append, List.countP_append]
    exact Nat.add_le_add (h.opened k) (hr.opened (k - lines.length))

theorem not_nested_past_close (hi : Nested inner) (hc : closesBlock closer = true) :
    ¬ Nested (inner ++ closer :: rest) := by
  intro h
  have hco := opensBlock_eq_false_of_closesBlock hc
  have hclosed := hi.closed
  have ht := h.opened (inner.length + 1)
  rw [List.take_length_add_append, List.take_succ_cons, List.take_zero, List.countP_append, List.countP_append,
    List.countP_cons_of_pos hc, List.countP_cons_of_neg (by simp [hco])] at ht
  simp only [List.countP_nil] at ht
  omega

theorem eq_of_append_closer {inner' rest' : List String} {closer' : String} (hi : Nested inner) (hi' : Nested inner')
    (hc : closesBlock closer = true) (hc' : closesBlock closer' = true)
    (h : inner ++ closer :: rest = inner' ++ closer' :: rest') :
    inner = inner' ∧ closer = closer' ∧ rest = rest' := by
  rcases List.append_eq_append_iff.mp h with ⟨more, hmore, hrest⟩ | ⟨more, hmore, hrest⟩
  · cases more with
    | nil => simpa [hmore] using hrest
    | cons first more =>
        obtain ⟨rfl, -⟩ := List.cons.inj hrest
        rw [hmore] at hi'
        exact absurd hi' (not_nested_past_close hi hc)
  · cases more with
    | nil => simpa [hmore, eq_comm] using hrest
    | cons first more =>
        obtain ⟨rfl, -⟩ := List.cons.inj hrest
        rw [hmore] at hi
        exact absurd hi (not_nested_past_close hi' hc')

theorem not_nested_inside (ho : opensBlock raw = true) (hi : Nested inner) (k : Nat) :
    ¬ Nested (raw :: inner.take k) := by
  intro h
  have hoc := closesBlock_eq_false_of_opensBlock ho
  have ht := h.closed
  have hopened := hi.opened k
  rw [List.countP_cons_of_pos ho, List.countP_cons_of_neg (by simp [hoc])] at ht
  omega

end CommandTree.Definition
