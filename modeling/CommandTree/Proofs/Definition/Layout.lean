import CommandTree.Proofs.Definition.Derivation
import CommandTree.Proofs.Definition.Header
import CommandTree.Proofs.Definition.Nested
import CommandTree.Proofs.Definition.Numbering
import CommandTree.Proofs.Tree

namespace CommandTree.Definition

variable {σ : Type} {r : Registries}

def openingNumbers (number : Nat) (lines : List String) : List Nat :=
  ((lines.zipIdx number).filter (opensBlock ·.1)).map (·.2)

/-- The lines strictly between line `i` and line `j`, the first line being line `number`. -/
def linesBetween (number : Nat) (lines : List String) (i j : Nat) : List String :=
  (lines.drop (i + 1 - number)).take (j - i - 1)

inductive Layout : Nat → List String → List (Node σ) → Prop
  | nil {number : Nat} : Layout number [] []
  | plain {number : Nat} {raw : String} {lines : List String} {nodes : List (Node σ)} :
      opensBlock raw = false → closesBlock raw = false → Layout (number + 1) lines nodes →
      Layout number (raw :: lines) nodes
  | block {number : Nat} {raw closer : String} {inner rest : List String} {c : Command σ}
      {children nodes : List (Node σ)} : opensBlock raw = true → c.line = number →
      Layout (number + 1) inner children → closesBlock closer = true →
      Layout (number + 1 + inner.length + 1) rest nodes →
      Layout number (raw :: (inner ++ closer :: rest)) (.mk c children :: nodes)

theorem line_of_readHeader {header : List Char} {number : Nat} {parent : Option String} {c : Command σ}
    (h : (readHeader r header number parent).value = .ok c) : c.line = number := by
  obtain ⟨name, alternatives, s, rfl, -, -⟩ := exists_signature_of_readHeader h
  rfl

theorem opensBlock_eq_false_of_read {raw : String} {l : Line} (h : Line.read raw = l)
    (hn : ∀ header, l ≠ .opening header) : opensBlock raw = false := by
  rw [Bool.eq_false_iff, ne_eq, opensBlock_eq_true_iff, h]
  rintro ⟨header, he⟩
  exact hn header he

theorem closesBlock_eq_false_of_read {raw : String} {l : Line} (h : Line.read raw = l) (hn : l ≠ .close) :
    closesBlock raw = false := by
  rwa [Bool.eq_false_iff, ne_eq, closesBlock_eq_true_iff, h]

theorem Body.layout {number : Nat} {lines : List String} {c c' : Command σ} {nodes : List (Node σ)}
    (h : Body r number lines c c' nodes) : c'.line = c.line ∧ Layout number lines nodes := by
  induction h with
  | nil => exact ⟨rfl, .nil⟩
  | ignored hl _ ih =>
      exact ⟨ih.1, .plain (opensBlock_eq_false_of_read hl (by simp))
        (closesBlock_eq_false_of_read hl (by simp)) ih.2⟩
  | tag hl ht _ ih =>
      have hline := (tagged_of_applyLine ht).line_eq
      exact ⟨ih.1.trans hline, .plain (opensBlock_eq_false_of_read hl (by simp))
        (closesBlock_eq_false_of_read hl (by simp)) ih.2⟩
  | block hl hd _ hc _ ihinner ihrest =>
      exact ⟨ihrest.1, .block (opensBlock_eq_true_iff.mpr ⟨_, hl⟩) (ihinner.1.trans (line_of_readHeader hd))
        ihinner.2 (closesBlock_eq_true_iff.mpr hc) ihrest.2⟩

theorem Forest.layout {number : Nat} {lines : List String} {nodes : List (Node σ)}
    (h : Forest r number lines nodes) : Layout number lines nodes := by
  induction h with
  | nil => exact .nil
  | ignored hl _ ih =>
      exact .plain (opensBlock_eq_false_of_read hl (by simp)) (closesBlock_eq_false_of_read hl (by simp)) ih
  | block hl hd hb hc _ ih =>
      obtain ⟨hline, hinner⟩ := hb.layout
      exact .block (opensBlock_eq_true_iff.mpr ⟨_, hl⟩) (hline.trans (line_of_readHeader hd)) hinner
        (closesBlock_eq_true_iff.mpr hc) ih

theorem openingNumbers_cons (number : Nat) (raw : String) (lines : List String) :
    openingNumbers number (raw :: lines) =
      if opensBlock raw then number :: openingNumbers (number + 1) lines
      else openingNumbers (number + 1) lines :=
  numbersWhere_cons opensBlock number raw lines

theorem openingNumbers_append (number : Nat) (lines lines' : List String) :
    openingNumbers number (lines ++ lines') =
      openingNumbers number lines ++ openingNumbers (number + lines.length) lines' :=
  numbersWhere_append opensBlock number lines lines'

namespace Layout

variable {number : Nat} {lines : List String} {nodes : List (Node σ)}

theorem nested (h : Layout number lines nodes) : Nested lines := by
  induction h with
  | nil => exact nested_nil
  | plain ho hc _ ih => exact (nested_cons_iff ho hc).mpr ih
  | block ho _ _ hc _ ihinner ihrest => exact (nested_block_append_iff ho ihinner hc).mpr ihrest

theorem lines_eq (h : Layout number lines nodes) :
    (Node.preorderAll nodes).map (·.command.line) = openingNumbers number lines := by
  induction h with
  | nil => rfl
  | plain ho _ _ ih => rw [openingNumbers_cons, ho, ih]; rfl
  | block ho hn _ hc _ ihinner ihrest =>
      rw [openingNumbers_cons, openingNumbers_append, openingNumbers_cons, ho,
        opensBlock_eq_false_of_closesBlock hc, ← ihinner, ← ihrest]
      simp [Node.preorderAll, Node.preorder, Node.command, hn]

theorem line_mem (h : Layout number lines nodes) {n : Node σ} (hn : n ∈ Node.preorderAll nodes) :
    n.command.line ∈ openingNumbers number lines := by
  rw [← h.lines_eq]
  exact List.mem_map_of_mem hn

theorem range (h : Layout number lines nodes) {n : Node σ} (hn : n ∈ Node.preorderAll nodes) :
    number ≤ n.command.line ∧ n.command.line < number + lines.length :=
  range_of_mem_numbersWhere (h.line_mem hn)

theorem eq_of_line_eq (h : Layout number lines nodes) {n m : Node σ} (hn : n ∈ Node.preorderAll nodes)
    (hm : m ∈ Node.preorderAll nodes) (he : n.command.line = m.command.line) : n = m := by
  have hd : ((Node.preorderAll nodes).map (·.command.line)).Nodup := by
    rw [h.lines_eq]
    exact nodup_numbersWhere opensBlock number lines
  exact List.inj_on_of_nodup_map hd hn hm he

theorem exists_block (h : Layout number lines nodes) {n : Node σ} (hn : n ∈ Node.preorderAll nodes) :
    ∃ before raw inner closer after, lines = before ++ raw :: (inner ++ closer :: after) ∧
      n.command.line = number + before.length ∧ Layout (n.command.line + 1) inner n.children ∧
      closesBlock closer = true := by
  induction h with
  | nil => simp [Node.preorderAll] at hn
  | @plain number raw lines nodes _ _ _ ih =>
      obtain ⟨before, raw', inner, closer, after, rfl, hl, hi, hc⟩ := ih hn
      refine ⟨raw :: before, raw', inner, closer, after, rfl, ?_, hi, hc⟩
      rw [List.length_cons]
      omega
  | @block number raw closer inner rest c children nodes _ hl hi hc _ ihinner ihrest =>
      rcases Node.mem_preorderAll_cons.mp hn with rfl | hn | hn
      · refine ⟨[], raw, inner, closer, rest, rfl, hl, ?_, hc⟩
        rw [← hl] at hi
        exact hi
      · obtain ⟨before, raw', inner', closer', after, rfl, hl', hi', hc'⟩ := ihinner hn
        refine ⟨raw :: before, raw', inner', closer', after ++ closer :: rest, by simp, ?_, hi', hc'⟩
        rw [List.length_cons]
        omega
      · obtain ⟨before, raw', inner', closer', after, rfl, hl', hi', hc'⟩ := ihrest hn
        refine ⟨raw :: (inner ++ closer :: before), raw', inner', closer', after, by simp, ?_, hi', hc'⟩
        simp only [List.length_cons, List.length_append]
        omega

theorem mem_iff_nested (h : Layout number lines nodes) {n : Node σ} (hn : n ∈ Node.preorderAll nodes) :
    n ∈ nodes ↔ Nested (lines.take (n.command.line - number)) := by
  -- Before a line inside the first block its opening line is still open; behind the block nesting starts afresh.
  induction h with
  | nil => simp [Node.preorderAll] at hn
  | @plain number raw lines nodes ho hc h ih =>
      have hr := h.range hn
      obtain ⟨k, hk⟩ : ∃ k, n.command.line = number + 1 + k := ⟨n.command.line - (number + 1), by omega⟩
      have hk' : n.command.line - number = k + 1 := by omega
      rw [ih hn, hk', hk, List.take_succ_cons, nested_cons_iff ho hc, Nat.add_sub_cancel_left]
  | @block number raw closer inner rest c children nodes ho hl hi hc hr ihinner ihrest =>
      have hhead : n = .mk c children → n.command.line = number := by
        rintro rfl
        exact hl
      have hrest : n ∈ nodes → number + 1 + inner.length + 1 ≤ n.command.line := by
        intro hm
        exact (hr.range (Node.mem_preorderAll_of_mem hm)).1
      rw [List.mem_cons]
      rcases Node.mem_preorderAll_cons.mp hn with he | hn | hn
      · rw [hhead he, Nat.sub_self, List.take_zero]
        exact iff_of_true (.inl he) nested_nil
      · have hn := hi.range hn
        obtain ⟨k, hk⟩ : ∃ k, n.command.line - number = k + 1 := ⟨n.command.line - number - 1, by omega⟩
        rw [hk, List.take_succ_cons, List.take_append_of_le_length (by omega)]
        refine iff_of_false ?_ (not_nested_inside ho hi.nested k)
        rintro (he | hm)
        · have := hhead he
          omega
        · have := hrest hm
          omega
      · have hrange := hr.range hn
        obtain ⟨k, hk⟩ : ∃ k, n.command.line = number + 1 + inner.length + 1 + k :=
          ⟨n.command.line - (number + 1 + inner.length + 1), by omega⟩
        have hne : n ≠ .mk c children := by
          intro he
          have := hhead he
          omega
        have hk' : n.command.line - number = inner.length + (k + 1) + 1 := by omega
        rw [or_iff_right hne, ihrest hn, hk', take_block, nested_block_append_iff ho hi.nested hc, hk,
          Nat.add_sub_cancel_left]

theorem mem_block_of_line_mem {before inner after : List String} {raw closer : String} {line block : Nat}
    (hl : block = number + before.length) (hc : closesBlock closer = true)
    (hm : line ∈ openingNumbers number (before ++ raw :: (inner ++ closer :: after))) (hlt : block < line)
    (hle : line - block - 1 ≤ inner.length) : line ∈ openingNumbers (block + 1) inner := by
  have hco := opensBlock_eq_false_of_closesBlock hc
  rw [openingNumbers_append, ← hl, List.mem_append] at hm
  rcases hm with hm | hm
  · have := range_of_mem_numbersWhere hm
    omega
  · have hm : line ∈ openingNumbers (block + 1) (inner ++ closer :: after) := by
      rw [openingNumbers_cons] at hm
      split at hm
      · rcases List.mem_cons.mp hm with he | hm
        · omega
        · exact hm
      · exact hm
    rw [openingNumbers_append, openingNumbers_cons, hco, List.mem_append] at hm
    rcases hm with hm | hm
    · exact hm
    · have := range_of_mem_numbersWhere hm
      omega

theorem mem_children_iff_nested (h : Layout number lines nodes) {n m : Node σ}
    (hn : n ∈ Node.preorderAll nodes) (hm : m ∈ Node.preorderAll nodes) :
    m ∈ n.children ↔ n.command.line < m.command.line ∧
      Nested (linesBetween number lines n.command.line m.command.line) := by
  have hline := h.line_mem hm
  have hsame : ∀ k ∈ Node.preorderAll n.children, k.command.line = m.command.line → k = m :=
    fun k hk => h.eq_of_line_eq (Node.preorderAll_trans hn hk) hm
  obtain ⟨before, raw, inner, closer, after, rfl, hl, hi, hc⟩ := h.exists_block hn
  have hdrop : (before ++ raw :: (inner ++ closer :: after)).drop (n.command.line + 1 - number) =
      inner ++ closer :: after := by
    rw [show n.command.line + 1 - number = before.length + 1 by omega, List.drop_length_add_append]
    rfl
  rw [linesBetween, hdrop]
  constructor
  · intro hmem
    have hmem' := Node.mem_preorderAll_of_mem hmem
    have hr := hi.range hmem'
    refine ⟨by omega, ?_⟩
    rw [List.take_append_of_le_length (by omega), Nat.sub_sub]
    exact (hi.mem_iff_nested hmem').mp hmem
  · rintro ⟨hlt, hnest⟩
    -- Had the block ended before the other line, its closing line would stand among the lines between.
    rcases Nat.lt_or_ge inner.length (m.command.line - n.command.line - 1) with hk | hk
    · obtain ⟨j, hj⟩ : ∃ j, m.command.line - n.command.line - 1 = inner.length + (j + 1) :=
        ⟨m.command.line - n.command.line - 1 - inner.length - 1, by omega⟩
      rw [hj, List.take_length_add_append, List.take_succ_cons] at hnest
      exact absurd hnest (not_nested_past_close hi.nested hc)
    · have hmem := mem_block_of_line_mem hl hc hline hlt hk
      rw [← hi.lines_eq] at hmem
      obtain ⟨k, hk', he⟩ := List.mem_map.mp hmem
      obtain rfl := hsame k hk' he
      rw [List.take_append_of_le_length hk, Nat.sub_sub] at hnest
      exact (hi.mem_iff_nested hk').mpr hnest

end Layout

theorem block_of_readBlock {lines : List String} {start : Nat} {parent : Option String} {node : Node σ}
    {next : Nat} (h : (readBlock r lines start parent).value = .ok (node, next)) :
    start < next ∧ next ≤ lines.length ∧
      (∃ closer, lines[next - 1]? = some closer ∧ closesBlock closer = true) ∧
      Nested (linesBetween 0 lines start (next - 1)) := by
  obtain ⟨header, inner, closer, rest, c, c', children, hl, -, hb, hc, rfl, rfl⟩ := exists_body_of_readBlock h
  have hlen := congrArg List.length hl
  simp only [List.length_drop, List.length_cons, List.length_append] at hlen
  refine ⟨by omega, by omega, ⟨closer, ?_, closesBlock_eq_true_iff.mpr hc⟩, ?_⟩
  · calc
      lines[start + inner.length + 2 - 1]? = (lines.drop start)[inner.length + 1]? := by
        rw [List.getElem?_drop]
        congr 1
      _ = some closer := by simp [hl]
  · have hdrop : lines.drop (start + 1) = inner ++ closer :: rest := by
      rw [← List.drop_drop, hl, List.drop_one, List.tail_cons]
    have htake : start + inner.length + 2 - 1 - start - 1 = inner.length := by omega
    rw [linesBetween, Nat.sub_zero, hdrop, htake, List.take_left]
    exact hb.layout.2.nested

theorem blocks_correspond_to_lines (r : Registries) (lines : List String) :
    (∀ roots : List (Node σ), (readLines r lines).value = .ok roots →
      (Node.preorderAll roots).map (·.command.line) = openingNumbers 1 lines ∧ Nested lines ∧
      ∀ n ∈ Node.preorderAll roots, ∀ m ∈ Node.preorderAll roots,
        (m ∈ n.children ↔ n.command.line < m.command.line ∧
          Nested (linesBetween 1 lines n.command.line m.command.line))) ∧
    ∀ start parent, (∃ e, (readBlock (σ := σ) r lines start parent).value = .error e) ∨
      ∃ (node : Node σ) (next : Nat), (readBlock r lines start parent).value = .ok (node, next) ∧
        start < next ∧ next ≤ lines.length ∧
        (∃ closer, lines[next - 1]? = some closer ∧ closesBlock closer = true) ∧
        Nested (linesBetween 0 lines start (next - 1)) := by
  refine ⟨?_, ?_⟩
  · intro roots h
    have hl := (forest_of_readLines h).layout
    refine ⟨hl.lines_eq, hl.nested, ?_⟩
    intro n hn m hm
    exact hl.mem_children_iff_nested hn hm
  · intro start parent
    cases h : (readBlock (σ := σ) r lines start parent).value with
    | error e => exact .inl ⟨e, rfl⟩
    | ok result => exact .inr ⟨result.1, result.2, rfl, block_of_readBlock h⟩

def bankLines : List String :=
  ["bank \x7b", "  # accounts \x7b", "  put \x7b", "    hook put", "  \x7d", "  take \x7b", "  \x7d", "\x7d"]

theorem bank_corresponds : ∃ roots : List (Node Nat),
    (readLines ⟨.standard, .empty⟩ bankLines).value = .ok roots ∧
      (Node.preorderAll roots).map (·.command.line) = [1, 3, 6] ∧
      (Node.preorderAll roots).map (·.command.line) = openingNumbers 1 bankLines ∧ Nested bankLines ∧
      ∀ n ∈ Node.preorderAll roots, ∀ m ∈ Node.preorderAll roots,
        (m ∈ n.children ↔ n.command.line < m.command.line ∧
          Nested (linesBetween 1 bankLines n.command.line m.command.line)) := by
  have hread : ((readLines (σ := Nat) ⟨.standard, .empty⟩ bankLines).value.toOption.map
      fun roots => (Node.preorderAll roots).map (·.command.line)) = some [1, 3, 6] := by
    decide +kernel
  obtain ⟨roots, h, hlines⟩ := exists_roots_of_toOption hread
  exact ⟨roots, h, hlines, (blocks_correspond_to_lines ⟨.standard, .empty⟩ bankLines).1 roots h⟩

end CommandTree.Definition
