import CommandTree.Proofs.Definition.Layout
import CommandTree.Proofs.Definition.Renumbering
import CommandTree.Proofs.Definition.Roots

namespace CommandTree.Definition

variable {σ : Type} {r : Registries}

theorem readNesting_of_read {n n' : Nesting σ} {number : Nat} {raw : String}
    (h : (n.read r number raw).value = .ok (.inside n')) (lines : List String) :
    (readNesting r n number (raw :: lines)).value = (readNesting r n' (number + 1) lines).value := by
  simp only [readNesting, Logged.value_bind, h]

theorem numbersOn_add {f : Nat → Nat} {number : Nat} (hf : ∀ i, f (number + i) = f number + i) (k i : Nat) :
    f (number + k + i) = f (number + k) + i := by
  rw [Nat.add_assoc, hf, hf, Nat.add_assoc]

namespace Body

variable {number : Nat} {inner : List String} {c c' : Command σ} {nodes : List (Node σ)}

theorem readNesting_eq (h : Body r number inner c c' nodes) (children : List (Node σ)) (outer : List (OpenBlock σ))
    (rest : List String) :
    (readNesting r ⟨⟨c, children⟩, outer⟩ number (inner ++ rest)).value =
      (readNesting r ⟨⟨c', children ++ nodes⟩, outer⟩ (number + inner.length) rest).value := by
  -- A nested block is read with the blocks around it, so the induction is for every such stack.
  induction h generalizing children outer rest with
  | nil => simp
  | @ignored number raw lines c c' nodes hl _ ih =>
      have hread : (Nesting.read r ⟨⟨c, children⟩, outer⟩ number raw).value = .ok (.inside ⟨⟨c, children⟩, outer⟩) := by
        rw [Nesting.read_value, hl]
      rw [List.cons_append, readNesting_of_read hread, ih, List.length_cons, Nat.add_right_comm]
      rfl
  | @tag number raw text lines c d c' nodes hl ht _ ih =>
      have hread : (Nesting.read r ⟨⟨c, children⟩, outer⟩ number raw).value = .ok (.inside ⟨⟨d, children⟩, outer⟩) := by
        rw [applyLine_eq] at ht
        obtain ⟨e, he, rfl⟩ := exists_of_map_eq_ok ht
        simp only [Nesting.read_value, hl, he]
        rfl
      rw [List.cons_append, readNesting_of_read hread, ih, List.length_cons, Nat.add_right_comm]
      rfl
  | @block number raw closer header inner behind c c' d d' inside nodes hl hd _ hc _ ihinner ihrest =>
      have hopen : (Nesting.read r ⟨⟨c, children⟩, outer⟩ number raw).value =
          .ok (.inside ⟨⟨d, []⟩, ⟨c, children⟩ :: outer⟩) := by
        simp only [Nesting.read_value, hl, hd]
        rfl
      have hclose : (Nesting.read r ⟨⟨d', inside⟩, ⟨c, children⟩ :: outer⟩ (number + 1 + inner.length) closer).value =
          .ok (.inside ⟨⟨c, children ++ [.mk d' inside]⟩, outer⟩) := by
        rw [Nesting.read_value, hc]
        rfl
      have hlength : number + (raw :: (inner ++ closer :: behind)).length =
          number + 1 + inner.length + 1 + behind.length := by
        simp only [List.length_cons, List.length_append]
        omega
      rw [List.cons_append, List.append_assoc, List.cons_append, readNesting_of_read hopen, ihinner, List.nil_append,
        readNesting_of_read hclose, ihrest, hlength, List.append_assoc]
      rfl

theorem readBlock_eq {lines behind : List String} {start : Nat} {parent : Option String} {header closer : String}
    (hl : lines.drop start = header :: (inner ++ closer :: behind))
    (hd : (readHeader r (headerText (Text.trim header.toList)) (start + 1) parent).value = .ok c)
    (hb : Body r (start + 2) inner c c' nodes) (hc : Line.read closer = .close) :
    (readBlock r lines start parent).value = .ok (.mk c' nodes, start + inner.length + 2) := by
  have hclose : (Nesting.read r ⟨⟨c', nodes⟩, []⟩ (start + 2 + inner.length) closer).value =
      .ok (.closed (.mk c' nodes)) := by
    rw [Nesting.read_value, hc]
    rfl
  have hnesting : (readNesting r ⟨⟨c, []⟩, []⟩ (start + 2) (inner ++ closer :: behind)).value =
      .ok (.mk c' nodes, start + 2 + inner.length + 1) := by
    rw [hb.readNesting_eq, List.nil_append]
    simp only [readNesting, Logged.value_bind, hclose, Logged.value_pure]
  have hnext : start + 2 + inner.length + 1 - 1 = start + inner.length + 2 := by omega
  simp only [readBlock, hl, Logged.value_bind, hd, hnesting, Except.map, hnext, Logged.value_pure]

theorem renumber {f : Nat → Nat} (h : Body r number inner c c' nodes) (hf : ∀ i, f (number + i) = f number + i) :
    Body r (f number) inner (c.renumber f) (c'.renumber f) (nodes.map (Node.renumber f)) := by
  induction h with
  | nil => exact .nil
  | @ignored number raw lines c c' nodes hl _ ih =>
      have hnext := ih (numbersOn_add hf 1)
      rw [hf 1] at hnext
      exact .ignored hl hnext
  | @tag number raw text lines c d c' nodes hl ht _ ih =>
      have hnext := ih (numbersOn_add hf 1)
      rw [hf 1] at hnext
      have htag : applyLine r (c.renumber f) text = .ok (d.renumber f) := by
        rw [applyLine_eq] at ht ⊢
        obtain ⟨e, he, rfl⟩ := exists_of_map_eq_ok ht
        rw [he]
        exact congrArg Except.ok (e.on_renumber f c)
      exact .tag hl htag hnext
  | @block number raw closer header inner behind c c' d d' inside nodes hl hd _ hc _ ihinner ihrest =>
      have hinner := ihinner (numbersOn_add hf 1)
      have hrest := ihrest (numbersOn_add (numbersOn_add (numbersOn_add hf 1) inner.length) 1)
      have hbehind : f (number + 1 + inner.length + 1) = f number + 1 + inner.length + 1 := by
        simpa only [Nat.add_assoc] using hf (1 + (inner.length + 1))
      rw [hf 1] at hinner
      rw [hbehind] at hrest
      have hheader : (readHeader r header (f number) (some (c.renumber f).path)).value = .ok (d.renumber f) := by
        have hpath : (c.renumber f).path = c.path := rfl
        rw [readHeader_renumber, hpath, hd]
        rfl
      rw [List.map_cons, Node.renumber_mk]
      exact .block hl hheader hinner hc hrest

end Body

/-- From index `i` to index `j`, the blocks that are read are `nodes`, each from the index behind the one before, and
every line between two of them may be passed over. -/
inductive BlocksRead (r : Registries) (lines : List String) (parent : Option String) (passes : Line → Prop) :
    Nat → Nat → List (Node σ) → Prop
  | nil {i : Nat} : BlocksRead r lines parent passes i i []
  | pass {i j : Nat} {raw : String} {nodes : List (Node σ)} : lines[i]? = some raw → passes (Line.read raw) →
      BlocksRead r lines parent passes (i + 1) j nodes → BlocksRead r lines parent passes i j nodes
  | block {i next j : Nat} {raw : String} {header : List Char} {node : Node σ} {nodes : List (Node σ)} :
      lines[i]? = some raw → Line.read raw = .opening header →
      (readBlock r lines i parent).value = .ok (node, next) → BlocksRead r lines parent passes next j nodes →
      BlocksRead r lines parent passes i j (node :: nodes)

theorem header_eq_of_read {raw : String} {header : List Char} (h : Line.read raw = .opening header) :
    header = headerText (Text.trim raw.toList) := by
  rw [Line.read] at h
  unfold Line.ofTrimmed at h
  split at h
  · simp at h
  · simp at h
  · simp at h
  · split at h
    · exact (Line.opening.inj h).symm
    · simp at h

theorem getElem?_of_drop {lines rest : List String} {i : Nat} {raw : String} (h : lines.drop i = raw :: rest) :
    lines[i]? = some raw ∧ lines.drop (i + 1) = rest := by
  refine ⟨?_, ?_⟩
  · rw [← List.head?_drop, h, List.head?_cons]
  · rw [← List.tail_drop, h, List.tail_cons]

theorem drop_of_getElem? {lines : List String} {i : Nat} {raw : String} (h : lines[i]? = some raw) :
    lines.drop i = raw :: lines.drop (i + 1) := by
  obtain ⟨hi, rfl⟩ := List.getElem?_eq_some_iff.mp h
  exact List.drop_eq_getElem_cons hi

theorem drop_behind_block {lines inner rest : List String} {start : Nat} {raw closer : String}
    (h : lines.drop start = raw :: (inner ++ closer :: rest)) : lines.drop (start + inner.length + 2) = rest := by
  have hsplit : start + inner.length + 2 = start + (raw :: (inner ++ [closer])).length := by
    simp only [List.length_cons, List.length_append, List.length_nil]
    omega
  have hblock : raw :: (inner ++ closer :: rest) = (raw :: (inner ++ [closer])) ++ rest := by simp
  rw [hsplit, ← List.drop_drop, h, hblock, List.drop_left]

section Reading

variable {lines inner : List String} {start : Nat} {parent : Option String} {raw closer : String} {header : List Char}
  {c c' : Command σ} {children nodes : List (Node σ)} {passes : Line → Prop}

theorem Body.readBlock_of_header {behind : List String} (hb : Body r (start + 2) inner c c' children)
    (hl : lines.drop start = raw :: (inner ++ closer :: behind)) (ho : Line.read raw = .opening header)
    (hd : (readHeader r header (start + 1) parent).value = .ok c) (hc : Line.read closer = .close) :
    (readBlock r lines start parent).value = .ok (.mk c' children, start + inner.length + 2) := by
  rw [header_eq_of_read ho] at hd
  exact hb.readBlock_eq hl hd hc

theorem BlocksRead.pass_line {rest : List String} (hl : lines.drop start = raw :: rest) (hp : passes (Line.read raw))
    (h : BlocksRead r lines parent passes (start + 1) (start + 1 + inner.length) nodes) :
    BlocksRead r lines parent passes start (start + (raw :: inner).length) nodes := by
  rw [List.length_cons, Nat.add_comm inner.length, ← Nat.add_assoc]
  exact .pass (getElem?_of_drop hl).1 hp h

theorem BlocksRead.read_block {behind rest : List String} (hl : lines.drop start = raw :: (inner ++ closer :: rest))
    (ho : Line.read raw = .opening header) (hd : (readHeader r header (start + 1) parent).value = .ok c)
    (hb : Body r (start + 2) inner c c' children) (hc : Line.read closer = .close)
    (h : BlocksRead r lines parent passes (start + inner.length + 2) (start + inner.length + 2 + behind.length) nodes) :
    BlocksRead r lines parent passes start (start + (raw :: (inner ++ closer :: behind)).length)
      (.mk c' children :: nodes) := by
  have hlength : start + (raw :: (inner ++ closer :: behind)).length = start + inner.length + 2 + behind.length := by
    simp only [List.length_cons, List.length_append]
    omega
  rw [hlength]
  exact .block (getElem?_of_drop hl).1 ho (hb.readBlock_of_header hl ho hd hc) h

theorem Body.blocksRead {number : Nat} (h : Body r number inner c c' nodes) (hn : number = start + 1)
    {rest : List String} (hl : lines.drop start = inner ++ rest) :
    BlocksRead r lines (some c.path) (fun line => line = .ignored ∨ ∃ text, line = .other text) start
      (start + inner.length) nodes := by
  induction h generalizing start rest with
  | nil => exact .nil
  | ignored hr _ ih => exact .pass_line hl (.inl hr) (ih (congrArg (· + 1) hn) (getElem?_of_drop hl).2)
  | @tag number raw text lines' c d c' nodes hr ht _ ih =>
      have hnext := ih (congrArg (· + 1) hn) (getElem?_of_drop hl).2
      rw [(tagged_of_applyLine ht).path_eq] at hnext
      exact .pass_line hl (.inr ⟨text, hr⟩) hnext
  | @block number raw closer header inner behind c c' d d' children nodes hr hd hb hc _ _ ihrest =>
      subst hn
      rw [List.cons_append, List.append_assoc, List.cons_append] at hl
      have hnumber : start + 1 + 1 + inner.length + 1 = start + inner.length + 2 + 1 := by omega
      exact .read_block hl hr hd hb hc (ihrest hnumber (drop_behind_block hl))

theorem Forest.blocksRead {number : Nat} {roots : List (Node σ)} (h : Forest r number inner roots)
    (hn : number = start + 1) (hl : lines.drop start = inner) :
    ∃ nodes, BlocksRead r lines none (· = .ignored) start (start + inner.length) nodes ∧ roots = nodes.map asRoot := by
  induction h generalizing start with
  | nil => exact ⟨[], .nil, rfl⟩
  | ignored hr _ ih =>
      obtain ⟨nodes, hblocks, rfl⟩ := ih (congrArg (· + 1) hn) (getElem?_of_drop hl).2
      exact ⟨nodes, .pass_line hl hr hblocks, rfl⟩
  | @block number raw closer header inner behind d d' children roots hr hd hb hc _ ih =>
      subst hn
      have hnumber : start + 1 + 1 + inner.length + 1 = start + inner.length + 2 + 1 := by omega
      obtain ⟨nodes, hblocks, rfl⟩ := ih hnumber (drop_behind_block hl)
      exact ⟨.mk d' children :: nodes, .read_block hl hr hd hb hc hblocks, rfl⟩

end Reading

theorem run_of_readNesting {lines : List String} {n : Nesting σ} {number next : Nat} {node : Node σ}
    (h : (readNesting r n number lines).value = .ok (node, next)) (roots : List (Node σ)) :
    number < next ∧ (Reading.run r ⟨roots, some n⟩ number lines).value =
      (Reading.run r ⟨roots ++ [asRoot node], none⟩ next (lines.drop (next - number))).value := by
  induction lines generalizing n number with
  | nil => simp [readNesting] at h
  | cons raw lines ih =>
      simp only [readNesting, Logged.value_bind] at h
      simp only [Reading.run, Reading.read, Logged.value_bind]
      cases hp : (n.read r number raw).value with
      | error cause => simp [hp] at h
      | ok p =>
          simp only [hp] at h ⊢
          cases p with
          | closed closed =>
              obtain ⟨rfl, rfl⟩ : closed = node ∧ number + 1 = next := by simpa using h
              refine ⟨Nat.lt_succ_self number, ?_⟩
              rw [Nat.add_sub_cancel_left]
              rfl
          | inside n' =>
              obtain ⟨hlt, hrun⟩ := ih h
              have hdrop : next - number = next - (number + 1) + 1 := by omega
              refine ⟨by omega, ?_⟩
              rw [hdrop, List.drop_succ_cons, ← hrun]
              rfl

theorem run_of_readBlock {lines : List String} {start next : Nat} {raw : String} {header : List Char} {node : Node σ}
    (hraw : lines[start]? = some raw) (ho : Line.read raw = .opening header)
    (h : (readBlock r lines start none).value = .ok (node, next)) (roots : List (Node σ)) :
    (Reading.run r ⟨roots, none⟩ (start + 1) (lines.drop start)).value =
      (Reading.run r ⟨roots ++ [asRoot node], none⟩ (next + 1) (lines.drop next)).value := by
  have hl := drop_of_getElem? hraw
  simp only [readBlock, hl, Logged.value_bind, ← header_eq_of_read ho] at h
  cases hd : (readHeader (σ := σ) r header (start + 1) none).value with
  | error cause => simp [hd] at h
  | ok c =>
      simp only [hd, Logged.value_bind, Logged.value_pure] at h
      obtain ⟨⟨block, behind⟩, hn, hresult⟩ := exists_of_map_eq_ok h
      obtain ⟨rfl, rfl⟩ : block = node ∧ behind - 1 = next := by simpa using hresult
      obtain ⟨hlt, hrun⟩ := run_of_readNesting hn roots
      have hopen : (Reading.read r ⟨roots, none⟩ (start + 1) raw).value = .ok ⟨roots, some ⟨⟨c, []⟩, []⟩⟩ := by
        simp only [Reading.read_value, ho, hd]
        rfl
      have hdrop : start + 1 + (behind - (start + 2)) = behind - 1 := by omega
      have hnumber : behind - 1 + 1 = behind := by omega
      rw [List.drop_drop, hdrop] at hrun
      rw [hl, hnumber, ← hrun]
      simp only [Reading.run, Logged.value_bind, hopen]

theorem BlocksRead.run_eq {lines : List String} {start stop : Nat} {nodes : List (Node σ)}
    (h : BlocksRead r lines none (· = .ignored) start stop nodes) (roots : List (Node σ)) :
    (Reading.run r ⟨roots, none⟩ (start + 1) (lines.drop start)).value =
      (Reading.run r ⟨roots ++ nodes.map asRoot, none⟩ (stop + 1) (lines.drop stop)).value := by
  induction h generalizing roots with
  | nil => simp
  | @pass i j raw nodes hraw hr _ ih =>
      have hpass : (Reading.read r ⟨roots, none⟩ (i + 1) raw).value = .ok ⟨roots, none⟩ := by
        rw [Reading.read_value, hr]
      rw [drop_of_getElem? hraw, ← ih]
      simp only [Reading.run, Logged.value_bind, hpass]
  | @block i next j raw header node nodes hraw hr hb _ ih =>
      rw [run_of_readBlock hraw hr hb, ih, List.map_cons, List.append_assoc, List.singleton_append]

theorem readLines_eq_ok_iff {lines : List String} {roots : List (Node σ)} :
    (readLines r lines).value = .ok roots ↔
      ∃ nodes, BlocksRead r lines none (· = .ignored) 0 lines.length nodes ∧ roots = nodes.map asRoot := by
  constructor
  · intro h
    have hall : lines.drop 0 = lines := rfl
    have hblocks := (forest_of_readLines h).blocksRead rfl hall
    rwa [Nat.zero_add] at hblocks
  · rintro ⟨nodes, h, rfl⟩
    have hrun := h.run_eq []
    rw [List.drop_length, List.drop_zero, Nat.zero_add] at hrun
    rw [readLines, hrun]
    rfl

theorem children_of_readBlock {lines : List String} {start next : Nat} {parent : Option String} {node : Node σ}
    (h : (readBlock r lines start parent).value = .ok (node, next)) :
    BlocksRead r lines (some node.command.path) (fun line => line = .ignored ∨ ∃ text, line = .other text) (start + 1)
      (next - 1) node.children := by
  obtain ⟨raw, inner, closer, rest, c, c', children, hl, -, hb, -, rfl, rfl⟩ := exists_body_of_readBlock h
  have hblocks := hb.blocksRead rfl (getElem?_of_drop hl).2
  have hstop : start + inner.length + 2 - 1 = start + 1 + inner.length := by omega
  rw [hstop, Node.command_mk, Node.children_mk, hb.path_eq]
  exact hblocks

end CommandTree.Definition
