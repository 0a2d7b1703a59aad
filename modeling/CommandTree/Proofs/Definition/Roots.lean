import Mathlib.Data.List.Chain
import CommandTree.Proofs.Definition.Derivation
import CommandTree.Proofs.Definition.Header
import CommandTree.Proofs.Tree

namespace CommandTree

variable {σ : Type} {r : Registries}

inductive Node.Declared (r : Registries) : Option String → Node σ → Prop
  | mk {parent : Option String} {c : Command σ} {children : List (Node σ)} : c.WellFormed r →
      c.path = Definition.pathBelow parent c.name → c.isRoot = parent.isNone →
      (∀ child ∈ children, Declared r (some c.path) child) → Declared r parent (.mk c children)

inductive Node.Way : Node σ → List (Node σ) → Node σ → Prop
  | here {node : Node σ} : Way node [node] node
  | step {node child n : Node σ} {path : List (Node σ)} : child ∈ node.children → Way child path n →
      Way node (node :: path) n

namespace Definition

structure Underway (r : Registries) (parent : Option String) (c : Command σ) : Prop where
  wellFormed : c.WellFormed r
  path : c.path = pathBelow parent c.name
  isRoot : c.isRoot = false

theorem underway_of_readHeader {header : List Char} {number : Nat} {parent : Option String} {c : Command σ}
    (h : (readHeader r header number parent).value = .ok c) : Underway r parent c := by
  obtain ⟨name, alternatives, s, rfl, hn, hs⟩ := exists_signature_of_readHeader h
  exact ⟨declareCommand_wellFormed hn hs parent number, rfl, rfl⟩

theorem Tagged.underway {parent : Option String} {c d : Command σ} (h : Tagged r c d)
    (hc : Underway r parent c) : Underway r parent d where
  wellFormed := h.wellFormed hc.wellFormed
  path := by
    rw [h.same]
    exact hc.path
  isRoot := by
    rw [h.same]
    exact hc.isRoot

theorem Body.path_eq {number : Nat} {lines : List String} {c c' : Command σ} {nodes : List (Node σ)}
    (h : Body r number lines c c' nodes) : c'.path = c.path := by
  induction h with
  | nil => rfl
  | ignored _ _ ih => exact ih
  | tag _ ht _ ih => rw [ih, (tagged_of_applyLine ht).path_eq]
  | block _ _ _ _ _ _ ihrest => exact ihrest

theorem Body.declared {number : Nat} {lines : List String} {c c' : Command σ} {nodes : List (Node σ)}
    (h : Body r number lines c c' nodes) {parent : Option String} (hc : Underway r parent c) :
    Underway r parent c' ∧ ∀ n ∈ nodes, n.Declared r (some c.path) := by
  induction h generalizing parent with
  | nil => exact ⟨hc, by simp⟩
  | ignored _ _ ih => exact ih hc
  | tag _ ht _ ih =>
      have ht := tagged_of_applyLine ht
      rw [← ht.path_eq]
      exact ih (ht.underway hc)
  | block _ hd hb _ _ ihinner ihrest =>
      obtain ⟨hd', hchildren⟩ := ihinner (underway_of_readHeader hd)
      obtain ⟨hc', hnodes⟩ := ihrest hc
      refine ⟨hc', List.forall_mem_cons.mpr ⟨?_, hnodes⟩⟩
      refine .mk hd'.wellFormed hd'.path hd'.isRoot ?_
      rwa [hb.path_eq]

theorem asRoot_declared {c : Command σ} {children : List (Node σ)} (hc : Underway r none c)
    (hchildren : ∀ child ∈ children, child.Declared r (some c.path)) :
    (asRoot (.mk c children)).Declared r none := by
  have hw := hc.wellFormed
  refine .mk ?_ hc.path rfl hchildren
  exact ⟨hw.named, hw.unbound, hw.argumentPositions, hw.flagPositions, hw.variadicLast, hw.arguments, hw.flags,
    hw.providers⟩

theorem Forest.declared {number : Nat} {lines : List String} {nodes : List (Node σ)}
    (h : Forest r number lines nodes) : ∀ n ∈ nodes, n.Declared r none := by
  induction h with
  | nil => simp
  | ignored _ _ ih => exact ih
  | block _ hd hb _ _ ih =>
      obtain ⟨hd', hchildren⟩ := hb.declared (underway_of_readHeader hd)
      rw [← hb.path_eq] at hchildren
      exact List.forall_mem_cons.mpr ⟨asRoot_declared hd' hchildren, ih⟩

end Definition

namespace Node.Declared

variable {parent : Option String} {node : Node σ}

theorem child (h : node.Declared r parent) {child : Node σ} (hc : child ∈ node.children) :
    child.Declared r (some node.command.path) := by
  cases h with
  | mk _ _ _ hchildren => exact hchildren child hc

theorem wellFormed (h : node.Declared r parent) : node.command.WellFormed r := by
  cases h with
  | mk hw => exact hw

theorem path_eq (h : node.Declared r parent) :
    node.command.path = Definition.pathBelow parent node.command.name := by
  cases h with
  | mk _ hp => exact hp

theorem isRoot_eq (h : node.Declared r parent) : node.command.isRoot = parent.isNone := by
  cases h with
  | mk _ _ hr => exact hr

end Node.Declared

theorem Node.exists_way {node n : Node σ} (h : n ∈ node.preorder) : ∃ path, node.Way path n := by
  induction node with
  | mk c children ih =>
      rw [Node.preorder] at h
      rcases List.mem_cons.mp h with rfl | h
      · exact ⟨_, .here⟩
      · obtain ⟨child, hc, hn⟩ := Node.mem_preorderAll.mp h
        obtain ⟨path, hw⟩ := ih child hc hn
        exact ⟨_, .step hc hw⟩

theorem Definition.intercalate_pathBelow (parent : Option String) (name : String) (names : List String) :
    " ".intercalate (pathBelow parent name :: names) = " ".intercalate (parent.toList ++ name :: names) := by
  cases parent with
  | none => rfl
  | some path => simp [pathBelow]

namespace Node.Way

variable {node n : Node σ} {path : List (Node σ)} {parent : Option String}

theorem declared (h : node.Way path n) (hd : node.Declared r parent) : ∃ above, n.Declared r above := by
  induction h generalizing parent with
  | here => exact ⟨parent, hd⟩
  | step hc _ ih => exact ih (hd.child hc)

theorem eq_or_declared_below (h : node.Way path n) (hd : node.Declared r parent) :
    n = node ∨ ∃ above, n.Declared r (some above) := by
  induction h generalizing parent with
  | here => exact .inl rfl
  | step hc _ ih =>
      rcases ih (hd.child hc) with rfl | hn
      · exact .inr ⟨_, hd.child hc⟩
      · exact .inr hn

theorem path_eq (h : node.Way path n) (hd : node.Declared r parent) :
    n.command.path = " ".intercalate (parent.toList ++ path.map (·.command.name)) := by
  induction h generalizing parent with
  | here =>
      rw [List.map_singleton, ← Definition.intercalate_pathBelow, hd.path_eq, String.intercalate_singleton]
  | step hc _ ih =>
      have hn := ih (hd.child hc)
      rw [hd.path_eq] at hn
      rw [List.map_cons, ← Definition.intercalate_pathBelow]
      exact hn

end Node.Way

namespace Definition

theorem forest_of_readText {source : String} {roots : List (Node σ)}
    (h : (readText r source).value = .ok roots) : ∃ lines, Forest r 1 lines roots :=
  ⟨_, forest_of_readLines h⟩

theorem Forest.isRoot_eq_true_iff {number : Nat} {lines : List String} {roots : List (Node σ)}
    (h : Forest r number lines roots) {n : Node σ} (hn : n ∈ Node.preorderAll roots) :
    n.command.isRoot = true ↔ n ∈ roots := by
  obtain ⟨root, hr, hp⟩ := Node.mem_preorderAll.mp hn
  obtain ⟨path, hw⟩ := Node.exists_way hp
  constructor
  · intro hi
    rcases hw.eq_or_declared_below (h.declared root hr) with rfl | ⟨above, hb⟩
    · exact hr
    · simp [hb.isRoot_eq] at hi
  · intro hm
    exact (h.declared n hm).isRoot_eq

theorem Forest.declared_of_mem {number : Nat} {lines : List String} {roots : List (Node σ)}
    (h : Forest r number lines roots) {n : Node σ} (hn : n ∈ Node.preorderAll roots) :
    ∃ parent, n.Declared r parent := by
  obtain ⟨root, hr, hp⟩ := Node.mem_preorderAll.mp hn
  obtain ⟨path, hw⟩ := Node.exists_way hp
  exact hw.declared (h.declared root hr)

theorem wellFormed_of_readBlock {lines : List String} {start next : Nat} {parent : Option String} {block : Node σ}
    (h : (readBlock r lines start parent).value = .ok (block, next)) {n : Node σ} (hn : n ∈ block.preorder) :
    n.command.WellFormed r := by
  obtain ⟨header, inner, closer, rest, c, c', children, -, hc, hb, -, rfl, -⟩ := exists_body_of_readBlock h
  obtain ⟨hc', hchildren⟩ := hb.declared (underway_of_readHeader hc)
  rw [Node.preorder, List.mem_cons] at hn
  rcases hn with rfl | hn
  · exact hc'.wellFormed
  · obtain ⟨child, hm, hp⟩ := Node.mem_preorderAll.mp hn
    obtain ⟨path, hw⟩ := Node.exists_way hp
    obtain ⟨above, hd⟩ := hw.declared (hchildren child hm)
    exact hd.wellFormed

end Definition

inductive Node.Parsed (r : Registries) (n : Node σ) : Prop
  | definition {lines : List String} {roots : List (Node σ)} :
      (Definition.readLines r lines).value = .ok roots → n ∈ Node.preorderAll roots → n.Parsed r
  | block {lines : List String} {start next : Nat} {parent : Option String} {block : Node σ} :
      (Definition.readBlock r lines start parent).value = .ok (block, next) → n ∈ block.preorder → n.Parsed r

theorem Node.Parsed.wellFormed {n : Node σ} (h : n.Parsed r) : n.command.WellFormed r := by
  cases h with
  | definition h hn =>
      obtain ⟨parent, hd⟩ := (Definition.forest_of_readLines h).declared_of_mem hn
      exact hd.wellFormed
  | block h hn => exact Definition.wellFormed_of_readBlock h hn

namespace Definition

theorem wellFormed_of_readText {source : String} {roots : List (Node σ)}
    (h : (readText r source).value = .ok roots) {n : Node σ} (hn : n ∈ Node.preorderAll roots) :
    n.command.WellFormed r :=
  (Node.Parsed.definition h hn).wellFormed

theorem accepted_definition_wellFormed (r : Registries) (source : String) (roots : List (Node σ))
    (h : (readText r source).value = .ok roots) :
    ∀ n ∈ Node.preorderAll roots, n.command.WellFormed r ∧ (n.command.isRoot = true ↔ n ∈ roots) ∧
      (∃ root ∈ roots, ∃ path, root.Way path n) ∧
      ∀ root ∈ roots, ∀ path, root.Way path n →
        n.command.path = " ".intercalate (path.map (·.command.name)) := by
  obtain ⟨lines, hf⟩ := forest_of_readText h
  intro n hn
  obtain ⟨root, hr, hp⟩ := Node.mem_preorderAll.mp hn
  obtain ⟨path, hw⟩ := Node.exists_way hp
  refine ⟨wellFormed_of_readText h hn, hf.isRoot_eq_true_iff hn, ⟨root, hr, path, hw⟩, ?_⟩
  intro root hr path hw
  exact hw.path_eq (hf.declared root hr)

def withWorld : Registries :=
  ⟨.standard, ⟨[⟨"world", fun actor => .returned (some (.string actor.name)), none⟩]⟩⟩

def warpSource : String :=
  "warp \x7b\n  set,s string:name int:count?(1) --force,-f \x7b\n    context world\n  \x7d\n\x7d"

theorem warp_wellFormed : ∃ roots : List (Node Nat), (readText withWorld warpSource).value = .ok roots ∧
    (Node.preorderAll roots).map (·.command.path) = ["warp", "warp set"] ∧
    ∀ n ∈ Node.preorderAll roots, n.command.WellFormed withWorld ∧
      (n.command.isRoot = true ↔ n ∈ roots) ∧ (∃ root ∈ roots, ∃ path, root.Way path n) ∧
      ∀ root ∈ roots, ∀ path, root.Way path n →
        n.command.path = " ".intercalate (path.map (·.command.name)) := by
  have hread : ((readText (σ := Nat) withWorld warpSource).value.toOption.map
      fun roots => (Node.preorderAll roots).map (·.command.path)) = some ["warp", "warp set"] := by
    decide +kernel
  obtain ⟨roots, h, hpaths⟩ := exists_roots_of_toOption hread
  exact ⟨roots, h, hpaths, accepted_definition_wellFormed withWorld warpSource roots h⟩

end Definition

end CommandTree
