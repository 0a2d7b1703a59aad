import CommandTree.Node

namespace CommandTree

variable {σ : Type}

namespace Node

@[elab_as_elim, induction_eliminator]
theorem induct {motive : Node σ → Prop}
    (mk : ∀ c children, (∀ n ∈ children, motive n) → motive (.mk c children)) :
    ∀ node, motive node
  | .mk c children => mk c children fun n _ => induct mk n

@[simp] theorem command_mk (c : Command σ) (children : List (Node σ)) : (mk c children).command = c := rfl

@[simp] theorem children_mk (c : Command σ) (children : List (Node σ)) :
    (mk c children).children = children := rfl

theorem self_mem_preorder (node : Node σ) : node ∈ node.preorder := by
  cases node with
  | mk c children => simp [preorder]

theorem preorderAll_eq (nodes : List (Node σ)) : preorderAll nodes = nodes.flatMap preorder := by
  induction nodes with
  | nil => rfl
  | cons node nodes ih => rw [preorderAll, ih, List.flatMap_cons]

theorem mem_preorderAll {n : Node σ} {nodes : List (Node σ)} :
    n ∈ preorderAll nodes ↔ ∃ root ∈ nodes, n ∈ root.preorder := by
  rw [preorderAll_eq, List.mem_flatMap]

theorem mem_preorderAll_of_mem {n : Node σ} {nodes : List (Node σ)} (h : n ∈ nodes) :
    n ∈ preorderAll nodes :=
  mem_preorderAll.mpr ⟨n, h, n.self_mem_preorder⟩

theorem mem_preorderAll_cons {n : Node σ} {c : Command σ} {children nodes : List (Node σ)} :
    n ∈ preorderAll (mk c children :: nodes) ↔
      n = mk c children ∨ n ∈ preorderAll children ∨ n ∈ preorderAll nodes := by
  rw [preorderAll, preorder, List.cons_append, List.mem_cons, List.mem_append]

theorem mem_preorder_of_mem_children {node child n : Node σ} (hc : child ∈ node.children)
    (hn : n ∈ child.preorder) : n ∈ node.preorder := by
  cases node with
  | mk c children =>
      rw [preorder]
      exact List.mem_cons_of_mem _ (mem_preorderAll.mpr ⟨child, hc, hn⟩)

theorem preorder_trans {node n m : Node σ} (hn : n ∈ node.preorder) (hm : m ∈ preorderAll n.children) :
    m ∈ node.preorder := by
  induction node with
  | mk c children ih =>
      rw [preorder] at hn ⊢
      rcases List.mem_cons.mp hn with rfl | hn
      · exact List.mem_cons_of_mem _ hm
      · obtain ⟨child, hc, hn⟩ := mem_preorderAll.mp hn
        exact List.mem_cons_of_mem _ (mem_preorderAll.mpr ⟨child, hc, ih child hc hn⟩)

mutual

def mapCommands (f : Command σ → Command σ) : Node σ → Node σ
  | mk c children => mk (f c) (mapCommandsAll f children)

def mapCommandsAll (f : Command σ → Command σ) : List (Node σ) → List (Node σ)
  | [] => []
  | node :: nodes => node.mapCommands f :: mapCommandsAll f nodes

end

theorem mapCommandsAll_eq_map (f : Command σ → Command σ) (nodes : List (Node σ)) :
    mapCommandsAll f nodes = nodes.map (·.mapCommands f) := by
  induction nodes with
  | nil => rfl
  | cons node nodes ih => rw [mapCommandsAll, ih, List.map_cons]

theorem preorderAll_trans {nodes : List (Node σ)} {n m : Node σ} (hn : n ∈ preorderAll nodes)
    (hm : m ∈ preorderAll n.children) : m ∈ preorderAll nodes := by
  obtain ⟨root, hr, hn⟩ := mem_preorderAll.mp hn
  exact mem_preorderAll.mpr ⟨root, hr, preorder_trans hn hm⟩

end Node

namespace Command

def bare (name path : String) : Command σ :=
  ⟨name, [], path, [], [], [], [], none, .everyone, none, none, false, false, false, 0, none⟩

theorem isPermitted_eq_true_iff {c : Command σ} {actor : Actor} :
    c.isPermitted actor = true ↔
      ∀ permission, c.permission = some permission → actor.holds permission = true := by
  rw [isPermitted]
  cases c.permission <;> simp

theorem hasAlias_eq_true_iff {c : Command σ} {token : String} :
    c.hasAlias token = true ↔ ∃ a ∈ c.aliases, Text.sameIgnoringCase a token = true := by
  simp [hasAlias, List.any_eq_true]

end Command

end CommandTree
