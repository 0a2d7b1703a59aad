import Mathlib.Data.List.Forall2
import CommandTree.Binding
import CommandTree.Proofs.Tree

namespace CommandTree

variable {σ : Type}

variable {tables : List (HookTable σ)}

structure Command.BoundFrom (tables : List (HookTable σ)) (c d : Command σ) : Prop where
  same : d = { c with handler := d.handler }
  fits : ∀ h, d.handler = some h → c.handler = some h ∨
    (h.arity = c.expectedArity ∧ c.hook.bind (HookTable.firstOf tables) = some h)

namespace Command.BoundFrom

variable {c d : Command σ} {handler : Handler σ}

theorem refl (tables : List (HookTable σ)) (c : Command σ) : BoundFrom tables c c :=
  ⟨rfl, fun _ hh => .inl hh⟩

theorem of_handler (h : BoundFrom tables c d) (hc : c.handler = none) (hd : d.handler = some handler) :
    handler.arity = d.expectedArity ∧ d.hook.bind (HookTable.firstOf tables) = some handler := by
  rcases h.fits handler hd with hh | hb
  · simp [hc] at hh
  · rw [h.same]
    exact hb

end Command.BoundFrom

theorem Command.bind_boundFrom (tables : List (HookTable σ)) (c : Command σ) :
    c.BoundFrom tables (c.bind tables).value.result := by
  rw [Command.bind]
  split
  · exact .refl tables c
  next hook hh =>
    split
    · exact .refl tables c
    next handler hp =>
      split
      next ha =>
        refine ⟨rfl, ?_⟩
        intro h he
        obtain rfl : handler = h := by simpa using he
        exact .inr ⟨ha, by rw [hh]; exact hp⟩
      · exact .refl tables c

namespace Node

def AllBoundFrom (tables : List (HookTable σ)) (nodes bound : List (Node σ)) : Prop :=
  ∀ n ∈ preorderAll bound, ∃ m ∈ preorderAll nodes, m.command.BoundFrom tables n.command

inductive Corresponds (R : Command σ → Command σ → Prop) : Node σ → Node σ → Prop
  | mk {c d : Command σ} {cs ds : List (Node σ)} : R c d → List.Forall₂ (Corresponds R) cs ds →
      Corresponds R (.mk c cs) (.mk d ds)

variable {R : Command σ → Command σ → Prop}

theorem corresponds_refl (hR : ∀ c, R c c) (node : Node σ) : Corresponds R node node := by
  induction node with
  | mk c children ih => exact .mk (hR c) (List.forall₂_same.mpr ih)

theorem forall₂_corresponds_refl (hR : ∀ c, R c c) (nodes : List (Node σ)) :
    List.Forall₂ (Corresponds R) nodes nodes :=
  List.forall₂_same.mpr fun node _ => corresponds_refl hR node

def Yields (R : Command σ → Command σ → Prop) (node other : Node σ) : Prop :=
  ∀ n ∈ other.preorder, ∃ m ∈ node.preorder, R m.command n.command

theorem exists_of_mem_preorderAll {nodes others : List (Node σ)} (h : List.Forall₂ (Yields R) nodes others) :
    ∀ n ∈ preorderAll others, ∃ m ∈ preorderAll nodes, R m.command n.command := by
  induction h with
  | nil => simp [preorderAll]
  | cons hxy _ ih =>
      intro n hn
      rw [preorderAll] at hn
      rcases List.mem_append.mp hn with hn | hn
      · obtain ⟨m, hm, hR⟩ := hxy n hn
        exact ⟨m, List.mem_append_left _ hm, hR⟩
      · obtain ⟨m, hm, hR⟩ := ih n hn
        exact ⟨m, List.mem_append_right _ hm, hR⟩

theorem Corresponds.yields {node other : Node σ} (h : Corresponds R node other) : Yields R node other := by
  induction node generalizing other with
  | mk c cs ih =>
      cases h with
      | @mk _ d _ ds hR hc =>
          have hs : List.Forall₂ (Yields R) cs ds :=
            ((List.forall₂_and_left cs ds).mpr ⟨ih, hc⟩).imp fun x y hxy => hxy.1 hxy.2
          intro n hn
          rw [preorder] at hn
          rcases List.mem_cons.mp hn with rfl | hn
          · exact ⟨.mk c cs, self_mem_preorder _, hR⟩
          · obtain ⟨m, hm, hR⟩ := exists_of_mem_preorderAll hs n hn
            exact ⟨m, List.mem_cons_of_mem _ hm, hR⟩

mutual

theorem bind_corresponds (hrefl : ∀ c, R c c) (hbind : ∀ c : Command σ, R c (c.bind tables).value.result) :
    ∀ node : Node σ, Corresponds R node (node.bind tables).value.result
  | mk c children => by
      rw [Node.bind, Logged.value_bind]
      have hc := hbind c
      -- An error keeps what lies below or behind as it was.
      cases (c.bind tables).value.error with
      | some error => exact .mk hc (forall₂_corresponds_refl hrefl children)
      | none => exact .mk hc (bindAll_corresponds hrefl hbind children)

theorem bindAll_corresponds (hrefl : ∀ c, R c c) (hbind : ∀ c : Command σ, R c (c.bind tables).value.result) :
    ∀ nodes : List (Node σ), List.Forall₂ (Corresponds R) nodes (bindAll tables nodes).value.result
  | [] => .nil
  | node :: nodes => by
      rw [Node.bindAll, Logged.value_bind]
      have hn := bind_corresponds hrefl hbind node
      cases (node.bind tables).value.error with
      | some error => exact .cons hn (forall₂_corresponds_refl hrefl nodes)
      | none => exact .cons hn (bindAll_corresponds hrefl hbind nodes)

end

theorem bindAll_allBoundFrom (tables : List (HookTable σ)) (nodes : List (Node σ)) :
    AllBoundFrom tables nodes (bindAll tables nodes).value.result := by
  have h := bindAll_corresponds (Command.BoundFrom.refl tables) (Command.bind_boundFrom tables) nodes
  exact exists_of_mem_preorderAll (h.imp fun _ _ hxy => hxy.yields)

end Node

namespace Command

def withHandler (tables : List (HookTable σ)) (c : Command σ) : Command σ :=
  { c with handler := (c.hook.bind (HookTable.firstOf tables)).or c.handler }

def refusal? (tables : List (HookTable σ)) (c : Command σ) : Option BindingError :=
  c.hook.bind fun hook =>
    match HookTable.firstOf tables hook with
    | none => some (.missingHook c.path hook c.line)
    | some handler =>
        if handler.arity = c.expectedArity then none
        else some (.arityMismatch c.path hook c.expectedArity handler.arity)

theorem bind_error (tables : List (HookTable σ)) (c : Command σ) :
    (c.bind tables).value.error = c.refusal? tables := by
  rw [Command.bind]
  split
  next hh => simp [refusal?, hh]
  next hook hh =>
    split
    next hp => simp [refusal?, hh, hp]
    next handler hp =>
      split
      next ha => simp [refusal?, hh, hp, ha]
      next ha => simp [refusal?, hh, hp, ha]

theorem bind_result {tables : List (HookTable σ)} {c : Command σ} (h : c.refusal? tables = none) :
    (c.bind tables).value.result = c.withHandler tables := by
  rw [Command.bind, withHandler]
  split
  next hh =>
    have hn : (c.hook.bind (HookTable.firstOf tables)).or c.handler = c.handler := by
      rw [hh]
      rfl
    rw [hn]
    rfl
  next hook hh =>
    rw [refusal?, hh, Option.bind_some] at h
    split
    next hp => simp [hp] at h
    next handler hp =>
      have ha : handler.arity = c.expectedArity := by simpa [hp] using h
      simp [ha, hh, hp]

end Command

namespace Node

def withHandlers (tables : List (HookTable σ)) (node : Node σ) : Node σ :=
  node.mapCommands (·.withHandler tables)

def refusal? (tables : List (HookTable σ)) (nodes : List (Node σ)) : Option BindingError :=
  (preorderAll nodes).findSome? (·.command.refusal? tables)

theorem refusal?_mk (tables : List (HookTable σ)) (c : Command σ) (children : List (Node σ)) :
    refusal? tables [mk c children] = (c.refusal? tables).or (refusal? tables children) := by
  rw [refusal?, preorderAll, preorder, preorderAll, List.append_nil, List.findSome?_cons]
  cases h : c.refusal? tables <;> simp [command, h, refusal?]

theorem refusal?_cons (tables : List (HookTable σ)) (node : Node σ) (nodes : List (Node σ)) :
    refusal? tables (node :: nodes) = (refusal? tables [node]).or (refusal? tables nodes) := by
  simp only [refusal?, preorderAll, List.append_nil, List.findSome?_append]

def BindsTo {α : Type} (refusal : Option BindingError) (whole : α) (b : Bound α) : Prop :=
  b.error = refusal ∧ (refusal = none → b.result = whole)

mutual

theorem bind_bindsTo (tables : List (HookTable σ)) :
    ∀ node : Node σ, BindsTo (refusal? tables [node]) (node.withHandlers tables) (node.bind tables).value
  | mk c children => by
      rw [Node.bind, Logged.value_bind, c.bind_error, refusal?_mk]
      cases hc : c.refusal? tables with
      | some error => exact ⟨rfl, by simp⟩
      | none =>
          obtain ⟨he, hr⟩ := bindAll_bindsTo tables children
          refine ⟨he, ?_⟩
          intro hn
          simp only [Logged.value_bind, Logged.value_pure, Command.bind_result hc, hr hn, withHandlers,
            mapCommands, mapCommandsAll_eq_map]

theorem bindAll_bindsTo (tables : List (HookTable σ)) :
    ∀ nodes : List (Node σ),
      BindsTo (refusal? tables nodes) (nodes.map (·.withHandlers tables)) (bindAll tables nodes).value
  | [] => ⟨rfl, fun _ => rfl⟩
  | node :: nodes => by
      rw [Node.bindAll, Logged.value_bind, refusal?_cons]
      obtain ⟨he, hr⟩ := bind_bindsTo tables node
      cases hn : refusal? tables [node] with
      | some error =>
          rw [hn] at he
          simp only [he]
          exact ⟨rfl, by simp⟩
      | none =>
          rw [hn] at he
          obtain ⟨hes, hrs⟩ := bindAll_bindsTo tables nodes
          simp only [he]
          refine ⟨hes, ?_⟩
          intro h
          simp only [Logged.value_bind, Logged.value_pure, hr hn, hrs h, List.map_cons]

end

end Node

end CommandTree
