import CommandTree.Proofs.Binding

namespace CommandTree

variable {σ : Type}

inductive HookTable.FirstProvides (hook : String) (handler : Handler σ) : List (HookTable σ) → Prop
  | here {t : HookTable σ} {tables : List (HookTable σ)} :
      t.get? hook = some handler → FirstProvides hook handler (t :: tables)
  | behind {t : HookTable σ} {tables : List (HookTable σ)} :
      t.get? hook = none → FirstProvides hook handler tables → FirstProvides hook handler (t :: tables)

namespace Command

def Bindable (tables : List (HookTable σ)) (c : Command σ) : Prop :=
  ∀ hook, c.hook = some hook →
    ∃ handler, HookTable.FirstProvides hook handler tables ∧ handler.arity = c.expectedArity

inductive Refused (tables : List (HookTable σ)) (c : Command σ) : BindingError → Prop
  | missing {hook : String} : c.hook = some hook → (∀ t ∈ tables, t.get? hook = none) →
      Refused tables c (.missingHook c.path hook c.line)
  | mismatch {hook : String} {handler : Handler σ} : c.hook = some hook →
      HookTable.FirstProvides hook handler tables → handler.arity ≠ c.expectedArity →
      Refused tables c (.arityMismatch c.path hook c.expectedArity handler.arity)

inductive Fitted (tables : List (HookTable σ)) (c : Command σ) : Command σ → Prop
  | unhooked : c.hook = none → Fitted tables c c
  | hooked {hook : String} {handler : Handler σ} : c.hook = some hook →
      HookTable.FirstProvides hook handler tables → handler.arity = c.expectedArity →
      Fitted tables c { c with handler := some handler }

end Command

namespace HookTable

variable {hook : String} {tables : List (HookTable σ)}

theorem firstOf_eq_none_iff : firstOf tables hook = none ↔ ∀ t ∈ tables, t.get? hook = none := by
  rw [firstOf, List.findSome?_eq_none_iff]

theorem firstOf_eq_some_iff {handler : Handler σ} :
    firstOf tables hook = some handler ↔ FirstProvides hook handler tables := by
  induction tables with
  | nil =>
      constructor
      · intro h
        simp [firstOf] at h
      · intro h
        cases h
  | cons t tables ih =>
      rw [firstOf, List.findSome?_cons]
      cases ht : t.get? hook with
      | none =>
          constructor
          · intro h
            exact .behind ht (ih.mp h)
          · intro h
            cases h with
            | here hs => simp [ht] at hs
            | behind _ hr => exact ih.mpr hr
      | some provided =>
          constructor
          · intro h
            obtain rfl := Option.some.inj h
            exact .here ht
          · intro h
            cases h with
            | here hs => exact ht.symm.trans hs
            | behind hn => simp [ht] at hn

end HookTable

namespace Command

variable {tables : List (HookTable σ)} {c : Command σ}

theorem refusal?_eq_some_iff {error : BindingError} :
    c.refusal? tables = some error ↔ c.Refused tables error := by
  rw [refusal?]
  constructor
  · intro h
    obtain ⟨hook, hh, he⟩ := Option.bind_eq_some_iff.mp h
    split at he
    next hp =>
      obtain rfl := Option.some.inj he
      exact .missing hh (HookTable.firstOf_eq_none_iff.mp hp)
    next handler hp =>
      split at he
      next => simp at he
      next ha =>
        obtain rfl := Option.some.inj he
        exact .mismatch hh (HookTable.firstOf_eq_some_iff.mp hp) ha
  · intro h
    cases h with
    | missing hh hp => simp [hh, HookTable.firstOf_eq_none_iff.mpr hp]
    | mismatch hh hp ha => simp [hh, HookTable.firstOf_eq_some_iff.mpr hp, ha]

theorem refusal?_eq_none_iff : c.refusal? tables = none ↔ c.Bindable tables := by
  rw [refusal?, Option.bind_eq_none_iff]
  apply forall_congr'
  intro hook
  apply imp_congr_right
  intro _
  cases hp : HookTable.firstOf tables hook with
  | none => simp [← HookTable.firstOf_eq_some_iff, hp]
  | some handler => simp [← HookTable.firstOf_eq_some_iff, hp]

theorem fitted_withHandler (h : c.Bindable tables) : c.Fitted tables (c.withHandler tables) := by
  cases hh : c.hook with
  | none =>
      have hn : (c.hook.bind (HookTable.firstOf tables)).or c.handler = c.handler := by simp [hh]
      rw [withHandler, hn]
      exact .unhooked hh
  | some hook =>
      obtain ⟨handler, hp, ha⟩ := h hook hh
      have hs : (c.hook.bind (HookTable.firstOf tables)).or c.handler = some handler := by
        simp [hh, HookTable.firstOf_eq_some_iff.mpr hp]
      rw [withHandler, hs]
      exact .hooked hh hp ha

theorem bind_result_of_refused {error : BindingError} (h : c.refusal? tables = some error) :
    (c.bind tables).value.result = c := by
  rw [← c.bind_error] at h
  rw [Command.bind] at h ⊢
  split at h
  next => rfl
  next =>
    split at h
    next => rfl
    next =>
      split at h
      next => simp at h
      next ha => simp [ha]

theorem bind_eq_or_fitted (tables : List (HookTable σ)) (c : Command σ) :
    (c.bind tables).value.result = c ∨ c.Fitted tables (c.bind tables).value.result := by
  cases h : c.refusal? tables with
  | some error => exact .inl (bind_result_of_refused h)
  | none =>
      rw [bind_result h]
      exact .inr (fitted_withHandler (refusal?_eq_none_iff.mp h))

end Command

namespace Node

variable {tables : List (HookTable σ)} {R : Command σ → Command σ → Prop}

theorem corresponds_mapCommands {f : Command σ → Command σ} {node : Node σ}
    (h : ∀ n ∈ node.preorder, R n.command (f n.command)) : Corresponds R node (node.mapCommands f) := by
  induction node with
  | mk c children ih =>
      rw [mapCommands, mapCommandsAll_eq_map]
      apply Corresponds.mk
      · exact h (mk c children) (self_mem_preorder _)
      · rw [List.forall₂_map_right_iff, List.forall₂_same]
        intro child hc
        apply ih child hc
        intro n hn
        exact h n (mem_preorder_of_mem_children hc hn)

theorem refusal?_eq_none_iff {nodes : List (Node σ)} :
    refusal? tables nodes = none ↔ ∀ n ∈ preorderAll nodes, n.command.Bindable tables := by
  simp only [refusal?, List.findSome?_eq_none_iff, Command.refusal?_eq_none_iff]

theorem refusal?_eq_some_iff {nodes : List (Node σ)} {error : BindingError} :
    refusal? tables nodes = some error ↔
      ∃ before n after, preorderAll nodes = before ++ n :: after ∧
        (∀ m ∈ before, m.command.Bindable tables) ∧ n.command.Refused tables error := by
  rw [refusal?, List.findSome?_eq_some_iff]
  simp only [Command.refusal?_eq_some_iff, Command.refusal?_eq_none_iff]
  constructor
  · rintro ⟨before, n, after, hs, hn, hb⟩
    exact ⟨before, n, after, hs, hb, hn⟩
  · rintro ⟨before, n, after, hs, hb, hn⟩
    exact ⟨before, n, after, hs, hn, hb⟩

theorem fitted_of_bindable {nodes : List (Node σ)} (h : ∀ n ∈ preorderAll nodes, n.command.Bindable tables) :
    List.Forall₂ (Corresponds (Command.Fitted tables)) nodes (nodes.map (·.withHandlers tables)) := by
  rw [List.forall₂_map_right_iff, List.forall₂_same]
  intro node hm
  apply corresponds_mapCommands
  intro n hn
  exact Command.fitted_withHandler (h n (mem_preorderAll.mpr ⟨node, hm, hn⟩))

theorem binding_is_all_or_error (tables : List (HookTable σ)) (nodes : List (Node σ)) :
    let bound := (bindAll tables nodes).value
    (bound.error = none ↔ ∀ n ∈ preorderAll nodes, n.command.Bindable tables) ∧
    (bound.error = none → List.Forall₂ (Corresponds (Command.Fitted tables)) nodes bound.result) ∧
    (∀ error, bound.error = some error ↔
      ∃ before n after, preorderAll nodes = before ++ n :: after ∧
        (∀ m ∈ before, m.command.Bindable tables) ∧ n.command.Refused tables error) ∧
    List.Forall₂ (Corresponds fun c d => d = c ∨ c.Fitted tables d) nodes bound.result := by
  intro bound
  obtain ⟨he, hr⟩ := bindAll_bindsTo tables nodes
  have hb : bound.error = refusal? tables nodes := he
  refine ⟨?_, ?_, ?_, bindAll_corresponds (fun _ => .inl rfl) (Command.bind_eq_or_fitted tables) nodes⟩
  · rw [hb, refusal?_eq_none_iff]
  · intro h
    rw [hb] at h
    have hw : bound.result = nodes.map (·.withHandlers tables) := hr h
    rw [hw]
    exact fitted_of_bindable (refusal?_eq_none_iff.mp h)
  · intro error
    rw [hb, refusal?_eq_some_iff]

def taking (arity : Nat) : Handler Nat :=
  ⟨arity, fun _ _ state => ⟨state, [], [], .completed⟩⟩

theorem ping_is_not_bound_to_second_table :
    let tables := [⟨[("ping", taking 2)]⟩, ⟨[("ping", taking 1)]⟩]
    let ping : Node Nat := .mk { (Command.bare "ping" "net ping" : Command Nat) with hook := some "ping" } []
    let net : Node Nat := .mk (.bare "net" "net") [ping]
    (bindAll tables [net]).value.error = some (.arityMismatch "net ping" "ping" 1 2) := by
  intro tables ping net
  have hf : HookTable.FirstProvides "ping" (taking 2) tables := .here rfl
  have hr : ping.command.Refused tables (.arityMismatch "net ping" "ping" 1 2) := .mismatch rfl hf (by decide)
  have hb : ∀ m ∈ [net], m.command.Bindable tables := by simp [net, Command.Bindable, Command.bare]
  exact ((binding_is_all_or_error tables [net]).2.2.1 _).mpr ⟨[net], ping, [], rfl, hb, hr⟩

end Node

end CommandTree
