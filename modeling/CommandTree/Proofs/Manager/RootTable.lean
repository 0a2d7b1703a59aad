import Mathlib.Data.List.Forall2
import CommandTree.Manager
import CommandTree.Proofs.Binding

namespace CommandTree.Manager

variable {σ : Type}

inductive Input (σ : Type) where
  | text (source : String)
  | file (files : Files) (path : String)
  | trees (owner : String) (nodes : List (Node σ))

inductive Call (σ : Type) where
  | add (input : Input σ) (tables : List (HookTable σ))
  | addFiles (files : Files) (paths : List String) (tables : List (HookTable σ))
  | remove (label : String)

inductive Answer where
  | names (names : List String)
  | failed (error : ManagerError)
  | removed (count : Nat)

def Answer.ofResult : Except ManagerError (List String) → Answer
  | .error error => .failed error
  | .ok added => .names added

def add (m : Manager σ) (tables : List (HookTable σ)) :
    Input σ → Logged (Manager σ × Except ManagerError (List String))
  | .text source => m.load source tables
  | .file files path => m.loadFile files path tables
  | .trees owner nodes => m.register owner nodes tables

def perform (m : Manager σ) : Call σ → Logged (Manager σ × Answer)
  | .add input tables => do
      let (after, result) ← m.add tables input
      pure (after, .ofResult result)
  | .addFiles files paths tables => do
      let loaded ← loadFiles files tables m paths
      match loaded.error with
      | none => pure (loaded.manager, .names loaded.names)
      | some error => pure (loaded.manager, .failed error)
  | .remove label => do
      let (after, count) ← m.unregister label
      pure (after, .removed count)

def performAll (m : Manager σ) : List (Call σ) → Manager σ
  | [] => m
  | call :: calls => (m.perform call).value.1.performAll calls

def append (m : Manager σ) (roots : List (Root σ)) : Manager σ :=
  { m with roots := m.roots ++ roots }

namespace Input

def owner (m : Manager σ) : Input σ → String
  | .text _ => m.owner
  | .file _ _ => m.owner
  | .trees owner _ => owner

def defined (m : Manager σ) (origin source : String) : Except ManagerError (List (Node σ)) :=
  match (Definition.readText m.registries source).value with
  | .error error => .error (.invalidDefinition origin error)
  | .ok nodes => .ok nodes

def read (m : Manager σ) : Input σ → Except ManagerError (List (Node σ))
  | .text source => defined m "<inline>" source
  | .file files path =>
      match files.read path with
      | .error error => .error (.unreadable path error)
      | .ok source => defined m path source
  | .trees _ nodes => .ok nodes

def newRoots (m : Manager σ) (tables : List (HookTable σ)) (input : Input σ) :
    Except ManagerError (List (Root σ)) :=
  match input.read m with
  | .error error => .error error
  | .ok nodes =>
      match Node.refusal? tables nodes with
      | some error => .error (.unregistered error)
      | none => .ok (nodes.map fun node => ⟨input.owner m, node.withHandlers tables⟩)

end Input

variable {m : Manager σ} {tables : List (HookTable σ)}

@[simp] theorem append_nil (m : Manager σ) : m.append [] = m := by
  simp [append]

theorem append_append (m : Manager σ) (xs ys : List (Root σ)) :
    (m.append xs).append ys = m.append (xs ++ ys) := by
  simp [append]

theorem newRoots_append (m : Manager σ) (roots : List (Root σ)) (tables : List (HookTable σ)) (input : Input σ) :
    input.newRoots (m.append roots) tables = input.newRoots m tables := by
  cases input <;> rfl

theorem addRoots_value (owner : String) (roots : List (Root σ)) (nodes : List (Node σ)) :
    (addRoots owner roots nodes).value = roots ++ nodes.map (Root.mk owner) := by
  induction nodes generalizing roots with
  | nil => simp [addRoots]
  | cons node nodes ih =>
      rw [addRoots]
      split <;> simp [ih]

def registered (m : Manager σ) : Except ManagerError (List (Root σ)) → Manager σ × Except ManagerError (List String)
  | .error error => (m, .error error)
  | .ok roots => (m.append roots, .ok (roots.map (·.node.command.name)))

theorem readFrom_value (m : Manager σ) (origin source : String) :
    (m.readFrom origin source).value = Input.defined m origin source := by
  rw [readFrom, Input.defined, Logged.value_bind]
  cases (Definition.readText (σ := σ) m.registries source).value <;> rfl

theorem register_value (m : Manager σ) (owner : String) (nodes : List (Node σ))
    (tables : List (HookTable σ)) :
    (m.register owner nodes tables).value = m.registered ((Input.trees owner nodes).newRoots m tables) := by
  obtain ⟨he, hr⟩ := Node.bindAll_bindsTo tables nodes
  rw [register, Logged.value_bind, he]
  simp only [Input.newRoots, Input.read, Input.owner]
  cases hn : Node.refusal? tables nodes with
  | some error => rfl
  | none =>
      have hb := hr hn
      simp only [Logged.value_bind, Logged.value_pure, addRoots_value, hb, List.map_map, registered, append]
      rfl

theorem add_value (m : Manager σ) (tables : List (HookTable σ)) (input : Input σ) :
    (m.add tables input).value = m.registered (input.newRoots m tables) := by
  cases input with
  | text source =>
      rw [add, load, Logged.value_bind, parse, readFrom_value, inlineOrigin]
      simp only [Input.newRoots, Input.read]
      cases Input.defined m "<inline>" source with
      | error error => rfl
      | ok nodes => exact m.register_value m.owner nodes tables
  | file files path =>
      rw [add, loadFile]
      simp only [Input.newRoots, Input.read]
      cases files.read path with
      | error error => rfl
      | ok source =>
          simp only [Logged.value_bind, readFrom_value]
          cases Input.defined m path source with
          | error error => rfl
          | ok nodes => exact m.register_value m.owner nodes tables
  | trees owner nodes => exact m.register_value owner nodes tables

inductive LoadedUpTo (m : Manager σ) (files : Files) (tables : List (HookTable σ)) :
    List String → List (List (Root σ)) → Option ManagerError → Prop
  | whole {paths : List String} {batches : List (List (Root σ))} :
      List.Forall₂ (fun path roots => (Input.file files path).newRoots m tables = .ok roots) paths batches →
      LoadedUpTo m files tables paths batches none
  | stopped {before after : List String} {path : String} {batches : List (List (Root σ))}
      {error : ManagerError} :
      List.Forall₂ (fun path roots => (Input.file files path).newRoots m tables = .ok roots) before batches →
      (Input.file files path).newRoots m tables = .error error →
      LoadedUpTo m files tables (before ++ path :: after) batches (some error)

theorem LoadedUpTo.cons {files : Files} {path : String} {paths : List String} {roots : List (Root σ)}
    {batches : List (List (Root σ))} {error : Option ManagerError}
    (hp : (Input.file files path).newRoots m tables = .ok roots)
    (h : LoadedUpTo m files tables paths batches error) :
    LoadedUpTo m files tables (path :: paths) (roots :: batches) error := by
  cases h with
  | whole hb => exact .whole (.cons hp hb)
  | stopped hb he => exact .stopped (.cons hp hb) he

theorem LoadedUpTo.of_append {files : Files} {paths : List String} {roots : List (Root σ)}
    {batches : List (List (Root σ))} {error : Option ManagerError}
    (h : LoadedUpTo (m.append roots) files tables paths batches error) :
    LoadedUpTo m files tables paths batches error := by
  cases h with
  | whole hb => exact .whole (by simpa only [newRoots_append] using hb)
  | stopped hb he =>
      rw [newRoots_append] at he
      exact .stopped (by simpa only [newRoots_append] using hb) he

theorem loadFiles_cons_value (files : Files) (tables : List (HookTable σ)) (m : Manager σ) (path : String)
    (paths : List String) :
    (loadFiles files tables m (path :: paths)).value =
      match (Input.file files path).newRoots m tables with
      | .error error => ⟨m, [], some error⟩
      | .ok roots =>
          let rest := (loadFiles files tables (m.append roots) paths).value
          ⟨rest.manager, roots.map (·.node.command.name) ++ rest.names, rest.error⟩ := by
  have hf := m.add_value tables (.file files path)
  rw [add] at hf
  rw [loadFiles, Logged.value_bind, hf]
  cases (Input.file files path).newRoots m tables <;> rfl

theorem loadFiles_loadedUpTo (files : Files) (tables : List (HookTable σ)) (m : Manager σ)
    (paths : List String) :
    let loaded := (loadFiles files tables m paths).value
    ∃ batches, LoadedUpTo m files tables paths batches loaded.error ∧
      loaded.manager = m.append batches.flatten ∧
      loaded.names = batches.flatten.map (·.node.command.name) := by
  induction paths generalizing m with
  | nil => exact ⟨[], .whole .nil, m.append_nil.symm, rfl⟩
  | cons path paths ih =>
      rw [loadFiles_cons_value]
      cases hp : (Input.file files path).newRoots m tables with
      | error error =>
          have hs : LoadedUpTo m files tables ([] ++ path :: paths) [] (some error) := .stopped .nil hp
          exact ⟨[], hs, m.append_nil.symm, rfl⟩
      | ok roots =>
          -- The files behind are read by the manager with these roots, which reads them as `m` does.
          obtain ⟨batches, hb, hm, hn⟩ := ih (m.append roots)
          refine ⟨roots :: batches, hb.of_append.cons hp, ?_, ?_⟩
          · rw [List.flatten_cons, ← append_append]
            exact hm
          · rw [List.flatten_cons, List.map_append, ← hn]

structure Appended (m : Manager σ) (roots : List (Root σ)) (after : Manager σ) : Prop where
  same : after = { m with roots := m.roots ++ roots }
  lookup : ∀ label, (∀ root ∈ roots, root.answersTo label = false) → after.lookup label = m.lookup label

structure Withdrawn (m : Manager σ) (label : String) (after : Manager σ) : Prop where
  same : after = { m with roots := m.roots.filter fun root => !root.answersTo label }
  gone : after.lookup label = []
  lookup : ∀ other, (∀ root ∈ m.roots, root.answersTo label = true → root.answersTo other = false) →
    after.lookup other = m.lookup other

inductive Settled (m : Manager σ) : Call σ → Manager σ → Answer → Prop
  | added {input : Input σ} {tables : List (HookTable σ)} {roots : List (Root σ)} {after : Manager σ} :
      input.newRoots m tables = .ok roots → Appended m roots after →
      Settled m (.add input tables) after (.names (roots.map (·.node.command.name)))
  | refused {input : Input σ} {tables : List (HookTable σ)} {error : ManagerError} :
      input.newRoots m tables = .error error → Settled m (.add input tables) m (.failed error)
  | filesAdded {files : Files} {paths : List String} {tables : List (HookTable σ)}
      {batches : List (List (Root σ))} {after : Manager σ} :
      LoadedUpTo m files tables paths batches none → Appended m batches.flatten after →
      Settled m (.addFiles files paths tables) after (.names (batches.flatten.map (·.node.command.name)))
  | filesStopped {files : Files} {paths : List String} {tables : List (HookTable σ)}
      {batches : List (List (Root σ))} {after : Manager σ} {error : ManagerError} :
      LoadedUpTo m files tables paths batches (some error) → Appended m batches.flatten after →
      Settled m (.addFiles files paths tables) after (.failed error)
  | removed {label : String} {after : Manager σ} : Withdrawn m label after →
      Settled m (.remove label) after (.removed (m.roots.countP (·.answersTo label)))

theorem appended (m : Manager σ) (roots : List (Root σ)) : Appended m roots (m.append roots) where
  same := rfl
  lookup := by
    intro label h
    have hn : roots.filter (·.answersTo label) = [] := by
      simpa [List.filter_eq_nil_iff] using h
    simp only [lookup, append, List.filter_append, hn, List.append_nil]

theorem filter_of_filter_not {roots : List (Root σ)} {label other : String}
    (h : ∀ root ∈ roots, root.answersTo label = true → root.answersTo other = false) :
    (roots.filter fun root => !root.answersTo label).filter (·.answersTo other) =
      roots.filter (·.answersTo other) := by
  rw [List.filter_filter]
  apply List.filter_congr
  intro root hr
  cases hl : root.answersTo label with
  | false => simp
  | true => simp [h root hr hl]

theorem unregister_withdrawn (m : Manager σ) (label : String) :
    let result := (m.unregister label).value
    Withdrawn m label result.1 ∧ result.2 = m.roots.countP (·.answersTo label) := by
  have hv : (m.unregister label).value =
      ({ m with roots := m.roots.filter fun root => !root.answersTo label },
        m.roots.length - (m.roots.filter fun root => !root.answersTo label).length) := by
    rw [unregister]
    split <;> rfl
  rw [hv]
  refine ⟨⟨rfl, ?_, ?_⟩, ?_⟩
  · simp [lookup, List.filter_filter]
  · intro other h
    simp only [lookup, filter_of_filter_not h]
  · have hsum := m.roots.length_eq_countP_add_countP (·.answersTo label)
    have hkept : (m.roots.filter fun root => !root.answersTo label).length =
        m.roots.countP fun root => !root.answersTo label := List.countP_eq_length_filter.symm
    simp only [hkept]
    simp at hsum
    omega

theorem perform_settled (m : Manager σ) (call : Call σ) :
    let done := (m.perform call).value
    Settled m call done.1 done.2 := by
  cases call with
  | add input tables =>
      rw [perform, Logged.value_bind, add_value, Logged.value_pure]
      cases h : input.newRoots m tables with
      | error error => exact .refused h
      | ok roots => exact .added h (m.appended roots)
  | addFiles files paths tables =>
      obtain ⟨batches, hb, hm, hn⟩ := m.loadFiles_loadedUpTo files tables paths
      rw [perform, Logged.value_bind]
      cases he : (loadFiles files tables m paths).value.error with
      | none =>
          rw [he] at hb
          simp only [hm, hn]
          exact .filesAdded hb (m.appended _)
      | some error =>
          rw [he] at hb
          simp only [hm]
          exact .filesStopped hb (m.appended _)
  | remove label =>
      obtain ⟨hw, hc⟩ := m.unregister_withdrawn label
      rw [perform, Logged.value_bind]
      simp only [Logged.value_pure, hc]
      exact .removed hw

theorem Settled.fixed {call : Call σ} {after : Manager σ} {answer : Answer} (h : Settled m call after answer) :
    after.registries = m.registries ∧ after.owner = m.owner := by
  cases h with
  | refused => exact ⟨rfl, rfl⟩
  | added _ ha => exact ha.same ▸ ⟨rfl, rfl⟩
  | filesAdded _ ha => exact ha.same ▸ ⟨rfl, rfl⟩
  | filesStopped _ ha => exact ha.same ▸ ⟨rfl, rfl⟩
  | removed hw => exact hw.same ▸ ⟨rfl, rfl⟩

theorem performAll_fixed (m : Manager σ) (calls : List (Call σ)) :
    (m.performAll calls).registries = m.registries ∧ (m.performAll calls).owner = m.owner := by
  induction calls generalizing m with
  | nil => exact ⟨rfl, rfl⟩
  | cons call calls ih =>
      obtain ⟨hr, ho⟩ := (m.perform_settled call).fixed
      obtain ⟨hrs, hos⟩ := ih (m.perform call).value.1
      exact ⟨hrs.trans hr, hos.trans ho⟩

theorem root_table_over_runs (m : Manager σ) (calls : List (Call σ)) :
    let now := m.performAll calls
    now.registries = m.registries ∧ now.owner = m.owner ∧
      ∀ call, let done := (now.perform call).value
        Settled now call done.1 done.2 := by
  obtain ⟨hr, ho⟩ := m.performAll_fixed calls
  exact ⟨hr, ho, (m.performAll calls).perform_settled⟩

example :
    ((new "quill" : Manager Nat).performAll
      [.add (.text "bank \x7b\n\x7d") [],
        .add (.text "shop \x7b\n\x7d\ninn \x7b\n room \x7b\n  hook rent\n \x7d\n\x7d") []]).rootNames =
      ["bank"] := by
  decide +kernel

end CommandTree.Manager
