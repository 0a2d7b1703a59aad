import Mathlib.Logic.Basic
import CommandTree.Manager
import CommandTree.Proofs.Dispatch.Outcome

namespace CommandTree

variable {σ : Type}

namespace Delivery

def RanOne (m : Messages) (actor : Actor) (roots : List (Node σ)) (state : σ) (d : Delivery σ) : Prop :=
  ∃ call : Invocation σ, d.calls = [call] ∧
    (∃ n ∈ Node.preorderAll roots, n.command = call.command ∧ n.command.handler = some call.handler) ∧
    let reply := call.handler.call actor call.slots state
    d.state = reply.state ∧
    (reply.ending = .completed ∧ d.messages = reply.messages ∨
      ((∃ error, reply.ending = .failed error) ∨ ∃ text, reply.ending = .panicked text) ∧
        d.messages = reply.messages ++ [m.handlerFailure])

def SaidOne (m : Messages) (actor : Actor) (roots : List (Node σ)) (state : σ) (d : Delivery σ) : Prop :=
  d.calls = [] ∧ d.state = state ∧
    ∃ n ∈ Node.preorderAll roots, ∃ text, n.MaySay m actor text ∧ d.messages = [text]

theorem ranOne_delivery {m : Messages} {actor : Actor} {roots : List (Node σ)} {state : σ}
    {call : Invocation σ}
    (h : ∃ n ∈ Node.preorderAll roots, n.command = call.command ∧ n.command.handler = some call.handler) :
    (call.delivery m actor state).RanOne m actor roots state := by
  refine ⟨call, rfl, h, rfl, ?_⟩
  simp only [Invocation.delivery]
  cases (call.handler.call actor call.slots state).ending with
  | completed => exact .inl ⟨rfl, by simp⟩
  | failed error => exact .inr ⟨.inl ⟨error, rfl⟩, by simp⟩
  | panicked text => exact .inr ⟨.inr ⟨text, rfl⟩, by simp⟩

theorem not_saidOne_of_ranOne {m : Messages} {actor : Actor} {roots : List (Node σ)} {state : σ}
    {d : Delivery σ} (hr : d.RanOne m actor roots state) : ¬ d.SaidOne m actor roots state := by
  obtain ⟨call, hc, -⟩ := hr
  rintro ⟨hn, -⟩
  simp [hc] at hn

end Delivery

theorem Outcome.ranOne_or_saidOne {m : Messages} {actor : Actor} {roots : List (Node σ)}
    {tokens : List String} {state : σ} {d : Delivery σ} (h : Outcome m actor roots tokens state d)
    (hd : d.handled = true) : d.RanOne m actor roots state ∨ d.SaidOne m actor roots state := by
  cases h with
  | declined => simp at hd
  | told hn ht => exact .inr ⟨rfl, rfl, _, hn, _, ht, rfl⟩
  | invoked hr ha =>
      obtain ⟨n, hn, hb⟩ := ha.mem_preorder
      exact .inl (Delivery.ranOne_delivery ⟨n, Node.mem_preorderAll.mpr ⟨_, hr, hn⟩, hb⟩)

namespace Manager

theorem lookup_eq_nil_iff {manager : Manager σ} {label : String} :
    manager.lookup label = [] ↔ ∀ root ∈ manager.roots, root.answersTo label = false := by
  simp [lookup, List.filter_eq_nil_iff]

theorem execute_of_unanswered {manager : Manager σ} {label : String}
    (h : ∀ root ∈ manager.roots, root.answersTo label = false) (actor : Actor) (tokens : List String)
    (state : σ) : (manager.execute actor label tokens state).value = .declined state := by
  simp [execute, lookup_eq_nil_iff.mpr h]

theorem execute_handled_eq_false_iff {manager : Manager σ} {label : String} (actor : Actor)
    (tokens : List String) (state : σ) :
    (manager.execute actor label tokens state).value.handled = false ↔
      ∀ root ∈ manager.roots, root.answersTo label = false := by
  constructor
  · intro hd
    rw [← lookup_eq_nil_iff]
    cases hl : manager.lookup label with
    | nil => rfl
    | cons first others =>
        have ht := (dispatch_outcome manager.messages actor first others tokens state).2
        simp [execute, hl, ht] at hd
  · intro h
    rw [execute_of_unanswered h]
    rfl

end Manager

theorem dispatch_answers_exactly_once (m : Messages) (actor : Actor) (tokens : List String) (state : σ) :
    (∀ first others, let d := (dispatch m (first :: others) actor tokens state).value
      d.handled = true ∧
        Xor (d.RanOne m actor (first :: others) state) (d.SaidOne m actor (first :: others) state)) ∧
    (∀ (node : Node σ) hasTwin, let d := (node.run m actor tokens hasTwin state).value
      d.handled = false → d = .declined state) ∧
    (∀ (siblings : List (Node σ)) first nodes,
      let d := (Node.runAmong m actor siblings first tokens nodes state).value
      d.handled = false → d = .declined state) ∧
    (∀ (manager : Manager σ) label, let d := (manager.execute actor label tokens state).value
      (d.handled = false ↔ ∀ root ∈ manager.roots, root.answersTo label = false) ∧
        (d.handled = false → d = .declined state)) := by
  refine ⟨?_, ?_, ?_, ?_⟩
  · intro first others d
    obtain ⟨ho, hd⟩ := dispatch_outcome m actor first others tokens state
    refine ⟨hd, ?_⟩
    rcases ho.ranOne_or_saidOne hd with hr | hs
    · exact .inl ⟨hr, Delivery.not_saidOne_of_ranOne hr⟩
    · exact .inr ⟨hs, fun hr => Delivery.not_saidOne_of_ranOne hr hs⟩
  · intro node hasTwin d hd
    exact (node.run_outcome m actor tokens hasTwin state).eq_declined hd
  · intro siblings first nodes d hd
    exact (Node.runAmong_outcome m actor siblings first tokens nodes state).eq_declined hd
  · intro manager label d
    have hi : d.handled = false ↔ ∀ root ∈ manager.roots, root.answersTo label = false :=
      manager.execute_handled_eq_false_iff actor tokens state
    refine ⟨hi, ?_⟩
    intro hd
    exact manager.execute_of_unanswered (hi.mp hd) actor tokens state

end CommandTree
