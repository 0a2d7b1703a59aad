import Mathlib.Data.List.Chain
import CommandTree.Dispatch
import CommandTree.Proofs.Tree

namespace CommandTree

open Text

variable {σ : Type}

structure Admits (actor : Actor) (tokens : List String) (path : List (Node σ)) (call : Invocation σ) :
    Prop where
  linked : path.IsChain fun parent child => child ∈ parent.children
  permitted : ∀ n ∈ path, ∀ permission,
    n.command.permission = some permission → actor.holds permission = true
  accepted : ∀ n ∈ path, n.command.senderKind.accepts actor.kind = true
  named : ∀ i, (h : i + 1 < path.length) → ∃ token, tokens[i]? = some token ∧
    ∃ a ∈ path[i + 1].command.aliases, sameIgnoringCase a token = true
  unasked : ∀ i < path.length, ∀ token, tokens[i]? = some token → sameIgnoringCase token "help" = false
  passed : ∀ i, (h : i + 1 < path.length) → path[i].command.handler = none ∨
    (path[i].command.matchTokens actor (tokens.drop i)).value = .noMatch
  bound : ∃ n, path.getLast? = some n ∧ n.command = call.command ∧ n.command.handler = some call.handler
  matched : (call.command.matchTokens actor (tokens.drop (path.length - 1))).value = .matched call.slots

structure Node.Opens (actor : Actor) (tokens : List String) (node : Node σ) : Prop where
  permitted : node.command.isPermitted actor = true
  unasked : asksForHelp tokens = false
  accepted : node.command.senderKind.accepts actor.kind = true

def Node.Passes (actor : Actor) (tokens : List String) (node : Node σ) : Prop :=
  node.command.handler = none ∨ (node.command.matchTokens actor tokens).value = .noMatch

theorem asksForHelp_eq_false_iff {tokens : List String} :
    asksForHelp tokens = false ↔
      ∀ token, tokens[0]? = some token → sameIgnoringCase token "help" = false := by
  cases tokens <;> simp [asksForHelp]

namespace Admits

variable {actor : Actor} {tokens rest : List String} {token : String} {node child : Node σ}
  {path : List (Node σ)} {call : Invocation σ}

theorem single {handler : Handler σ} {slots : List (Option Value)} (ho : node.Opens actor tokens)
    (hb : node.command.handler = some handler)
    (hm : (node.command.matchTokens actor tokens).value = .matched slots) :
    Admits actor tokens [node] ⟨node.command, handler, slots⟩ where
  linked := List.isChain_singleton node
  permitted := by
    intro n hn
    rw [List.mem_singleton.mp hn]
    exact Command.isPermitted_eq_true_iff.mp ho.permitted
  accepted := by
    intro n hn
    rw [List.mem_singleton.mp hn]
    exact ho.accepted
  named := by
    intro i h
    simp at h
  unasked := by
    intro i h
    obtain rfl : i = 0 := by simpa using h
    exact asksForHelp_eq_false_iff.mp ho.unasked
  passed := by
    intro i h
    simp at h
  bound := ⟨node, rfl, rfl, hb⟩
  matched := hm

theorem cons (ho : node.Opens actor (token :: rest)) (hp : node.Passes actor (token :: rest))
    (hc : child ∈ node.children) (ha : child.command.hasAlias token = true)
    (hr : Admits actor rest (child :: path) call) :
    Admits actor (token :: rest) (node :: child :: path) call where
  linked := List.isChain_cons_cons.mpr ⟨hc, hr.linked⟩
  permitted := by
    intro n hn
    rcases List.mem_cons.mp hn with rfl | hn
    · exact Command.isPermitted_eq_true_iff.mp ho.permitted
    · exact hr.permitted n hn
  accepted := by
    intro n hn
    rcases List.mem_cons.mp hn with rfl | hn
    · exact ho.accepted
    · exact hr.accepted n hn
  named := by
    intro i h
    cases i with
    | zero => exact ⟨token, rfl, Command.hasAlias_eq_true_iff.mp ha⟩
    | succ i => exact hr.named i (by simpa using h)
  unasked := by
    intro i h
    cases i with
    | zero => exact asksForHelp_eq_false_iff.mp ho.unasked
    | succ i => exact hr.unasked i (by simpa using h)
  passed := by
    intro i h
    cases i with
    | zero => exact hp
    | succ i => exact hr.passed i (by simpa using h)
  bound := by
    obtain ⟨n, hn, hb⟩ := hr.bound
    exact ⟨n, by simpa using hn, hb⟩
  matched := hr.matched

theorem mem_preorder (h : Admits actor tokens (node :: path) call) :
    ∃ n ∈ node.preorder, n.command = call.command ∧ n.command.handler = some call.handler := by
  obtain ⟨n, hn, hb⟩ := h.bound
  refine ⟨n, ?_, hb⟩
  have hl := h.linked
  clear h hb
  induction path generalizing node with
  | nil =>
      obtain rfl : node = n := by simpa using hn
      exact node.self_mem_preorder
  | cons child path ih =>
      obtain ⟨hc, hl⟩ := List.isChain_cons_cons.mp hl
      exact Node.mem_preorder_of_mem_children hc (ih (by simpa using hn) hl)

end Admits

end CommandTree
