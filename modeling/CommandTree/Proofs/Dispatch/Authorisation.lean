import CommandTree.Proofs.Dispatch.Outcome

namespace CommandTree

variable {σ : Type}

theorem Outcome.admits {m : Messages} {actor : Actor} {roots : List (Node σ)} {tokens : List String}
    {state : σ} {d : Delivery σ} (h : Outcome m actor roots tokens state d) {call : Invocation σ}
    (hc : call ∈ d.calls) : ∃ root ∈ roots, ∃ path, Admits actor tokens (root :: path) call := by
  cases h with
  | declined => simp at hc
  | told => simp at hc
  | invoked hr ha =>
      obtain rfl := List.mem_singleton.mp hc
      exact ⟨_, hr, _, ha⟩

theorem invoked_only_where_admitted (m : Messages) (candidates : List (Node σ)) (actor : Actor)
    (tokens : List String) (state : σ) (call : Invocation σ)
    (h : call ∈ (dispatch m candidates actor tokens state).value.calls) :
    ∃ root ∈ candidates, ∃ path, Admits actor tokens (root :: path) call := by
  cases candidates with
  | nil => simp [dispatch] at h
  | cons first others => exact (dispatch_outcome m actor first others tokens state).1.admits h

def countsCalls (parameters : List Parameter) : Handler Nat :=
  .typed parameters fun _ _ calls => ⟨calls + 1, [], .text "done"⟩

def deposit : Command Nat :=
  { (Command.bare "deposit" "bank deposit" : Command Nat) with
    alternatives := ["put"], permission := some "bank.deposit", senderKind := .player
    arguments := [⟨.int, "amount", 0, false, false, false, none⟩]
    handler := some (countsCalls [⟨.int, false⟩]) }

def bank : Node Nat :=
  .mk { (Command.bare "bank" "bank" : Command Nat) with handler := some (countsCalls []) } [.mk deposit []]

theorem deposit_admitted :
    let actor := Actor.granted "Alex" .player ["bank.deposit"]
    let call : Invocation Nat := ⟨deposit, countsCalls [⟨.int, false⟩], [some (.int 5)]⟩
    call ∈ (dispatch .standard [bank] actor ["PUT", "5"] 0).value.calls ∧
      ∃ root ∈ [bank], ∃ path, Admits actor ["PUT", "5"] (root :: path) call := by
  intro actor call
  have h : (dispatch .standard [bank] actor ["PUT", "5"] 0).value.calls = [call] := rfl
  have hc : call ∈ (dispatch .standard [bank] actor ["PUT", "5"] 0).value.calls := by simp [h]
  exact ⟨hc, invoked_only_where_admitted .standard [bank] actor ["PUT", "5"] 0 call hc⟩

end CommandTree
