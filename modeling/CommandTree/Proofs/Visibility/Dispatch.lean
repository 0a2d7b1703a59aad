import CommandTree.Proofs.Dispatch.Delivery
import CommandTree.Proofs.Visibility.Listing

namespace CommandTree

variable {σ : Type} {actor : Actor}

namespace Node

theorem hasTwin_eq_of_alike {xs ys : List (Node σ)} (h : List.Forall₂ (Alike actor) xs ys)
    {x y : Node σ} (hxy : Alike actor x y) : hasTwin xs x = hasTwin ys y := by
  have hc : xs.countP (·.command.sharesName x.command) = ys.countP (·.command.sharesName y.command) := by
    induction h with
    | nil => rfl
    | cons h _ ih => rw [List.countP_cons, List.countP_cons, ih, h.sharesName_eq hxy]
  simp only [hasTwin, hc]

theorem helpText_eq_of_alike (m : Messages) {x y : Node σ} (h : Alike actor x y)
    (hp : x.command.isPermitted actor = true) : x.helpText m actor = y.helpText m actor := by
  simp only [helpText, helpLines_eq_of_alike h, h.command_eq hp]

theorem runOwn_eq_of_alike (m : Messages) {x y : Node σ} (h : Alike actor x y)
    (hp : x.command.isPermitted actor = true) (tokens : List String) (state : σ) :
    x.runOwn m actor tokens state = y.runOwn m actor tokens state := by
  simp only [runOwn, helpText_eq_of_alike m h hp, h.command_eq hp]

theorem fallback_eq_of_alike (m : Messages) {x y : Node σ} (h : Alike actor x y)
    (hp : x.command.isPermitted actor = true) (hasTwin : Bool) :
    x.fallback m actor hasTwin = y.fallback m actor hasTwin := by
  funext state
  simp only [fallback, helpText_eq_of_alike m h hp, h.command_eq hp]

theorem runEach_congr (m : Messages) {siblings siblings' : List (Node σ)} {tokens : List String}
    (hs : List.Forall₂ (Alike actor) siblings siblings') {xs ys : List (Node σ)}
    (h : List.Forall₂ (fun x y => Alike actor x y ∧ ∀ tokens hasTwin state,
      x.run m actor tokens hasTwin state = y.run m actor tokens hasTwin state) xs ys) :
    runEach m actor siblings tokens xs = runEach m actor siblings' tokens ys := by
  induction h with
  | nil => rfl
  | cons hxy _ ih =>
      funext state
      rw [runEach, runEach, hasTwin_eq_of_alike hs hxy.1, hxy.2, ih]

theorem run_eq_of_alike (m : Messages) {x y : Node σ} (h : Alike actor x y) (tokens : List String)
    (hasTwin : Bool) (state : σ) :
    x.run m actor tokens hasTwin state = y.run m actor tokens hasTwin state := by
  induction h using Alike.induct generalizing tokens hasTwin state with
  | hidden c d cs ds hp _ hpath _ hq => simp [run_eq, command, hp, hq, hpath]
  | shown c cs ds hc ih =>
      simp only [exists_prop] at ih
      have h := Alike.shown c hc
      rw [run_eq, run_eq]
      cases hp : c.isPermitted actor with
      | false => simp [command, hp]
      | true =>
          have hb : (mk c cs).runBelow m actor tokens = (mk c ds).runBelow m actor tokens := by
            funext state
            cases tokens with
            | nil => rfl
            | cons first rest =>
                exact congrFun (runEach_congr m hc (Alike.filter_hasAlias ih first)) state
          rw [helpText_eq_of_alike m h hp, runOwn_eq_of_alike m h hp, fallback_eq_of_alike m h hp, hb]
          rfl

theorem runEach_eq_of_alike (m : Messages) {xs ys : List (Node σ)} (h : List.Forall₂ (Alike actor) xs ys)
    (tokens : List String) :
    runEach m actor xs tokens xs = runEach m actor ys tokens ys := by
  refine runEach_congr m h ?_
  exact h.imp fun x y hxy => ⟨hxy, run_eq_of_alike m hxy⟩

theorem runEach_handled_of_denied (m : Messages) {node : Node σ}
    (hp : node.command.isPermitted actor = false) (siblings nodes : List (Node σ)) (tokens : List String)
    (state : σ) : (runEach m actor siblings tokens (node :: nodes) state).value.handled = true := by
  have hr : (node.run m actor tokens (hasTwin siblings node) state).value.handled = true := by
    simp [run_eq, hp]
  rw [runEach, Logged.unlessHandled_value_of_handled hr, hr]

end Node

open Node

theorem dispatch_eq_of_alike (m : Messages) {xs ys : List (Node σ)} (h : List.Forall₂ (Alike actor) xs ys)
    (tokens : List String) (state : σ) :
    dispatch m xs actor tokens state = dispatch m ys actor tokens state := by
  have hr := runEach_eq_of_alike m h tokens
  cases h with
  | nil => rfl
  | @cons x y xs ys hxy _ =>
      simp only [dispatch, hxy.name_eq, ← hr]
      cases hp : x.command.isPermitted actor with
      | true => rw [helpText_eq_of_alike m hxy hp]
      | false =>
          -- The help of a first candidate that is denied is never asked for.
          have hd := runEach_handled_of_denied m hp (x :: xs) xs tokens state
          rw [Logged.unlessHandled_eq_of_handled _ _ hd]

theorem forbidden_subtrees_unobservable (m : Messages) (actor : Actor) {xs ys : List (Node σ)}
    (h : List.Forall₂ (Alike actor) xs ys) (tokens : List String) (state : σ) :
    dispatch m xs actor tokens state = dispatch m ys actor tokens state ∧
      List.Forall₂ (fun x y => (∀ label, x.helpLines actor label = y.helpLines actor label) ∧
        x.complete actor tokens = y.complete actor tokens) xs ys := by
  refine ⟨dispatch_eq_of_alike m h tokens state, ?_⟩
  refine h.imp fun x y hxy => ⟨?_, ?_⟩
  · exact helpLines_eq_of_alike hxy
  · exact complete_eq_of_alike hxy tokens

def guarded (help : Option String) (children : List (Node Nat)) : Node Nat :=
  .mk (.bare "bank" "bank") [.mk { (Command.bare "vault" "bank vault" : Command Nat) with
    permission := some "bank.vault", help := help } children]

theorem guarded_unobservable :
    let actor := Actor.granted "Alex" .player []
    let xs := [guarded none []]
    let ys := [guarded (some "Opens the vault") [.mk (.bare "open" "bank vault open") []]]
    List.Forall₂ (Alike actor) xs ys ∧
      dispatch .standard xs actor ["vault", "open"] 0 = dispatch .standard ys actor ["vault", "open"] 0 ∧
      List.Forall₂ (fun x y => (∀ label, x.helpLines actor label = y.helpLines actor label) ∧
        x.complete actor ["vault", "open"] = y.complete actor ["vault", "open"]) xs ys := by
  intro actor xs ys
  have h : List.Forall₂ (Alike actor) xs ys :=
    .cons (.shown _ (.cons (.hidden _ _ rfl rfl rfl rfl) .nil)) .nil
  exact ⟨h, forbidden_subtrees_unobservable .standard actor h ["vault", "open"] 0⟩

end CommandTree
