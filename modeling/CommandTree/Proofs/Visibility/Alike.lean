import Mathlib.Data.List.Forall2
import CommandTree.Proofs.Tree

namespace CommandTree.Node

variable {σ : Type}

inductive Alike (actor : Actor) : Node σ → Node σ → Prop
  | hidden {c d : Command σ} (cs ds : List (Node σ)) : c.isPermitted actor = false →
      c.aliases = d.aliases → c.path = d.path → c.permission = d.permission →
      Alike actor (.mk c cs) (.mk d ds)
  | shown (c : Command σ) {cs ds : List (Node σ)} : List.Forall₂ (Alike actor) cs ds →
      Alike actor (.mk c cs) (.mk c ds)

variable {actor : Actor}

namespace Alike

@[elab_as_elim]
theorem induct {motive : ∀ x y : Node σ, Alike actor x y → Prop}
    (hidden : ∀ (c d : Command σ) (cs ds : List (Node σ)) (hp : c.isPermitted actor = false)
      (ha : c.aliases = d.aliases) (hpath : c.path = d.path) (hperm : c.permission = d.permission),
      d.isPermitted actor = false → motive (.mk c cs) (.mk d ds) (.hidden cs ds hp ha hpath hperm))
    (shown : ∀ (c : Command σ) (cs ds : List (Node σ)) (hc : List.Forall₂ (Alike actor) cs ds),
      List.Forall₂ (fun x y => ∃ h, motive x y h) cs ds → motive (.mk c cs) (.mk c ds) (.shown c hc))
    {x y : Node σ} (h : Alike actor x y) : motive x y h := by
  induction x generalizing y with
  | mk c cs ih =>
      cases h with
      | @hidden _ d _ ds hp ha hpath hperm =>
          have hq : d.isPermitted actor = false := by
            simpa only [Command.isPermitted, hperm] using hp
          exact hidden c d cs ds hp ha hpath hperm hq
      | @shown _ _ ds hc =>
          refine shown c cs ds hc ?_
          have hm := (List.forall₂_and_left cs ds).mpr ⟨ih, hc⟩
          exact hm.imp fun n k h => ⟨h.2, h.1 h.2⟩

variable {x y : Node σ}

theorem aliases_eq (h : Alike actor x y) : x.command.aliases = y.command.aliases := by
  cases h with
  | hidden _ _ _ ha => exact ha
  | shown => rfl

theorem isPermitted_eq (h : Alike actor x y) :
    x.command.isPermitted actor = y.command.isPermitted actor := by
  cases h with
  | hidden _ _ _ _ _ hperm => simp [Command.isPermitted, command, hperm]
  | shown => rfl

theorem name_eq (h : Alike actor x y) : x.command.name = y.command.name :=
  (List.cons.inj h.aliases_eq).1

theorem sharesName_eq {a b : Node σ} (h : Alike actor x y) (hab : Alike actor a b) :
    x.command.sharesName a.command = y.command.sharesName b.command := by
  rw [Command.sharesName, h.name_eq, hab.name_eq, Command.sharesName]

theorem hasAlias_eq (h : Alike actor x y) (token : String) :
    x.command.hasAlias token = y.command.hasAlias token := by
  rw [Command.hasAlias, h.aliases_eq, Command.hasAlias]

theorem command_eq (h : Alike actor x y) (hp : x.command.isPermitted actor = true) :
    x.command = y.command := by
  cases h with
  | hidden _ _ hf => simp [command, hf] at hp
  | shown => rfl

theorem filter_hasAlias {P : Node σ → Node σ → Prop} {xs ys : List (Node σ)}
    (h : List.Forall₂ (fun x y => Alike actor x y ∧ P x y) xs ys) (token : String) :
    List.Forall₂ (fun x y => Alike actor x y ∧ P x y) (xs.filter (·.command.hasAlias token))
      (ys.filter (·.command.hasAlias token)) := by
  refine List.rel_filter ?_ h
  intro x y hxy
  simp only [hxy.1.hasAlias_eq token]

end Alike

end CommandTree.Node
