import CommandTree.Completion
import CommandTree.Help
import CommandTree.Proofs.Visibility.Alike

namespace CommandTree.Node

variable {σ : Type} {actor : Actor}

theorem helpAll_congr {label : String} {xs ys : List (Node σ)}
    (h : List.Forall₂ (fun x y => Alike actor x y ∧ ∀ isRequested,
      x.helpBelow actor label isRequested = y.helpBelow actor label isRequested) xs ys) :
    helpAll actor label xs = helpAll actor label ys := by
  induction h with
  | nil => rfl
  | cons hxy _ ih => rw [helpAll, helpAll, hxy.2 false, ih]

theorem helpBelow_eq_of_alike {x y : Node σ} (h : Alike actor x y) (label : String) (isRequested : Bool) :
    x.helpBelow actor label isRequested = y.helpBelow actor label isRequested := by
  induction h using Alike.induct generalizing isRequested with
  | hidden c d cs ds hp _ _ _ hq => simp [helpBelow, hp, hq]
  | shown c cs ds hc ih =>
      simp only [exists_prop] at ih
      have hempty : cs.isEmpty = ds.isEmpty := by cases hc <;> rfl
      rw [helpBelow, helpBelow, hempty, helpAll_congr ih]

theorem helpLines_eq_of_alike {x y : Node σ} (h : Alike actor x y) (label : String) :
    x.helpLines actor label = y.helpLines actor label :=
  helpBelow_eq_of_alike h label true

theorem childCandidates_eq_of_alike {xs ys : List (Node σ)} (h : List.Forall₂ (Alike actor) xs ys)
    (current : String) : childCandidates actor current xs = childCandidates actor current ys := by
  have hn : (xs.filter fun n => !n.command.hidesFromCompletion && n.command.isPermitted actor).map
        (·.command.name) =
      (ys.filter fun n => !n.command.hidesFromCompletion && n.command.isPermitted actor).map
        (·.command.name) := by
    induction h with
    | nil => rfl
    | @cons x y xs ys hxy _ ih =>
        cases hp : x.command.isPermitted actor with
        | false =>
            have hq : y.command.isPermitted actor = false := hxy.isPermitted_eq ▸ hp
            simp [hp, hq, ih]
        | true =>
            have hc := hxy.command_eq hp
            simp only [List.filter_cons, ← hc]
            split
            · simp only [List.map_cons, ← hc, ih]
            · exact ih
  simp only [childCandidates, hn]

theorem offersAll_congr {current first : String} {rest : List String} {xs ys : List (Node σ)}
    (h : List.Forall₂ (fun x y => Alike actor x y ∧
      ∀ typed, x.offers actor current typed = y.offers actor current typed) xs ys) :
    offersAll actor current first rest xs = offersAll actor current first rest ys := by
  induction h with
  | nil => rfl
  | cons hxy _ ih => rw [offersAll, offersAll, hxy.1.hasAlias_eq, hxy.2, ih]

theorem offers_eq_of_alike {x y : Node σ} (h : Alike actor x y) (current : String) (typed : List String) :
    x.offers actor current typed = y.offers actor current typed := by
  induction h using Alike.induct generalizing typed with
  | hidden c d cs ds hp _ _ _ hq => simp [offers, hp, hq]
  | shown c cs ds hc ih =>
      simp only [exists_prop] at ih
      cases typed with
      | nil => simp only [offers, childCandidates_eq_of_alike hc]
      | cons first rest => simp only [offers, offersAll_congr ih]

theorem complete_eq_of_alike {x y : Node σ} (h : Alike actor x y) (tokens : List String) :
    x.complete actor tokens = y.complete actor tokens := by
  simp only [complete, offers_eq_of_alike h]

end CommandTree.Node
