import CommandTree.Proofs.Dispatch.Outcome

namespace CommandTree

variable {σ : Type}

structure Overloads (actor : Actor) (nodes : List (Node σ)) : Prop where
  several : 2 ≤ nodes.length
  leaves : ∀ n ∈ nodes, n.children = []
  alike : ∀ a ∈ nodes, ∀ b ∈ nodes, a.command.sharesName b.command = true
  permitted : ∀ n ∈ nodes, n.command.isPermitted actor = true
  accepted : ∀ n ∈ nodes, n.command.senderKind.accepts actor.kind = true

inductive Resolves (m : Messages) (actor : Actor) (tokens : List String) (state : σ)
    (otherwise : Delivery σ) : List (Node σ) → Delivery σ → Prop
  | nobody : Resolves m actor tokens state otherwise [] otherwise
  | acts {node : Node σ} {nodes : List (Node σ)} {d : Delivery σ} : node.Acts m actor tokens state d →
      Resolves m actor tokens state otherwise (node :: nodes) d
  | passes {node : Node σ} {nodes : List (Node σ)} {d : Delivery σ} : node.Passes actor tokens →
      Resolves m actor tokens state otherwise nodes d →
      Resolves m actor tokens state otherwise (node :: nodes) d

def OneFits (actor : Actor) (tokens : List String) (nodes : List (Node σ)) : Prop :=
  ∃ node others, nodes.Perm (node :: others) ∧ ¬ node.Passes actor tokens ∧
    ∀ n ∈ others, n.Passes actor tokens

namespace Overloads

variable {actor : Actor} {nodes others siblings : List (Node σ)}

theorem perm (h : Overloads actor nodes) (hp : others.Perm nodes) : Overloads actor others where
  several := hp.length_eq ▸ h.several
  leaves n hn := h.leaves n (hp.subset hn)
  alike a ha b hb := h.alike a (hp.subset ha) b (hp.subset hb)
  permitted n hn := h.permitted n (hp.subset hn)
  accepted n hn := h.accepted n (hp.subset hn)

theorem hasTwin (h : Overloads actor nodes) (hs : nodes.Sublist siblings) {node : Node σ}
    (hn : node ∈ nodes) : Node.hasTwin siblings node = true := by
  have hall : nodes.countP (fun other => other.command.sharesName node.command) = nodes.length :=
    List.countP_eq_length.mpr fun other ho => h.alike other ho node hn
  have hle := hs.countP_le (p := fun other => other.command.sharesName node.command)
  have hl := h.several
  simp only [Node.hasTwin, decide_eq_true_eq]
  omega

theorem opens (h : Overloads actor nodes) {tokens : List String} (hq : asksForHelp tokens = false)
    {node : Node σ} (hn : node ∈ nodes) : node.Opens actor tokens :=
  ⟨h.permitted node hn, hq, h.accepted node hn⟩

end Overloads

namespace Node

variable {m : Messages} {actor : Actor} {tokens : List String} {state : σ} {node : Node σ}
  {d d' : Delivery σ}

theorem Acts.unique (h : node.Acts m actor tokens state d) (h' : node.Acts m actor tokens state d') :
    d = d' := by
  cases h with
  | invokes hb hm =>
      cases h' with
      | invokes hb' hm' =>
          obtain rfl := Option.some.inj (hb.symm.trans hb')
          obtain rfl := MatchOutcome.matched.inj (hm.symm.trans hm')
          rfl
      | reports hb' hm' => simp [hm] at hm'
  | reports hb hm =>
      cases h' with
      | invokes hb' hm' => simp [hm] at hm'
      | reports hb' hm' =>
          obtain rfl := MatchOutcome.contextFailure.inj (hm.symm.trans hm')
          rfl

theorem run_of_opens (ho : node.Opens actor tokens) (m : Messages) (hasTwin : Bool) (state : σ) :
    node.run m actor tokens hasTwin state =
      ((node.runOwn m actor tokens state).unlessHandled (node.runBelow m actor tokens)).unlessHandled
        (node.fallback m actor hasTwin) := by
  rw [run_eq]
  simp [ho.permitted, ho.unasked, ho.accepted]

theorem runBelow_of_leaf (h : node.children = []) (m : Messages) (actor : Actor) (tokens : List String)
    (state : σ) : (node.runBelow m actor tokens state).value = .declined state := by
  cases tokens <;> simp [runBelow, h, runEach]

theorem run_of_passes (ho : node.Opens actor tokens) (hp : node.Passes actor tokens) (m : Messages)
    (hasTwin : Bool) (state : σ) :
    (node.run m actor tokens hasTwin state).value =
      ((node.runBelow m actor tokens state).unlessHandled (node.fallback m actor hasTwin)).value := by
  rw [run_of_opens ho]
  apply Logged.unlessHandled_value_congr
  exact Logged.unlessHandled_value_of_declined (runOwn_of_passes m hp state)

theorem run_acts (ho : node.Opens actor tokens) (hp : ¬ node.Passes actor tokens) (m : Messages)
    (hasTwin : Bool) (state : σ) :
    node.Acts m actor tokens state (node.run m actor tokens hasTwin state).value := by
  have ha := runOwn_acts m hp state
  have h : ((node.runOwn m actor tokens state).unlessHandled (node.runBelow m actor tokens)).value =
      (node.runOwn m actor tokens state).value := Logged.unlessHandled_value_of_handled ha.handled
  rw [run_of_opens ho, Logged.unlessHandled_value_of_handled (h ▸ ha.handled), h]
  exact ha

theorem fallback_value (m : Messages) (actor : Actor) (node : Node σ) (hasTwin : Bool) (state : σ) :
    (node.fallback m actor hasTwin state).value =
      if hasTwin then .declined state else .told (node.shownHelp m actor) state := by
  rw [fallback, helpText_eq]
  cases hasTwin <;> rfl

theorem run_leaf_of_passes (ho : node.Opens actor tokens) (hp : node.Passes actor tokens)
    (hl : node.children = []) (m : Messages) (state : σ) :
    (node.run m actor tokens true state).value = .declined state := by
  rw [run_of_passes ho hp, Logged.unlessHandled_value_of_declined (runBelow_of_leaf hl m actor tokens state),
    fallback_value, if_pos rfl]

end Node

namespace Resolves

variable {m : Messages} {actor : Actor} {tokens : List String} {state : σ} {nodes : List (Node σ)}
  {d d' otherwise otherwise' : Delivery σ}

theorem acts_or_passes (h : Resolves m actor tokens state otherwise nodes d) :
    (∃ n ∈ nodes, n.Acts m actor tokens state d) ∨ ∀ n ∈ nodes, n.Passes actor tokens := by
  induction h with
  | nobody => exact .inr (by simp)
  | acts ha => exact .inl ⟨_, List.mem_cons_self, ha⟩
  | passes hp _ ih =>
      rcases ih with ⟨n, hn, ha⟩ | ih
      · exact .inl ⟨n, List.mem_cons_of_mem _ hn, ha⟩
      · exact .inr (List.forall_mem_cons.mpr ⟨hp, ih⟩)

theorem acts_of_perm {node : Node σ} {others : List (Node σ)}
    (h : Resolves m actor tokens state otherwise nodes d) (hn : nodes.Perm (node :: others))
    (hf : ¬ node.Passes actor tokens) (hp : ∀ n ∈ others, n.Passes actor tokens) :
    node.Acts m actor tokens state d := by
  rcases h.acts_or_passes with ⟨n, hm, ha⟩ | hall
  · rcases List.mem_cons.mp (hn.subset hm) with rfl | hm
    · exact ha
    · exact absurd (hp n hm) ha.not_passes
  · exact absurd (hall node (hn.symm.subset List.mem_cons_self)) hf

theorem eq_of_perm {others : List (Node σ)} (h : Resolves m actor tokens state otherwise nodes d)
    (h' : Resolves m actor tokens state otherwise' others d') (hp : others.Perm nodes)
    (hf : OneFits actor tokens nodes) : d' = d := by
  obtain ⟨node, rest, hn, hf, hr⟩ := hf
  have ha := h.acts_of_perm hn hf hr
  have ha' := h'.acts_of_perm (hp.trans hn) hf hr
  exact ha'.unique ha

theorem eq_otherwise (h : Resolves m actor tokens state otherwise nodes d) (hp : ∀ n ∈ nodes, n.Passes actor tokens) :
    d = otherwise := by
  induction h with
  | nobody => rfl
  | acts ha => exact absurd (hp _ List.mem_cons_self) ha.not_passes
  | passes _ _ ih => exact ih fun n hn => hp n (List.mem_cons_of_mem _ hn)

theorem runEach {siblings : List (Node σ)} (ho : ∀ n ∈ nodes, n.Opens actor tokens)
    (hl : ∀ n ∈ nodes, n.children = []) (ht : ∀ n ∈ nodes, Node.hasTwin siblings n = true) :
    Resolves m actor tokens state (.declined state) nodes
      (Node.runEach m actor siblings tokens nodes state).value := by
  induction nodes with
  | nil => exact .nobody
  | cons node nodes ih =>
      obtain ⟨hon, ho⟩ := List.forall_mem_cons.mp ho
      obtain ⟨hln, hl⟩ := List.forall_mem_cons.mp hl
      obtain ⟨htn, ht⟩ := List.forall_mem_cons.mp ht
      rw [Node.runEach, htn]
      by_cases hp : node.Passes actor tokens
      · rw [Logged.unlessHandled_value_of_declined (Node.run_leaf_of_passes hon hp hln m state)]
        exact .passes hp (ih ho hl ht)
      · have ha := Node.run_acts hon hp m true state
        rw [Logged.unlessHandled_value_of_handled ha.handled]
        exact .acts ha

theorem unlessHandled {x : Logged (Delivery σ)} {next : σ → Logged (Delivery σ)}
    (h : Resolves m actor tokens state (.declined state) nodes x.value)
    (hn : (next state).value = otherwise) :
    Resolves m actor tokens state otherwise nodes (x.unlessHandled next).value := by
  generalize hd : x.value = d at h
  induction h with
  | nobody =>
      rw [Logged.unlessHandled_value_of_declined hd, hn]
      exact .nobody
  | acts ha =>
      rw [Logged.unlessHandled_value_of_handled (hd ▸ ha.handled), hd]
      exact .acts ha
  | passes hp _ ih => exact .passes hp (ih hd)

end Resolves

namespace Overloads

variable {actor : Actor} {tokens : List String} {nodes siblings : List (Node σ)}

theorem runEach (h : Overloads actor nodes) (hq : asksForHelp tokens = false)
    (hs : nodes.Sublist siblings) (m : Messages) (state : σ) :
    Resolves m actor tokens state (.declined state) nodes
      (Node.runEach m actor siblings tokens nodes state).value :=
  .runEach (fun _ hn => h.opens hq hn) h.leaves fun _ hn => h.hasTwin hs hn

theorem dispatch {first : Node σ} {others : List (Node σ)} (h : Overloads actor (first :: others))
    (hq : asksForHelp tokens = false) (m : Messages) (state : σ) :
    Resolves m actor tokens state (.told (first.shownHelp m actor) state) (first :: others)
      (dispatch m (first :: others) actor tokens state).value := by
  have hr := h.runEach hq (List.Sublist.refl _) m state
  simp only [CommandTree.dispatch, Node.helpText_eq, Logged.value_bind, Logged.value_pure]
  exact hr.unlessHandled rfl

theorem run {parent : Node σ} {token : String}
    (h : Overloads actor (parent.children.filter (·.command.hasAlias token)))
    (ho : parent.Opens actor (token :: tokens)) (hp : parent.Passes actor (token :: tokens))
    (hq : asksForHelp tokens = false) (m : Messages) (hasTwin : Bool) (state : σ) :
    Resolves m actor tokens state
      (if hasTwin then .declined state else .told (parent.shownHelp m actor) state)
      (parent.children.filter (·.command.hasAlias token))
      (parent.run m actor (token :: tokens) hasTwin state).value := by
  have hr := h.runEach hq List.filter_sublist m state
  rw [Node.run_of_passes ho hp]
  exact hr.unlessHandled (Node.fallback_value m actor parent hasTwin state)

end Overloads

theorem overloads_resolve_in_order (m : Messages) (actor : Actor) (tokens : List String) (state : σ)
    (hq : asksForHelp tokens = false) :
    (∀ first others, Overloads actor (first :: others) →
      let d := (dispatch m (first :: others) actor tokens state).value
      Resolves m actor tokens state (.told (first.shownHelp m actor) state) (first :: others) d ∧
        (OneFits actor tokens (first :: others) → ∀ nodes, nodes.Perm (first :: others) →
          (dispatch m nodes actor tokens state).value = d)) ∧
    ∀ (parent : Node σ) token hasTwin, parent.Opens actor (token :: tokens) →
      parent.Passes actor (token :: tokens) →
      Overloads actor (parent.children.filter (·.command.hasAlias token)) →
      let selected := parent.children.filter (·.command.hasAlias token)
      let d := (parent.run m actor (token :: tokens) hasTwin state).value
      Resolves m actor tokens state
          (if hasTwin then .declined state else .told (parent.shownHelp m actor) state) selected d ∧
        (OneFits actor tokens selected → ∀ children,
          (children.filter (·.command.hasAlias token)).Perm selected →
          ((Node.mk parent.command children).run m actor (token :: tokens) hasTwin state).value = d) := by
  constructor
  · intro first others h d
    have hd := h.dispatch hq m state
    refine ⟨hd, ?_⟩
    intro hf nodes hp
    cases nodes with
    | nil => simp at hp
    | cons node nodes => exact hd.eq_of_perm ((h.perm hp).dispatch hq m state) hp hf
  · intro parent token hasTwin ho hpass h selected d
    have hd := h.run ho hpass hq m hasTwin state
    refine ⟨hd, ?_⟩
    intro hf children hp
    have ho' : (Node.mk parent.command children).Opens actor (token :: tokens) :=
      ⟨ho.permitted, ho.unasked, ho.accepted⟩
    have h' : Overloads actor ((Node.mk parent.command children).children.filter (·.command.hasAlias token)) :=
      h.perm hp
    exact hd.eq_of_perm (h'.run ho' hpass hq m hasTwin state) hp hf

def adding (text : String) (parameters : List Parameter) (arguments : List Argument) : Node Unit :=
  .mk { (Command.bare "add" "math add" : Command Unit) with
    arguments, handler := some (.typed parameters fun _ _ state => ⟨state, [], .text text⟩) } []

def addOne : Node Unit :=
  adding "one" [⟨.int, false⟩] [⟨.int, "a", 0, false, false, false, none⟩]

def addTwo : Node Unit :=
  adding "two" [⟨.int, false⟩, ⟨.int, false⟩]
    [⟨.int, "a", 0, false, false, false, none⟩, ⟨.int, "b", 1, false, false, false, none⟩]

def math : Node Unit :=
  .mk { (Command.bare "math" "math" : Command Unit) with help := some "Adds up\nOne number or two" } [addOne, addTwo]

def headed : Messages :=
  { Messages.standard with helpHeader := some "Commands" }

theorem sums_resolve :
    let actor := Actor.granted "Alex" .player []
    let tokens := ["1", "2"]
    asksForHelp tokens = false ∧ Overloads actor [addOne, addTwo] ∧ OneFits actor tokens [addOne, addTwo] ∧
      math.Opens actor ("add" :: tokens) ∧ math.Passes actor ("add" :: tokens) ∧
      (dispatch .standard [addTwo, addOne] actor tokens ()).value =
        (dispatch .standard [addOne, addTwo] actor tokens ()).value ∧
      ((Node.mk math.command [addTwo, addOne]).run .standard actor ("add" :: tokens) false ()).value =
        (math.run .standard actor ("add" :: tokens) false ()).value ∧
      (math.run .standard actor ("add" :: tokens) false ()).value.messages = ["two"] ∧
      (∀ n ∈ [addOne, addTwo], n.Passes actor ["one"]) ∧ math.Opens actor ["add", "one"] ∧
      (dispatch headed [addOne, addTwo] actor ["one"] ()).value = .told "Commands\n/math add <a:int>" () ∧
      (math.run headed actor ["add", "one"] false ()).value =
        .told "Commands\n/math - Adds up\n    One number or two" () := by
  intro actor tokens
  have hq : asksForHelp tokens = false := rfl
  have ho : Overloads actor [addOne, addTwo] := by
    constructor <;> decide
  have hf : OneFits actor tokens [addOne, addTwo] := by
    refine ⟨addTwo, [addOne], .swap _ _ _, ?_, ?_⟩
    · rintro (h | h) <;> cases h
    · intro n hn
      obtain rfl := List.mem_singleton.mp hn
      exact .inr rfl
  have hm : math.Opens actor ("add" :: tokens) := ⟨rfl, rfl, rfl⟩
  have hp : math.Passes actor ("add" :: tokens) := .inl rfl
  obtain ⟨hroots, hchildren⟩ := overloads_resolve_in_order .standard actor tokens () hq
  have hr := (hroots addOne [addTwo] ho).2 hf [addTwo, addOne] (.swap _ _ _)
  have hc := (hchildren math "add" false hm hp ho).2 hf [addTwo, addOne] (.swap _ _ _)
  have hnone : ∀ n ∈ [addOne, addTwo], n.Passes actor ["one"] := by
    simp only [List.forall_mem_cons]
    exact ⟨.inr rfl, .inr rfl, by simp⟩
  have hm' : math.Opens actor ["add", "one"] := ⟨rfl, rfl, rfl⟩
  obtain ⟨hroots', hchildren'⟩ := overloads_resolve_in_order headed actor ["one"] () rfl
  have hfirst := (hroots' addOne [addTwo] ho).1.eq_otherwise hnone
  have hparent := (hchildren' math "add" false hm' (.inl rfl) ho).1.eq_otherwise hnone
  have husage : addOne.shownHelp headed actor = "Commands\n/math add <a:int>" := by decide +kernel
  have hlisting : math.shownHelp headed actor = "Commands\n/math - Adds up\n    One number or two" := by decide +kernel
  rw [husage] at hfirst
  rw [hlisting] at hparent
  exact ⟨hq, ho, hf, hm, hp, hr, hc, rfl, hnone, hm', hfirst, hparent⟩

end CommandTree
