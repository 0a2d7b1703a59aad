import CommandTree.Proofs.Dispatch.Admission
import CommandTree.Proofs.Dispatch.Delivery
import CommandTree.Proofs.Help
import CommandTree.Proofs.Matching.Providers

namespace CommandTree

variable {σ : Type}

inductive Node.MaySay (m : Messages) (actor : Actor) (node : Node σ) : String → Prop
  | denial : node.command.isPermitted actor = false → MaySay m actor node m.noPermission
  | wrongSender : node.command.senderKind.accepts actor.kind = false →
      MaySay m actor node (m.wrongSenderFor node.command.senderKind)
  | provider {p : Provider} {text : String} : p ∈ node.command.asserters ++ node.command.context →
      p.isSilent actor = true → p.message = some text → MaySay m actor node text
  | help : MaySay m actor node (node.shownHelp m actor)

inductive Node.Acts (m : Messages) (actor : Actor) (tokens : List String) (state : σ) (node : Node σ) :
    Delivery σ → Prop
  | invokes {handler : Handler σ} {slots : List (Option Value)} : node.command.handler = some handler →
      (node.command.matchTokens actor tokens).value = .matched slots →
      Acts m actor tokens state node (Invocation.delivery m actor ⟨node.command, handler, slots⟩ state)
  | reports {handler : Handler σ} {text : Option String} : node.command.handler = some handler →
      (node.command.matchTokens actor tokens).value = .contextFailure text →
      Acts m actor tokens state node (.told (text.getD (node.shownHelp m actor)) state)

inductive Outcome (m : Messages) (actor : Actor) (roots : List (Node σ)) (tokens : List String)
    (state : σ) : Delivery σ → Prop
  | declined : Outcome m actor roots tokens state (.declined state)
  | told {node : Node σ} {text : String} : node ∈ Node.preorderAll roots → node.MaySay m actor text →
      Outcome m actor roots tokens state (.told text state)
  | invoked {root : Node σ} {path : List (Node σ)} {call : Invocation σ} : root ∈ roots →
      Admits actor tokens (root :: path) call →
      Outcome m actor roots tokens state (call.delivery m actor state)

namespace Outcome

variable {m : Messages} {actor : Actor} {roots : List (Node σ)} {tokens : List String} {state : σ}
  {d : Delivery σ}

theorem told_self {node : Node σ} {text : String} (h : node.MaySay m actor text) :
    Outcome m actor [node] tokens state (.told text state) :=
  told (Node.mem_preorderAll.mpr ⟨node, List.mem_singleton_self node, node.self_mem_preorder⟩) h

theorem eq_declined (h : Outcome m actor roots tokens state d) (hd : d.handled = false) :
    d = .declined state := by
  cases h with
  | declined => rfl
  | told => simp at hd
  | invoked => simp [Invocation.delivery] at hd

theorem mono {more : List (Node σ)} (h : Outcome m actor roots tokens state d)
    (hs : ∀ n ∈ roots, n ∈ more) : Outcome m actor more tokens state d := by
  cases h with
  | declined => exact declined
  | told hn ht =>
      obtain ⟨root, hr, hn⟩ := Node.mem_preorderAll.mp hn
      exact told (Node.mem_preorderAll.mpr ⟨root, hs root hr, hn⟩) ht
  | invoked hr ha => exact invoked (hs _ hr) ha

theorem below {node : Node σ} {token : String} {rest : List String}
    (ho : node.Opens actor (token :: rest)) (hp : node.Passes actor (token :: rest))
    (h : Outcome m actor (node.children.filter (·.command.hasAlias token)) rest state d) :
    Outcome m actor [node] (token :: rest) state d := by
  cases h with
  | declined => exact declined
  | told hn ht =>
      obtain ⟨child, hc, hn⟩ := Node.mem_preorderAll.mp hn
      have hn := Node.mem_preorder_of_mem_children (List.mem_of_mem_filter hc) hn
      exact told (Node.mem_preorderAll.mpr ⟨node, List.mem_singleton_self node, hn⟩) ht
  | invoked hc ha =>
      obtain ⟨hc, hn⟩ := List.mem_filter.mp hc
      exact invoked (List.mem_singleton_self node) (ha.cons ho hp hc hn)

theorem unlessHandled {x : Logged (Delivery σ)} {next : σ → Logged (Delivery σ)}
    (hx : Outcome m actor roots tokens state x.value)
    (hn : x.value = .declined state → Outcome m actor roots tokens state (next state).value) :
    Outcome m actor roots tokens state (x.unlessHandled next).value := by
  cases h : x.value.handled with
  | true =>
      rw [Logged.unlessHandled_value_of_handled h]
      exact hx
  | false =>
      have hd := hx.eq_declined h
      rw [Logged.unlessHandled_value_of_declined hd]
      exact hn hd

end Outcome

namespace Node

section Own

variable {m : Messages} {actor : Actor} {tokens : List String} {state : σ} {node : Node σ} {d : Delivery σ}

theorem Acts.handled (h : node.Acts m actor tokens state d) : d.handled = true := by
  cases h <;> rfl

theorem Acts.not_passes (h : node.Acts m actor tokens state d) : ¬ node.Passes actor tokens := by
  cases h with
  | invokes hb hm => simp [Passes, hb, hm]
  | reports hb hm => simp [Passes, hb, hm]

theorem Acts.outcome (h : node.Acts m actor tokens state d) (ho : node.Opens actor tokens) :
    Outcome m actor [node] tokens state d := by
  cases h with
  | invokes hb hm => exact .invoked (List.mem_singleton_self node) (.single ho hb hm)
  | @reports _ text hb hm =>
      cases text with
      | none => exact .told_self .help
      | some text =>
          obtain ⟨p, hp, hs, ht⟩ := Command.matchTokens_contextFailure hm
          exact .told_self (.provider hp hs ht)

theorem runOwn_of_passes (m : Messages) (h : node.Passes actor tokens) (state : σ) :
    (node.runOwn m actor tokens state).value = .declined state := by
  rw [runOwn]
  cases hb : node.command.handler with
  | none => rfl
  | some handler =>
      have hm : (node.command.matchTokens actor tokens).value = .noMatch := by simpa [Passes, hb] using h
      simp [hm]

theorem runOwn_acts (m : Messages) (h : ¬ node.Passes actor tokens) (state : σ) :
    node.Acts m actor tokens state (node.runOwn m actor tokens state).value := by
  rw [runOwn]
  cases hb : node.command.handler with
  | none => exact absurd (.inl hb) h
  | some handler =>
      simp only [Logged.value_bind]
      cases hm : (node.command.matchTokens actor tokens).value with
      | noMatch => exact absurd (.inr hm) h
      | matched slots =>
          rw [Invocation.run_value]
          exact .invokes hb hm
      | contextFailure text =>
          cases text with
          | some text => exact .reports hb hm
          | none =>
              rw [helpText_eq]
              exact .reports hb hm

theorem runOwn_outcome (m : Messages) (ho : node.Opens actor tokens) (state : σ) :
    Outcome m actor [node] tokens state (node.runOwn m actor tokens state).value := by
  by_cases hp : node.Passes actor tokens
  · rw [runOwn_of_passes m hp]
    exact .declined
  · exact (runOwn_acts m hp state).outcome ho

theorem passes_of_runOwn_declined (h : (node.runOwn m actor tokens state).value = .declined state) :
    node.Passes actor tokens := by
  by_contra hp
  have hd := (runOwn_acts m hp state).handled
  simp [h] at hd

end Own

variable (m : Messages) (actor : Actor)

theorem fallback_outcome (node : Node σ) (tokens : List String) (hasTwin : Bool) (state : σ) :
    Outcome m actor [node] tokens state (node.fallback m actor hasTwin state).value := by
  rw [fallback, helpText_eq]
  split
  · exact .declined
  · exact .told_self .help

theorem runEach_outcome (siblings nodes : List (Node σ)) {tokens : List String}
    (h : ∀ n ∈ nodes, ∀ hasTwin state,
      Outcome m actor [n] tokens state (n.run m actor tokens hasTwin state).value) (state : σ) :
    Outcome m actor nodes tokens state (runEach m actor siblings tokens nodes state).value := by
  induction nodes with
  | nil => exact .declined
  | cons node nodes ih =>
      rw [runEach]
      have hn := h node List.mem_cons_self (hasTwin siblings node) state
      refine .unlessHandled (hn.mono (by simp)) fun _ => ?_
      have hs := ih fun n hm => h n (List.mem_cons_of_mem node hm)
      exact hs.mono fun n hm => List.mem_cons_of_mem node hm

theorem run_outcome (node : Node σ) (tokens : List String) (hasTwin : Bool) (state : σ) :
    Outcome m actor [node] tokens state (node.run m actor tokens hasTwin state).value := by
  -- The checks come first and each may end the run; only a node that passed them all and whose handler
  -- declined leaves the call to its subcommands, for which the induction speaks.
  induction node generalizing tokens hasTwin state with
  | mk c children ih =>
      rw [run_eq, helpText_eq]
      split
      · next hp => exact .told_self (.denial (by simpa using hp))
      next hp =>
      split
      · exact .told_self .help
      next hh =>
      split
      · next ha => exact .told_self (.wrongSender (by simpa using ha))
      next ha =>
      have ho : (mk c children).Opens actor tokens :=
        ⟨by simpa using hp, by simpa using hh, by simpa using ha⟩
      refine .unlessHandled ?_ fun _ => fallback_outcome m actor _ tokens hasTwin state
      refine .unlessHandled (runOwn_outcome m ho state) fun hd => ?_
      have hpass := passes_of_runOwn_declined hd
      cases tokens with
      | nil => exact .declined
      | cons first rest =>
          have hc : ∀ n ∈ children.filter (·.command.hasAlias first), ∀ hasTwin state,
              Outcome m actor [n] rest state (n.run m actor rest hasTwin state).value :=
            fun n hn hasTwin state => ih n (List.mem_of_mem_filter hn) rest hasTwin state
          exact .below ho hpass (runEach_outcome m actor children _ hc state)

theorem runAmong_outcome (siblings : List (Node σ)) (first : String) (rest : List String)
    (nodes : List (Node σ)) (state : σ) :
    Outcome m actor nodes rest state (runAmong m actor siblings first rest nodes state).value := by
  rw [runAmong_eq_runEach]
  have h := runEach_outcome m actor siblings (nodes.filter (·.command.hasAlias first))
    (fun n _ => n.run_outcome m actor rest) state
  exact h.mono fun n hn => List.mem_of_mem_filter hn

end Node

theorem dispatch_outcome (m : Messages) (actor : Actor) (first : Node σ) (others : List (Node σ))
    (tokens : List String) (state : σ) :
    Outcome m actor (first :: others) tokens state
        (dispatch m (first :: others) actor tokens state).value ∧
      (dispatch m (first :: others) actor tokens state).value.handled = true := by
  have h := Node.runEach_outcome m actor (first :: others) (first :: others)
    (fun n _ => n.run_outcome m actor tokens) state
  simp only [dispatch, Node.helpText_eq, Logged.value_bind, Logged.value_pure]
  constructor
  · refine h.unlessHandled fun _ => ?_
    have hf : first ∈ Node.preorderAll (first :: others) :=
      Node.mem_preorderAll.mpr ⟨first, List.mem_cons_self, first.self_mem_preorder⟩
    exact .told hf .help
  · cases hr : (Node.runEach m actor (first :: others) tokens (first :: others) state).value.handled with
    | true => rw [Logged.unlessHandled_value_of_handled hr, hr]
    | false =>
        rw [Logged.unlessHandled_value_of_declined (h.eq_declined hr)]
        rfl

end CommandTree
