import CommandTree.Proofs.Binding
import CommandTree.Proofs.Definition.Roots
import CommandTree.Proofs.Matching.FlagValues
import CommandTree.Proofs.Matching.Positional
import CommandTree.Proofs.Matching.Providers

namespace CommandTree

open Matching

variable {σ : Type}

structure Command.Filled (c : Command σ) (actor : Actor) (positional : List String)
    (found : List (Nat × Value)) (values : List (Option Value)) : Prop where
  length : values.length + 1 = c.expectedArity
  arguments : SharedOut (Fills actor) c.arguments positional (values.take c.arguments.length)
  flags : ∀ i, (hi : i < c.flags.length) → ∃ slot, values[c.arguments.length + i]? = some slot ∧
    FlagSlot actor found i c.flags[i] slot
  context : values.drop (c.arguments.length + c.flags.length) = c.context.map fun p => (p.supply actor).value
  supplied : ∀ p ∈ c.context, (p.supply actor).value ≠ none

namespace Command

variable {c : Command σ} {actor : Actor} {tokens : List String}

def Fits (c : Command σ) (actor : Actor) (tokens : List String) (positional : List String)
    (argumentValues flagValues : List (Option Value)) : Prop :=
  (extractFlags c.flags actor tokens).value = some (positional, flagValues) ∧
    (matchPositional c.arguments actor positional).value = some argumentValues

inductive Verdict (c : Command σ) (actor : Actor) (tokens : List String) : MatchOutcome → Prop
  | flagsRefused : (extractFlags c.flags actor tokens).value = none → Verdict c actor tokens .noMatch
  | argumentsRefused {positional : List String} {flagValues : List (Option Value)} :
      (extractFlags c.flags actor tokens).value = some (positional, flagValues) →
      (matchPositional c.arguments actor positional).value = none → Verdict c actor tokens .noMatch
  | unsupplied {positional : List String} {argumentValues flagValues : List (Option Value)} {p : Provider} :
      c.Fits actor tokens positional argumentValues flagValues →
      (c.asserters ++ c.context).find? (·.isSilent actor) = some p →
      Verdict c actor tokens (.contextFailure p.message)
  | matched {positional : List String} {argumentValues flagValues : List (Option Value)} :
      c.Fits actor tokens positional argumentValues flagValues →
      (c.asserters ++ c.context).find? (·.isSilent actor) = none →
      Verdict c actor tokens
        (.matched (argumentValues ++ flagValues ++ c.context.map fun p => (p.supply actor).value))

theorem matchTokens_verdict (c : Command σ) (actor : Actor) (tokens : List String) :
    c.Verdict actor tokens (c.matchTokens actor tokens).value := by
  rw [matchTokens_value]
  cases hx : (extractFlags c.flags actor tokens).value with
  | none => exact .flagsRefused hx
  | some extracted =>
      obtain ⟨positional, flagValues⟩ := extracted
      cases hv : (matchPositional c.arguments actor positional).value with
      | none =>
          simp only [hv]
          exact .argumentsRefused hx hv
      | some argumentValues =>
          cases hf : (c.asserters ++ c.context).find? (·.isSilent actor) with
          | some p =>
              simp only [hv]
              exact .unsupplied ⟨hx, hv⟩ hf
          | none =>
              simp only [hv]
              exact .matched ⟨hx, hv⟩ hf

theorem matchTokens_eq_noMatch_iff :
    (c.matchTokens actor tokens).value = .noMatch ↔
      (extractFlags c.flags actor tokens).value = none ∨
        ∃ positional flagValues, (extractFlags c.flags actor tokens).value = some (positional, flagValues) ∧
          (matchPositional c.arguments actor positional).value = none := by
  constructor
  · intro h
    have hv := c.matchTokens_verdict actor tokens
    rw [h] at hv
    cases hv with
    | flagsRefused hx => exact .inl hx
    | argumentsRefused hx hv => exact .inr ⟨_, _, hx, hv⟩
  · rintro (hx | ⟨positional, flagValues, hx, hv⟩)
    · simp [matchTokens_value, hx]
    · simp [matchTokens_value, hx, hv]

theorem matchTokens_eq_contextFailure_iff {text : Option String} :
    (c.matchTokens actor tokens).value = .contextFailure text ↔
      (∃ positional argumentValues flagValues, c.Fits actor tokens positional argumentValues flagValues) ∧
        ∃ p, (c.asserters ++ c.context).find? (·.isSilent actor) = some p ∧ p.message = text := by
  constructor
  · intro h
    have hv := c.matchTokens_verdict actor tokens
    rw [h] at hv
    cases hv with
    | unsupplied hfits hp => exact ⟨⟨_, _, _, hfits⟩, _, hp, rfl⟩
  · rintro ⟨⟨positional, argumentValues, flagValues, hx, hv⟩, p, hp, rfl⟩
    simp [matchTokens_value, hx, hv, hp]

theorem filled_of_matched (hp : ∀ i, (hi : i < c.flags.length) → c.flags[i].position = i)
    {values : List (Option Value)} (h : (c.matchTokens actor tokens).value = .matched values) :
    ∃ positional found, Separated c.flags actor tokens positional found ∧
      c.Fits actor tokens positional (values.take c.arguments.length)
        ((values.drop c.arguments.length).take c.flags.length) ∧
      c.Filled actor positional found values := by
  have hv := c.matchTokens_verdict actor tokens
  rw [h] at hv
  cases hv with
  | @matched positional argumentValues flagValues hfits hsilent =>
    obtain ⟨found, hs, hf, hslots⟩ := extractFlags_separated hp hfits.1
    have hshares := matchPositional_sharedOut hfits.2
    have ha := hshares.length_eq
    rw [List.append_assoc]
    have htake (tail : List (Option Value)) : (argumentValues ++ tail).take c.arguments.length = argumentValues :=
      List.take_left' ha
    have hdrop (tail : List (Option Value)) : (argumentValues ++ tail).drop c.arguments.length = tail :=
      List.drop_left' ha
    refine ⟨positional, found, hs, ?_, ?_, ?_, ?_, ?_, ?_⟩
    · rw [htake, hdrop, List.take_left' hf]
      exact hfits
    · simp only [List.length_append, List.length_map, ha, hf, Command.expectedArity]
      omega
    · rw [htake]
      exact hshares
    · intro i hi
      obtain ⟨slot, hslot, hfs⟩ := hslots i hi
      refine ⟨slot, ?_, hfs⟩
      rw [← ha, List.getElem?_append_right (Nat.le_add_right _ _), Nat.add_sub_cancel_left,
        List.getElem?_append_left (hf ▸ hi)]
      exact hslot
    · rw [← List.drop_drop, hdrop, List.drop_left' hf]
    · intro p hp hn
      have := List.find?_eq_none.mp hsilent p (List.mem_append_right _ hp)
      simp [Provider.isSilent, hn] at this

end Command

structure Command.Serves (c : Command σ) (handler : Handler σ) (actor : Actor) (tokens : List String) :
    Prop where
  matched : ∀ values, (c.matchTokens actor tokens).value = .matched values →
    values.length + 1 = handler.arity ∧
      ∃ positional found, Separated c.flags actor tokens positional found ∧
        c.Fits actor tokens positional (values.take c.arguments.length)
          ((values.drop c.arguments.length).take c.flags.length) ∧
        c.Filled actor positional found values
  noMatch : (c.matchTokens actor tokens).value = .noMatch ↔
    (extractFlags c.flags actor tokens).value = none ∨
      ∃ positional flagValues, (extractFlags c.flags actor tokens).value = some (positional, flagValues) ∧
        (matchPositional c.arguments actor positional).value = none
  contextFailure : ∀ text, (c.matchTokens actor tokens).value = .contextFailure text ↔
    (∃ positional argumentValues flagValues, c.Fits actor tokens positional argumentValues flagValues) ∧
      ∃ p, (c.asserters ++ c.context).find? (·.isSilent actor) = some p ∧ p.message = text

namespace Node

variable {r : Registries} {source : String} {roots : List (Node σ)} {tables : List (HookTable σ)} {n : Node σ}

theorem wellFormed_of_bound (hroots : (Definition.readText r source).value = .ok roots)
    (hn : n ∈ preorderAll (bindAll tables roots).value.result) :
    ({ n.command with handler := none } : Command σ).WellFormed r := by
  obtain ⟨m, hm, hb⟩ := bindAll_allBoundFrom tables roots n hn
  have hw := Definition.wellFormed_of_readText hroots hm
  have he : ({ n.command with handler := none } : Command σ) = m.command := by
    rw [hb.same, ← hw.unbound]
  rw [he]
  exact hw

theorem handler_of_bound (hroots : (Definition.readText r source).value = .ok roots)
    (hn : n ∈ preorderAll (bindAll tables roots).value.result) {handler : Handler σ}
    (hh : n.command.handler = some handler) : handler.arity = n.command.expectedArity ∧
      n.command.hook.bind (HookTable.firstOf tables) = some handler := by
  obtain ⟨m, hm, hb⟩ := bindAll_allBoundFrom tables roots n hn
  exact hb.of_handler (Definition.wellFormed_of_readText hroots hm).unbound hh

theorem exists_of_views {read : Except DefinitionError (List (Node σ))} {β : Type} {view : Node σ → β}
    {views : List β} (h : (read.toOption.map fun roots =>
      (preorderAll (bindAll tables roots).value.result).map view) = some views) {v : β} (hv : v ∈ views) :
    ∃ roots, read = .ok roots ∧ ∃ n ∈ preorderAll (bindAll tables roots).value.result, view n = v := by
  obtain ⟨roots, hr, hviews⟩ := Definition.exists_roots_of_toOption h
  rw [← hviews] at hv
  obtain ⟨n, hn, he⟩ := List.mem_map.mp hv
  exact ⟨roots, hr, n, hn, he⟩

end Node

theorem bound_handler_receives_its_slots (r : Registries) (source : String) (roots : List (Node σ))
    (hroots : (Definition.readText r source).value = .ok roots) (tables : List (HookTable σ)) (n : Node σ)
    (hn : n ∈ Node.preorderAll (Node.bindAll tables roots).value.result) (handler : Handler σ)
    (hh : n.command.handler = some handler) (actor : Actor) (tokens : List String) :
    n.command.Serves handler actor tokens := by
  have hp := (Node.wellFormed_of_bound hroots hn).flagPositions
  obtain ⟨harity, -⟩ := Node.handler_of_bound hroots hn hh
  refine ⟨?_, Command.matchTokens_eq_noMatch_iff, fun _ => Command.matchTokens_eq_contextFailure_iff⟩
  intro values hmatched
  obtain ⟨positional, found, hs, hfits, hfilled⟩ := Command.filled_of_matched (c := n.command) hp hmatched
  rw [harity]
  exact ⟨hfilled.length, positional, found, hs, hfits, hfilled⟩

def payParameters : List Parameter :=
  [⟨.long, false⟩, ⟨.string, true⟩, ⟨.long, false⟩, ⟨.boolean, false⟩, ⟨.any, false⟩]

def countsSlots (_ : Actor) (taken : List (Option Value)) (seen : Nat) : BodyResult Nat :=
  ⟨seen + taken.length, [], .text "paid"⟩

def payHooks : HookTable Nat :=
  ⟨[("pay", .typed payParameters countsSlots)]⟩

def paySource : String :=
  "pay \x7b\n  all int:amount string:note...? long:--limit,-l(9) --quiet \x7b\n    context world\n    hook pay\n"
    ++ "  \x7d\n\x7d"

def payer : Actor :=
  .granted "Alex" .player []

def paySlots : List (Option Value) :=
  [some (.int 5), none, some (.long 9), some (.boolean true), some (.string "Alex")]

theorem pay_receives_its_slots :
    ∃ roots, (Definition.readText Definition.withWorld paySource).value = .ok roots ∧
      ∃ n ∈ Node.preorderAll (Node.bindAll [payHooks] roots).value.result, ∃ handler,
        n.command.handler = some handler ∧
          (n.command.matchTokens payer ["5", "--quiet"]).value = .matched paySlots ∧
          (n.command.matchTokens payer ["five"]).value = .noMatch ∧
          ∀ actor tokens, n.command.Serves handler actor tokens := by
  have hread : ((Definition.readText Definition.withWorld paySource).value.toOption.map fun roots =>
      (Node.preorderAll (Node.bindAll [payHooks] roots).value.result).map fun n =>
        (n.command.handler.isSome, (n.command.matchTokens payer ["5", "--quiet"]).value,
          (n.command.matchTokens payer ["five"]).value)) =
      some [(false, .noMatch, .noMatch), (true, .matched paySlots, .noMatch)] := by
    decide +kernel
  obtain ⟨roots, h, n, hn, hview⟩ :=
    Node.exists_of_views hread (List.mem_cons_of_mem _ (List.mem_singleton_self _))
  simp only [Prod.mk.injEq] at hview
  obtain ⟨hsome, hmatched, hrefused⟩ := hview
  obtain ⟨handler, hh⟩ := Option.isSome_iff_exists.mp hsome
  exact ⟨roots, h, n, hn, handler, hh, hmatched, hrefused, fun actor tokens =>
    bound_handler_receives_its_slots Definition.withWorld paySource roots h [payHooks] n hn handler hh actor tokens⟩

end CommandTree
