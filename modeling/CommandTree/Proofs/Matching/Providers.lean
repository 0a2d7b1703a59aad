import CommandTree.Matching

namespace CommandTree

variable {σ : Type}

def Provider.isSilent (actor : Actor) (p : Provider) : Bool :=
  (p.supply actor).value.isNone

def Default.given (actor : Actor) : Default → Option Value
  | .literal value => some value
  | .context p => (p.supply actor).value

def Argument.whenOmitted (a : Argument) (actor : Actor) : Option Value :=
  a.default.bind (·.given actor)

def Flag.whenAbsent (f : Flag) (actor : Actor) : Option Value :=
  match f.default with
  | some d => d.given actor
  | none => if f.isSwitch = true then some (.boolean false) else none

theorem Default.resolve_value (actor : Actor) (d : Default) : (d.resolve actor).value = d.given actor := by
  cases d <;> rfl

theorem Argument.defaultFor_value (a : Argument) (actor : Actor) :
    (a.defaultFor actor).value = a.whenOmitted actor := by
  rw [defaultFor, whenOmitted]
  cases a.default with
  | none => rfl
  | some d => exact d.resolve_value actor

theorem Flag.defaultFor_value (f : Flag) (actor : Actor) : (f.defaultFor actor).value = f.whenAbsent actor := by
  rw [defaultFor, whenAbsent]
  cases f.default with
  | none => rfl
  | some d => exact d.resolve_value actor

namespace Matching

theorem failingAsserter?_value (actor : Actor) (ps : List Provider) :
    (failingAsserter? actor ps).value = ps.find? (·.isSilent actor) := by
  induction ps with
  | nil => rfl
  | cons p ps ih =>
      simp only [failingAsserter?, Logged.value_bind]
      cases h : (p.supply actor).value with
      | none => simp [Provider.isSilent, h]
      | some value => simp [Provider.isSilent, h, ih]

theorem contextSlots_value (actor : Actor) (ps : List Provider) :
    (contextSlots actor ps).value =
      match ps.find? (·.isSilent actor) with
      | some p => .error p
      | none => .ok (ps.map fun p => (p.supply actor).value) := by
  induction ps with
  | nil => rfl
  | cons p ps ih =>
      simp only [contextSlots, Logged.value_bind]
      cases h : (p.supply actor).value with
      | none => simp [Provider.isSilent, h]
      | some value =>
          have hs : p.isSilent actor = false := by simp [Provider.isSilent, h]
          simp only [Logged.value_bind, ih, List.find?_cons, hs, List.map_cons, h]
          cases ps.find? (·.isSilent actor) <;> rfl

end Matching

open Matching

theorem Command.matchTokens_value (c : Command σ) (actor : Actor) (tokens : List String) :
    (c.matchTokens actor tokens).value =
      match (extractFlags c.flags actor tokens).value with
      | none => .noMatch
      | some (positional, flagValues) =>
          match (matchPositional c.arguments actor positional).value with
          | none => .noMatch
          | some values =>
              match (c.asserters ++ c.context).find? (·.isSilent actor) with
              | some p => .contextFailure p.message
              | none => .matched (values ++ flagValues ++ c.context.map fun p => (p.supply actor).value) := by
  rw [matchTokens, Logged.value_bind]
  cases (extractFlags c.flags actor tokens).value with
  | none => rfl
  | some extracted =>
      obtain ⟨positional, flagValues⟩ := extracted
      simp only [Logged.value_bind]
      cases (matchPositional c.arguments actor positional).value with
      | none => rfl
      | some values =>
          simp only [Logged.value_bind, failingAsserter?_value, List.find?_append]
          cases c.asserters.find? (·.isSilent actor) with
          | some p => rfl
          | none =>
              simp only [Logged.value_bind, contextSlots_value, Option.none_or]
              cases c.context.find? (·.isSilent actor) <;> rfl

theorem Command.matchTokens_contextFailure {c : Command σ} {actor : Actor} {tokens : List String}
    {text : Option String} (h : (c.matchTokens actor tokens).value = .contextFailure text) :
    ∃ p ∈ c.asserters ++ c.context, p.isSilent actor = true ∧ p.message = text := by
  rw [matchTokens_value] at h
  split at h
  · simp at h
  · split at h
    · simp at h
    · split at h
      next p hp =>
        have hm : p.message = text := by simpa using h
        exact ⟨p, List.mem_of_find?_eq_some hp, List.find?_some hp, hm⟩
      next => simp at h

end CommandTree
