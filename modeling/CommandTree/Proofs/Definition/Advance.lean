import CommandTree.Proofs.Definition.Effect

namespace CommandTree.Definition

variable {σ : Type} {r : Registries}

def Reading.advance (r : Registries) : Reading σ → Nat → List String → Except DefinitionError (Reading σ)
  | s, _, [] => .ok s
  | s, number, raw :: lines =>
      match (s.read r number raw).value with
      | .error cause => .error ⟨number, cause⟩
      | .ok next => next.advance r (number + 1) lines

namespace Reading

theorem run_value (r : Registries) (s : Reading σ) (number : Nat) (lines : List String) :
    (run r s number lines).value = (s.advance r number lines).bind finish := by
  induction lines generalizing s number with
  | nil => rfl
  | cons raw lines ih =>
      simp only [run, advance, Logged.value_bind]
      cases (s.read r number raw).value with
      | error cause => rfl
      | ok next => exact ih next (number + 1)

theorem advance_append (r : Registries) (s : Reading σ) (number : Nat) (before after : List String) :
    s.advance r number (before ++ after) =
      (s.advance r number before).bind fun s => s.advance r (number + before.length) after := by
  induction before generalizing s number with
  | nil => rfl
  | cons raw before ih =>
      simp only [List.cons_append, advance]
      cases (s.read r number raw).value with
      | error cause => rfl
      | ok next =>
          have hnumber : number + (raw :: before).length = number + 1 + before.length := by
            rw [List.length_cons]
            omega
          rw [hnumber]
          exact ih next (number + 1)

theorem exists_of_advance_error {s : Reading σ} {number : Nat} {lines : List String} {e : DefinitionError}
    (h : s.advance r number lines = .error e) :
    ∃ before raw after s', lines = before ++ raw :: after ∧ e.line = number + before.length ∧
      s.advance r number before = .ok s' ∧ (s'.read r e.line raw).value = .error e.cause := by
  induction lines generalizing s number with
  | nil => simp [advance] at h
  | cons raw lines ih =>
      rw [advance] at h
      cases hs : (s.read r number raw).value with
      | error cause =>
          obtain rfl : ⟨number, cause⟩ = e := by simpa [hs] using h
          exact ⟨[], raw, lines, s, rfl, rfl, rfl, hs⟩
      | ok next =>
          rw [hs] at h
          obtain ⟨before, refused, after, s', rfl, hline, hbefore, hrefused⟩ := ih h
          refine ⟨raw :: before, refused, after, s', rfl, ?_, ?_, hrefused⟩
          · rw [List.length_cons]
            omega
          · rw [advance, hs]
            exact hbefore

end Reading

end CommandTree.Definition
