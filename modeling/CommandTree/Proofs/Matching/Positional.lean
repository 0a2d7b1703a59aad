import CommandTree.Proofs.Matching.Shares

namespace CommandTree.Matching

variable {actor : Actor}

theorem matchPositional_sharedOut {arguments : List Argument} {tokens : List String}
    {values : List (Option Value)} (h : (matchPositional arguments actor tokens).value = some values) :
    SharedOut (Fills actor) arguments tokens values := by
  rw [matchPositional] at h
  split at h
  · simp at h
  · simp only [Logged.value_bind] at h
    cases ha : (assign actor arguments (skipBudget arguments tokens.length) tokens).value with
    | none => simp [ha] at h
    | some slots =>
        simp only [ha] at h
        exact fillDefaults_sharedOut (assign_sharedOut ha) h

theorem isLast_of_isVariadic {arguments : List Argument}
    (hl : ∀ a ∈ arguments.dropLast, a.isVariadic = false) {i : Nat} (hi : i < arguments.length)
    (hv : arguments[i].isVariadic = true) : i + 1 = arguments.length := by
  by_contra hn
  have hd : i < arguments.dropLast.length := by
    rw [List.length_dropLast]
    omega
  have hm : arguments[i] ∈ arguments.dropLast := by
    rw [← List.getElem_dropLast hd]
    exact List.getElem_mem hd
  simp [hl _ hm] at hv

theorem flatMap_eq_of_last {shares : List Share} {i : Nat} (hi : i < shares.length)
    (hl : i + 1 = shares.length) :
    shares.flatMap (·.tokens) = (shares.take i).flatMap (·.tokens) ++ shares[i].tokens := by
  calc
    shares.flatMap (·.tokens) = (shares.take (i + 1)).flatMap (·.tokens) := by
      rw [hl, List.take_length]
    _ = (shares.take i ++ [shares[i]]).flatMap (·.tokens) := by rw [List.take_append_getElem hi]
    _ = (shares.take i).flatMap (·.tokens) ++ shares[i].tokens := by
      rw [List.flatMap_append, List.flatMap_singleton]

theorem matchPositional_uses_every_token_once (arguments : List Argument) (actor : Actor)
    (tokens : List String) (values : List (Option Value))
    (hl : ∀ a ∈ arguments.dropLast, a.isVariadic = false)
    (h : (matchPositional arguments actor tokens).value = some values) :
    values.length = arguments.length ∧ ∃ shares : List Share,
      shares.map (·.slot) = values ∧ shares.flatMap (·.tokens) = tokens ∧
      List.Forall₂ (Fills actor) arguments shares ∧
      ∀ i, (ha : i < arguments.length) → (hs : i < shares.length) → arguments[i].isVariadic = true →
        tokens = (shares.take i).flatMap (·.tokens) ++ shares[i].tokens := by
  obtain ⟨shares, rfl, rfl, hf⟩ := matchPositional_sharedOut h
  have hlength : arguments.length = shares.length := hf.length_eq
  refine ⟨by rw [List.length_map, hlength], shares, rfl, rfl, hf, ?_⟩
  intro i ha hs hv
  exact flatMap_eq_of_last hs (hlength ▸ isLast_of_isVariadic hl ha hv)

def shout : List Argument :=
  [⟨.int, "times", 0, true, false, false, some (.literal (.int 1))⟩,
    ⟨.string, "name", 1, false, false, false, none⟩, ⟨.string, "words", 2, true, true, false, none⟩]

theorem shout_skips_times :
    let tokens := ["bob", "hello", "world"]
    let values := [some (.int 1), some (.string "bob"), some (.string "hello world")]
    (∀ a ∈ shout.dropLast, a.isVariadic = false) ∧
      (matchPositional shout .console tokens).value = some values ∧
      values.length = shout.length ∧ ∃ shares : List Share,
        shares.map (·.slot) = values ∧ shares.flatMap (·.tokens) = tokens ∧
        List.Forall₂ (Fills .console) shout shares ∧
        ∀ i, (ha : i < shout.length) → (hs : i < shares.length) → shout[i].isVariadic = true →
          tokens = (shares.take i).flatMap (·.tokens) ++ shares[i].tokens := by
  intro tokens values
  have hl : ∀ a ∈ shout.dropLast, a.isVariadic = false := by simp [shout]
  have h : (matchPositional shout .console tokens).value = some values := rfl
  exact ⟨hl, h, matchPositional_uses_every_token_once shout .console tokens values hl h⟩

end CommandTree.Matching
