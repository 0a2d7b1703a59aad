import CommandTree.Definition.Tag
import CommandTree.Proofs.Definition.Parameter

namespace CommandTree

variable {σ : Type} {r : Registries}

structure Command.WellFormed (r : Registries) (c : Command σ) : Prop where
  named : c.aliases ≠ [] ∧ ∀ name ∈ c.aliases, name ≠ ""
  unbound : c.handler = none
  argumentPositions : ∀ i, (hi : i < c.arguments.length) → c.arguments[i].position = i
  flagPositions : ∀ i, (hi : i < c.flags.length) → c.flags[i].position = i
  variadicLast : ∀ a ∈ c.arguments.dropLast, a.isVariadic = false
  arguments : ∀ a ∈ c.arguments, a.WellFormed r
  flags : ∀ f ∈ c.flags, f.WellFormed r
  providers : ∀ p ∈ c.context ++ c.asserters, r.providers.get? p.name = some p

namespace Definition

open Text

structure Signature.WellFormed (r : Registries) (s : Signature) : Prop where
  argumentPositions : ∀ i, (hi : i < s.arguments.length) → s.arguments[i].position = i
  flagPositions : ∀ i, (hi : i < s.flags.length) → s.flags[i].position = i
  variadicLast : ∀ a ∈ s.arguments.dropLast, a.isVariadic = false
  arguments : ∀ a ∈ s.arguments, a.WellFormed r
  flags : ∀ f ∈ s.flags, f.WellFormed r

namespace Signature

theorem nil_wellFormed (r : Registries) : Signature.WellFormed r ⟨[], []⟩ where
  argumentPositions := by simp
  flagPositions := by simp
  variadicLast := by simp
  arguments := by simp
  flags := by simp

variable {s : Signature}

theorem WellFormed.addFlag (hs : s.WellFormed r) {f : Flag} (hf : f.WellFormed r) :
    Signature.WellFormed r ⟨s.arguments, s.flags ++ [{ f with position := s.flags.length }]⟩ where
  argumentPositions := hs.argumentPositions
  flagPositions := by
    intro i hi
    rcases Nat.lt_or_ge i s.flags.length with hlt | hge
    · rw [List.getElem_append_left hlt]
      exact hs.flagPositions i hlt
    · rw [List.getElem_append_right hge]
      simp at hi ⊢
      omega
  variadicLast := hs.variadicLast
  arguments := hs.arguments
  flags := by
    intro g hg
    rcases List.mem_append.mp hg with hg | hg
    · exact hs.flags g hg
    · rw [List.mem_singleton.mp hg]
      exact ⟨hf.registered, hf.named, hf.dashed, hf.default⟩

theorem WellFormed.addArgument (hs : s.WellFormed r) {a : Argument} (ha : a.WellFormed r)
    (hl : ∀ previous, s.arguments.getLast? = some previous → previous.isVariadic = false) :
    Signature.WellFormed r ⟨s.arguments ++ [{ a with position := s.arguments.length }], s.flags⟩ where
  argumentPositions := by
    intro i hi
    rcases Nat.lt_or_ge i s.arguments.length with hlt | hge
    · rw [List.getElem_append_left hlt]
      exact hs.argumentPositions i hlt
    · rw [List.getElem_append_right hge]
      simp at hi ⊢
      omega
  flagPositions := hs.flagPositions
  variadicLast := by
    rw [List.dropLast_concat]
    intro b hb
    cases hp : s.arguments.getLast? with
    | none => simp [List.getLast?_eq_none_iff.mp hp] at hb
    | some previous =>
        rw [← List.dropLast_append_getLast? previous hp] at hb
        rcases List.mem_append.mp hb with hb | hb
        · exact hs.variadicLast b hb
        · rw [List.mem_singleton.mp hb]
          exact hl previous hp
  arguments := by
    intro b hb
    rcases List.mem_append.mp hb with hb | hb
    · exact hs.arguments b hb
    · rw [List.mem_singleton.mp hb]
      exact ⟨ha.registered, ha.named, ha.noColon, ha.noComma, ha.noDash, ha.optional, ha.default⟩
  flags := hs.flags

theorem add_wellFormed (hs : s.WellFormed r) {d : Declaration} (hd : d.WellFormed r) {t : Signature}
    (h : s.add d = .ok t) : t.WellFormed r := by
  cases hd with
  | flag hf =>
      obtain rfl := Except.ok.inj h
      exact hs.addFlag hf
  | argument ha =>
      rw [Signature.add] at h
      split at h
      next previous hp =>
        split at h
        · simp at h
        next hv =>
          obtain rfl := Except.ok.inj h
          refine hs.addArgument ha ?_
          intro last hlast
          obtain rfl : previous = last := Option.some.inj (hp.symm.trans hlast)
          simpa using hv
      next hp =>
        obtain rfl := Except.ok.inj h
        have he : s.arguments = [] := List.getLast?_eq_none_iff.mp hp
        simpa [he] using hs.addArgument ha (by simp [hp])

theorem read_wellFormed {tokens : List (List Char)} (hs : s.WellFormed r) {t : Signature}
    (h : (Signature.read r s tokens).value = .ok t) : t.WellFormed r := by
  induction tokens generalizing s with
  | nil =>
      obtain rfl : s = t := by simpa [Signature.read] using h
      exact hs
  | cons token tokens ih =>
      simp only [Signature.read, Logged.value_bind] at h
      cases hd : (readParameter r token).value with
      | error cause => simp [hd] at h
      | ok d =>
          cases ha : s.add d with
          | error cause => simp [hd, ha] at h
          | ok extended =>
              simp only [hd, ha] at h
              exact ih (add_wellFormed hs (readParameter_wellFormed hd) ha) h

end Signature

theorem ne_empty_of_readNames {token : List Char} {name : String} {alternatives : List String}
    (h : readNames token = some (name, alternatives)) : ∀ n ∈ name :: alternatives, n ≠ "" := by
  rw [readNames] at h
  split at h
  · simp at h
  next first others _ =>
    split at h
    · simp at h
    next hn =>
      simp only [Option.some.injEq, Prod.mk.injEq] at h
      obtain ⟨rfl, rfl⟩ := h
      intro n hm
      obtain ⟨text, ht, rfl⟩ : ∃ text ∈ first :: others, String.ofList text = n := by
        simpa [eq_comm] using hm
      have he : text ≠ [] := by
        rintro rfl
        exact hn (List.any_eq_true.mpr ⟨[], ht, rfl⟩)
      simpa using he

theorem exists_signature_of_readHeader {header : List Char} {number : Nat} {parent : Option String}
    {c : Command σ} (h : (readHeader r header number parent).value = .ok c) :
    ∃ name alternatives, ∃ s : Signature, c = declareCommand name alternatives s parent number ∧
      (∀ n ∈ name :: alternatives, n ≠ "") ∧ s.WellFormed r := by
  rw [readHeader] at h
  split at h
  · simp at h
  · simp at h
  next names parameters _ =>
    split at h
    · simp at h
    next name alternatives hn =>
      simp only [Logged.value_bind] at h
      cases hs : (Signature.read r ⟨[], []⟩ parameters).value with
      | error cause => simp [hs] at h
      | ok s =>
          obtain rfl : declareCommand name alternatives s parent number = c := by simpa [hs] using h
          exact ⟨name, alternatives, s, rfl, ne_empty_of_readNames hn,
            Signature.read_wellFormed (Signature.nil_wellFormed r) hs⟩

theorem declareCommand_wellFormed {name : String} {alternatives : List String} {s : Signature}
    (hn : ∀ n ∈ name :: alternatives, n ≠ "") (hs : s.WellFormed r) (parent : Option String) (number : Nat) :
    (declareCommand name alternatives s parent number : Command σ).WellFormed r where
  named := ⟨by simp [Command.aliases], hn⟩
  unbound := rfl
  argumentPositions := hs.argumentPositions
  flagPositions := hs.flagPositions
  variadicLast := hs.variadicLast
  arguments := hs.arguments
  flags := hs.flags
  providers := by simp [declareCommand]

structure Tagged (r : Registries) (c d : Command σ) : Prop where
  same : d = { c with
    context := d.context, asserters := d.asserters, permission := d.permission, senderKind := d.senderKind,
    help := d.help, hook := d.hook, hidesChildren := d.hidesChildren
    hidesFromCompletion := d.hidesFromCompletion }
  context : ∃ added, d.context = c.context ++ added ∧ ∀ p ∈ added, r.providers.get? p.name = some p
  asserters : ∃ added, d.asserters = c.asserters ++ added ∧ ∀ p ∈ added, r.providers.get? p.name = some p

theorem registered_of_findProviders {names : List (List Char)} {ps : List Provider}
    (h : findProviders r names = .ok ps) : ∀ p ∈ ps, r.providers.get? p.name = some p := by
  induction names generalizing ps with
  | nil =>
      obtain rfl := Except.ok.inj h
      simp
  | cons name names ih =>
      rw [findProviders] at h
      cases hp : findProvider r name with
      | error cause => simp [hp] at h
      | ok p =>
          cases hr : findProviders r names with
          | error cause => simp [hp, hr] at h
          | ok rest =>
              obtain rfl : p :: rest = ps := by simpa [hp, hr] using h
              exact List.forall_mem_cons.mpr ⟨registered_of_findProvider hp, ih hr⟩

theorem eq_ok_of_required {α : Type} {tag : String} {value : List Char}
    {f : List Char → Except DefinitionCause α} {a : α} (h : (required tag value >>= f) = .ok a) :
    f value = .ok a := by
  rw [required] at h
  split at h
  · simp [bind, Except.bind] at h
  · exact h

theorem eq_ok_of_findProviders {α : Type} {names : List (List Char)}
    {f : List Provider → Except DefinitionCause α} {a : α} (h : (findProviders r names >>= f) = .ok a) :
    ∃ ps, (∀ p ∈ ps, r.providers.get? p.name = some p) ∧ f ps = .ok a := by
  cases hp : findProviders r names with
  | error cause => simp [hp, bind, Except.bind] at h
  | ok ps => exact ⟨ps, registered_of_findProviders hp, by simpa [hp, bind, Except.bind] using h⟩

theorem Tagged.ofUntouched {c d : Command σ} (hs : d = { c with
      permission := d.permission, senderKind := d.senderKind, help := d.help, hook := d.hook
      hidesChildren := d.hidesChildren, hidesFromCompletion := d.hidesFromCompletion }) : Tagged r c d := by
  rw [hs]
  exact ⟨rfl, ⟨[], by simp⟩, ⟨[], by simp⟩⟩

theorem tagged_of_setSender {c d : Command σ} {tag : String} {value : List Char}
    (h : applyTag.setSender c tag value = .ok d) : Tagged r c d := by
  have h := eq_ok_of_required h
  split at h
  · obtain rfl := Except.ok.inj h
    exact .ofUntouched rfl
  · simp at h

theorem tagged_of_applyTag {c d : Command σ} {tag : String} {value : List Char}
    (h : applyTag r c tag value = .ok d) : Tagged r c d := by
  unfold applyTag at h
  split at h
  · obtain rfl := Except.ok.inj h
    exact .ofUntouched rfl
  · have h := eq_ok_of_required h
    obtain rfl := Except.ok.inj h
    exact .ofUntouched rfl
  · exact tagged_of_setSender h
  · exact tagged_of_setSender h
  · obtain ⟨ps, hp, h⟩ := eq_ok_of_findProviders (eq_ok_of_required h)
    obtain rfl := Except.ok.inj h
    exact ⟨rfl, ⟨ps, rfl, hp⟩, ⟨[], by simp⟩⟩
  · obtain ⟨ps, hp, h⟩ := eq_ok_of_findProviders (eq_ok_of_required h)
    obtain rfl := Except.ok.inj h
    exact ⟨rfl, ⟨[], by simp⟩, ⟨ps, rfl, hp⟩⟩
  · obtain rfl := Except.ok.inj h
    exact .ofUntouched rfl
  · obtain rfl := Except.ok.inj h
    exact .ofUntouched rfl
  · have h := eq_ok_of_required h
    obtain rfl := Except.ok.inj h
    exact .ofUntouched rfl
  · simp at h

theorem tagged_of_applyLine {c d : Command σ} {text : List Char} (h : applyLine r c text = .ok d) :
    Tagged r c d :=
  tagged_of_applyTag h

theorem Tagged.line_eq {c d : Command σ} (h : Tagged r c d) : d.line = c.line := by
  rw [h.same]

theorem Tagged.path_eq {c d : Command σ} (h : Tagged r c d) : d.path = c.path := by
  rw [h.same]

theorem Tagged.wellFormed {c d : Command σ} (h : Tagged r c d) (hc : c.WellFormed r) : d.WellFormed r := by
  obtain ⟨hs, ⟨context, hcontext, hcr⟩, ⟨asserters, hasserters, har⟩⟩ := h
  rw [hs]
  refine ⟨hc.named, hc.unbound, hc.argumentPositions, hc.flagPositions, hc.variadicLast, hc.arguments,
    hc.flags, ?_⟩
  intro p hp
  rw [hcontext, hasserters] at hp
  simp only [List.mem_append] at hp
  rcases hp with (hp | hp) | (hp | hp)
  · exact hc.providers p (List.mem_append_left _ hp)
  · exact hcr p hp
  · exact hc.providers p (List.mem_append_right _ hp)
  · exact har p hp

end Definition

end CommandTree
