import CommandTree.Proofs.Definition.Derivation
import CommandTree.Proofs.Definition.Effect

namespace CommandTree

variable {σ : Type}

inductive Registration where
  | type (type : ArgumentType)
  | provider (provider : Provider)

namespace Registries

def register (r : Registries) : Registration → Registries
  | .type type =>
      match (r.types.register type).value with
      | .ok types => { r with types }
      | .error _ => r
  | .provider provider =>
      match (r.providers.register provider).value with
      | .ok providers => { r with providers }
      | .error _ => r

def registerAll (r : Registries) (calls : List Registration) : Registries :=
  calls.foldl register r

structure Extends (r' r : Registries) : Prop where
  types : ∀ name type, r.types.get? name = some type → r'.types.get? name = some type
  providers : ∀ name provider, r.providers.get? name = some provider → r'.providers.get? name = some provider

theorem Extends.refl (r : Registries) : r.Extends r :=
  ⟨fun _ _ h => h, fun _ _ h => h⟩

theorem Extends.trans {r r' r'' : Registries} (h : r''.Extends r') (h' : r'.Extends r) : r''.Extends r :=
  ⟨fun _ _ hr => h.types _ _ (h'.types _ _ hr), fun _ _ hr => h.providers _ _ (h'.providers _ _ hr)⟩

end Registries

namespace TypeTable

variable {t t' : TypeTable} {type : ArgumentType}

theorem eq_of_register (h : (t.register type).value = .ok t') :
    isValidName type.name = true ∧ t.get? type.name = none ∧ t' = ⟨t.entries ++ [type]⟩ := by
  rw [register] at h
  split at h
  · simp at h
  next hvalid =>
    split at h
    · simp at h
    next hnew =>
      have ht : t' = ⟨t.entries ++ [type]⟩ := by simpa [eq_comm] using h
      exact ⟨by simpa using hvalid, by simpa [contains] using hnew, ht⟩

theorem get?_of_register {other : ArgumentType} {name : String} (h : (t.register type).value = .ok t')
    (hg : t.get? name = some other) : t'.get? name = some other := by
  obtain ⟨-, -, rfl⟩ := eq_of_register h
  rw [get?] at hg ⊢
  rw [List.find?_append, hg, Option.some_or]

structure WellFormed (t : TypeTable) : Prop where
  valid : ∀ type ∈ t.entries, isValidName type.name = true
  found : ∀ type ∈ t.entries, t.get? type.name = some type

theorem empty_wellFormed : empty.WellFormed where
  valid := by simp [empty]
  found := by simp [empty]

theorem WellFormed.register (ht : t.WellFormed) (h : (t.register type).value = .ok t') : t'.WellFormed where
  valid := by
    obtain ⟨hvalid, -, rfl⟩ := eq_of_register h
    intro other ho
    rcases List.mem_append.mp ho with ho | ho
    · exact ht.valid other ho
    · rwa [List.mem_singleton.mp ho]
  found := by
    intro other ho
    obtain ⟨-, hnew, ht'⟩ := eq_of_register h
    rw [ht'] at ho
    rcases List.mem_append.mp ho with ho | ho
    · exact get?_of_register h (ht.found other ho)
    · obtain rfl := List.mem_singleton.mp ho
      rw [get?] at hnew
      rw [ht', get?, List.find?_append, hnew]
      simp

theorem WellFormed.name_ne_nil (ht : t.WellFormed) (hm : type ∈ t.entries) : type.name.toList ≠ [] := by
  have hvalid := ht.valid type hm
  simp only [isValidName, Bool.and_eq_true, Bool.not_eq_true'] at hvalid
  simpa using hvalid.1

theorem WellFormed.isReserved_eq (ht : t.WellFormed) (hm : type ∈ t.entries) {c : Char} (hc : c ∈ type.name.toList) :
    isReserved c = false := by
  have hvalid := ht.valid type hm
  simp only [isValidName, Bool.and_eq_true, Bool.not_eq_true', List.any_eq_false] at hvalid
  simpa using hvalid.2 c hc

end TypeTable

theorem ProviderTable.eq_of_register {t t' : ProviderTable} {provider : Provider}
    (h : (t.register provider).value = .ok t') :
    isValidName provider.name = true ∧ t' = ⟨t.entries ++ [provider]⟩ := by
  rw [register] at h
  split at h
  · simp at h
  next hvalid =>
    split at h
    · simp at h
    · exact ⟨by simpa using hvalid, by simpa [eq_comm] using h⟩

theorem ProviderTable.get?_of_register {t t' : ProviderTable} {provider other : Provider} {name : String}
    (h : (t.register provider).value = .ok t') (hg : t.get? name = some other) : t'.get? name = some other := by
  obtain ⟨-, rfl⟩ := eq_of_register h
  rw [get?] at hg ⊢
  rw [List.find?_append, hg, Option.some_or]

namespace Registries

theorem register_extends (r : Registries) (call : Registration) : (r.register call).Extends r := by
  cases call with
  | type type =>
      rw [register]
      cases h : (r.types.register type).value with
      | error e => exact .refl r
      | ok types => exact ⟨fun _ _ hg => TypeTable.get?_of_register h hg, fun _ _ hg => hg⟩
  | provider provider =>
      rw [register]
      cases h : (r.providers.register provider).value with
      | error e => exact .refl r
      | ok providers => exact ⟨fun _ _ hg => hg, fun _ _ hg => ProviderTable.get?_of_register h hg⟩

theorem registerAll_extends (r : Registries) (calls : List Registration) : (r.registerAll calls).Extends r := by
  induction calls generalizing r with
  | nil => exact .refl r
  | cons call calls ih => exact (ih (r.register call)).trans (r.register_extends call)

theorem register_wellFormed {r : Registries} (hr : r.types.WellFormed) (call : Registration) :
    (r.register call).types.WellFormed := by
  cases call with
  | type type =>
      rw [register]
      cases h : (r.types.register type).value with
      | error e => exact hr
      | ok types => exact hr.register h
  | provider provider =>
      rw [register]
      cases (r.providers.register provider).value <;> exact hr

theorem registerAll_wellFormed {r : Registries} (hr : r.types.WellFormed) (calls : List Registration) :
    (r.registerAll calls).types.WellFormed := by
  induction calls generalizing r with
  | nil => exact hr
  | cons call calls ih => exact ih (register_wellFormed hr call)

end Registries

def DefinitionCause.NamesUnknown : DefinitionCause → Prop
  | .unknownType _ => True
  | .unknownProvider _ => True
  | _ => False

theorem DefinitionCause.namesUnknown_iff {cause : DefinitionCause} :
    cause.NamesUnknown ↔ (∃ name, cause = .unknownType name) ∨ ∃ name, cause = .unknownProvider name := by
  cases cause <;> simp [NamesUnknown]

namespace Definition

inductive Stays {ε α : Type} (lifted : ε → Prop) : Except ε α → Except ε α → Prop
  | same (x : Except ε α) : Stays lifted x x
  | lifted {e : ε} {y : Except ε α} : lifted e → Stays lifted (.error e) y

namespace Stays

variable {ε α β : Type} {lifted : ε → Prop} {x y : Except ε α}

@[elab_as_elim]
theorem elim {motive : Except ε α → Except ε α → Prop} (h : Stays lifted x y)
    (lift : ∀ e y, lifted e → motive (.error e) y) (error : ∀ e, motive (.error e) (.error e))
    (ok : ∀ a, motive (.ok a) (.ok a)) : motive x y := by
  cases h with
  | lifted hu => exact lift _ _ hu
  | same =>
      cases x with
      | error e => exact error e
      | ok a => exact ok a

theorem map (h : Stays lifted x y) (f : α → β) : Stays lifted (x.map f) (y.map f) :=
  h.elim (fun _ _ hu => .lifted hu) (fun _ => .same _) (fun _ => .same _)

end Stays

variable {r r' : Registries}

abbrev StaysKnown {α : Type} (x y : Except DefinitionCause α) : Prop :=
  Stays DefinitionCause.NamesUnknown x y

theorem findProvider_stays (h : r'.Extends r) (name : List Char) :
    StaysKnown (findProvider r name) (findProvider r' name) := by
  rw [findProvider, findProvider]
  cases hp : r.providers.get? (String.ofList name) with
  | none => exact .lifted trivial
  | some provider =>
      rw [h.providers _ _ hp]
      exact .same _

theorem findProviders_stays (h : r'.Extends r) (names : List (List Char)) :
    StaysKnown (findProviders r names) (findProviders r' names) := by
  induction names with
  | nil => exact .same _
  | cons name names ih =>
      rw [findProviders, findProviders]
      refine (findProvider_stays h name).elim (fun _ _ hu => .lifted hu) (fun _ => .same _) ?_
      intro provider
      exact ih.elim (fun _ _ hu => .lifted hu) (fun _ => .same _) (fun _ => .same _)

theorem readDefault_stays (h : r'.Extends r) (type : ArgumentType) (text : List Char) :
    StaysKnown (readDefault r type text).value (readDefault r' type text).value := by
  rw [readDefault, readDefault]
  split
  next name _ => exact (findProvider_stays h (Text.trim name)).map Default.context
  next => exact .same _

theorem readDefault?_stays (h : r'.Extends r) (type : ArgumentType) (text : Option (List Char)) :
    StaysKnown (readDefault? r type text).value (readDefault? r' type text).value := by
  cases text with
  | none => exact .same _
  | some text => exact (readDefault_stays h type text).map some

theorem readParameter_stays (h : r'.Extends r) (token : List Char) :
    StaysKnown (readParameter r token).value (readParameter r' token).value := by
  rw [readParameter, readParameter]
  cases Marked.read token with
  | error cause => exact .same _
  | ok m =>
      simp only
      split
      · exact .same _
      · cases ht : r.types.get? (String.ofList (typeAndName m.body).1) with
        | none => exact .lifted trivial
        | some type =>
            rw [h.types _ _ ht]
            simp only [Logged.value_bind]
            exact (readDefault?_stays h type m.default).elim (fun _ _ hu => .lifted hu) (fun _ => .same _)
              (fun _ => .same _)

theorem Signature.read_stays (h : r'.Extends r) (s : Signature) (tokens : List (List Char)) :
    StaysKnown (Signature.read r s tokens).value (Signature.read r' s tokens).value := by
  induction tokens generalizing s with
  | nil => exact .same _
  | cons token tokens ih =>
      simp only [Signature.read, Logged.value_bind]
      refine (readParameter_stays h token).elim (fun _ _ hu => .lifted hu) (fun _ => .same _) ?_
      intro declaration
      cases hs : s.add declaration with
      | error cause => simpa only [hs] using .same _
      | ok extended => simpa only [hs] using ih extended

theorem readHeader_stays (h : r'.Extends r) (header : List Char) (number : Nat) (parent : Option String) :
    StaysKnown (readHeader (σ := σ) r header number parent).value (readHeader r' header number parent).value := by
  rw [readHeader_value, readHeader_value]
  cases readNaming header with
  | error cause => exact .same _
  | ok n => exact (Signature.read_stays h ⟨[], []⟩ n.parameters).map _

theorem readProviders_stays (h : r'.Extends r) (tag : String) (value : List Char) :
    StaysKnown (readEffect.readProviders r tag value) (readEffect.readProviders r' tag value) := by
  rw [readEffect.readProviders, readEffect.readProviders]
  cases required tag value with
  | error cause => exact .same _
  | ok value => exact findProviders_stays h (Text.words value)

theorem lineEffect_stays (h : r'.Extends r) (line : List Char) :
    StaysKnown (lineEffect r line) (lineEffect r' line) := by
  rw [lineEffect, lineEffect]
  unfold readEffect
  split
  case h_5 => exact (readProviders_stays h _ _).map Effect.context
  case h_6 => exact (readProviders_stays h _ _).map Effect.asserters
  all_goals exact .same _

theorem Nesting.read_stays (h : r'.Extends r) (n : Nesting σ) (number : Nat) (raw : String) :
    StaysKnown (n.read r number raw).value (n.read r' number raw).value := by
  rw [Nesting.read_value, Nesting.read_value]
  cases Line.read raw with
  | ignored => exact .same _
  | close => exact .same _
  | opening header => exact (readHeader_stays h header number _).map n.enter
  | other text => exact (lineEffect_stays h text).map n.amend

theorem Reading.read_stays (h : r'.Extends r) (s : Reading σ) (number : Nat) (raw : String) :
    StaysKnown (s.read r number raw).value (s.read r' number raw).value := by
  rw [Reading.read_value, Reading.read_value]
  cases s.nesting with
  | some n => exact (n.read_stays h number raw).map (Reading.after s.roots)
  | none =>
      cases Line.read raw with
      | ignored => exact .same _
      | close => exact .same _
      | other text => exact .same _
      | opening header => exact (readHeader_stays h header number none).map s.enter

theorem Reading.run_stays (h : r'.Extends r) (s : Reading σ) (number : Nat) (lines : List String) :
    Stays (·.cause.NamesUnknown) (Reading.run r s number lines).value (Reading.run r' s number lines).value := by
  induction lines generalizing s number with
  | nil => exact .same _
  | cons raw lines ih =>
      simp only [Reading.run, Logged.value_bind]
      refine (s.read_stays h number raw).elim (fun _ _ hu => .lifted hu) (fun _ => .same _) ?_
      intro next
      exact ih next (number + 1)

theorem readText_stays (h : r'.Extends r) (source : String) :
    Stays (·.cause.NamesUnknown) (readText (σ := σ) r source).value (readText r' source).value :=
  Reading.run_stays h ⟨[], none⟩ 1 _

theorem definitions_outlast_registrations (r : Registries) (calls : List Registration) (source : String) :
    (∀ roots : List (Node σ), (readText r source).value = .ok roots →
      (readText (r.registerAll calls) source).value = .ok roots) ∧
    ∀ e, (readText (σ := σ) r source).value = .error e → (∀ name, e.cause ≠ .unknownType name) →
      (∀ name, e.cause ≠ .unknownProvider name) →
      (readText (σ := σ) (r.registerAll calls) source).value = .error e := by
  have hs := readText_stays (σ := σ) (r.registerAll_extends calls) source
  refine ⟨?_, ?_⟩
  · intro roots hr
    rw [hr] at hs
    generalize (readText (r.registerAll calls) source).value = y at hs ⊢
    cases hs
    rfl
  · intro e he htype hprovider
    rw [he] at hs
    generalize (readText (r.registerAll calls) source).value = y at hs ⊢
    cases hs with
    | same => rfl
    | lifted hu =>
        rcases DefinitionCause.namesUnknown_iff.mp hu with ⟨name, hn⟩ | ⟨name, hn⟩
        · exact absurd hn (htype name)
        · exact absurd hn (hprovider name)

def worldCalls : List Registration :=
  [.type ArgumentType.int, .type (ArgumentType.plain "world" (some <| .string ·)),
    .provider ⟨"here", fun actor => .returned (some (.string actor.name)), none⟩]

theorem warp_outlasts_world : ∃ roots : List (Node Nat),
    (readText ⟨.standard, .empty⟩ "warp int:x \x7b\n\x7d").value = .ok roots ∧
      (readText (Registries.registerAll ⟨.standard, .empty⟩ worldCalls) "warp int:x \x7b\n\x7d").value = .ok roots ∧
      (readText (σ := Nat) ⟨.standard, .empty⟩ "warp int:x(a) \x7b\n\x7d").value =
        .error ⟨1, .invalidDefault "a" "int"⟩ ∧
      (readText (σ := Nat) (Registries.registerAll ⟨.standard, .empty⟩ worldCalls) "warp int:x(a) \x7b\n\x7d").value =
        .error ⟨1, .invalidDefault "a" "int"⟩ := by
  have hread : ((readText (σ := Nat) ⟨.standard, .empty⟩ "warp int:x \x7b\n\x7d").value.toOption.map
      List.length) = some 1 := by
    decide +kernel
  obtain ⟨roots, hr, -⟩ := exists_roots_of_toOption hread
  have herror : (readText (σ := Nat) ⟨.standard, .empty⟩ "warp int:x(a) \x7b\n\x7d").value =
      .error ⟨1, .invalidDefault "a" "int"⟩ := by
    rfl
  have hsame := definitions_outlast_registrations (σ := Nat) ⟨.standard, .empty⟩ worldCalls
  exact ⟨roots, hr, (hsame _).1 roots hr, herror, (hsame _).2 _ herror (by simp) (by simp)⟩

end Definition

end CommandTree
