import Mathlib.Data.String.Basic
import CommandTree.Definition.Parameter

namespace CommandTree

variable {r : Registries} {type : ArgumentType}

inductive Default.WellFormed (r : Registries) (type : ArgumentType) : Default → Prop
  | literal {value : Value} (text : String) : (type.convert none text).value = some value →
      WellFormed r type (.literal value)
  | context {p : Provider} : r.providers.get? p.name = some p → WellFormed r type (.context p)

structure Argument.WellFormed (r : Registries) (a : Argument) : Prop where
  registered : r.types.get? a.type.name = some a.type
  named : a.name ≠ ""
  noColon : ':' ∉ a.name.toList
  noComma : ',' ∉ a.name.toList
  noDash : a.name.toList.head? ≠ some '-'
  optional : a.default.isSome = true → a.isOptional = true
  default : ∀ d, a.default = some d → d.WellFormed r a.type

structure Flag.WellFormed (r : Registries) (f : Flag) : Prop where
  registered : r.types.get? f.type.name = some f.type
  named : f.names ≠ []
  dashed : ∀ name ∈ f.names, name.toList.head? = some '-' ∧ 2 ≤ name.utf8ByteSize
  default : ∀ d, f.default = some d → d.WellFormed r f.type

theorem TypeTable.get?_name {t : TypeTable} {name : String} (h : t.get? name = some type) :
    t.get? type.name = some type := by
  have hn : type.name = name := by simpa using List.find?_some h
  rwa [hn]

theorem ProviderTable.get?_name {t : ProviderTable} {name : String} {p : Provider}
    (h : t.get? name = some p) : t.get? p.name = some p := by
  have hn : p.name = name := by simpa using List.find?_some h
  rwa [hn]

namespace Definition

open Text

inductive Declaration.WellFormed (r : Registries) : Declaration → Prop
  | argument {a : Argument} : a.WellFormed r → WellFormed r (.argument a)
  | flag {f : Flag} : f.WellFormed r → WellFormed r (.flag f)

theorem registered_of_findProvider {name : List Char} {p : Provider} (h : findProvider r name = .ok p) :
    r.providers.get? p.name = some p := by
  rw [findProvider] at h
  split at h
  next provider hp =>
    obtain rfl := Except.ok.inj h
    exact ProviderTable.get?_name hp
  next => simp at h

theorem readDefault_wellFormed {text : List Char} {d : Default}
    (h : (readDefault r type text).value = .ok d) : d.WellFormed r type := by
  rw [readDefault] at h
  split at h
  next name _ =>
    cases hp : findProvider r (trim name) with
    | error cause => simp [hp, Except.map] at h
    | ok p =>
        obtain rfl : .context p = d := by simpa [hp, Except.map] using h
        exact .context (registered_of_findProvider hp)
  next =>
    cases hv : (type.convert none (String.ofList text)).value with
    | none => simp [hv] at h
    | some value =>
        obtain rfl : .literal value = d := by simpa [hv] using h
        exact .literal (String.ofList text) hv

theorem readDefault?_wellFormed {text : Option (List Char)} {default : Option Default}
    (h : (readDefault? r type text).value = .ok default) :
    ∀ d, default = some d → d.WellFormed r type := by
  rintro d rfl
  cases text with
  | none => simp [readDefault?] at h
  | some text =>
      cases hr : (readDefault r type text).value with
      | error cause => simp [readDefault?, hr, Except.map] at h
      | ok d' =>
          obtain rfl : d' = d := by simpa [readDefault?, hr, Except.map] using h
          exact readDefault_wellFormed hr

theorem exists_of_isFullFlagName {name : List Char} (h : isFullFlagName name = true) :
    ∃ c rest, name = '-' :: c :: rest := by
  unfold isFullFlagName at h
  split at h
  · exact ⟨_, _, rfl⟩
  · simp at h

theorem dashed_of_isFullFlagName {name : List Char} (h : isFullFlagName name = true) :
    (String.ofList name).toList.head? = some '-' ∧ 2 ≤ (String.ofList name).utf8ByteSize := by
  obtain ⟨c, rest, rfl⟩ := exists_of_isFullFlagName h
  refine ⟨by simp, ?_⟩
  have hc := Char.utf8Size_pos c
  have hd := Char.utf8Size_pos '-'
  simp only [String.utf8ByteSize_ofList, String.utf8Len_cons]
  omega

theorem declareFlag_wellFormed {token name : List Char} {m : Marked} {hidesType : Bool}
    {default : Option Default} {d : Declaration} (ht : r.types.get? type.name = some type)
    (hd : ∀ d, default = some d → d.WellFormed r type)
    (h : declareFlag token name m type hidesType default = .ok d) : d.WellFormed r := by
  rw [declareFlag] at h
  split at h
  · simp at h
  · split at h
    · split at h
      next first others _ hall =>
        obtain rfl := Except.ok.inj h
        refine .flag ⟨ht, by simp [Flag.names], ?_, hd⟩
        intro name hn
        obtain ⟨piece, hp, rfl⟩ : ∃ piece ∈ first :: others, String.ofList piece = name := by
          simpa [Flag.names, eq_comm] using hn
        exact dashed_of_isFullFlagName (List.all_eq_true.mp hall piece hp)
      next => simp at h
    · simp at h

theorem declareArgument_wellFormed {token name : List Char} {m : Marked} {hidesType : Bool}
    {default : Option Default} {d : Declaration} (ht : r.types.get? type.name = some type)
    (hn : name ≠ []) (hc : ':' ∉ name) (hf : isFlagName name = false)
    (hd : ∀ d, default = some d → d.WellFormed r type)
    (h : declareArgument token name m type hidesType default = .ok d) : d.WellFormed r := by
  rw [declareArgument] at h
  split at h
  · simp at h
  next hcomma =>
    obtain rfl := Except.ok.inj h
    refine .argument ⟨ht, ?_, ?_, ?_, ?_, ?_, hd⟩
    · simpa using hn
    · simpa using hc
    · simpa using hcomma
    · intro hh
      obtain ⟨rest, rfl⟩ := List.head?_eq_some_iff.mp (by simpa using hh)
      simp [isFlagName] at hf
    · intro hs
      simp [hs]

theorem readParameter_wellFormed {token : List Char} {d : Declaration}
    (h : (readParameter r token).value = .ok d) : d.WellFormed r := by
  rw [readParameter] at h
  split at h
  · simp at h
  next m _ =>
    generalize typeAndName m.body = parts at h
    obtain ⟨typeName, name⟩ := parts
    simp only at h
    split at h
    · simp at h
    next hparts =>
      simp only [Bool.or_eq_true, not_or, List.isEmpty_iff, List.contains_iff_mem] at hparts
      obtain ⟨⟨-, hn⟩, hc⟩ := hparts
      split at h
      · simp at h
      next type ht =>
        have ht := TypeTable.get?_name ht
        simp only [Logged.value_bind] at h
        cases hr : (readDefault? r type m.default).value with
        | error cause => simp [hr] at h
        | ok default =>
            have hd := readDefault?_wellFormed hr
            simp only [hr] at h
            split at h
            · exact declareFlag_wellFormed ht hd h
            next hf => exact declareArgument_wellFormed ht hn hc (by simpa using hf) hd h

end Definition

end CommandTree
