import CommandTree.Proofs.Definition.Layout
import CommandTree.Proofs.Definition.ReadBack
import CommandTree.Proofs.Definition.Splitting

namespace CommandTree

variable {σ : Type}

theorem TypeTable.standard_wellFormed : TypeTable.standard.WellFormed where
  valid := by decide
  found := by
    intro type ht
    simp only [standard, ArgumentType.builtins, List.mem_cons, List.not_mem_nil, or_false] at ht
    rcases ht with rfl | rfl | rfl | rfl | rfl <;> rfl

namespace ProviderTable

def Named (t : ProviderTable) : Prop :=
  ∀ p ∈ t.entries, isValidName p.name = true

theorem Named.register {t t' : ProviderTable} {p : Provider} (ht : t.Named) (h : (t.register p).value = .ok t') :
    t'.Named := by
  obtain ⟨hvalid, rfl⟩ := eq_of_register h
  intro other ho
  rcases List.mem_append.mp ho with ho | ho
  · exact ht other ho
  · rwa [List.mem_singleton.mp ho]

end ProviderTable

namespace Registries

theorem register_named {r : Registries} (hr : r.providers.Named) (call : Registration) :
    (r.register call).providers.Named := by
  cases call with
  | type type =>
      rw [register]
      cases (r.types.register type).value <;> exact hr
  | provider provider =>
      rw [register]
      cases h : (r.providers.register provider).value with
      | error e => exact hr
      | ok providers => exact hr.register h

theorem registerAll_named {r : Registries} (hr : r.providers.Named) (calls : List Registration) :
    (r.registerAll calls).providers.Named := by
  induction calls generalizing r with
  | nil => exact hr
  | cons call calls ih => exact ih (register_named hr call)

end Registries

namespace Definition

open Text

variable {r : Registries} {type : ArgumentType}

structure Word (text : List Char) : Prop where
  nonempty : text ≠ []
  unbroken : ∀ c ∈ text, isBlank c = false

theorem Word.getLast? {text : List Char} (h : Word text) : ∀ c ∈ text.getLast?, isBlank c = false :=
  fun c hc => h.unbroken c (List.mem_of_mem_getLast? hc)

theorem Word.trim_eq {text : List Char} (h : Word text) : trim text = text :=
  trim_eq_self (fun c hc => h.unbroken c (List.mem_of_mem_head? hc)) h.getLast?

theorem word_of_registered (ht : r.types.WellFormed) (hm : type ∈ r.types.entries) : Word type.name.toList where
  nonempty := ht.name_ne_nil hm
  unbroken := by
    intro c hc
    have hfree := ht.isReserved_eq hm hc
    simp only [TypeTable.isReserved, Bool.or_eq_false_iff] at hfree
    exact hfree.1.1.1.1.1.1

theorem word_of_provider {p : Provider} (h : ProviderTable.isValidName p.name = true) : Word p.name.toList where
  nonempty := by
    intro hn
    simp only [ProviderTable.isValidName, Bool.and_eq_true, Bool.not_eq_true'] at h
    simp [String.toList_eq_nil_iff.mp hn] at h
  unbroken := by
    simp only [ProviderTable.isValidName, Bool.and_eq_true, Bool.not_eq_true', List.any_eq_false] at h
    simpa using h.2

def Plain (text : List Char) : Prop :=
  ∀ c ∈ text, isParenthesis c = false ∧ isBlank c = false

theorem plain_of_all {text : List Char} (h : text.all (fun c => !isParenthesis c && !isBlank c) = true) :
    Plain text := by
  simpa [Plain] using h

theorem Plain.append {text text' : List Char} (h : Plain text) (h' : Plain text') : Plain (text ++ text') :=
  List.forall_mem_append.mpr ⟨h, h'⟩

theorem Plain.headerToken {token : List Char} (h : Plain token) (hn : token ≠ []) : HeaderToken token where
  nonempty := hn
  balanced := by
    have hnone : ∀ before, before <+: token → before.count '(' = 0 ∧ before.count ')' = 0 := by
      intro before hb
      refine ⟨List.count_eq_zero.mpr ?_, List.count_eq_zero.mpr ?_⟩
      · exact fun hm => absurd (h _ (hb.mem hm)).1 (by decide)
      · exact fun hm => absurd (h _ (hb.mem hm)).1 (by decide)
    refine ⟨?_, ?_⟩
    · intro before hb
      rw [(hnone before hb).1, (hnone before hb).2]
    · rw [(hnone token List.prefix_rfl).1, (hnone token List.prefix_rfl).2]
  enclosed := by
    intro before c hpre hc
    have hm : c ∈ token := hpre.mem (by simp)
    rw [(h c hm).2] at hc
    exact absurd hc Bool.false_ne_true

def headerOf (typeName : String) : List Char :=
  ['c'] ++ ' ' :: (typeName.toList ++ [':', 'x'])

def declared (type : ArgumentType) : Command σ :=
  declareCommand "c" [] ⟨[⟨type, "x", 0, false, false, type.name = "x", none⟩], []⟩ none 1

theorem headerOf_cutInto (h : Plain type.name.toList) :
    CutInto (headerOf type.name) [['c'], type.name.toList ++ [':', 'x']] := by
  have hname : HeaderToken ['c'] := Plain.headerToken (plain_of_all (by decide)) (by simp)
  have htyped : HeaderToken (type.name.toList ++ [':', 'x']) :=
    (h.append (plain_of_all (by decide))).headerToken (by simp)
  exact .next hname (by decide) (.last htyped)

theorem readParameter_typed (ht : r.types.WellFormed) (hm : type ∈ r.types.entries) :
    (readParameter r (type.name.toList ++ [':', 'x'])).value =
      .ok (.argument ⟨type, "x", 0, false, false, type.name = "x", none⟩) := by
  have hx : PlainName ['x'] := by
    refine ⟨?_, ?_, ?_, ?_⟩ <;> simp [isDelimiter, isParenthesis, EndsPlainly]
  have hdenotes := denotes_typed ht hm hx.nonempty (fun c hc => hx.mem hc) hx.ending
  have hspelled : Spelling (type.name.toList ++ ':' :: ['x']) [] false none (type.name.toList ++ [':', 'x']) := by
    have hinside : Spelling (type.name.toList ++ ':' :: ['x']) [] false none _ := .inside
    simpa [groupOf, dotsText] using hinside
  have hsame : ['x'] = type.name.toList ↔ type.name = "x" := by
    rw [← String.toList_inj, eq_comm]
    rfl
  rw [hdenotes.readParameter_argument hx (by simp [markings]) (by simp) hspelled]
  simp [readDefault?, argumentOf, Except.map, hsame]

theorem readHeader_headerOf (ht : r.types.WellFormed) (hm : type ∈ r.types.entries) :
    (readHeader (σ := σ) r (headerOf type.name) 1 none).value = .ok (declared type) := by
  have hplain : Plain type.name.toList := fun c hc =>
    ⟨(of_isReserved_eq_false (ht.isReserved_eq hm hc)).2, (word_of_registered ht hm).unbroken c hc⟩
  have hnaming : readNaming (headerOf type.name) = .ok ⟨"c", [], [type.name.toList ++ [':', 'x']]⟩ := by
    rw [readNaming, (headerOf_cutInto hplain).splitHeader_eq]
    rfl
  rw [readHeader_value, hnaming]
  simp only [Except.bind, Signature.read, Logged.value_bind, readParameter_typed ht hm, Signature.add,
    List.getLast?_nil, Logged.value_pure]
  rfl

def openingLine (typeName : String) : List Char :=
  headerOf typeName ++ [' ', '\x7b']

def contextLine (providerName : String) : List Char :=
  ['c', 'o', 'n', 't', 'e', 'x', 't'] ++ ' ' :: providerName.toList

def definitionOf (typeName providerName : String) : String :=
  "c " ++ typeName ++ ":x \x7b\ncontext " ++ providerName ++ "\n\x7d"

theorem Word.not_mem {text : List Char} (h : Word text) {c : Char} (hc : isBlank c = true) : c ∉ text := by
  intro hm
  rw [h.unbroken c hm] at hc
  exact absurd hc Bool.false_ne_true

theorem getLast?_contextLine {providerName : String} (hp : Word providerName.toList) :
    (contextLine providerName).getLast? = providerName.toList.getLast? := by
  rw [contextLine, List.getLast?_append_of_ne_nil _ (List.cons_ne_nil _ _), List.getLast?_cons_of_ne_nil hp.nonempty]

theorem lines_definitionOf {typeName providerName : String} (ht : Word typeName.toList)
    (hp : Word providerName.toList) :
    Text.lines (definitionOf typeName providerName).toList =
      [openingLine typeName, contextLine providerName, ['\x7d']] := by
  have htext : (definitionOf typeName providerName).toList =
      onLines [openingLine typeName, contextLine providerName, ['\x7d']] := by
    simp only [definitionOf, String.toList_append, onLines, openingLine, contextLine, headerOf, List.append_assoc,
      List.cons_append, List.nil_append, List.flatMap_cons, List.flatMap_nil, List.append_nil]
    rfl
  have hfeed : isBlank '\n' = true := by decide
  rw [htext, lines_onLines]
  · rfl
  · simp only [List.forall_mem_cons]
    refine ⟨⟨?_, ?_⟩, ⟨?_, ?_⟩, by decide, by simp⟩
    · have hname := ht.not_mem hfeed
      simp [openingLine, headerOf, hname]
    · rw [openingLine, List.getLast?_append_of_ne_nil _ (List.cons_ne_nil _ _)]
      decide
    · have hname := hp.not_mem hfeed
      simp [contextLine, hname]
    · intro hlast
      rw [getLast?_contextLine hp] at hlast
      exact absurd (hp.getLast? _ hlast) (by decide)

theorem ofTrimmed_cons {c : Char} (hmark : c ≠ '#') (hclose : c ≠ '\x7d') (rest : List Char) :
    Line.ofTrimmed (c :: rest) =
      if (c :: rest).getLast? = some '\x7b' then .opening (headerText (c :: rest)) else .other (c :: rest) := by
  simp [Line.ofTrimmed, hmark, hclose]

theorem trim_headerOf (typeName : String) : trim (headerOf typeName) = headerOf typeName := by
  refine trim_eq_self (by simp [headerOf]; decide) ?_
  have hlast : headerOf typeName = (['c', ' '] ++ typeName.toList ++ [':']) ++ ['x'] := by simp [headerOf]
  rw [hlast, List.getLast?_concat]
  simp only [Option.mem_some_iff, forall_eq']
  decide

theorem read_openingLine (typeName : String) :
    Line.read (String.ofList (openingLine typeName)) = .opening (headerOf typeName) := by
  have hlast : (openingLine typeName).getLast? = some '\x7b' := by simp [openingLine]
  have htrim : trim (openingLine typeName) = openingLine typeName := by
    refine trim_eq_self (by simp [openingLine, headerOf]; decide) ?_
    rw [hlast]
    simp only [Option.mem_some_iff, forall_eq']
    decide
  have hdrop : dropEnd? ['\x7b'] (openingLine typeName) = some (headerOf typeName ++ [' ']) :=
    dropEnd?_eq_some.mpr (by simp [openingLine])
  have hheader : headerText (openingLine typeName) = headerOf typeName := by
    simp only [headerText, hdrop]
    exact trim_concat_blank (by simp [headerOf]) (trim_headerOf typeName) (by simp [headerOf]; decide) (by decide)
  rw [Line.read, String.toList_ofList, htrim, ← hheader]
  exact (ofTrimmed_cons (by decide) (by decide) _).trans (if_pos hlast)

theorem read_contextLine {providerName : String} (hp : Word providerName.toList) :
    Line.read (String.ofList (contextLine providerName)) =
      if providerName.toList.getLast? = some '\x7b' then .opening (headerText (contextLine providerName))
      else .other (contextLine providerName) := by
  have htrim : trim (contextLine providerName) = contextLine providerName := by
    refine trim_eq_self (by simp [contextLine]; decide) ?_
    rw [getLast?_contextLine hp]
    exact hp.getLast?
  rw [Line.read, String.toList_ofList, htrim, ← getLast?_contextLine hp]
  exact ofTrimmed_cons (by decide) (by decide) _

theorem lineEffect_contextLine {providerName : String} {p : Provider} (hp : Word providerName.toList)
    (hg : r.providers.get? providerName = some p) :
    lineEffect r (contextLine providerName) = .ok (.context [p]) := by
  have hcut : cutAt? isBlank (contextLine providerName) =
      some (['c', 'o', 'n', 't', 'e', 'x', 't'], providerName.toList) :=
    cutAt?_append (fun c hc => (plain_of_all (by decide) c hc).2) (by decide)
  have htag : readTag (contextLine providerName) = ("context".toList, providerName.toList) := by
    simp only [readTag, hcut, hp.trim_eq]
    rfl
  have hvalue : required "context" providerName.toList = .ok providerName.toList := by
    simp [required, hp.nonempty]
  have hfound : findProviders r [providerName.toList] = .ok [p] := by
    simp [findProviders, findProvider, hg]
  have hnamed : readEffect.readProviders r "context" providerName.toList = .ok [p] := by
    rw [readEffect.readProviders, hvalue, ← hfound]
    exact congrArg (findProviders r) (words_eq_singleton hp.nonempty hp.unbroken)
  rw [lineEffect, htag]
  exact congrArg (Except.map Effect.context) hnamed

def supplied (type : ArgumentType) (p : Provider) : Command σ :=
  { declared type with context := [p], isRoot := true }

theorem readText_definitionOf {p : Provider} (ht : r.types.WellFormed) (hm : type ∈ r.types.entries)
    (hp : Word p.name.toList) (hg : r.providers.get? p.name = some p) (hb : p.name.toList.getLast? ≠ some '\x7b') :
    (readText (σ := σ) r (definitionOf type.name p.name)).value = .ok [.mk (supplied type p) []] := by
  let opened : Reading σ := ⟨[], some ⟨⟨declared type, []⟩, []⟩⟩
  let amended : Reading σ := ⟨[], some ⟨⟨{ declared type with context := [p] }, []⟩, []⟩⟩
  have hopening : (Reading.read r ⟨[], none⟩ 1 (String.ofList (openingLine type.name))).value = .ok opened := by
    simp only [Reading.read_value, read_openingLine, readHeader_headerOf ht hm]
    rfl
  have hcontext : (Reading.read r opened 2 (String.ofList (contextLine p.name))).value = .ok amended := by
    have hline := read_contextLine hp
    rw [if_neg hb] at hline
    simp only [Reading.read_value, opened, Nesting.read_value, hline, lineEffect_contextLine hp hg]
    rfl
  have hclosing : (Reading.read r amended 3 (String.ofList ['\x7d'])).value =
      .ok ⟨[.mk (supplied type p) []], none⟩ := by
    have hline : Line.read (String.ofList ['\x7d']) = .close := by decide
    simp only [Reading.read_value, amended, Nesting.read_value, hline]
    rfl
  rw [readText, lines_definitionOf (word_of_registered ht hm) hp]
  simp only [List.map_cons, List.map_nil, readLines, Reading.run, Logged.value_bind, hopening, hcontext, hclosing]
  rfl

theorem readText_definitionOf_error {typeName providerName : String} (ht : Word typeName.toList)
    (hp : Word providerName.toList) (hb : providerName.toList.getLast? = some '\x7b') :
    ∃ e, (readText (σ := σ) r (definitionOf typeName providerName)).value = .error e := by
  cases h : (readText (σ := σ) r (definitionOf typeName providerName)).value with
  | error e => exact ⟨e, rfl⟩
  | ok roots =>
      rw [readText, lines_definitionOf ht hp] at h
      have hnested := (forest_of_readLines h).layout.nested.closed
      have hfirst : opensBlock (String.ofList (openingLine typeName)) = true :=
        opensBlock_eq_true_iff.mpr ⟨_, read_openingLine typeName⟩
      have hsecond : opensBlock (String.ofList (contextLine providerName)) = true :=
        opensBlock_eq_true_iff.mpr ⟨_, (read_contextLine hp).trans (if_pos hb)⟩
      have hlast : closesBlock (String.ofList ['\x7d']) = true := by decide
      simp only [List.map_cons, List.map_nil, List.countP_cons, List.countP_nil, hfirst, hsecond, hlast,
        closesBlock_eq_false_of_opensBlock hfirst, closesBlock_eq_false_of_opensBlock hsecond,
        opensBlock_eq_false_of_closesBlock hlast] at hnested
      exact absurd hnested (by decide)

theorem registered_names_are_written_but_for_a_brace {types : TypeTable} {calls : List Registration}
    (htypes : types = .empty ∨ types = .standard) (hr : r = Registries.registerAll ⟨types, .empty⟩ calls)
    {typeName providerName : String} {p : Provider} (ht : r.types.get? typeName = some type)
    (hp : r.providers.get? providerName = some p) :
    type.name = typeName ∧ p.name = providerName ∧
      (providerName.toList.getLast? ≠ some '\x7b' →
        (readText (σ := σ) r (definitionOf typeName providerName)).value = .ok [.mk (supplied type p) []]) ∧
      (providerName.toList.getLast? = some '\x7b' →
        ∃ e, (readText (σ := σ) r (definitionOf typeName providerName)).value = .error e) := by
  have hwell : r.types.WellFormed := by
    rw [hr]
    refine Registries.registerAll_wellFormed ?_ calls
    rcases htypes with rfl | rfl
    · exact TypeTable.empty_wellFormed
    · exact TypeTable.standard_wellFormed
  have hnamed : r.providers.Named := by
    rw [hr]
    exact Registries.registerAll_named (by simp [ProviderTable.Named, ProviderTable.empty]) calls
  have hm : type ∈ r.types.entries := List.mem_of_find?_eq_some ht
  have hpm : p ∈ r.providers.entries := List.mem_of_find?_eq_some hp
  obtain rfl : type.name = typeName := by simpa using List.find?_some ht
  obtain rfl : p.name = providerName := by simpa using List.find?_some hp
  have htw := word_of_registered hwell hm
  have hpw := word_of_provider (hnamed p hpm)
  exact ⟨rfl, rfl, readText_definitionOf hwell hm hpw hp, readText_definitionOf_error htw hpw⟩

def fixed (name : String) : Provider :=
  ⟨name, fun _ => .returned (some (.int 7)), none⟩

def portRegistries : Registries :=
  Registries.registerAll ⟨.standard, .empty⟩
    [.type (ArgumentType.plain "gate" (some <| .string ·)), .provider (fixed "here"), .provider (fixed "here\x7b")]

theorem port_names_are_written :
    ∃ gate, portRegistries.types.get? "gate" = some gate ∧
      portRegistries.providers.get? "here" = some (fixed "here") ∧
      (readText (σ := Nat) portRegistries "c gate:x \x7b\ncontext here\n\x7d").value =
        .ok [.mk (supplied gate (fixed "here")) []] ∧
      portRegistries.providers.get? "here\x7b" = some (fixed "here\x7b") ∧
      ∃ e, (readText (σ := Nat) portRegistries "c gate:x \x7b\ncontext here\x7b\n\x7d").value = .error e := by
  have hgate : portRegistries.types.get? "gate" = some (ArgumentType.plain "gate" (some <| .string ·)) := rfl
  have hhere : portRegistries.providers.get? "here" = some (fixed "here") := rfl
  have hbrace : portRegistries.providers.get? "here\x7b" = some (fixed "here\x7b") := rfl
  obtain ⟨-, -, hwritten, -⟩ :=
    registered_names_are_written_but_for_a_brace (σ := Nat) (.inr rfl) rfl hgate hhere
  obtain ⟨-, -, -, hrefused⟩ :=
    registered_names_are_written_but_for_a_brace (σ := Nat) (.inr rfl) rfl hgate hbrace
  exact ⟨_, hgate, hhere, hwritten (by decide), hbrace, hrefused (by decide)⟩

theorem brace_at_the_end_of_a_name_opens_a_block :
    portRegistries.types.get? "int" = some .int ∧
      portRegistries.providers.get? "here\x7b" = some (fixed "here\x7b") ∧
      definitionOf "int" "here\x7b" = "c int:x \x7b\ncontext here\x7b\n\x7d" ∧
      (readText (σ := Nat) portRegistries (definitionOf "int" "here\x7b")).value =
        .error ⟨2, .unknownType "here"⟩ := by
  refine ⟨rfl, rfl, by decide, ?_⟩
  rfl

end Definition

end CommandTree
