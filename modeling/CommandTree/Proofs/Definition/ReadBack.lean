import CommandTree.Proofs.Definition.Marks
import CommandTree.Proofs.Definition.Registration

namespace CommandTree.Definition

open Text

variable {r : Registries} {type : ArgumentType}

inductive DefaultRead (r : Registries) (type : ArgumentType) :
    Option (List Char) → Except DefinitionCause (Option Default) → Prop
  | absent : DefaultRead r type none (.ok none)
  | provider {text name : List Char} {p : Provider} : text = "context ".toList ++ name →
      r.providers.get? (String.ofList (trim name)) = some p →
      DefaultRead r type (some text) (.ok (some (.context p)))
  | noProvider {text name : List Char} : text = "context ".toList ++ name →
      r.providers.get? (String.ofList (trim name)) = none →
      DefaultRead r type (some text) (.error (.unknownProvider (String.ofList (trim name))))
  | literal {text : List Char} {value : Value} : ¬ "context ".toList <+: text →
      (type.convert none (String.ofList text)).value = some value →
      DefaultRead r type (some text) (.ok (some (.literal value)))
  | noLiteral {text : List Char} : ¬ "context ".toList <+: text →
      (type.convert none (String.ofList text)).value = none →
      DefaultRead r type (some text) (.error (.invalidDefault (String.ofList text) type.name))

theorem readDefault_context (r : Registries) (type : ArgumentType) (name : List Char) :
    (readDefault r type ("context ".toList ++ name)).value = (findProvider r (trim name)).map .context := by
  have hstart : dropStart? "context ".toList ("context ".toList ++ name) = some name := dropStart?_eq_some.mpr rfl
  simp only [readDefault, hstart, Logged.value_pure]

theorem readDefault_literal {text : List Char} (h : ¬ "context ".toList <+: text) :
    (readDefault r type text).value =
      match (type.convert none (String.ofList text)).value with
      | some value => .ok (.literal value)
      | none => .error (.invalidDefault (String.ofList text) type.name) := by
  have hstart : dropStart? "context ".toList text = none := dropStart?_eq_none.mpr h
  simp only [readDefault, hstart, Logged.value_bind]
  cases (type.convert none (String.ofList text)).value <;> rfl

theorem readDefault?_some (r : Registries) (type : ArgumentType) (text : List Char) :
    (readDefault? r type (some text)).value = (readDefault r type text).value.map some :=
  rfl

theorem defaultRead_readDefault? (r : Registries) (type : ArgumentType) (default : Option (List Char)) :
    DefaultRead r type default (readDefault? r type default).value := by
  cases default with
  | none => exact .absent
  | some text =>
      rw [readDefault?_some]
      by_cases htext : "context ".toList <+: text
      · obtain ⟨name, rfl⟩ := htext
        rw [readDefault_context, findProvider]
        cases hp : r.providers.get? (String.ofList (trim name)) with
        | some p => exact .provider rfl hp
        | none => exact .noProvider rfl hp
      · rw [readDefault_literal htext]
        cases hv : (type.convert none (String.ofList text)).value with
        | some value => exact .literal htext hv
        | none => exact .noLiteral htext hv

theorem DefaultRead.readDefault?_value {default : Option (List Char)}
    {outcome : Except DefinitionCause (Option Default)} (h : DefaultRead r type default outcome) :
    (readDefault? r type default).value = outcome := by
  cases h with
  | absent => rfl
  | provider htext hp =>
      rw [readDefault?_some, htext, readDefault_context, findProvider, hp]
      rfl
  | noProvider htext hp =>
      rw [readDefault?_some, htext, readDefault_context, findProvider, hp]
      rfl
  | literal htext hv =>
      rw [readDefault?_some, readDefault_literal htext, hv]
      rfl
  | noLiteral htext hv =>
      rw [readDefault?_some, readDefault_literal htext, hv]
      rfl

def isDelimiter (c : Char) : Bool :=
  c == ':' || c == ',' || isParenthesis c

structure PlainName (name : List Char) : Prop where
  nonempty : name ≠ []
  plain : ∀ c ∈ name, isDelimiter c = false
  noDash : name.head? ≠ some '-'
  ending : EndsPlainly name

def joined (first : List Char) (others : List (List Char)) : List Char :=
  first ++ others.flatMap (',' :: ·)

structure PlainFlag (first : List Char) (others : List (List Char)) : Prop where
  full : ∀ name ∈ first :: others, ∃ c rest, name = '-' :: c :: rest
  plain : ∀ name ∈ first :: others, ∀ c ∈ name, isDelimiter c = false
  ending : EndsPlainly (joined first others)

def flagOf (type : ArgumentType) (first : List Char) (others : List (List Char)) (marks : List Char) (dots : Bool)
    (default : Option Default) : Except DefinitionCause Declaration :=
  if '?' ∈ marks ∨ dots = true then .error (.decoratedFlag (String.ofList (joined first others)))
  else
    .ok (.flag ⟨type, String.ofList first, others.map String.ofList, 0,
      '*' ∈ marks ∨ joined first others = type.name.toList, default⟩)

def argumentOf (type : ArgumentType) (name marks : List Char) (dots : Bool) (default : Option Default) : Argument :=
  ⟨type, String.ofList name, 0, '?' ∈ marks ∨ default.isSome = true, dots,
    '*' ∈ marks ∨ name = type.name.toList, default⟩

theorem of_isDelimiter_eq_false {c : Char} (h : isDelimiter c = false) :
    c ≠ ':' ∧ c ≠ ',' ∧ isParenthesis c = false := by
  simpa [isDelimiter, and_assoc] using h

theorem PlainName.mem {name : List Char} (hn : PlainName name) {c : Char} (hc : c ∈ name) :
    c ≠ ':' ∧ isParenthesis c = false :=
  ⟨(of_isDelimiter_eq_false (hn.plain c hc)).1, (of_isDelimiter_eq_false (hn.plain c hc)).2.2⟩

theorem PlainName.declareArgument_eq {name marks : List Char} {dots : Bool} (hn : PlainName name)
    (token body : List Char) (text : Option (List Char)) (default : Option Default) :
    declareArgument token name ⟨body, text, dots, decide ('*' ∈ marks), decide ('?' ∈ marks)⟩ type
      (decide ('*' ∈ marks) || name == type.name.toList) default =
      .ok (.argument (argumentOf type name marks dots default)) := by
  have hcomma : name.contains ',' = false := by
    rw [List.contains_eq_mem, decide_eq_false_iff_not]
    intro hc
    exact absurd (hn.plain ',' hc) (by decide)
  rw [declareArgument, hcomma, if_neg Bool.false_ne_true, argumentOf]
  simp [Bool.decide_or, beq_eq_decide]

theorem PlainName.isFlagName_eq {name : List Char} (hn : PlainName name) : isFlagName name = false := by
  have hdash := hn.noDash
  cases name with
  | nil => rfl
  | cons c name =>
      have hc : c ≠ '-' := by simpa using hdash
      simp [isFlagName, hc]

section Flags

variable {first : List Char} {others : List (List Char)}

theorem PlainFlag.exists_joined_eq (hf : PlainFlag first others) : ∃ rest, joined first others = '-' :: rest := by
  obtain ⟨c, rest, rfl⟩ := hf.full first List.mem_cons_self
  exact ⟨_, rfl⟩

theorem PlainFlag.joined_ne_nil (hf : PlainFlag first others) : joined first others ≠ [] := by
  obtain ⟨rest, hrest⟩ := hf.exists_joined_eq
  simp [hrest]

theorem PlainFlag.isFlagName_eq (hf : PlainFlag first others) : isFlagName (joined first others) = true := by
  obtain ⟨rest, hrest⟩ := hf.exists_joined_eq
  rw [hrest, isFlagName]

theorem PlainFlag.mem_joined (hf : PlainFlag first others) {c : Char} (hc : c ∈ joined first others) :
    c ≠ ':' ∧ isParenthesis c = false := by
  have hname : ∀ name ∈ first :: others, c ∈ name → c ≠ ':' ∧ isParenthesis c = false := by
    intro name hn hc
    have hplain := of_isDelimiter_eq_false (hf.plain name hn c hc)
    exact ⟨hplain.1, hplain.2.2⟩
  rcases List.mem_append.mp hc with hc | hc
  · exact hname first List.mem_cons_self hc
  · obtain ⟨other, ho, hc⟩ := List.mem_flatMap.mp hc
    rcases List.mem_cons.mp hc with rfl | hc
    · decide
    · exact hname other (List.mem_cons_of_mem first ho) hc

theorem PlainFlag.declareFlag_eq {marks : List Char} {dots : Bool} (hf : PlainFlag first others)
    (token body : List Char) (text : Option (List Char)) (default : Option Default) :
    declareFlag token (joined first others) ⟨body, text, dots, decide ('*' ∈ marks), decide ('?' ∈ marks)⟩ type
      (decide ('*' ∈ marks) || joined first others == type.name.toList) default =
      flagOf type first others marks dots default := by
  have hpieces : pieces (· == ',') (joined first others) = first :: others :=
    pieces_joined rfl fun name hn c hc => by simpa using (of_isDelimiter_eq_false (hf.plain name hn c hc)).2.1
  have hfull : (first :: others).all isFullFlagName = true := by
    rw [List.all_eq_true]
    intro name hn
    obtain ⟨c, rest, rfl⟩ := hf.full name hn
    rfl
  simp only [declareFlag, hpieces, hfull, if_true, flagOf]
  by_cases hrefused : '?' ∈ marks ∨ dots = true
  · simp [hrefused]
  · simp only [not_or, Bool.not_eq_true] at hrefused
    simp [hrefused, Bool.decide_or, beq_eq_decide]

end Flags

structure Denotes (r : Registries) (body : List Char) (type : ArgumentType) (name : List Char) : Prop where
  parts : typeAndName body = (type.name.toList, name)
  plain : ∀ c ∈ body, isParenthesis c = false
  ending : EndsPlainly body
  nonempty : type.name.toList ≠ [] ∧ name ≠ []
  noColon : ':' ∉ name
  registered : r.types.get? type.name = some type

section Tokens

variable {body name marks token : List Char} {dots : Bool} {default : Option (List Char)}

theorem Denotes.readParameter_value (hb : Denotes r body type name) (hm : marks ∈ markings)
    (hd : ∀ inner, default = some inner → Balanced inner) (hs : Spelling body marks dots default token) :
    (readParameter r token).value =
      (readDefault? r type default).value.bind fun value =>
        let m : Marked := ⟨body, default, dots, '*' ∈ marks, '?' ∈ marks⟩
        let hidesType := '*' ∈ marks || name == type.name.toList
        if isFlagName name then declareFlag token name m type hidesType value
        else declareArgument token name m type hidesType value := by
  have hread := Marked.read_spelling hb.ending hb.plain hm hd hs
  have hmalformed : (type.name.toList.isEmpty || name.isEmpty || name.contains ':') = false := by
    simp [hb.nonempty, hb.noColon]
  simp only [readParameter, hread, hb.parts, hmalformed, Bool.false_eq_true, if_false, String.ofList_toList,
    hb.registered, Logged.value_bind]
  cases (readDefault? r type default).value with
  | error cause => rfl
  | ok value =>
      simp only [Except.bind]
      split <;> rfl

theorem Denotes.readParameter_argument (hb : Denotes r body type name) (hn : PlainName name) (hm : marks ∈ markings)
    (hd : ∀ inner, default = some inner → Balanced inner) (hs : Spelling body marks dots default token) :
    (readParameter r token).value =
      (readDefault? r type default).value.map (.argument <| argumentOf type name marks dots ·) := by
  rw [hb.readParameter_value hm hd hs]
  simp only [hn.isFlagName_eq, Bool.false_eq_true, if_false, hn.declareArgument_eq]
  cases (readDefault? r type default).value <;> rfl

theorem Denotes.readParameter_flag {first : List Char} {others : List (List Char)}
    (hb : Denotes r body type (joined first others)) (hf : PlainFlag first others) (hm : marks ∈ markings)
    (hd : ∀ inner, default = some inner → Balanced inner) (hs : Spelling body marks dots default token) :
    (readParameter r token).value =
      (readDefault? r type default).value.bind (flagOf type first others marks dots) := by
  rw [hb.readParameter_value hm hd hs]
  simp only [hf.isFlagName_eq, if_true, hf.declareFlag_eq]

end Tokens

theorem of_isReserved_eq_false {c : Char} (h : TypeTable.isReserved c = false) :
    c ≠ ':' ∧ isParenthesis c = false := by
  simp only [TypeTable.isReserved, Bool.or_eq_false_iff, beq_eq_false_iff_ne] at h
  simp [isParenthesis, h]

theorem denotes_typed {name : List Char} (ht : r.types.WellFormed) (hm : type ∈ r.types.entries) (hn : name ≠ [])
    (hplain : ∀ c ∈ name, c ≠ ':' ∧ isParenthesis c = false) (he : EndsPlainly name) :
    Denotes r (type.name.toList ++ ':' :: name) type name where
  parts := by
    have hcut : cutAt? (· == ':') (type.name.toList ++ ':' :: name) = some (type.name.toList, name) :=
      cutAt?_append (fun c hc => by simpa using (of_isReserved_eq_false (ht.isReserved_eq hm hc)).1) rfl
    simp only [typeAndName, hcut]
  plain := by
    intro c hc
    rcases List.mem_append.mp hc with hc | hc
    · exact (of_isReserved_eq_false (ht.isReserved_eq hm hc)).2
    · rcases List.mem_cons.mp hc with rfl | hc
      · rfl
      · exact (hplain c hc).2
  ending := by
    intro c hc
    rw [List.getLast?_append_of_ne_nil _ (List.cons_ne_nil _ _), List.getLast?_cons_of_ne_nil hn] at hc
    exact he c hc
  nonempty := ⟨ht.name_ne_nil hm, hn⟩
  noColon := fun hc => (hplain ':' hc).1 rfl
  registered := ht.found type hm

theorem PlainFlag.denotes_boolean {first : List Char} {others : List (List Char)} (hf : PlainFlag first others)
    (hb : r.types.get? ArgumentType.boolean.name = some .boolean) :
    Denotes r (joined first others) .boolean (joined first others) where
  parts := by
    obtain ⟨rest, hrest⟩ := hf.exists_joined_eq
    have hcut : cutAt? (· == ':') (joined first others) = none :=
      cutAt?_eq_none fun c hc => by simpa using (hf.mem_joined hc).1
    rw [hrest] at hcut ⊢
    simp only [typeAndName, hcut]
    rfl
  plain := fun c hc => (hf.mem_joined hc).2
  ending := hf.ending
  nonempty := by
    obtain ⟨rest, hrest⟩ := hf.exists_joined_eq
    exact ⟨by decide, by simp [hrest]⟩
  noColon := fun hc => (hf.mem_joined hc).1 rfl
  registered := hb

theorem parameters_are_read_back {calls : List Registration}
    (hr : r = Registries.registerAll ⟨.empty, .empty⟩ calls)
    (hb : ∀ builtin ∈ ArgumentType.builtins, r.types.get? builtin.name = some builtin)
    (ht : type ∈ r.types.entries) {marks : List Char} (hm : marks ∈ markings) (dots : Bool)
    {default : Option (List Char)} (hd : ∀ inner, default = some inner → Balanced inner) :
    (∃ outcome, DefaultRead r type default outcome ∧
      (∀ name, PlainName name → ∀ token, Spelling (type.name.toList ++ ':' :: name) marks dots default token →
        (readParameter r token).value = outcome.map (.argument <| argumentOf type name marks dots ·)) ∧
      ∀ first others, PlainFlag first others → ∀ token,
        Spelling (type.name.toList ++ ':' :: joined first others) marks dots default token →
        (readParameter r token).value = outcome.bind (flagOf type first others marks dots)) ∧
    (∃ outcome, DefaultRead r .boolean default outcome ∧
      ∀ first others, PlainFlag first others → ∀ token, Spelling (joined first others) marks dots default token →
        (readParameter r token).value = outcome.bind (flagOf .boolean first others marks dots)) ∧
    ∀ before inner between inner', Balanced inner' →
      (readParameter r (before ++ group inner ++ between ++ group inner' ++ marks ++ dotsText dots)).value =
        .error (.unbalancedParenthesis (String.ofList (before ++ group inner ++ between ++ group inner'))) := by
  have hw : r.types.WellFormed := by
    rw [hr]
    exact Registries.registerAll_wellFormed TypeTable.empty_wellFormed calls
  have hdefault := defaultRead_readDefault? r type default
  have hboolean := defaultRead_readDefault? r .boolean default
  refine ⟨⟨_, hdefault, ?_, ?_⟩, ⟨_, hboolean, ?_⟩, ?_⟩
  · intro name hn token hs
    have hdenotes := denotes_typed hw ht hn.nonempty (fun c hc => hn.mem hc) hn.ending
    exact hdenotes.readParameter_argument hn hm hd hs
  · intro first others hf token hs
    have hdenotes := denotes_typed hw ht hf.joined_ne_nil (fun c hc => hf.mem_joined hc) hf.ending
    exact hdenotes.readParameter_flag hf hm hd hs
  · intro first others hf token hs
    have hregistered := hb .boolean (by simp [ArgumentType.builtins])
    exact (hf.denotes_boolean hregistered).readParameter_flag hf hm hd hs
  · intro before inner between inner' hinner'
    rw [readParameter, Marked.read_twice before inner between hinner' hm dots]
    rfl

def worldRegistries : Registries :=
  Registries.registerAll ⟨.empty, .empty⟩ (ArgumentType.builtins.map .type ++ worldCalls)

theorem worldRegistries_builtins :
    ∀ builtin ∈ ArgumentType.builtins, worldRegistries.types.get? builtin.name = some builtin := by
  intro builtin hb
  simp only [ArgumentType.builtins, List.mem_cons, List.not_mem_nil, or_false] at hb
  rcases hb with rfl | rfl | rfl | rfl | rfl <;> rfl

theorem count_is_read_back :
    (readParameter worldRegistries "int:count(5)*?...".toList).value =
        .ok (.argument ⟨.int, "count", 0, true, true, true, some (.literal (.int 5))⟩) ∧
      (readParameter worldRegistries "int:count*?...(5)".toList).value =
        .ok (.argument ⟨.int, "count", 0, true, true, true, some (.literal (.int 5))⟩) ∧
      (readParameter worldRegistries "int:-c,--count(5)*?...".toList).value =
        .error (.decoratedFlag "-c,--count") ∧
      (readParameter worldRegistries "-c,--count*?...(5)".toList).value =
        .error (.invalidDefault "5" "boolean") ∧
      (readParameter worldRegistries "int:count(a)(5)*?...".toList).value =
        .error (.unbalancedParenthesis "int:count(a)(5)") := by
  have hint : ArgumentType.int ∈ worldRegistries.types.entries := List.mem_of_find?_eq_some
    (worldRegistries_builtins .int (by simp [ArgumentType.builtins]))
  have hbalanced : ∀ inner, some ['5'] = some inner → Balanced inner := by
    rintro inner ⟨⟩
    decide +kernel
  have hmarks : ['*', '?'] ∈ markings := by simp [markings]
  obtain ⟨⟨outcome, hread, hargument, hflag⟩, ⟨outcome', hread', hboolean⟩, htwice⟩ :=
    parameters_are_read_back rfl worldRegistries_builtins hint hmarks true hbalanced
  have hname : PlainName "count".toList := by
    refine ⟨?_, ?_, ?_, ?_⟩ <;> simp [isDelimiter, isParenthesis, EndsPlainly]
  have hflags : PlainFlag "-c".toList ["--count".toList] := by
    refine ⟨?_, ?_, ?_⟩ <;> simp [isDelimiter, isParenthesis, EndsPlainly, joined]
  obtain rfl : .ok (some (.literal (.int 5))) = outcome := hread.readDefault?_value
  obtain rfl : .error (.invalidDefault "5" "boolean") = outcome' := hread'.readDefault?_value
  exact ⟨hargument _ hname _ .inside, hargument _ hname _ .behind, hflag _ _ hflags _ .inside,
    hboolean _ _ hflags _ .behind, htwice "int:count".toList ['a'] [] ['5'] (hbalanced _ rfl)⟩

end CommandTree.Definition
