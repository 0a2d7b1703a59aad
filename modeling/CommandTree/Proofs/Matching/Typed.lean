import CommandTree.Proofs.Matching.Slots

namespace CommandTree

open Matching

variable {σ : Type} {r : Registries}

inductive ArgumentType.ReadAs : ArgumentType → ParameterKind → Prop
  | int : ReadAs .int .int
  | widened : ReadAs .int .long
  | long : ReadAs .long .long
  | double : ReadAs .double .double
  | boolean : ReadAs .boolean .boolean
  | string : ReadAs .string .string

inductive SlotDeclaration where
  | argument (a : Argument)
  | flag (f : Flag)
  | context (p : Provider)

namespace SlotDeclaration

def type? : SlotDeclaration → Option ArgumentType
  | argument a => some a.type
  | flag f => some f.type
  | context _ => none

def default? : SlotDeclaration → Option Default
  | argument a => a.default
  | flag f => f.default
  | context _ => none

def mayBeEmpty : SlotDeclaration → Bool
  | argument a => a.isOptional && a.default.isNone
  | flag f => !f.isSwitch && f.default.isNone
  | context _ => false

def hasLiteralDefault (d : SlotDeclaration) : Bool :=
  match d.default? with
  | some (.context _) => false
  | _ => true

end SlotDeclaration

def Command.slotDeclarations (c : Command σ) : List SlotDeclaration :=
  c.arguments.map .argument ++ c.flags.map .flag ++ c.context.map .context

structure Parameter.Suits (p : Parameter) (d : SlotDeclaration) : Prop where
  typed : ∀ type, d.type? = some type → type.ReadAs p.kind
  untyped : d.type? = none → p.kind = .any
  optional : d.mayBeEmpty = true → p.isOptional = true

def ParameterKind.readsNamed (kind : ParameterKind) (name : String) : Bool :=
  match kind with
  | .int => name == "int"
  | .long => name == "int" || name == "long"
  | .double => name == "double"
  | .boolean => name == "boolean"
  | .string => name == "string"
  | .customText | .any => false

def Parameter.suitsNamed (p : Parameter) (d : SlotDeclaration) : Bool :=
  (match d.type? with
    | some type => p.kind.readsNamed type.name
    | none => p.kind == .any) && (!d.mayBeEmpty || p.isOptional)

theorem ArgumentType.readAs_of_readsNamed {type : ArgumentType} {kind : ParameterKind}
    (ht : TypeTable.standard.get? type.name = some type) (hk : kind.readsNamed type.name = true) :
    type.ReadAs kind := by
  generalize type.name = name at ht hk
  cases kind with
  | int =>
      obtain rfl : name = "int" := by simpa [ParameterKind.readsNamed] using hk
      obtain rfl : ArgumentType.int = type := Option.some.inj ht
      exact .int
  | long =>
      have hname : name = "int" ∨ name = "long" := by simpa [ParameterKind.readsNamed] using hk
      rcases hname with rfl | rfl
      · obtain rfl : ArgumentType.int = type := Option.some.inj ht
        exact .widened
      · obtain rfl : ArgumentType.long = type := Option.some.inj ht
        exact .long
  | double =>
      obtain rfl : name = "double" := by simpa [ParameterKind.readsNamed] using hk
      obtain rfl : ArgumentType.double = type := Option.some.inj ht
      exact .double
  | boolean =>
      obtain rfl : name = "boolean" := by simpa [ParameterKind.readsNamed] using hk
      obtain rfl : ArgumentType.boolean = type := Option.some.inj ht
      exact .boolean
  | string =>
      obtain rfl : name = "string" := by simpa [ParameterKind.readsNamed] using hk
      obtain rfl : ArgumentType.string = type := Option.some.inj ht
      exact .string
  | customText => simp [ParameterKind.readsNamed] at hk
  | any => simp [ParameterKind.readsNamed] at hk

theorem Parameter.suits_of_suitsNamed {p : Parameter} {d : SlotDeclaration}
    (hd : ∀ type, d.type? = some type → TypeTable.standard.get? type.name = some type)
    (hs : p.suitsNamed d = true) : p.Suits d := by
  rw [Parameter.suitsNamed, Bool.and_eq_true, Bool.or_eq_true] at hs
  obtain ⟨hkind, hoptional⟩ := hs
  refine ⟨?_, ?_, ?_⟩
  · intro type ht
    rw [ht] at hkind
    exact ArgumentType.readAs_of_readsNamed (hd type ht) hkind
  · intro ht
    rw [ht] at hkind
    exact eq_of_beq hkind
  · intro he
    rcases hoptional with hempty | hp
    · simp [he] at hempty
    · exact hp

/-- Only an `int` is seen as another value than it is, where it is read as a `long`. -/
inductive ParameterKind.Sees : ParameterKind → Value → Value → Prop
  | int (n : Int32) : Sees .int (.int n) (.int n)
  | widened (n : Int32) : Sees .long (.int n) (.long n.toInt64)
  | long (n : Int64) : Sees .long (.long n) (.long n)
  | double (x : Number.Double) : Sees .double (.double x) (.double x)
  | boolean (b : Bool) : Sees .boolean (.boolean b) (.boolean b)
  | string (s : String) : Sees .string (.string s) (.string s)
  | customText (identity : Nat) (s : String) :
      Sees .customText (.custom ⟨identity, .text s⟩) (.custom ⟨identity, .text s⟩)
  | any (value : Value) : Sees .any value value

inductive Parameter.Receives (p : Parameter) : Option Value → Option Value → Prop
  | nothing : p.isOptional = true → Receives p none none
  | value {held seen : Value} : p.kind.Sees held seen → Receives p (some held) (some seen)

inductive Received : List Parameter → List (Option Value) → List (Option Value) → Prop
  | nil : Received [] [] []
  | cons {p : Parameter} {ps : List Parameter} {slot seen : Option Value} {slots taken : List (Option Value)} :
      p.Receives slot seen → Received ps slots taken → Received (p :: ps) (slot :: slots) (seen :: taken)

def Parameter.Takes (p : Parameter) (slot : Option Value) : Prop :=
  ∃ seen, p.Receives slot seen

namespace Parameter

variable {p : Parameter} {value : Value}

theorem takes_none (h : p.isOptional = true) : p.Takes none :=
  ⟨none, .nothing h⟩

theorem takes_some {seen : Value} (h : p.kind.Sees value seen) : p.Takes (some value) :=
  ⟨some seen, .value h⟩

theorem exists_seen_of_convert {type : ArgumentType} {kind : ParameterKind} (h : type.ReadAs kind)
    {actor : Option Actor} {text : String} (hv : (type.convert actor text).value = some value) :
    ∃ seen, kind.Sees value seen := by
  cases h with
  | int =>
      obtain ⟨n, -, rfl⟩ := Option.map_eq_some_iff.mp hv
      exact ⟨.int n, .int n⟩
  | widened =>
      obtain ⟨n, -, rfl⟩ := Option.map_eq_some_iff.mp hv
      exact ⟨.long n.toInt64, .widened n⟩
  | long =>
      obtain ⟨n, -, rfl⟩ := Option.map_eq_some_iff.mp hv
      exact ⟨.long n, .long n⟩
  | double =>
      obtain ⟨x, -, rfl⟩ := Option.map_eq_some_iff.mp hv
      exact ⟨.double x, .double x⟩
  | boolean =>
      obtain ⟨b, -, rfl⟩ := Option.map_eq_some_iff.mp hv
      exact ⟨.boolean b, .boolean b⟩
  | string =>
      obtain rfl := Option.some.inj hv
      exact ⟨.string text, .string text⟩

theorem takes_converted {type : ArgumentType} (h : type.ReadAs p.kind) {actor : Option Actor} {text : String}
    (hv : (type.convert actor text).value = some value) : p.Takes (some value) := by
  obtain ⟨seen, hs⟩ := exists_seen_of_convert h hv
  exact takes_some hs

theorem takes_default {d : SlotDeclaration} {type : ArgumentType} (h : type.ReadAs p.kind) {actor : Actor}
    {default : Default} (hl : d.hasLiteralDefault = true) (hd : d.default? = some default)
    (hw : default.WellFormed r type) : p.Takes (default.given actor) := by
  cases hw with
  | literal text hv => exact takes_converted h hv
  | context => simp [SlotDeclaration.hasLiteralDefault, hd] at hl

theorem takes_boolean {f : Flag} (h : f.type.ReadAs p.kind) (hs : f.isSwitch = true) (b : Bool) :
    p.Takes (some (.boolean b)) := by
  rw [Flag.isSwitch] at hs
  generalize f.type = type, hk : p.kind = kind at h hs
  cases h with
  | boolean =>
      have hsees : p.kind.Sees (.boolean b) (.boolean b) := by
        rw [hk]
        exact .boolean b
      exact takes_some hsees
  | int => simp [ArgumentType.isBoolean, ArgumentType.int, ArgumentType.plain] at hs
  | widened => simp [ArgumentType.isBoolean, ArgumentType.int, ArgumentType.plain] at hs
  | long => simp [ArgumentType.isBoolean, ArgumentType.long, ArgumentType.plain] at hs
  | double => simp [ArgumentType.isBoolean, ArgumentType.double, ArgumentType.plain] at hs
  | string => simp [ArgumentType.isBoolean, ArgumentType.string, ArgumentType.plain] at hs

theorem takes_argument {a : Argument} {actor : Actor} {share : Share} (hs : p.Suits (.argument a))
    (hw : a.WellFormed r) (hl : (SlotDeclaration.argument a).hasLiteralDefault = true)
    (hf : Fills actor a share) : p.Takes share.slot := by
  have ht := hs.typed a.type rfl
  cases hf with
  | omitted hopt =>
      rw [Argument.whenOmitted]
      cases hd : a.default with
      | none => exact takes_none (hs.optional (by simp [SlotDeclaration.mayBeEmpty, hopt, hd]))
      | some default => exact takes_default ht hl hd (hw.default default hd)
  | taken htaken =>
      cases htaken with
      | single _ hv => exact takes_converted ht hv
      | remainder _ _ hv => exact takes_converted ht hv

theorem takes_flag {flags : List Flag} {f : Flag} {i : Nat} {actor : Actor} {tokens positional : List String}
    {found : List (Nat × Value)} {slot : Option Value} (hs : p.Suits (.flag f)) (hw : f.WellFormed r)
    (hl : (SlotDeclaration.flag f).hasLiteralDefault = true)
    (hfound : Separated flags actor tokens positional found) (hi : flags[i]? = some f)
    (hf : FlagSlot actor found i f slot) : p.Takes slot := by
  have ht := hs.typed f.type rfl
  cases hf with
  | given hsplit _ =>
      -- The flag that read the occurrence is this one, for its place is what the occurrence is known by.
      obtain ⟨g, hg, hv⟩ := hfound.of_mem (hsplit ▸ List.mem_append_right _ (List.mem_cons_self ..))
      obtain rfl : f = g := Option.some.inj (hi.symm.trans hg)
      rcases hv with ⟨hswitch, rfl⟩ | ⟨text, hv⟩
      · exact takes_boolean ht hswitch true
      · exact takes_converted ht hv
  | absent _ =>
      rw [Flag.whenAbsent]
      cases hd : f.default with
      | some default => exact takes_default ht hl hd (hw.default default hd)
      | none =>
          cases hswitch : f.isSwitch with
          | true => exact takes_boolean ht hswitch false
          | false => exact takes_none (hs.optional (by simp [SlotDeclaration.mayBeEmpty, hswitch, hd]))

theorem takes_context {provider : Provider} {actor : Actor} (hs : p.Suits (.context provider))
    (hn : (provider.supply actor).value ≠ none) : p.Takes (provider.supply actor).value := by
  obtain ⟨value, hv⟩ := Option.ne_none_iff_exists'.mp hn
  have hsees : p.kind.Sees value value := by
    rw [hs.untyped rfl]
    exact .any value
  rw [hv]
  exact takes_some hsees

end Parameter

def SlotDeclaration.Serves (d : SlotDeclaration) (slot : Option Value) : Prop :=
  ∀ p : Parameter, p.Suits d → p.Takes slot

namespace Command

variable {c : Command σ} {actor : Actor} {tokens positional : List String} {found : List (Nat × Value)}
  {values : List (Option Value)}

theorem argument_mem_slotDeclarations {a : Argument} (h : a ∈ c.arguments) : .argument a ∈ c.slotDeclarations :=
  List.mem_append_left _ (List.mem_append_left _ (List.mem_map_of_mem h))

theorem flag_mem_slotDeclarations {f : Flag} (h : f ∈ c.flags) : .flag f ∈ c.slotDeclarations :=
  List.mem_append_left _ (List.mem_append_right _ (List.mem_map_of_mem h))

theorem type_registered (hwa : ∀ a ∈ c.arguments, a.WellFormed r) (hwf : ∀ f ∈ c.flags, f.WellFormed r)
    {d : SlotDeclaration} (hd : d ∈ c.slotDeclarations) {type : ArgumentType} (ht : d.type? = some type) :
    r.types.get? type.name = some type := by
  rw [slotDeclarations, List.mem_append, List.mem_append] at hd
  rcases hd with (ha | hf) | hc
  · obtain ⟨a, hm, rfl⟩ := List.mem_map.mp ha
    obtain rfl : a.type = type := Option.some.inj ht
    exact (hwa a hm).registered
  · obtain ⟨f, hm, rfl⟩ := List.mem_map.mp hf
    obtain rfl : f.type = type := Option.some.inj ht
    exact (hwf f hm).registered
  · obtain ⟨q, -, rfl⟩ := List.mem_map.mp hc
    simp [SlotDeclaration.type?] at ht

theorem suits_of_suitsNamed (c : Command σ) (hr : r.types = .standard) (hwa : ∀ a ∈ c.arguments, a.WellFormed r)
    (hwf : ∀ f ∈ c.flags, f.WellFormed r) {parameters : List Parameter}
    (h : ((parameters.zip c.slotDeclarations).all fun slot => slot.1.suitsNamed slot.2) = true) (i : Nat)
    (p : Parameter) (d : SlotDeclaration) (hp : parameters[i]? = some p) (hd : c.slotDeclarations[i]? = some d) :
    p.Suits d := by
  have hslot : (p, d) ∈ parameters.zip c.slotDeclarations :=
    List.mem_of_getElem? (List.getElem?_zip_eq_some.mpr ⟨hp, hd⟩)
  refine Parameter.suits_of_suitsNamed ?_ (List.all_eq_true.mp h (p, d) hslot)
  intro type ht
  rw [← hr]
  exact type_registered hwa hwf (List.mem_of_getElem? hd) ht

theorem Filled.serves_arguments (h : c.Filled actor positional found values)
    (hw : ∀ a ∈ c.arguments, a.WellFormed r)
    (hl : ∀ a ∈ c.arguments, (SlotDeclaration.argument a).hasLiteralDefault = true) :
    List.Forall₂ SlotDeclaration.Serves (c.arguments.map .argument) (values.take c.arguments.length) := by
  obtain ⟨shares, hs, -, hf⟩ := h.arguments
  rw [← hs, List.forall₂_map_left_iff, List.forall₂_map_right_iff]
  have hall := (List.forall₂_and_left c.arguments shares).mpr ⟨fun a ha => And.intro (hw a ha) (hl a ha), hf⟩
  refine hall.imp ?_
  rintro a share ⟨⟨ha, hliteral⟩, hfill⟩ p hp
  exact Parameter.takes_argument hp ha hliteral hfill

theorem Filled.serves_flags (h : c.Filled actor positional found values)
    (hw : ∀ f ∈ c.flags, f.WellFormed r)
    (hl : ∀ f ∈ c.flags, (SlotDeclaration.flag f).hasLiteralDefault = true)
    (hs : Separated c.flags actor tokens positional found) :
    List.Forall₂ SlotDeclaration.Serves (c.flags.map .flag)
      ((values.drop c.arguments.length).take c.flags.length) := by
  have hlength := h.length
  rw [Command.expectedArity] at hlength
  rw [List.forall₂_map_left_iff, List.forall₂_iff_get]
  refine ⟨?_, ?_⟩
  · rw [List.length_take, List.length_drop]
    omega
  · intro i hi hslot p hp
    obtain ⟨slot, hget, hf⟩ := h.flags i hi
    have hm := List.getElem_mem hi
    obtain ⟨hlt, rfl⟩ := List.getElem?_eq_some_iff.mp hget
    rw [List.get_eq_getElem, List.getElem_take, List.getElem_drop]
    exact Parameter.takes_flag hp (hw _ hm) (hl _ hm) hs (List.getElem?_eq_getElem hi) hf

theorem Filled.serves_context (h : c.Filled actor positional found values) :
    List.Forall₂ SlotDeclaration.Serves (c.context.map .context)
      (values.drop (c.arguments.length + c.flags.length)) := by
  rw [h.context, List.forall₂_map_left_iff, List.forall₂_map_right_iff, List.forall₂_same]
  intro provider hm p hp
  exact Parameter.takes_context hp (h.supplied provider hm)

theorem Filled.serves (h : c.Filled actor positional found values) (hwa : ∀ a ∈ c.arguments, a.WellFormed r)
    (hwf : ∀ f ∈ c.flags, f.WellFormed r)
    (hl : ∀ d ∈ c.slotDeclarations, d.hasLiteralDefault = true)
    (hs : Separated c.flags actor tokens positional found) :
    List.Forall₂ SlotDeclaration.Serves c.slotDeclarations values := by
  have ha := h.serves_arguments hwa fun a ha => hl _ (argument_mem_slotDeclarations ha)
  have hf := h.serves_flags hwf (fun f hf => hl _ (flag_mem_slotDeclarations hf)) hs
  have hall : List.Forall₂ SlotDeclaration.Serves c.slotDeclarations
      (values.take c.arguments.length ++ (values.drop c.arguments.length).take c.flags.length ++
        values.drop (c.arguments.length + c.flags.length)) :=
    List.rel_append (List.rel_append ha hf) h.serves_context
  have he : values.take c.arguments.length ++ (values.drop c.arguments.length).take c.flags.length ++
      values.drop (c.arguments.length + c.flags.length) = values := by
    rw [List.append_assoc, ← List.drop_drop, List.take_append_drop, List.take_append_drop]
  rwa [he] at hall

end Command

theorem ParameterKind.Sees.view?_eq {kind : ParameterKind} {held seen : Value} (h : kind.Sees held seen) :
    kind.view? held = some seen := by
  cases h <;> rfl

theorem Parameter.Receives.take_eq {p : Parameter} {slot seen : Option Value} (h : p.Receives slot seen) :
    p.take slot = .ok seen := by
  cases h with
  | nothing ho => simp [Parameter.take, ho]
  | value hs => simp [Parameter.take, hs.view?_eq]

namespace Received

variable {parameters : List Parameter} {slots taken : List (Option Value)}

theorem length_eq (h : Received parameters slots taken) : taken.length = parameters.length := by
  induction h with
  | nil => rfl
  | cons _ _ ih => rw [List.length_cons, List.length_cons, ih]

theorem takeParameters_eq (h : Received parameters slots taken) (index : Nat) :
    takeParameters index parameters slots = .ok taken := by
  induction h generalizing index with
  | nil => rfl
  | cons hp _ ih =>
      rw [takeParameters, List.head?_cons, Option.getD_some, hp.take_eq, List.tail_cons, ih]

theorem exists_of_takes (h : List.Forall₂ Parameter.Takes parameters slots) :
    ∃ taken, Received parameters slots taken := by
  induction h with
  | nil => exact ⟨[], .nil⟩
  | cons hp _ ih =>
      obtain ⟨seen, hseen⟩ := hp
      obtain ⟨taken, htaken⟩ := ih
      exact ⟨seen :: taken, .cons hseen htaken⟩

end Received

theorem takes_of_serves {parameters : List Parameter} {declarations : List SlotDeclaration}
    {values : List (Option Value)} (h : List.Forall₂ SlotDeclaration.Serves declarations values)
    (hl : parameters.length = values.length)
    (hp : ∀ (i : Nat) (p : Parameter) (d : SlotDeclaration), parameters[i]? = some p →
      declarations[i]? = some d → p.Suits d) :
    List.Forall₂ Parameter.Takes parameters values := by
  obtain ⟨hld, hserves⟩ := List.forall₂_iff_get.mp h
  refine List.forall₂_iff_get.mpr ⟨hl, ?_⟩
  intro i hi hv
  have hdecl : i < declarations.length := by omega
  exact hserves i hdecl hv _ (hp i _ _ (List.getElem?_eq_getElem hi) (List.getElem?_eq_getElem hdecl))

theorem Handler.typed_call_of_taken {parameters : List Parameter} {values taken : List (Option Value)}
    (h : takeParameters 0 parameters values = .ok taken)
    (body : Actor → List (Option Value) → σ → BodyResult σ) (actor : Actor) (state : σ) :
    let reply := (Handler.typed parameters body).call actor values state
    let result := body actor taken state
    reply = ⟨result.state, result.response.messages, result.events, result.response.ending⟩ ∧
      ∀ index error, reply.ending ≠ .failed (.parameter index error) := by
  intro reply result
  have hreply : reply = ⟨result.state, result.response.messages, result.events, result.response.ending⟩ := by
    simp only [reply, Handler.typed, h, result]
  refine ⟨hreply, ?_⟩
  intro index error
  rw [hreply]
  cases result.response <;> simp [Response.ending]

theorem typed_handler_takes_every_slot (r : Registries) (source : String) (roots : List (Node σ))
    (hroots : (Definition.readText r source).value = .ok roots) (tables : List (HookTable σ)) (n : Node σ)
    (hn : n ∈ Node.preorderAll (Node.bindAll tables roots).value.result) (parameters : List Parameter)
    (body : Actor → List (Option Value) → σ → BodyResult σ)
    (hh : n.command.handler = some (.typed parameters body))
    (hp : ∀ (i : Nat) (p : Parameter) (d : SlotDeclaration), parameters[i]? = some p →
      n.command.slotDeclarations[i]? = some d → p.Suits d)
    (hd : ∀ d ∈ n.command.slotDeclarations, d.hasLiteralDefault = true) (actor : Actor) (tokens : List String)
    (values : List (Option Value)) (hmatched : (n.command.matchTokens actor tokens).value = .matched values)
    (state : σ) :
    ∃ taken, Received parameters values taken ∧ takeParameters 0 parameters values = .ok taken ∧
      taken.length = parameters.length ∧
      let reply := (Handler.typed parameters body).call actor values state
      let result := body actor taken state
      reply = ⟨result.state, result.response.messages, result.events, result.response.ending⟩ ∧
        ∀ index error, reply.ending ≠ .failed (.parameter index error) := by
  have hw := Node.wellFormed_of_bound hroots hn
  obtain ⟨positional, found, hs, -, hfilled⟩ := Command.filled_of_matched (c := n.command) hw.flagPositions hmatched
  obtain ⟨harity, -⟩ := Node.handler_of_bound hroots hn hh
  replace harity : 1 + parameters.length = n.command.expectedArity := harity
  have hl : parameters.length = values.length := by
    have := hfilled.length
    omega
  obtain ⟨taken, hreceived⟩ :=
    Received.exists_of_takes (takes_of_serves (hfilled.serves hw.arguments hw.flags hd hs) hl hp)
  have ht := hreceived.takeParameters_eq 0
  exact ⟨taken, hreceived, ht, hreceived.length_eq, Handler.typed_call_of_taken ht body actor state⟩

def keepsSlots (_ : Actor) (taken : List (Option Value)) (_ : List (Option Value)) :
    BodyResult (List (Option Value)) :=
  ⟨taken, [], .text "paid"⟩

def receiptHooks : HookTable (List (Option Value)) :=
  ⟨[("pay", .typed payParameters keepsSlots)]⟩

def payReceipt : List (Option Value) :=
  [some (.long 5), none, some (.long 9), some (.boolean true), some (.string "Alex")]

theorem pay_takes_every_slot :
    ∃ roots, (Definition.readText Definition.withWorld paySource).value = .ok roots ∧
      ∃ n ∈ Node.preorderAll (Node.bindAll [receiptHooks] roots).value.result,
        n.command.handler = some (.typed payParameters keepsSlots) ∧
          (∀ (i : Nat) (p : Parameter) (d : SlotDeclaration), payParameters[i]? = some p →
            n.command.slotDeclarations[i]? = some d → p.Suits d) ∧
          (∀ d ∈ n.command.slotDeclarations, d.hasLiteralDefault = true) ∧
          (n.command.matchTokens payer ["5", "--quiet"]).value = .matched paySlots ∧
          Received payParameters paySlots payReceipt ∧
          (Handler.typed payParameters keepsSlots).call payer paySlots [] =
            ⟨payReceipt, ["paid"], [], .completed⟩ := by
  have hread : ((Definition.readText Definition.withWorld paySource).value.toOption.map fun roots =>
      (Node.preorderAll (Node.bindAll [receiptHooks] roots).value.result).map fun n =>
        (n.command.handler.isSome, n.command.hook,
          (payParameters.zip n.command.slotDeclarations).all fun slot => slot.1.suitsNamed slot.2,
          n.command.slotDeclarations.all (·.hasLiteralDefault), (n.command.matchTokens payer ["5", "--quiet"]).value)) =
      some [(false, none, true, true, .noMatch), (true, some "pay", true, true, .matched paySlots)] := by
    decide +kernel
  obtain ⟨roots, h, n, hn, hview⟩ :=
    Node.exists_of_views hread (List.mem_cons_of_mem _ (List.mem_singleton_self _))
  simp only [Prod.mk.injEq] at hview
  obtain ⟨hsome, hhook, hnamed, hliteral, hmatched⟩ := hview
  obtain ⟨handler, hh⟩ := Option.isSome_iff_exists.mp hsome
  obtain ⟨-, hprovided⟩ := Node.handler_of_bound h hn hh
  rw [hhook] at hprovided
  obtain rfl : .typed payParameters keepsSlots = handler := Option.some.inj hprovided
  have hw := Node.wellFormed_of_bound h hn
  have hsuits := n.command.suits_of_suitsNamed rfl hw.arguments hw.flags hnamed
  have hl : ∀ d ∈ n.command.slotDeclarations, d.hasLiteralDefault = true := List.all_eq_true.mp hliteral
  obtain ⟨taken, hreceived, ht, -, hreply, -⟩ := typed_handler_takes_every_slot Definition.withWorld paySource roots h
    [receiptHooks] n hn payParameters keepsSlots hh hsuits hl payer ["5", "--quiet"] paySlots hmatched []
  obtain rfl : payReceipt = taken := Except.ok.inj ht
  exact ⟨roots, h, n, hn, hh, hsuits, hl, hmatched, hreceived, hreply⟩

end CommandTree
