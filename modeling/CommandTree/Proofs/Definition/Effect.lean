import CommandTree.Definition.Block

namespace CommandTree.Definition

variable {σ : Type} {r : Registries}

inductive Effect where
  | help (line : String)
  | permission (name : String)
  | senderKind (kind : SenderKind)
  | context (providers : List Provider)
  | asserters (providers : List Provider)
  | hideChildren
  | hideFromCompletion
  | hook (name : String)

def Effect.on (c : Command σ) : Effect → Command σ
  | .help line => { c with help := some (addHelp c.help line) }
  | .permission name => { c with permission := some name }
  | .senderKind kind => { c with senderKind := kind }
  | .context providers => { c with context := c.context ++ providers }
  | .asserters providers => { c with asserters := c.asserters ++ providers }
  | .hideChildren => { c with hidesChildren := true }
  | .hideFromCompletion => { c with hidesFromCompletion := true }
  | .hook name => { c with hook := some name }

def readEffect (r : Registries) (tag : String) (value : List Char) : Except DefinitionCause Effect :=
  match tag with
  | "help" => .ok (.help (String.ofList value))
  | "permission" => (required tag value).map fun value => .permission (String.ofList value)
  | "user" => readSender
  | "users" => readSender
  | "context" => readProviders.map .context
  | "assert" => readProviders.map .asserters
  | "hidesub" => .ok .hideChildren
  | "notab" => .ok .hideFromCompletion
  | "hook" => (required tag value).map fun value => .hook (String.ofList value)
  | _ => .error (.unknownTag tag)
where
  readSender : Except DefinitionCause Effect := do
    let value ← required tag value
    match SenderKind.ofWord? (String.ofList value) with
    | some kind => .ok (.senderKind kind)
    | none => .error (.unknownSenderKind (String.ofList value))
  readProviders : Except DefinitionCause (List Provider) := do
    let value ← required tag value
    findProviders r (Text.words value)

theorem setSender_eq (c : Command σ) (tag : String) (value : List Char) :
    applyTag.setSender c tag value = (readEffect.readSender tag value).map (·.on c) := by
  rw [readEffect.readSender, applyTag.setSender]
  cases required tag value with
  | error cause => rfl
  | ok value =>
      simp only [bind, Except.bind]
      cases SenderKind.ofWord? (String.ofList value) <;> rfl

theorem bind_providers_eq (r : Registries) (c : Command σ) (tag : String) (value : List Char)
    (effect : List Provider → Effect) :
    (required tag value >>= fun value =>
        findProviders r (Text.words value) >>= fun providers => .ok ((effect providers).on c)) =
      ((readEffect.readProviders r tag value).map effect).map (·.on c) := by
  rw [readEffect.readProviders]
  cases required tag value with
  | error cause => rfl
  | ok value =>
      simp only [bind, Except.bind]
      cases findProviders r (Text.words value) <;> rfl

theorem applyTag_eq (r : Registries) (c : Command σ) (tag : String) (value : List Char) :
    applyTag r c tag value = (readEffect r tag value).map (·.on c) := by
  unfold applyTag readEffect
  split
  · rfl
  · cases required "permission" value <;> rfl
  · exact setSender_eq c "user" value
  · exact setSender_eq c "users" value
  · exact bind_providers_eq r c "context" value .context
  · exact bind_providers_eq r c "assert" value .asserters
  · rfl
  · rfl
  · cases required "hook" value <;> rfl
  · simp_all [Except.map]

def lineEffect (r : Registries) (line : List Char) : Except DefinitionCause Effect :=
  readEffect r (String.ofList (readTag line).1) (readTag line).2

theorem applyLine_eq (r : Registries) (c : Command σ) (line : List Char) :
    applyLine r c line = (lineEffect r line).map (·.on c) :=
  applyTag_eq r c _ _

structure Naming where
  name : String
  alternatives : List String
  parameters : List (List Char)

def readNaming (header : List Char) : Except DefinitionCause Naming :=
  match splitHeader header with
  | none => .error (.unbalancedParenthesis (String.ofList header))
  | some [] => .error .missingName
  | some (names :: parameters) =>
      match readNames names with
      | none => .error (.malformedArgument (String.ofList names))
      | some (name, alternatives) => .ok ⟨name, alternatives, parameters⟩

theorem readHeader_value (r : Registries) (header : List Char) (number : Nat) (parent : Option String) :
    (readHeader (σ := σ) r header number parent).value =
      (readNaming header).bind fun n =>
        (Signature.read r ⟨[], []⟩ n.parameters).value.map (declareCommand n.name n.alternatives · parent number) := by
  rw [readHeader, readNaming]
  cases splitHeader header with
  | none => rfl
  | some texts =>
      cases texts with
      | nil => rfl
      | cons names parameters =>
          dsimp only
          cases readNames names with
          | none => rfl
          | some naming =>
              simp only [Logged.value_bind, Except.bind]
              cases (Signature.read r ⟨[], []⟩ parameters).value <;> rfl

def Nesting.enter (n : Nesting σ) (c : Command σ) : Progress σ :=
  .inside ⟨⟨c, []⟩, n.innermost :: n.outer⟩

def Nesting.amend (n : Nesting σ) (e : Effect) : Progress σ :=
  .inside ⟨⟨e.on n.innermost.command, n.innermost.children⟩, n.outer⟩

theorem exists_of_map_eq_ok {ε α β : Type} {x : Except ε α} {f : α → β} {b : β} (h : x.map f = .ok b) :
    ∃ a, x = .ok a ∧ f a = b := by
  cases x with
  | error e => simp [Except.map] at h
  | ok a => exact ⟨a, rfl, Except.ok.inj h⟩

theorem Nesting.read_value (r : Registries) (n : Nesting σ) (number : Nat) (raw : String) :
    (n.read r number raw).value =
      match Line.read raw with
      | .ignored => .ok (.inside n)
      | .close => .ok n.close
      | .opening header => (readHeader r header number (some n.innermost.command.path)).value.map n.enter
      | .other text => (lineEffect r text).map n.amend := by
  rw [Nesting.read]
  cases Line.read raw with
  | ignored => rfl
  | close => rfl
  | opening header =>
      simp only [Logged.value_bind]
      cases (readHeader (σ := σ) r header number (some n.innermost.command.path)).value <;> rfl
  | other text =>
      simp only [applyLine_eq]
      cases lineEffect r text <;> rfl

def Reading.enter (s : Reading σ) (c : Command σ) : Reading σ :=
  ⟨s.roots, some ⟨⟨c, []⟩, []⟩⟩

def Reading.after (roots : List (Node σ)) : Progress σ → Reading σ
  | .inside n => ⟨roots, some n⟩
  | .closed node => ⟨roots ++ [asRoot node], none⟩

theorem Reading.read_value (r : Registries) (s : Reading σ) (number : Nat) (raw : String) :
    (s.read r number raw).value =
      match s.nesting with
      | some n => (n.read r number raw).value.map (Reading.after s.roots)
      | none =>
          match Line.read raw with
          | .ignored => .ok s
          | .close => .error .unexpectedClose
          | .other text => .error (.outsideBlock (String.ofList text))
          | .opening header => (readHeader r header number none).value.map s.enter := by
  rw [Reading.read]
  cases s.nesting with
  | some n =>
      simp only [Logged.value_bind]
      cases (n.read r number raw).value with
      | error cause => rfl
      | ok p => cases p <;> rfl
  | none =>
      cases Line.read raw with
      | ignored => rfl
      | close => rfl
      | other text => rfl
      | opening header =>
          simp only [Logged.value_bind]
          cases (readHeader (σ := σ) r header number none).value <;> rfl

end CommandTree.Definition
