import CommandTree.Proofs.Definition.Effect

namespace CommandTree.Definition

variable {α β σ : Type}

def OfLine (x : Except DefinitionCause α) : Prop :=
  x ≠ .error .unclosedBlock

namespace OfLine

variable {x : Except DefinitionCause α}

theorem ok (a : α) : OfLine (.ok a) := by
  simp [OfLine]

theorem error {cause : DefinitionCause} (h : cause ≠ .unclosedBlock) :
    OfLine (.error cause : Except DefinitionCause α) := by
  simpa [OfLine] using h

@[elab_as_elim]
theorem elim {motive : Except DefinitionCause α → Prop} (h : OfLine x)
    (error : ∀ cause, cause ≠ .unclosedBlock → motive (.error cause)) (ok : ∀ a, motive (.ok a)) : motive x := by
  cases x with
  | error cause =>
      apply error
      rintro rfl
      exact h rfl
  | ok a => exact ok a

theorem map (h : OfLine x) (f : α → β) : OfLine (x.map f) :=
  h.elim (fun _ hc => error hc) (fun a => ok (f a))

theorem bind (h : OfLine x) {f : α → Except DefinitionCause β} (hf : ∀ a, OfLine (f a)) : OfLine (x.bind f) :=
  h.elim (fun _ hc => error hc) hf

end OfLine

theorem takeDefault_ofLine (body : List Char) : OfLine (takeDefault body) := by
  rw [takeDefault]
  split
  · split
    · exact .ok _
    · exact .error (by simp)
  · exact .ok _

theorem Marked.read_ofLine (token : List Char) : OfLine (Marked.read token) := by
  rw [Marked.read]
  refine (takeDefault_ofLine token).elim (fun _ hc => .error hc) ?_
  rintro ⟨body, outer⟩
  cases outer with
  | some inner => exact .ok _
  | none =>
      dsimp only
      exact (takeDefault_ofLine _).elim (fun _ hc => .error hc) (fun _ => .ok _)

theorem declareFlag_ofLine (token name : List Char) (m : Marked) (type : ArgumentType) (hidesType : Bool)
    (default : Option Default) : OfLine (declareFlag token name m type hidesType default) := by
  rw [declareFlag]
  split
  · exact .error (by simp)
  · split
    · split
      · exact .ok _
      · exact .error (by simp)
    · exact .error (by simp)

theorem declareArgument_ofLine (token name : List Char) (m : Marked) (type : ArgumentType) (hidesType : Bool)
    (default : Option Default) : OfLine (declareArgument token name m type hidesType default) := by
  rw [declareArgument]
  split
  · exact .error (by simp)
  · exact .ok _

theorem Signature.add_ofLine (s : Signature) (d : Declaration) : OfLine (s.add d) := by
  cases d with
  | flag f => exact .ok _
  | argument a =>
      rw [Signature.add]
      split
      · split
        · exact .error (by simp)
        · exact .ok _
      · exact .ok _

theorem readNaming_ofLine (header : List Char) : OfLine (readNaming header) := by
  rw [readNaming]
  split
  · exact .error (by simp)
  · exact .error (by simp)
  · split
    · exact .error (by simp)
    · exact .ok _

theorem required_ofLine (tag : String) (value : List Char) : OfLine (required tag value) := by
  rw [required]
  split
  · exact .error (by simp)
  · exact .ok _

variable (r : Registries)

theorem findProvider_ofLine (name : List Char) : OfLine (findProvider r name) := by
  rw [findProvider]
  split
  · exact .ok _
  · exact .error (by simp)

theorem findProviders_ofLine (names : List (List Char)) : OfLine (findProviders r names) := by
  induction names with
  | nil => exact .ok []
  | cons name names ih =>
      rw [findProviders]
      refine (findProvider_ofLine r name).elim (fun _ hc => .error hc) ?_
      intro provider
      exact ih.elim (fun _ hc => .error hc) (fun _ => .ok _)

theorem readDefault_ofLine (type : ArgumentType) (text : List Char) : OfLine (readDefault r type text).value := by
  rw [readDefault]
  split
  · exact (findProvider_ofLine r _).map Default.context
  · simp only [Logged.value_bind]
    split
    · exact .ok _
    · exact .error (by simp)

theorem readDefault?_ofLine (type : ArgumentType) (text : Option (List Char)) :
    OfLine (readDefault? r type text).value := by
  cases text with
  | none => exact .ok none
  | some text => exact (readDefault_ofLine r type text).map some

theorem readParameter_ofLine (token : List Char) : OfLine (readParameter r token).value := by
  rw [readParameter]
  refine (Marked.read_ofLine token).elim (fun _ hc => .error hc) ?_
  intro m
  dsimp only
  split
  · exact .error (by simp)
  · split
    · exact .error (by simp)
    · simp only [Logged.value_bind]
      refine (readDefault?_ofLine r _ m.default).elim (fun _ hc => .error hc) ?_
      intro default
      dsimp only
      split
      · exact declareFlag_ofLine token _ m _ _ default
      · exact declareArgument_ofLine token _ m _ _ default

theorem Signature.read_ofLine (s : Signature) (tokens : List (List Char)) :
    OfLine (Signature.read r s tokens).value := by
  induction tokens generalizing s with
  | nil => exact .ok s
  | cons token tokens ih =>
      simp only [Signature.read, Logged.value_bind]
      refine (readParameter_ofLine r token).elim (fun _ hc => .error hc) ?_
      intro declaration
      dsimp only
      exact (s.add_ofLine declaration).elim (fun _ hc => .error hc) ih

theorem readHeader_ofLine (header : List Char) (number : Nat) (parent : Option String) :
    OfLine (readHeader (σ := σ) r header number parent).value := by
  rw [readHeader_value]
  refine (readNaming_ofLine header).bind ?_
  intro n
  exact (Signature.read_ofLine r ⟨[], []⟩ n.parameters).map _

theorem readSender_ofLine (tag : String) (value : List Char) : OfLine (readEffect.readSender tag value) := by
  rw [readEffect.readSender]
  refine (required_ofLine tag value).bind ?_
  intro value
  split
  · exact .ok _
  · exact .error (by simp)

theorem readProviders_ofLine (tag : String) (value : List Char) : OfLine (readEffect.readProviders r tag value) := by
  rw [readEffect.readProviders]
  exact (required_ofLine tag value).bind fun value => findProviders_ofLine r (Text.words value)

theorem lineEffect_ofLine (line : List Char) : OfLine (lineEffect r line) := by
  rw [lineEffect]
  unfold readEffect
  split
  · exact .ok _
  · exact (required_ofLine _ _).map _
  · exact readSender_ofLine _ _
  · exact readSender_ofLine _ _
  · exact (readProviders_ofLine r _ _).map Effect.context
  · exact (readProviders_ofLine r _ _).map Effect.asserters
  · exact .ok _
  · exact .ok _
  · exact (required_ofLine _ _).map _
  · exact .error (by simp)

theorem Nesting.read_ofLine (n : Nesting σ) (number : Nat) (raw : String) : OfLine (n.read r number raw).value := by
  rw [Nesting.read_value]
  cases Line.read raw with
  | ignored => exact .ok _
  | close => exact .ok _
  | opening header => exact (readHeader_ofLine r header number _).map n.enter
  | other text => exact (lineEffect_ofLine r text).map n.amend

theorem Reading.read_ofLine (s : Reading σ) (number : Nat) (raw : String) : OfLine (s.read r number raw).value := by
  rw [Reading.read_value]
  cases s.nesting with
  | some n => exact (n.read_ofLine r number raw).map (Reading.after s.roots)
  | none =>
      cases Line.read raw with
      | ignored => exact .ok _
      | close => exact .error (by simp)
      | other text => exact .error (by simp)
      | opening header => exact (readHeader_ofLine r header number none).map s.enter

end CommandTree.Definition
