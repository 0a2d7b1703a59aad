import CommandTree.Definition.Block

namespace CommandTree.Definition

variable {σ : Type} {r : Registries}

inductive Nesting.Step (r : Registries) (n : Nesting σ) (number : Nat) (raw : String) : Progress σ → Prop
  | ignored : Line.read raw = .ignored → Step r n number raw (.inside n)
  | close : Line.read raw = .close → Step r n number raw n.close
  | opening {header : List Char} {c : Command σ} : Line.read raw = .opening header →
      (readHeader r header number (some n.innermost.command.path)).value = .ok c →
      Step r n number raw (.inside ⟨⟨c, []⟩, n.innermost :: n.outer⟩)
  | tag {text : List Char} {c : Command σ} : Line.read raw = .other text →
      applyLine r n.innermost.command text = .ok c →
      Step r n number raw (.inside ⟨⟨c, n.innermost.children⟩, n.outer⟩)

theorem Nesting.step_of_read {n : Nesting σ} {number : Nat} {raw : String} {p : Progress σ}
    (h : (n.read r number raw).value = .ok p) : n.Step r number raw p := by
  rw [Nesting.read] at h
  cases hl : Line.read raw with
  | ignored =>
      simp only [hl, Logged.value_pure, Except.ok.injEq] at h
      subst h
      exact .ignored hl
  | close =>
      simp only [hl, Logged.value_bind, Logged.value_pure, Except.ok.injEq] at h
      subst h
      exact .close hl
  | opening header =>
      simp only [hl, Logged.value_bind] at h
      cases hc : (readHeader (σ := σ) r header number (some n.innermost.command.path)).value with
      | error cause => simp [hc] at h
      | ok c =>
          simp only [hc, Logged.value_pure, Except.ok.injEq] at h
          subst h
          exact .opening hl hc
  | other text =>
      simp only [hl] at h
      cases hc : applyLine r n.innermost.command text with
      | error cause => simp [hc] at h
      | ok c =>
          simp only [hc, Logged.value_pure, Except.ok.injEq] at h
          subst h
          exact .tag hl hc

/-- The lines from line `number` on are the body of a block: they turn its command from `c` into `c'` and
give it the subcommands `nodes`. -/
inductive Body (r : Registries) : Nat → List String → Command σ → Command σ → List (Node σ) → Prop
  | nil {number : Nat} {c : Command σ} : Body r number [] c c []
  | ignored {number : Nat} {raw : String} {lines : List String} {c c' : Command σ} {nodes : List (Node σ)} :
      Line.read raw = .ignored → Body r (number + 1) lines c c' nodes →
      Body r number (raw :: lines) c c' nodes
  | tag {number : Nat} {raw : String} {text : List Char} {lines : List String} {c d c' : Command σ}
      {nodes : List (Node σ)} :
      Line.read raw = .other text → applyLine r c text = .ok d → Body r (number + 1) lines d c' nodes →
      Body r number (raw :: lines) c c' nodes
  | block {number : Nat} {raw closer : String} {header : List Char} {inner rest : List String}
      {c c' d d' : Command σ} {children nodes : List (Node σ)} :
      Line.read raw = .opening header → (readHeader r header number (some c.path)).value = .ok d →
      Body r (number + 1) inner d d' children → Line.read closer = .close →
      Body r (number + 1 + inner.length + 1) rest c c' nodes →
      Body r number (raw :: (inner ++ closer :: rest)) c c' (.mk d' children :: nodes)

def Progress.GoesOn (r : Registries) (p : Progress σ) (number : Nat) (lines : List String)
    (result : Node σ × Nat) : Prop :=
  match p with
  | .closed node => result = (node, number)
  | .inside n => (readNesting r n number lines).value = .ok result

theorem exists_step_of_readNesting {n : Nesting σ} {number : Nat} {raw : String} {lines : List String}
    {result : Node σ × Nat} (h : (readNesting r n number (raw :: lines)).value = .ok result) :
    ∃ p, n.Step r number raw p ∧ p.GoesOn r (number + 1) lines result := by
  simp only [readNesting, Logged.value_bind] at h
  cases hp : (n.read r number raw).value with
  | error cause => simp [hp] at h
  | ok p =>
      refine ⟨p, Nesting.step_of_read hp, ?_⟩
      cases p with
      | closed node =>
          have he : (node, number + 1) = result := by simpa [hp] using h
          exact he.symm
      | inside n' => simpa only [hp, Progress.GoesOn] using h

theorem exists_body_of_readNesting {lines : List String} {number : Nat} {b : OpenBlock σ}
    {outer : List (OpenBlock σ)} {result : Node σ × Nat}
    (h : (readNesting r ⟨b, outer⟩ number lines).value = .ok result) :
    ∃ inner closer rest next c nodes, lines = inner ++ closer :: rest ∧ Line.read closer = .close ∧
      next = number + inner.length + 1 ∧ Body r number inner b.command c nodes ∧
      (Nesting.close ⟨⟨c, b.children ++ nodes⟩, outer⟩).GoesOn r next rest result := by
  -- Behind a nested block the body goes on after its closing line, so the induction is on the number of lines.
  induction hk : lines.length using Nat.strongRecOn generalizing lines number b outer with
  | ind k ih =>
    cases lines with
    | nil => simp [readNesting] at h
    | cons raw lines =>
      rw [List.length_cons] at hk
      obtain ⟨p, hs, hg⟩ := exists_step_of_readNesting h
      cases hs with
      | ignored hl =>
          obtain ⟨inner, closer, rest, next, c, nodes, rfl, hc, hn, hb, hg⟩ :=
            ih lines.length (by omega) hg rfl
          refine ⟨raw :: inner, closer, rest, next, c, nodes, rfl, hc, ?_, .ignored hl hb, hg⟩
          rw [List.length_cons]
          omega
      | close hl => exact ⟨[], raw, lines, number + 1, b.command, [], rfl, hl, rfl, .nil, by simpa using hg⟩
      | @opening header d hl hd =>
          obtain ⟨inner, closer, behind, _, d', children, rfl, hc, rfl, hb, hg⟩ :=
            ih lines.length (by omega) hg rfl
          rw [List.length_append, List.length_cons] at hk
          obtain ⟨inner', closer', rest, next, c, nodes, rfl, hc', hn, hb', hg⟩ :=
            ih behind.length (by omega) hg rfl
          refine ⟨raw :: (inner ++ closer :: inner'), closer', rest, next, c, .mk d' children :: nodes,
            ?_, hc', ?_, .block hl hd hb hc hb', ?_⟩
          · simp
          · simp only [List.length_cons, List.length_append]
            omega
          · simpa [OpenBlock.addChild, OpenBlock.finish] using hg
      | tag hl ht =>
          obtain ⟨inner, closer, rest, next, c, nodes, rfl, hc, hn, hb, hg⟩ :=
            ih lines.length (by omega) hg rfl
          refine ⟨raw :: inner, closer, rest, next, c, nodes, rfl, hc, ?_, .tag hl ht hb, hg⟩
          rw [List.length_cons]
          omega

theorem exists_body_of_readBlock {lines : List String} {start : Nat} {parent : Option String}
    {node : Node σ} {next : Nat} (h : (readBlock r lines start parent).value = .ok (node, next)) :
    ∃ header inner closer rest c c' children, lines.drop start = header :: (inner ++ closer :: rest) ∧
      (readHeader r (headerText (Text.trim header.toList)) (start + 1) parent).value = .ok c ∧
      Body r (start + 2) inner c c' children ∧ Line.read closer = .close ∧
      node = .mk c' children ∧ next = start + inner.length + 2 := by
  rw [readBlock] at h
  cases hl : lines.drop start with
  | nil => simp [hl] at h
  | cons header lines =>
      simp only [hl, Logged.value_bind] at h
      cases hc : (readHeader (σ := σ) r (headerText (Text.trim header.toList)) (start + 1) parent).value with
      | error cause => simp [hc] at h
      | ok c =>
          simp only [hc, Logged.value_bind, Logged.value_pure] at h
          cases hn : (readNesting r ⟨⟨c, []⟩, []⟩ (start + 2) lines).value with
          | error e => simp [hn, Except.map] at h
          | ok result =>
              obtain ⟨inner, closer, rest, behind, c', children, rfl, hclose, rfl, hb, hg⟩ :=
                exists_body_of_readNesting hn
              obtain rfl : result = (.mk c' children, start + 2 + inner.length + 1) := hg
              simp only [hn, Except.map, Except.ok.injEq, Prod.mk.injEq] at h
              obtain ⟨rfl, rfl⟩ := h
              refine ⟨header, inner, closer, rest, c, c', children, rfl, hc, hb, hclose, rfl, ?_⟩
              omega

inductive Forest (r : Registries) : Nat → List String → List (Node σ) → Prop
  | nil {number : Nat} : Forest r number [] []
  | ignored {number : Nat} {raw : String} {lines : List String} {nodes : List (Node σ)} :
      Line.read raw = .ignored → Forest r (number + 1) lines nodes → Forest r number (raw :: lines) nodes
  | block {number : Nat} {raw closer : String} {header : List Char} {inner rest : List String}
      {d d' : Command σ} {children nodes : List (Node σ)} :
      Line.read raw = .opening header → (readHeader r header number none).value = .ok d →
      Body r (number + 1) inner d d' children → Line.read closer = .close →
      Forest r (number + 1 + inner.length + 1) rest nodes →
      Forest r number (raw :: (inner ++ closer :: rest)) (asRoot (.mk d' children) :: nodes)

theorem exists_readNesting_of_run {lines : List String} {n : Nesting σ} {number : Nat}
    {roots result : List (Node σ)}
    (h : (Reading.run r ⟨roots, some n⟩ number lines).value = .ok result) :
    ∃ before rest node next, lines = before ++ rest ∧ next = number + before.length ∧
      (readNesting r n number lines).value = .ok (node, next) ∧
      (Reading.run r ⟨roots ++ [asRoot node], none⟩ next rest).value = .ok result := by
  induction lines generalizing n number with
  | nil => simp [Reading.run, Reading.finish] at h
  | cons raw lines ih =>
      simp only [Reading.run, Reading.read, Logged.value_bind] at h
      simp only [readNesting, Logged.value_bind]
      cases hp : (n.read r number raw).value with
      | error cause => simp [hp] at h
      | ok p =>
          simp only [hp] at h ⊢
          cases p with
          | closed node => exact ⟨[raw], lines, node, number + 1, rfl, rfl, rfl, h⟩
          | inside n' =>
              obtain ⟨before, rest, node, next, rfl, hn, hr, hrest⟩ := ih h
              refine ⟨raw :: before, rest, node, next, rfl, ?_, hr, hrest⟩
              rw [List.length_cons]
              omega

theorem exists_body_of_run {lines : List String} {c : Command σ} {number : Nat}
    {roots result : List (Node σ)}
    (h : (Reading.run r ⟨roots, some ⟨⟨c, []⟩, []⟩⟩ number lines).value = .ok result) :
    ∃ inner closer rest c' children, lines = inner ++ closer :: rest ∧ Line.read closer = .close ∧
      Body r number inner c c' children ∧
      (Reading.run r ⟨roots ++ [asRoot (.mk c' children)], none⟩ (number + inner.length + 1) rest).value =
        .ok result := by
  obtain ⟨before, rest, node, next, rfl, hn, hr, hrest⟩ := exists_readNesting_of_run h
  obtain ⟨inner, closer, rest', next', c', children, hs, hc, rfl, hb, hg⟩ := exists_body_of_readNesting hr
  have he : (node, next) = (.mk c' children, number + inner.length + 1) := hg
  obtain ⟨rfl, rfl⟩ := Prod.mk.inj he
  -- Both cuts of the lines lie behind the closing line.
  have hlen : before.length = (inner ++ [closer]).length := by
    rw [List.length_append, List.length_singleton]
    omega
  rw [← List.singleton_append, ← List.append_assoc] at hs
  obtain ⟨rfl, rfl⟩ := List.append_inj hs hlen
  exact ⟨inner, closer, rest, c', children, by simp, hc, hb, hrest⟩

theorem exists_forest_of_run {lines : List String} {number : Nat} {roots result : List (Node σ)}
    (h : (Reading.run r ⟨roots, none⟩ number lines).value = .ok result) :
    ∃ nodes, result = roots ++ nodes ∧ Forest r number lines nodes := by
  induction hk : lines.length using Nat.strongRecOn generalizing lines number roots with
  | ind k ih =>
    cases lines with
    | nil =>
        obtain rfl : roots = result := by simpa [Reading.run, Reading.finish] using h
        exact ⟨[], by simp, .nil⟩
    | cons raw lines =>
      rw [List.length_cons] at hk
      simp only [Reading.run, Reading.read, Logged.value_bind] at h
      cases hl : Line.read raw with
      | ignored =>
          simp only [hl, Logged.value_pure] at h
          obtain ⟨nodes, rfl, hf⟩ := ih lines.length (by omega) h rfl
          exact ⟨nodes, rfl, .ignored hl hf⟩
      | close => simp [hl] at h
      | other text => simp [hl] at h
      | opening header =>
          simp only [hl, Logged.value_bind] at h
          cases hd : (readHeader (σ := σ) r header number none).value with
          | error cause => simp [hd] at h
          | ok d =>
              simp only [hd, Logged.value_pure] at h
              obtain ⟨inner, closer, rest, d', children, rfl, hc, hb, hrest⟩ := exists_body_of_run h
              rw [List.length_append, List.length_cons] at hk
              obtain ⟨nodes, rfl, hf⟩ := ih rest.length (by omega) hrest rfl
              exact ⟨asRoot (.mk d' children) :: nodes, by simp, .block hl hd hb hc hf⟩

theorem forest_of_readLines {lines : List String} {roots : List (Node σ)}
    (h : (readLines r lines).value = .ok roots) : Forest r 1 lines roots := by
  obtain ⟨nodes, rfl, hf⟩ := exists_forest_of_run h
  exact hf

theorem exists_ok_of_toOption {α β : Type} {read : Except DefinitionError α} {view : α → β} {b : β}
    (h : read.toOption.map view = some b) : ∃ a, read = .ok a ∧ view a = b := by
  cases read with
  | error e => simp [Except.toOption] at h
  | ok a => exact ⟨a, rfl, by simpa [Except.toOption] using h⟩

theorem exists_roots_of_toOption {read : Except DefinitionError (List (Node σ))} {β : Type}
    {view : List (Node σ) → β} {b : β} (h : read.toOption.map view = some b) :
    ∃ roots, read = .ok roots ∧ view roots = b :=
  exists_ok_of_toOption h

end CommandTree.Definition
