import CommandTree.Proofs.Definition.Advance
import CommandTree.Proofs.Definition.Derivation
import CommandTree.Proofs.Definition.Renumbering

namespace CommandTree.Definition

variable {σ : Type} {r : Registries}

def Reading.behind (before : List (Node σ)) (s : Reading σ) : Reading σ :=
  ⟨before ++ s.roots, s.nesting⟩

theorem after_behind (before roots : List (Node σ)) (p : Progress σ) :
    Reading.after (before ++ roots) p = (Reading.after roots p).behind before := by
  cases p with
  | inside n => rfl
  | closed node => simp [Reading.after, Reading.behind]

theorem Reading.read_behind (r : Registries) (before : List (Node σ)) (s : Reading σ) (number : Nat)
    (raw : String) :
    ((s.behind before).read r number raw).value = (s.read r number raw).value.map (Reading.behind before) := by
  obtain ⟨roots, nesting⟩ := s
  rw [read_value, read_value]
  cases nesting with
  | some n =>
      simp only [behind]
      cases (n.read r number raw).value with
      | error cause => rfl
      | ok p => exact congrArg Except.ok (after_behind before roots p)
  | none =>
      simp only [behind]
      cases Line.read raw with
      | ignored => rfl
      | close => rfl
      | other text => rfl
      | opening header =>
          dsimp only
          cases (readHeader (σ := σ) r header number none).value <;> rfl

def outcomeBehind (before : List (Node σ)) (count : Nat) :
    Except DefinitionError (List (Node σ)) → Except DefinitionError (List (Node σ))
  | .ok roots => .ok (before ++ roots.map (Node.renumber (· + count)))
  | .error e => .error (e.renumber (· + count))

theorem Reading.finish_behind (before : List (Node σ)) (count : Nat) (s : Reading σ) :
    ((s.renumber (· + count)).behind before).finish = outcomeBehind before count s.finish := by
  obtain ⟨roots, nesting⟩ := s
  cases nesting <;> rfl

theorem Reading.run_behind (r : Registries) (before : List (Node σ)) (count : Nat) (s : Reading σ) (number : Nat)
    (lines : List String) :
    (Reading.run r ((s.renumber (· + count)).behind before) (number + count) lines).value =
      outcomeBehind before count (Reading.run r s number lines).value := by
  induction lines generalizing s number with
  | nil => exact finish_behind before count s
  | cons raw lines ih =>
      have hread : (((s.renumber (· + count)).behind before).read r (number + count) raw).value =
          ((s.read r number raw).value.map (Reading.renumber (· + count))).map (Reading.behind before) := by
        rw [read_behind, read_renumber r (· + count)]
      simp only [Reading.run, Logged.value_bind, hread]
      cases (s.read r number raw).value with
      | error cause => rfl
      | ok next =>
          have hnumber : number + count + 1 = number + 1 + count := by omega
          rw [hnumber]
          exact ih next (number + 1)

theorem Reading.eq_of_finish_eq_ok {s : Reading σ} {roots : List (Node σ)} (h : s.finish = .ok roots) :
    s = ⟨roots, none⟩ := by
  obtain ⟨before, nesting⟩ := s
  cases nesting with
  | some n => simp [finish] at h
  | none =>
      obtain rfl : before = roots := by simpa [finish] using h
      rfl

theorem Reading.run_append {first : List String} {s : Reading σ} {number : Nat} {roots : List (Node σ)}
    (h : (Reading.run r s number first).value = .ok roots) (second : List String) :
    (Reading.run r s number (first ++ second)).value =
      (Reading.run r ⟨roots, none⟩ (number + first.length) second).value := by
  rw [run_value] at h
  rw [run_value, advance_append, run_value]
  cases hs : s.advance r number first with
  | error e =>
      rw [hs] at h
      cases h
  | ok reached =>
      rw [hs] at h
      obtain rfl := eq_of_finish_eq_ok h
      rfl

theorem concatenated_definitions {first : List String} {roots : List (Node σ)}
    (h : (readLines r first).value = .ok roots) (second : List String) :
    (readLines r (first ++ second)).value =
      match (readLines r second).value with
      | .ok others => .ok (roots ++ others.map (Node.renumber (· + first.length)))
      | .error e => .error ⟨e.line + first.length, e.cause⟩ := by
  have hrun := Reading.run_behind r roots first.length ⟨[], none⟩ 1 second
  simp only [Reading.renumber, Reading.behind, List.map_nil, Option.map_none, List.append_nil] at hrun
  rw [readLines, Reading.run_append h, hrun, readLines]
  cases (Reading.run r (⟨[], none⟩ : Reading σ) 1 second).value <;> rfl

def shopLines : List String :=
  ["shop \x7b", "\x7d"]

def vaultLines : List String :=
  ["vault \x7b", "  open \x7b", "  \x7d", "\x7d"]

theorem shop_before_vault : ∃ shop vault : List (Node Nat),
    (readLines ⟨.standard, .empty⟩ shopLines).value = .ok shop ∧
      (Node.preorderAll vault).map (·.command.line) = [1, 2] ∧
      (readLines ⟨.standard, .empty⟩ (shopLines ++ vaultLines)).value =
        .ok (shop ++ vault.map (Node.renumber (· + 2))) ∧
      (readLines (σ := Nat) ⟨.standard, .empty⟩ (shopLines ++ ["vault \x7b", "\x7d \x7d"])).value =
        .error ⟨4, .unknownTag "\x7d"⟩ := by
  have hshop : ((readLines (σ := Nat) ⟨.standard, .empty⟩ shopLines).value.toOption.map
      fun roots => (Node.preorderAll roots).map (·.command.line)) = some [1] := by
    decide +kernel
  have hvault : ((readLines (σ := Nat) ⟨.standard, .empty⟩ vaultLines).value.toOption.map
      fun roots => (Node.preorderAll roots).map (·.command.line)) = some [1, 2] := by
    decide +kernel
  obtain ⟨shop, hs, -⟩ := exists_roots_of_toOption hshop
  obtain ⟨vault, hv, hlines⟩ := exists_roots_of_toOption hvault
  have herror : (readLines (σ := Nat) ⟨.standard, .empty⟩ ["vault \x7b", "\x7d \x7d"]).value =
      .error ⟨2, .unknownTag "\x7d"⟩ := by
    rfl
  refine ⟨shop, vault, hs, hlines, ?_, ?_⟩
  · rw [concatenated_definitions hs, hv]
    rfl
  · rw [concatenated_definitions hs, herror]
    rfl

end CommandTree.Definition
