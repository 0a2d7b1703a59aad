import Mathlib.Data.List.DropRight
import CommandTree.Proofs.Definition.Derivation
import CommandTree.Proofs.Definition.Nested
import CommandTree.Proofs.Definition.Numbering
import CommandTree.Proofs.Definition.Renumbering

namespace CommandTree

namespace Text

theorem trimStart_trimEnd {text : List Char} (h : trimStart text = text) : trimStart (trimEnd text) = trimEnd text := by
  rw [trimStart, List.dropWhile_eq_self_iff] at h ⊢
  intro hl
  have hp : trimEnd text <+: text := List.rdropWhile_prefix isBlank text
  rw [hp.getElem hl]
  exact h (Nat.lt_of_lt_of_le hl hp.length_le)

theorem trim_trim (text : List Char) : trim (trim text) = trim text := by
  have hs : trimStart (trimStart text) = trimStart text := List.dropWhile_idempotent isBlank _
  have he : trimEnd (trim text) = trim text := List.rdropWhile_idempotent isBlank _
  rw [trim, trim, trimStart_trimEnd hs]
  exact he

end Text

namespace Definition

open Text

variable {σ : Type} {r : Registries}

def isIgnored (raw : String) : Bool :=
  (trim raw.toList).head?.all (· == '#')

def trimmed (raw : String) : String :=
  String.ofList (trim raw.toList)

def tidied (lines : List String) : List String :=
  (lines.map trimmed).filter (!isIgnored ·)

def keptNumbers (number : Nat) (lines : List String) : List Nat :=
  numbersWhere (!isIgnored ·) number lines

def keptNumber (lines : List String) (k : Nat) : Nat :=
  (keptNumbers 1 lines)[k - 1]?.getD 0

theorem isIgnored_eq_true_iff {raw : String} : isIgnored raw = true ↔ Line.read raw = .ignored := by
  rw [isIgnored, Line.read]
  generalize trim raw.toList = text
  unfold Line.ofTrimmed
  split
  · simp
  · simp
  · simp
  next he hh _ =>
    have hn : text.head?.all (· == '#') = false := by
      cases text with
      | nil => exact absurd rfl he
      | cons c rest =>
          have hc : c ≠ '#' := by
            rintro rfl
            exact hh rest rfl
          simpa using hc
    rw [hn]
    split <;> simp

theorem trim_trimmed (raw : String) : trim (trimmed raw).toList = trim raw.toList := by
  rw [trimmed, String.toList_ofList, trim_trim]

theorem read_trimmed (raw : String) : Line.read (trimmed raw) = Line.read raw := by
  rw [Line.read, Line.read, trim_trimmed]

theorem isIgnored_trimmed (raw : String) : isIgnored (trimmed raw) = isIgnored raw := by
  rw [isIgnored, isIgnored, trim_trimmed]

theorem tidied_cons (raw : String) (lines : List String) :
    tidied (raw :: lines) = if isIgnored raw then tidied lines else trimmed raw :: tidied lines := by
  rw [tidied, List.map_cons, List.filter_cons, isIgnored_trimmed]
  cases isIgnored raw <;> rfl

theorem keptNumbers_cons (number : Nat) (raw : String) (lines : List String) :
    keptNumbers number (raw :: lines) =
      if isIgnored raw then keptNumbers (number + 1) lines else number :: keptNumbers (number + 1) lines := by
  rw [keptNumbers, numbersWhere_cons]
  cases isIgnored raw <;> rfl

theorem Reading.read_trimmed (r : Registries) (s : Reading σ) (number : Nat) (raw : String) :
    (s.read r number (trimmed raw)).value = (s.read r number raw).value := by
  simp only [read_value, Nesting.read_value, Definition.read_trimmed]

theorem Reading.read_ignored {raw : String} (h : isIgnored raw = true) (r : Registries) (s : Reading σ)
    (number : Nat) : (s.read r number raw).value = .ok s := by
  obtain ⟨roots, nesting⟩ := s
  have hl := isIgnored_eq_true_iff.mp h
  cases nesting with
  | none => simp only [read_value, hl]
  | some n =>
      simp only [read_value, Nesting.read_value, hl]
      rfl

/-- Two runs side by side. Line `number` of the lines as they are is to come in the one, and in the other what is kept
of them from its line `place` on; `f` numbers the second run's lines as the first's. -/
theorem Reading.run_tidied (r : Registries) {f : Nat → Nat} {s : Reading σ} {number place : Nat} {lines : List String}
    (hf : ∀ i k, (keptNumbers number lines)[i]? = some k → f (place + i) = k) :
    (run r (s.renumber f) number lines).value = renumberOutcome f (run r s place (tidied lines)).value := by
  induction lines generalizing s number place with
  | nil => exact s.finish_renumber f
  | cons raw lines ih =>
      rw [keptNumbers_cons] at hf
      rw [tidied_cons]
      cases hi : isIgnored raw with
      | true =>
          simp only [hi, if_true] at hf
          simp only [run, Logged.value_bind, read_ignored hi, if_true]
          exact ih hf
      | false =>
          simp only [hi, Bool.false_eq_true, if_false] at hf
          have hplace : f place = number := hf 0 number rfl
          have hread : ((s.renumber f).read r number raw).value =
              (s.read r place (trimmed raw)).value.map (Reading.renumber f) := by
            rw [read_trimmed, ← hplace, read_renumber]
          simp only [run, Logged.value_bind, hread, Bool.false_eq_true, if_false]
          cases (s.read r place (trimmed raw)).value with
          | error cause => simp [Except.map, renumberOutcome, DefinitionError.renumber, hplace]
          | ok next =>
              refine ih ?_
              intro i k hk
              rw [Nat.add_assoc, Nat.add_comm 1 i]
              exact hf (i + 1) k hk

theorem readLines_tidied (r : Registries) (lines : List String) :
    (readLines (σ := σ) r lines).value = renumberOutcome (keptNumber lines) (readLines r (tidied lines)).value := by
  have hf : ∀ i k, (keptNumbers 1 lines)[i]? = some k → keptNumber lines (1 + i) = k := by
    intro i k hk
    rw [keptNumber, Nat.add_sub_cancel_left, hk, Option.getD_some]
  exact Reading.run_tidied (s := ⟨[], none⟩) r hf

theorem tidied_append (before after : List String) : tidied (before ++ after) = tidied before ++ tidied after := by
  rw [tidied, List.map_append, List.filter_append]
  rfl

theorem tidied_remarks {remarks : List String} (h : ∀ raw ∈ remarks, isIgnored raw = true) : tidied remarks = [] := by
  rw [tidied, List.filter_eq_nil_iff]
  intro text ht
  obtain ⟨raw, hr, rfl⟩ := List.mem_map.mp ht
  simp [isIgnored_trimmed, h raw hr]

def pushedDown (place count k : Nat) : Nat :=
  if k ≤ place then k else k + count

theorem keptNumbers_inserted {remarks : List String} (h : ∀ raw ∈ remarks, isIgnored raw = true)
    (before after : List String) :
    keptNumbers 1 (before ++ remarks ++ after) =
      (keptNumbers 1 (before ++ after)).map (pushedDown before.length remarks.length) := by
  have hremarks : numbersWhere (!isIgnored ·) (1 + before.length) remarks = [] :=
    numbersWhere_eq_nil (fun raw hr => by simp [h raw hr]) _
  have hbefore : (numbersWhere (!isIgnored ·) 1 before).map (pushedDown before.length remarks.length) =
      numbersWhere (!isIgnored ·) 1 before := by
    refine (List.map_congr_left ?_).trans (List.map_id _)
    intro k hk
    have hrange := range_of_mem_numbersWhere hk
    exact if_pos (by omega)
  have hafter : (numbersWhere (!isIgnored ·) (1 + before.length) after).map
        (pushedDown before.length remarks.length) =
      numbersWhere (!isIgnored ·) (1 + before.length + remarks.length) after := by
    rw [numbersWhere_add _ (1 + before.length)]
    refine List.map_congr_left ?_
    intro k hk
    have hrange := range_of_mem_numbersWhere hk
    exact if_neg (by omega)
  simp only [keptNumbers, numbersWhere_append, List.append_assoc, List.map_append, hremarks, hbefore, hafter,
    List.nil_append, Nat.add_assoc]

theorem keptNumber_inserted {remarks : List String} (h : ∀ raw ∈ remarks, isIgnored raw = true)
    (before after : List String) :
    keptNumber (before ++ remarks ++ after) =
      pushedDown before.length remarks.length ∘ keptNumber (before ++ after) := by
  funext k
  have hzero : pushedDown before.length remarks.length 0 = 0 := if_pos (Nat.zero_le _)
  rw [Function.comp_apply, keptNumber, keptNumber, keptNumbers_inserted h, List.getElem?_map]
  cases (keptNumbers 1 (before ++ after))[k - 1]? with
  | none => exact hzero.symm
  | some number => rfl

theorem readLines_inserted {remarks : List String} (h : ∀ raw ∈ remarks, isIgnored raw = true) (r : Registries)
    (before after : List String) :
    (readLines (σ := σ) r (before ++ remarks ++ after)).value =
      renumberOutcome (pushedDown before.length remarks.length) (readLines r (before ++ after)).value := by
  have htidied : tidied (before ++ remarks ++ after) = tidied (before ++ after) := by
    simp only [tidied_append, tidied_remarks h, List.append_nil]
  rw [readLines_tidied, readLines_tidied r (before ++ after), renumberOutcome_renumberOutcome,
    ← keptNumber_inserted h, htidied]

theorem layout_is_irrelevant (r : Registries) :
    (∀ lines, (readLines (σ := σ) r lines).value =
      match (readLines r (tidied lines)).value with
      | .ok roots => .ok (roots.map (Node.renumber (keptNumber lines)))
      | .error e => .error ⟨keptNumber lines e.line, e.cause⟩) ∧
    ∀ before remarks after, (∀ raw ∈ remarks, isIgnored raw = true) →
      (readLines (σ := σ) r (before ++ remarks ++ after)).value =
        match (readLines r (before ++ after)).value with
        | .ok roots => .ok (roots.map (Node.renumber (pushedDown before.length remarks.length)))
        | .error e => .error ⟨pushedDown before.length remarks.length e.line, e.cause⟩ := by
  refine ⟨?_, ?_⟩
  · intro lines
    exact readLines_tidied r lines
  · intro before remarks after h
    exact readLines_inserted h r before after

def brewLines : List String :=
  ["  brew \x7b", "\tstir string:how \x7b", "\t\x7d  ", "\x7d"]

def brewRemarks : List String :=
  ["", "  # stir \x7b", "\t"]

theorem brew_with_remarks : ∃ roots : List (Node Nat),
    (readLines ⟨.standard, .empty⟩ brewLines).value = .ok roots ∧
      (Node.preorderAll roots).map (·.command.line) = [1, 2] ∧ (∀ raw ∈ brewRemarks, isIgnored raw = true) ∧
      (readLines ⟨.standard, .empty⟩ (brewLines.take 1 ++ brewRemarks ++ brewLines.drop 1)).value =
        .ok (roots.map (Node.renumber (pushedDown 1 3))) ∧
      (readLines (σ := Nat) ⟨.standard, .empty⟩ ["brew \x7b", "", "  # stir", " stir \x7b\t"]).value =
        .error ⟨keptNumber ["brew \x7b", "", "  # stir", " stir \x7b\t"] 2, .unclosedBlock⟩ := by
  have hread : ((readLines (σ := Nat) ⟨.standard, .empty⟩ brewLines).value.toOption.map
      fun roots => (Node.preorderAll roots).map (·.command.line)) = some [1, 2] := by
    decide +kernel
  obtain ⟨roots, hr, hlines⟩ := exists_roots_of_toOption hread
  have hremarks : ∀ raw ∈ brewRemarks, isIgnored raw = true := by decide
  have hopen : (readLines (σ := Nat) ⟨.standard, .empty⟩ (tidied ["brew \x7b", "", "  # stir", " stir \x7b\t"])).value =
      .error ⟨2, .unclosedBlock⟩ := by
    rfl
  refine ⟨roots, hr, hlines, hremarks, ?_, ?_⟩
  · have hjoined : brewLines.take 1 ++ brewLines.drop 1 = brewLines := rfl
    rw [(layout_is_irrelevant _).2 _ _ _ hremarks, hjoined, hr]
    rfl
  · rw [(layout_is_irrelevant _).1, hopen]

end Definition

end CommandTree
