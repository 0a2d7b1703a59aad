import Mathlib.Data.List.Nodup

namespace CommandTree.Definition

def numbersWhere (p : String → Bool) (number : Nat) (lines : List String) : List Nat :=
  ((lines.zipIdx number).filter (p ·.1)).map (·.2)

variable {p : String → Bool} {number line : Nat} {lines : List String}

theorem mem_numbersWhere :
    line ∈ numbersWhere p number lines ↔
      number ≤ line ∧ ∃ raw, lines[line - number]? = some raw ∧ p raw = true := by
  simp only [numbersWhere, List.mem_map, List.mem_filter, Prod.exists, exists_eq_right,
    List.mk_mem_zipIdx_iff_le_and_getElem?_sub]
  constructor
  · rintro ⟨raw, ⟨hn, hr⟩, hp⟩
    exact ⟨hn, raw, hr, hp⟩
  · rintro ⟨hn, raw, hr, hp⟩
    exact ⟨raw, ⟨hn, hr⟩, hp⟩

theorem range_of_mem_numbersWhere (h : line ∈ numbersWhere p number lines) :
    number ≤ line ∧ line < number + lines.length := by
  obtain ⟨hle, raw, hr, -⟩ := mem_numbersWhere.mp h
  obtain ⟨hlt, -⟩ := List.getElem?_eq_some_iff.mp hr
  omega

theorem nodup_numbersWhere (p : String → Bool) (number : Nat) (lines : List String) :
    (numbersWhere p number lines).Nodup := by
  have hs : (numbersWhere p number lines).Sublist ((lines.zipIdx number).map (·.2)) := List.filter_sublist.map _
  rw [List.zipIdx_map_snd] at hs
  exact hs.nodup List.nodup_range'

theorem numbersWhere_cons (p : String → Bool) (number : Nat) (raw : String) (lines : List String) :
    numbersWhere p number (raw :: lines) =
      if p raw then number :: numbersWhere p (number + 1) lines else numbersWhere p (number + 1) lines := by
  rw [numbersWhere, List.zipIdx_cons, List.filter_cons]
  split <;> rfl

theorem numbersWhere_append (p : String → Bool) (number : Nat) (lines lines' : List String) :
    numbersWhere p number (lines ++ lines') =
      numbersWhere p number lines ++ numbersWhere p (number + lines.length) lines' := by
  simp only [numbersWhere, List.zipIdx_append, List.filter_append, List.map_append]

theorem numbersWhere_add (p : String → Bool) (number count : Nat) (lines : List String) :
    numbersWhere p (number + count) lines = (numbersWhere p number lines).map (· + count) := by
  induction lines generalizing number with
  | nil => rfl
  | cons raw lines ih =>
      have hnumber : number + count + 1 = number + 1 + count := by omega
      rw [numbersWhere_cons, numbersWhere_cons, hnumber, ih]
      split <;> rfl

theorem numbersWhere_eq_nil (h : ∀ raw ∈ lines, p raw = false) (number : Nat) : numbersWhere p number lines = [] := by
  rw [List.eq_nil_iff_forall_not_mem]
  intro line hline
  obtain ⟨-, raw, hr, hp⟩ := mem_numbersWhere.mp hline
  simp [h raw (List.mem_of_getElem? hr)] at hp

end CommandTree.Definition
