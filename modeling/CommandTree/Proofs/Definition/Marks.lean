import CommandTree.Definition.Parameter
import CommandTree.Proofs.Definition.Parenthesis

namespace CommandTree.Definition

open Text

def markings : List (List Char) :=
  [[], ['*'], ['?'], ['*', '?'], ['?', '*']]

def dotsText (dots : Bool) : List Char :=
  if dots then ['.', '.', '.'] else []

def group (inner : List Char) : List Char :=
  '(' :: inner ++ [')']

def groupOf : Option (List Char) → List Char
  | none => []
  | some inner => group inner

inductive Spelling (body marks : List Char) (dots : Bool) (default : Option (List Char)) : List Char → Prop
  | inside : Spelling body marks dots default (body ++ groupOf default ++ marks ++ dotsText dots)
  | behind : Spelling body marks dots default (body ++ marks ++ dotsText dots ++ groupOf default)

def EndsPlainly (text : List Char) : Prop :=
  ∀ c ∈ text.getLast?, c ≠ '.' ∧ c ≠ '*' ∧ c ≠ '?'

variable {body marks : List Char}

theorem getLast?_group (before inner : List Char) : (before ++ group inner).getLast? = some ')' := by
  have hlast : before ++ group inner = (before ++ '(' :: inner) ++ [')'] := by simp [group]
  rw [hlast, List.getLast?_concat]

theorem endsPlainly_group (before inner : List Char) : EndsPlainly (before ++ group inner) := by
  intro c hc
  rw [getLast?_group] at hc
  obtain rfl : ')' = c := Option.some.inj hc
  decide

theorem EndsPlainly.eq_nil_or_concat (h : EndsPlainly body) :
    body = [] ∨ ∃ before c, body = before ++ [c] ∧ c ≠ '.' ∧ c ≠ '*' ∧ c ≠ '?' := by
  rcases List.eq_nil_or_concat body with hnil | ⟨before, c, hbody⟩
  · exact .inl hnil
  · rw [List.concat_eq_append] at hbody
    exact .inr ⟨before, c, hbody, h c (by simp [hbody])⟩

theorem takeMarks_append (h : EndsPlainly body) (hm : marks ∈ markings) :
    takeMarks (body ++ marks) = (body, decide ('*' ∈ marks), decide ('?' ∈ marks)) := by
  simp only [markings, List.mem_cons, List.not_mem_nil, or_false] at hm
  rcases h.eq_nil_or_concat with rfl | ⟨before, c, rfl, -, hstar, hmark⟩
  · rcases hm with rfl | rfl | rfl | rfl | rfl <;> rfl
  · rcases hm with rfl | rfl | rfl | rfl | rfl <;> simp [takeMarks, hstar, hmark]

theorem takeDots_eq_self {text : List Char} (h : text.getLast? ≠ some '.') : takeDots text = (text, false) := by
  have hnone : dropEnd? ['.', '.', '.'] text = none := by
    rw [Option.eq_none_iff_forall_ne_some]
    intro rest hrest
    rw [dropEnd?_eq_some.mp hrest] at h
    simp at h
  rw [takeDots, hnone]

theorem eq_or_eq_of_mem_marks (hm : marks ∈ markings) {c : Char} (hc : c ∈ marks) : c = '*' ∨ c = '?' := by
  simp only [markings, List.mem_cons, List.not_mem_nil, or_false] at hm
  rcases hm with rfl | rfl | rfl | rfl | rfl <;> simp_all [or_comm]

theorem getLast?_append_marks (h : EndsPlainly body) (hm : marks ∈ markings) :
    (body ++ marks).getLast? ≠ some '.' := by
  intro hlast
  rw [List.getLast?_append, Option.or_eq_some_iff] at hlast
  rcases hlast with hlast | ⟨-, hlast⟩
  · have hdot := eq_or_eq_of_mem_marks hm (List.mem_of_getLast? hlast)
    simp at hdot
  · exact (h '.' hlast).1 rfl

theorem takeDots_append (h : EndsPlainly body) (hm : marks ∈ markings) (dots : Bool) :
    takeDots (body ++ marks ++ dotsText dots) = (body ++ marks, dots) := by
  cases dots with
  | false => simpa [dotsText] using takeDots_eq_self (getLast?_append_marks h hm)
  | true =>
      have hend : dropEnd? ['.', '.', '.'] (body ++ marks ++ dotsText true) = some (body ++ marks) :=
        dropEnd?_eq_some.mpr rfl
      rw [takeDots, hend]

theorem takeDefault_eq_self {text : List Char} (h : text.getLast? ≠ some ')') :
    takeDefault text = .ok (text, none) := by
  simp [takeDefault, endsWithParenthesis, h]

theorem takeDefault_group {inner : List Char} (h : Balanced inner) (text : List Char) :
    takeDefault (text ++ group inner) =
      if text.any isParenthesis then .error (.unbalancedParenthesis (String.ofList (text ++ group inner)))
      else .ok (text, some inner) := by
  have hend : endsWithParenthesis (text ++ group inner) = true := by
    rw [endsWithParenthesis, getLast?_group]
    rfl
  have hsplit : splitDefault (text ++ group inner) = if text.any isParenthesis then none else some (text, inner) := by
    rw [← splitDefault_eq h text]
    simp [group]
  rw [takeDefault, if_pos hend, hsplit]
  by_cases hp : text.any isParenthesis = true
  · rw [if_pos hp, if_pos hp]
  · rw [if_neg hp, if_neg hp]

theorem Marked.read_behind {token : List Char} {inner : List Char} {dots : Bool} (h : EndsPlainly body)
    (hm : marks ∈ markings) (ht : takeDefault token = .ok (body ++ marks ++ dotsText dots, some inner)) :
    Marked.read token = .ok ⟨body, some inner, dots, decide ('*' ∈ marks), decide ('?' ∈ marks)⟩ := by
  simp only [Marked.read, ht, takeDots_append h hm, takeMarks_append h hm]

theorem Marked.read_inside {dots : Bool} (h : EndsPlainly body) (hm : marks ∈ markings)
    (ht : (body ++ marks ++ dotsText dots).getLast? ≠ some ')') :
    Marked.read (body ++ marks ++ dotsText dots) =
      (takeDefault body).map fun (rest, inner) =>
        ⟨rest, inner, dots, decide ('*' ∈ marks), decide ('?' ∈ marks)⟩ := by
  simp only [Marked.read, takeDefault_eq_self ht, takeDots_append h hm, takeMarks_append h hm]
  cases takeDefault body <;> rfl

theorem getLast?_plain {text : List Char} (hp : ∀ c ∈ text, isParenthesis c = false) :
    text.getLast? ≠ some ')' := by
  intro hlast
  have hend := hp ')' (List.mem_of_getLast? hlast)
  exact absurd hend (by decide)

theorem isParenthesis_marks (hm : marks ∈ markings) (dots : Bool) :
    ∀ c ∈ marks ++ dotsText dots, isParenthesis c = false := by
  intro c hc
  rcases List.mem_append.mp hc with hc | hc
  · rcases eq_or_eq_of_mem_marks hm hc with rfl | rfl <;> rfl
  · cases dots with
    | false => simp [dotsText] at hc
    | true =>
        obtain rfl : c = '.' := by simpa [dotsText] using hc
        rfl

theorem eq_nil_or_getLast?_suffix (hm : marks ∈ markings) (dots : Bool) (text : List Char) :
    (marks = [] ∧ dots = false) ∨ (text ++ marks ++ dotsText dots).getLast? ≠ some ')' := by
  by_cases hs : marks ++ dotsText dots = []
  · obtain ⟨hmarks, hdots⟩ := List.append_eq_nil_iff.mp hs
    refine .inl ⟨hmarks, ?_⟩
    cases dots with
    | false => rfl
    | true => simp [dotsText] at hdots
  · rw [List.append_assoc, List.getLast?_append_of_ne_nil _ hs]
    exact .inr (getLast?_plain (isParenthesis_marks hm dots))

theorem takeDefault_plain {inner : List Char} (h : Balanced inner) {text : List Char}
    (hp : ∀ c ∈ text, isParenthesis c = false) : takeDefault (text ++ group inner) = .ok (text, some inner) := by
  have hnone : text.any isParenthesis = false := by simpa [List.any_eq_false] using hp
  rw [takeDefault_group h, hnone, if_neg Bool.false_ne_true]

theorem Marked.read_spelling {token : List Char} {default : Option (List Char)} {dots : Bool} (h : EndsPlainly body)
    (hp : ∀ c ∈ body, isParenthesis c = false) (hm : marks ∈ markings)
    (hd : ∀ inner, default = some inner → Balanced inner) (ht : Spelling body marks dots default token) :
    Marked.read token = .ok ⟨body, default, dots, decide ('*' ∈ marks), decide ('?' ∈ marks)⟩ := by
  have hall : ∀ c ∈ body ++ marks ++ dotsText dots, isParenthesis c = false := by
    intro c hc
    rw [List.append_assoc] at hc
    exact (List.mem_append.mp hc).elim (hp c) (isParenthesis_marks hm dots c)
  cases default with
  | none =>
      have htoken : token = body ++ marks ++ dotsText dots := by cases ht <;> simp [groupOf]
      rw [htoken, read_inside h hm (getLast?_plain hall), takeDefault_eq_self (getLast?_plain hp)]
      rfl
  | some inner =>
      have hinner := hd inner rfl
      cases ht with
      | behind => exact read_behind h hm (takeDefault_plain hinner hall)
      | inside =>
          rcases eq_nil_or_getLast?_suffix hm dots (body ++ group inner) with ⟨rfl, rfl⟩ | hlast
          · have htoken : body ++ groupOf (some inner) ++ [] ++ dotsText false = body ++ group inner := by
              simp [groupOf, dotsText]
            rw [htoken]
            refine read_behind h hm ?_
            simpa [dotsText] using takeDefault_plain hinner hp
          · rw [groupOf, read_inside (endsPlainly_group body inner) hm hlast, takeDefault_plain hinner hp]
            rfl

theorem Marked.read_twice (before first between : List Char) {second : List Char} (h : Balanced second)
    (hm : marks ∈ markings) (dots : Bool) :
    Marked.read (before ++ group first ++ between ++ group second ++ marks ++ dotsText dots) =
      .error (.unbalancedParenthesis (String.ofList (before ++ group first ++ between ++ group second))) := by
  have hparenthesis : (before ++ group first ++ between).any isParenthesis = true := by
    simp [group, isParenthesis]
  have hdefault := takeDefault_group h (before ++ group first ++ between)
  rw [if_pos hparenthesis] at hdefault
  rcases eq_nil_or_getLast?_suffix hm dots (before ++ group first ++ between ++ group second) with ⟨rfl, rfl⟩ | hlast
  · simp only [dotsText, Bool.false_eq_true, if_false, List.append_nil, Marked.read, hdefault]
  · rw [read_inside (endsPlainly_group _ second) hm hlast, hdefault]
    rfl

end CommandTree.Definition
