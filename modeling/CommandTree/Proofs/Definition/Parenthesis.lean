import Mathlib.Data.List.Infix
import CommandTree.Definition.Parenthesis

/-!
Balanced text, and the scan that takes a group off the end of a token. It goes backwards, so what it must not run out
of is the closing parentheses: of them a balanced text has enough in each of its endings.
-/

namespace CommandTree.Definition

structure Balanced (text : List Char) : Prop where
  opened : ∀ before, before <+: text → before.count ')' ≤ before.count '('
  closed : text.count ')' = text.count '('

instance (text : List Char) : Decidable (Balanced text) :=
  decidable_of_iff ((∀ before ∈ text.inits, before.count ')' ≤ before.count '(') ∧ text.count ')' = text.count '(')
    ⟨fun h => ⟨fun before hb => h.1 before ((List.mem_inits before text).mpr hb), h.2⟩,
      fun h => ⟨fun before hb => h.opened before ((List.mem_inits before text).mp hb), h.closed⟩⟩

theorem Balanced.count_suffix {text after : List Char} (h : Balanced text) (hs : after <:+ text) :
    after.count '(' ≤ after.count ')' := by
  obtain ⟨before, rfl⟩ := hs
  have hopened := h.opened before (List.prefix_append before after)
  have hclosed := h.closed
  rw [List.count_append, List.count_append] at hclosed
  omega

theorem openingFrom_close (depth : Nat) (inner before : List Char) :
    openingFrom depth inner (')' :: before) = openingFrom (depth + 1) (')' :: inner) before := by
  simp [openingFrom]

theorem openingFrom_open (depth : Nat) (inner before : List Char) :
    openingFrom (depth + 1) inner ('(' :: before) = openingFrom depth ('(' :: inner) before := by
  simp [openingFrom]

theorem openingFrom_other {c : Char} (h : isParenthesis c = false) (depth : Nat) (inner before : List Char) :
    openingFrom depth inner (c :: before) = openingFrom depth (c :: inner) before := by
  simp only [isParenthesis, Bool.or_eq_false_iff, beq_eq_false_iff_ne] at h
  simp [openingFrom, h.1, h.2]

theorem openingFrom_append {text : List Char} {depth : Nat} (inner rest : List Char)
    (h : ∀ read, read <+: text → read.count '(' ≤ depth + read.count ')') :
    openingFrom depth inner (text ++ rest) =
      openingFrom (depth + text.count ')' - text.count '(') (text.reverse ++ inner) rest := by
  induction text generalizing depth inner with
  | nil => rfl
  | cons c text ih =>
      -- The bound is on every beginning of the text, so that it passes on to what stands behind its first character.
      have hread : ∀ read, read <+: text → (c :: read).count '(' ≤ depth + (c :: read).count ')' :=
        fun read hr => h (c :: read) ((List.prefix_cons_inj c).mpr hr)
      rw [List.cons_append, List.reverse_cons, List.append_assoc, List.singleton_append]
      by_cases hclose : c = ')'
      · subst hclose
        simp only [List.count_cons_self, List.count_cons_of_ne (by decide : ')' ≠ '(')] at hread ⊢
        rw [openingFrom_close, ih _ (fun read hr => by have := hread read hr; omega)]
        congr 1
        omega
      · by_cases hopen : c = '('
        · subst hopen
          simp only [List.count_cons_self, List.count_cons_of_ne (by decide : '(' ≠ ')')] at hread ⊢
          -- The text up to here leaves a group open, or else this would be the parenthesis looked for.
          obtain ⟨outer, rfl⟩ : ∃ outer, depth = outer + 1 := by
            have hfirst := hread [] List.nil_prefix
            simp only [List.count_nil] at hfirst
            exact ⟨depth - 1, by omega⟩
          rw [openingFrom_open, ih _ (fun read hr => by have := hread read hr; omega)]
          congr 1
          omega
        · simp only [List.count_cons_of_ne hclose, List.count_cons_of_ne hopen] at hread ⊢
          rw [openingFrom_other (by simp [isParenthesis, hclose, hopen]), ih _ hread]

theorem openingFrom_reverse {inner : List Char} (h : Balanced inner) (body : List Char) :
    openingFrom 0 [] ((body ++ '(' :: inner).reverse) = some (body, inner) := by
  have hsplit : (body ++ '(' :: inner).reverse = inner.reverse ++ '(' :: body.reverse := by simp
  rw [hsplit, openingFrom_append]
  · simp [openingFrom, h.closed]
  · intro read hr
    have hs : read.reverse <:+ inner := List.reverse_prefix.mp (by simpa using hr)
    have hcount := h.count_suffix hs
    rw [List.count_reverse, List.count_reverse] at hcount
    omega

theorem splitDefault_eq {inner : List Char} (h : Balanced inner) (body : List Char) :
    splitDefault (body ++ '(' :: inner ++ [')']) = if body.any isParenthesis then none else some (body, inner) := by
  have hreverse : (body ++ '(' :: inner ++ [')']).reverse = ')' :: (body ++ '(' :: inner).reverse := by simp
  simp only [splitDefault, hreverse, openingFrom_reverse h]

end CommandTree.Definition
