import CommandTree.Proofs.Definition.Advance
import CommandTree.Proofs.Definition.Blame
import CommandTree.Proofs.Definition.Layout

namespace CommandTree.Definition

variable {σ : Type} {r : Registries}

/-- The blocks that are open behind the lines, from inside out, by the numbers of their opening lines. What is opened
behind the last of these lines is closed again. -/
inductive Opened : List String → List Nat → Prop
  | outside {lines : List String} : Nested lines → Opened lines []
  | inside {before inner : List String} {raw : String} {outer : List Nat} : Opened before outer →
      opensBlock raw = true → Nested inner → Opened (before ++ raw :: inner) ((before.length + 1) :: outer)

namespace Opened

variable {lines more : List String} {raw : String} {block : Nat} {blocks outer : List Nat}

theorem append (h : Opened lines blocks) (hm : Nested more) : Opened (lines ++ more) blocks := by
  cases h with
  | outside hn => exact .outside (hn.append hm)
  | inside hb ho hi =>
      rw [List.append_assoc, List.cons_append]
      exact .inside hb ho (hi.append hm)

theorem plain (h : Opened lines blocks) (ho : opensBlock raw = false) (hc : closesBlock raw = false) :
    Opened (lines ++ [raw]) blocks :=
  h.append ((nested_cons_iff ho hc).mpr nested_nil)

theorem opening (h : Opened lines blocks) (ho : opensBlock raw = true) :
    Opened (lines ++ [raw]) ((lines.length + 1) :: blocks) :=
  .inside h ho nested_nil

theorem closing (h : Opened lines (block :: outer)) (hc : closesBlock raw = true) : Opened (lines ++ [raw]) outer := by
  cases h with
  | inside hb ho hi =>
      rw [List.append_assoc, List.cons_append]
      exact hb.append (nested_block ho hi hc)

theorem range (h : Opened lines (block :: outer)) : 1 ≤ block ∧ block ≤ lines.length := by
  cases h with
  | inside =>
      rw [List.length_append, List.length_cons]
      omega

end Opened

def Nesting.openings (n : Nesting σ) : List Nat :=
  n.innermost.command.line :: n.outer.map (·.command.line)

def Progress.openings : Progress σ → List Nat
  | .inside n => n.openings
  | .closed _ => []

def Reading.openings (s : Reading σ) : List Nat :=
  match s.nesting with
  | some n => n.openings
  | none => []

theorem Reading.openings_after (roots : List (Node σ)) (p : Progress σ) : (after roots p).openings = p.openings := by
  cases p <;> rfl

theorem Nesting.openings_eq (n : Nesting σ) : n.openings = n.innermost.command.line :: n.close.openings := by
  obtain ⟨innermost, outer⟩ := n
  cases outer <;> rfl

theorem Nesting.opened_of_read {n : Nesting σ} {before : List String} {raw : String} {p : Progress σ}
    (h : Opened before n.openings) (hr : (n.read r (before.length + 1) raw).value = .ok p) :
    Opened (before ++ [raw]) p.openings := by
  cases Nesting.step_of_read hr with
  | ignored hl =>
      exact h.plain (opensBlock_eq_false_of_read hl (by simp)) (closesBlock_eq_false_of_read hl (by simp))
  | close hl =>
      rw [n.openings_eq] at h
      exact h.closing (closesBlock_eq_true_iff.mpr hl)
  | opening hl hc =>
      have ho := h.opening (opensBlock_eq_true_iff.mpr ⟨_, hl⟩)
      rw [← line_of_readHeader hc] at ho
      exact ho
  | tag hl ht =>
      have hp := h.plain (opensBlock_eq_false_of_read hl (by simp)) (closesBlock_eq_false_of_read hl (by simp))
      rw [Nesting.openings, ← (tagged_of_applyLine ht).line_eq] at hp
      exact hp

theorem Reading.opened_of_read {s s' : Reading σ} {before : List String} {raw : String}
    (h : Opened before s.openings) (hr : (s.read r (before.length + 1) raw).value = .ok s') :
    Opened (before ++ [raw]) s'.openings := by
  obtain ⟨roots, nesting⟩ := s
  rw [Reading.read_value] at hr
  cases nesting with
  | some n =>
      obtain ⟨p, hp, rfl⟩ := exists_of_map_eq_ok hr
      rw [openings_after]
      exact n.opened_of_read h hp
  | none =>
      cases hl : Line.read raw with
      | ignored =>
          obtain rfl : (⟨roots, none⟩ : Reading σ) = s' := by simpa [hl] using hr
          exact h.plain (opensBlock_eq_false_of_read hl (by simp)) (closesBlock_eq_false_of_read hl (by simp))
      | close => simp [hl] at hr
      | other text => simp [hl] at hr
      | opening header =>
          rw [hl] at hr
          obtain ⟨c, hc, rfl⟩ := exists_of_map_eq_ok hr
          have ho := h.opening (opensBlock_eq_true_iff.mpr ⟨_, hl⟩)
          rw [← line_of_readHeader hc] at ho
          exact ho

theorem Reading.opened_of_advance {s s' : Reading σ} {before lines : List String} (h : Opened before s.openings)
    (ha : s.advance r (before.length + 1) lines = .ok s') : Opened (before ++ lines) s'.openings := by
  induction lines generalizing s before with
  | nil =>
      obtain rfl : s = s' := by simpa [advance] using ha
      simpa using h
  | cons raw lines ih =>
      rw [advance] at ha
      cases hs : (s.read r (before.length + 1) raw).value with
      | error cause => simp [hs] at ha
      | ok next =>
          rw [hs] at ha
          have hn := s.opened_of_read h hs
          rw [List.append_cons]
          refine ih hn ?_
          rw [List.length_append, List.length_singleton]
          exact ha

theorem Nesting.read_closing (r : Registries) (n : Nesting σ) (number : Nat) :
    (n.read r number "\x7d").value = .ok n.close := by
  have hl : Line.read "\x7d" = .close := by decide
  rw [Nesting.read_value, hl]

theorem Reading.exists_advance_closing (r : Registries) (s : Reading σ) (number : Nat) :
    ∃ roots, s.advance r number (List.replicate s.openings.length "\x7d") = .ok ⟨roots, none⟩ := by
  induction hb : s.openings.length generalizing s number with
  | zero =>
      obtain ⟨roots, nesting⟩ := s
      cases nesting with
      | none => exact ⟨roots, rfl⟩
      | some n => simp [openings, Nesting.openings] at hb
  | succ k ih =>
      obtain ⟨roots, nesting⟩ := s
      cases nesting with
      | none => simp [openings] at hb
      | some n =>
          have hk : (after roots n.close).openings.length = k := by
            rw [openings_after]
            simpa [openings, n.openings_eq] using hb
          obtain ⟨closed, hc⟩ := ih (after roots n.close) (number + 1) hk
          refine ⟨closed, ?_⟩
          simp only [List.replicate_succ, advance, read_value, Nesting.read_closing, Except.map]
          exact hc

structure FirstOffence (σ : Type) (r : Registries) (lines : List String) (e : DefinitionError) : Prop where
  inRange : 1 ≤ e.line ∧ e.line ≤ lines.length
  settled : e.cause ≠ .unclosedBlock → ∀ other : List String, other.take e.line = lines.take e.line →
    (readLines (σ := σ) r other).value = .error e
  first : e.cause ≠ .unclosedBlock →
    (∃ roots : List (Node σ), (readLines r (lines.take (e.line - 1))).value = .ok roots) ∨
      ∃ line, (readLines (σ := σ) r (lines.take (e.line - 1))).value = .error ⟨line, .unclosedBlock⟩
  leftOpen : e.cause = .unclosedBlock → ∃ outer, Opened lines (e.line :: outer) ∧
    ∃ roots : List (Node σ),
      (readLines r (lines ++ List.replicate (outer.length + 1) "\x7d")).value = .ok roots

theorem readLines_value (r : Registries) (lines : List String) :
    (readLines (σ := σ) r lines).value = (Reading.advance r ⟨[], none⟩ 1 lines).bind Reading.finish :=
  Reading.run_value r ⟨[], none⟩ 1 lines

theorem Reading.finish_roots_or_unclosed (s : Reading σ) :
    (∃ roots, s.finish = .ok roots) ∨ ∃ line, s.finish = .error ⟨line, .unclosedBlock⟩ := by
  obtain ⟨roots, nesting⟩ := s
  cases nesting with
  | none => exact .inl ⟨roots, rfl⟩
  | some n => exact .inr ⟨n.innermost.command.line, rfl⟩

theorem firstOffence_of_advance_error {lines : List String} {e : DefinitionError}
    (h : Reading.advance (σ := σ) r ⟨[], none⟩ 1 lines = .error e) : FirstOffence σ r lines e := by
  obtain ⟨before, raw, after, s, rfl, hline, hbefore, hrefused⟩ := Reading.exists_of_advance_error h
  have hcause : e.cause ≠ .unclosedBlock := by
    intro hc
    rw [hc] at hrefused
    exact s.read_ofLine r e.line raw hrefused
  have htake : (before ++ raw :: after).take e.line = before ++ [raw] := by
    rw [hline, Nat.add_comm, List.take_length_add_append, List.take_succ_cons, List.take_zero]
  refine ⟨?_, ?_, ?_, fun hc => absurd hc hcause⟩
  · rw [List.length_append, List.length_cons]
    omega
  · intro _ other hother
    rw [htake] at hother
    obtain ⟨rest, rfl⟩ : ∃ rest, other = before ++ raw :: rest := by
      refine ⟨other.drop e.line, ?_⟩
      rw [← List.singleton_append, ← List.append_assoc, ← hother, List.take_append_drop]
    rw [readLines_value, Reading.advance_append, hbefore]
    simp only [Except.bind, Reading.advance, ← hline, hrefused]
  · intro _
    have hearlier : (before ++ raw :: after).take (e.line - 1) = before := by
      rw [hline, Nat.add_sub_cancel_left, List.take_left]
    rw [hearlier, readLines_value, hbefore]
    exact s.finish_roots_or_unclosed

theorem firstOffence_of_leftOpen {lines : List String} {roots : List (Node σ)} {n : Nesting σ}
    (h : Reading.advance r ⟨[], none⟩ 1 lines = .ok ⟨roots, some n⟩) : FirstOffence σ r lines n.unclosed := by
  have hstart : Opened [] (⟨[], none⟩ : Reading σ).openings := .outside nested_nil
  have hopened : Opened lines n.openings := Reading.opened_of_advance hstart h
  refine ⟨hopened.range, fun hc => absurd rfl hc, fun hc => absurd rfl hc, fun _ => ?_⟩
  refine ⟨n.close.openings, ?_, ?_⟩
  · rw [n.openings_eq] at hopened
    exact hopened
  · obtain ⟨closed, hc⟩ := Reading.exists_advance_closing r ⟨roots, some n⟩ (1 + lines.length)
    have hlength : n.close.openings.length + 1 = (⟨roots, some n⟩ : Reading σ).openings.length :=
      congrArg List.length n.openings_eq.symm
    rw [hlength, readLines_value, Reading.advance_append, h]
    exact ⟨closed, by simp only [Except.bind, hc]; rfl⟩

theorem firstOffence_of_readLines {lines : List String} {e : DefinitionError}
    (h : (readLines (σ := σ) r lines).value = .error e) : FirstOffence σ r lines e := by
  rw [readLines_value] at h
  cases ha : Reading.advance (σ := σ) r ⟨[], none⟩ 1 lines with
  | error e' =>
      obtain rfl : e' = e := by simpa [ha, Except.bind] using h
      exact firstOffence_of_advance_error ha
  | ok s =>
      obtain ⟨roots, nesting⟩ := s
      cases nesting with
      | none => simp [ha, Except.bind, Reading.finish] at h
      | some n =>
          obtain rfl : n.unclosed = e := by simpa [ha, Except.bind, Reading.finish] using h
          exact firstOffence_of_leftOpen ha

theorem error_lies_on_first_offence (r : Registries) :
    (∀ lines e, (readLines (σ := σ) r lines).value = .error e → FirstOffence σ r lines e) ∧
    ∀ source e, (readText (σ := σ) r source).value = .error e →
      FirstOffence σ r ((Text.lines source.toList).map String.ofList) e :=
  ⟨fun _ _ h => firstOffence_of_readLines h, fun _ _ h => firstOffence_of_readLines h⟩

def pawnLines : List String :=
  ["pawn \x7b", "  offer \x7b", "    hok offer", "  \x7d", "\x7d", "\x7d"]

def stallSource : String :=
  "stall \x7b\n  open \x7b\n  \x7d\n  close \x7b\n    # closes it"

theorem stall_is_left_open :
    (readLines (σ := Nat) ⟨.standard, .empty⟩ pawnLines).value = .error ⟨3, .unknownTag "hok"⟩ ∧
      FirstOffence Nat ⟨.standard, .empty⟩ pawnLines ⟨3, .unknownTag "hok"⟩ ∧
      (readText (σ := Nat) ⟨.standard, .empty⟩ stallSource).value = .error ⟨4, .unclosedBlock⟩ ∧
      FirstOffence Nat ⟨.standard, .empty⟩ ["stall \x7b", "  open \x7b", "  \x7d", "  close \x7b", "    # closes it"]
        ⟨4, .unclosedBlock⟩ := by
  have hpawn : (readLines (σ := Nat) ⟨.standard, .empty⟩ pawnLines).value = .error ⟨3, .unknownTag "hok"⟩ := by
    rfl
  have hstall : (readText (σ := Nat) ⟨.standard, .empty⟩ stallSource).value = .error ⟨4, .unclosedBlock⟩ := by
    rfl
  exact ⟨hpawn, (error_lies_on_first_offence _).1 _ _ hpawn, hstall, (error_lies_on_first_offence _).2 _ _ hstall⟩

end CommandTree.Definition
