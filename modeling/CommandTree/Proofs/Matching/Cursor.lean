import CommandTree.Proofs.Definition.Roots
import CommandTree.Proofs.Matching.Checked
import CommandTree.Proofs.Matching.Shares

namespace CommandTree.Matching

structure Cursor where
  declaration : Nat
  index : Nat
  budget : Nat
  slots : List (Option Value)

abbrev Slots : Type :=
  Option (List (Option Value))

section Definitions

variable (arguments : List Argument) (actor : Actor) (tokens : List String)

def valueAt (a : Argument) (index : Nat) : Checked (Option Value) :=
  if a.isVariadic then do
    let rest ← Checked.behind tokens index
    .ok (a.type.convert (some actor) (" ".intercalate rest)).value
  else do
    let token ← Checked.get tokens index
    .ok (a.type.convert (some actor) token).value

def isFeasibleAt (candidate rest : Nat) : Checked Bool := do
  let a ← Checked.get arguments candidate
  if a.isVariadic then .ok true
  else do
    let after ← Checked.behind arguments (candidate + 1)
    .ok (after.countP (!·.isOptional) ≤ rest && (after.any (·.isVariadic) || rest ≤ after.length))

def Cursor.candidateValue (s : Cursor) (rest candidate : Nat) (a : Argument) : Checked (Option Value) := do
  let feasible ← isFeasibleAt arguments candidate rest
  if feasible then valueAt actor tokens a s.index else .ok none

def Cursor.gather (s : Cursor) (rest : Nat) : List Nat → Checked (List (Nat × Value))
  | [] => .ok []
  | candidate :: others => do
      let skipped ← Checked.sub candidate s.declaration
      if s.budget < skipped then .ok []
      else do
        let a ← Checked.get arguments candidate
        let value ← s.candidateValue arguments actor tokens rest candidate a
        let here := value.toList.map (candidate, ·)
        if a.isOptional then do
          let behind ← Cursor.gather s rest others
          .ok (here ++ behind)
        else .ok here

def generic : List (Nat × Value) → Checked (List ((Nat × Value) × Bool))
  | [] => .ok []
  | found :: others => do
      let a ← Checked.get arguments found.1
      let behind ← generic others
      .ok ((found, a.type.isString) :: behind)

def Cursor.pick (s : Cursor) (rest : Nat) : Checked (Option (Nat × Value)) := do
  let found ← s.gather arguments actor tokens rest (List.range' s.declaration (arguments.length - s.declaration))
  let typed ← generic arguments found
  let kept := if 1 < typed.length && !typed.all (·.2) then typed.filter (!·.2) else typed
  .ok (kept.head?.map (·.1))

def Cursor.instead (s : Cursor) (rest : Nat) (a : Argument) : Checked (Option (Nat × Value)) :=
  if !a.isVariadic && 0 < s.budget && a.isOptional then s.pick arguments actor tokens rest else .ok none

def Cursor.place (s : Cursor) (chosen : Nat) (value : Value) : Checked (Turn Cursor Slots) := do
  let a ← Checked.get arguments chosen
  let skipped ← Checked.sub chosen s.declaration
  let budget ← Checked.sub s.budget skipped
  let slots ← Checked.set s.slots chosen (some value)
  if a.isVariadic then .ok (.stop (some slots))
  else .ok (.again ⟨chosen + 1, s.index + 1, budget, slots⟩)

def Cursor.step (s : Cursor) : Checked (Turn Cursor Slots) :=
  if s.index < tokens.length then
    match arguments[s.declaration]? with
    | none => .ok (.stop none)
    | some a => do
        let left ← Checked.sub tokens.length s.index
        let rest ← Checked.sub left 1
        match ← s.instead arguments actor tokens rest a with
        | some (chosen, value) => s.place arguments chosen value
        | none =>
            match ← valueAt actor tokens a s.index with
            | none => .ok (.stop none)
            | some value => s.place arguments s.declaration value
  else .ok (.stop (some s.slots))

end Definitions

variable {arguments : List Argument} {actor : Actor} {tokens : List String}

theorem Cursor.index_of_place {s next : Cursor} {chosen : Nat} {value : Value}
    (h : s.place arguments chosen value = .ok (.again next)) : next.index = s.index + 1 := by
  simp only [place, Checked.bind_eq_ok_iff] at h
  obtain ⟨a, -, skipped, -, budget, -, slots, -, h⟩ := h
  split at h
  · simp at h
  · obtain rfl : _ = next := by simpa using h
    rfl

theorem Cursor.consumes {s next : Cursor} (h : s.step arguments actor tokens = .ok (.again next)) :
    s.index < tokens.length ∧ next.index = s.index + 1 := by
  rw [step] at h
  split at h
  next hi =>
    refine ⟨hi, ?_⟩
    split at h
    · simp at h
    · simp only [Checked.bind_eq_ok_iff] at h
      obtain ⟨left, -, rest, -, picked, -, h⟩ := h
      split at h
      · exact index_of_place h
      · obtain ⟨value, -, h⟩ := Checked.bind_eq_ok_iff.mp h
        split at h
        · simp at h
        · exact index_of_place h
  next => simp at h

def cursorLoop (arguments : List Argument) (actor : Actor) (tokens : List String) : Loop Cursor Slots where
  step := Cursor.step arguments actor tokens
  left s := tokens.length - s.index
  consumes := by
    intro s next h
    obtain ⟨hi, hnext⟩ := Cursor.consumes h
    omega

def budgetAt (arguments : List Argument) (count : Nat) : Checked Nat :=
  if hasTail arguments then do
    let last ← Checked.sub arguments.length 1
    let skippable ← Checked.before arguments last
    .ok (max (arguments.length - count) (skippable.countP (·.isOptional)))
  else .ok (arguments.length - count)

def matchPositionalChecked (arguments : List Argument) (actor : Actor) (tokens : List String) : Checked Slots :=
  if arguments.length < tokens.length && !hasTail arguments then .ok none
  else do
    let budget ← budgetAt arguments tokens.length
    match ← (cursorLoop arguments actor tokens).run ⟨0, 0, budget, List.replicate arguments.length none⟩ with
    | none => .ok none
    | some slots => .ok (fillDefaults actor arguments slots).value

/-- The arguments passed and those that remain, the tokens read and those left, and the slots written so far. -/
structure Cursor.At (s : Cursor) (passed remaining : List Argument) (read left : List String)
    (written : List (Option Value)) : Prop where
  declaration : s.declaration = passed.length
  index : s.index = read.length
  slots : s.slots = written ++ noSlots remaining
  length_written : written.length = passed.length

section Reading

variable {passed remaining following : List Argument} {a : Argument} {read rest : List String} {token : String}

theorem valueAt_eq (actor : Actor) (a : Argument) (read rest : List String) (token : String) :
    valueAt actor (read ++ token :: rest) a read.length = .ok (takeTokens a actor token rest).value := by
  rw [valueAt, takeTokens, Checked.behind_append, Checked.get_append]
  split <;> rfl

theorem isFeasibleAt_eq (passed following : List Argument) (a : Argument) (rest : Nat) :
    isFeasibleAt (passed ++ a :: following) passed.length rest = .ok (isFeasible a following rest) := by
  have hafter : Checked.behind (passed ++ a :: following) (passed.length + 1) = .ok following := by
    simpa using Checked.behind_append (passed ++ [a]) following
  rw [isFeasibleAt, Checked.get_append, isFeasible, hafter]
  cases ha : a.isVariadic <;> simp [ha]

theorem candidates_cons_value (actor : Actor) (token : String) (rest : List String) (budget skipped : Nat)
    (a : Argument) (following : List Argument) :
    (candidates actor token rest budget skipped (a :: following)).value =
      (if isFeasible a following rest.length then (takeTokens a actor token rest).value else none).toList.map
          (⟨skipped, a, following, ·⟩) ++
        (if a.isOptional = true ∧ 0 < budget then
          (candidates actor token rest (budget - 1) (skipped + 1) following).value else []) := by
  rw [candidates]
  cases isFeasible a following rest.length <;> cases ht : (takeTokens a actor token rest).value <;>
    cases a.isOptional <;> cases budget <;> simp [ht]

theorem Cursor.candidateValue_eq {s : Cursor} (hi : s.index = read.length) (actor : Actor)
    (passed following : List Argument) (a : Argument) (token : String) (rest : List String) :
    s.candidateValue (passed ++ a :: following) actor (read ++ token :: rest) rest.length passed.length a =
      .ok (if isFeasible a following rest.length then (takeTokens a actor token rest).value else none) := by
  rw [candidateValue, isFeasibleAt_eq, Checked.ok_bind, hi, valueAt_eq]
  split <;> rfl

theorem Cursor.gather_spent {s : Cursor} {skipped : Nat} (h : s.budget < skipped) (rest count : Nat) :
    s.gather arguments actor tokens rest (List.range' (s.declaration + skipped) count) = .ok [] := by
  cases count with
  | zero => rfl
  | succ count => simp [List.range'_succ, gather, Checked.sub_add, h]

theorem Cursor.gather_eq {s : Cursor} (hd : s.declaration = passed.length) (hi : s.index = read.length)
    (actor : Actor) (token : String) (rest : List String) {between : List Argument} (hb : between.length ≤ s.budget)
    (remaining : List Argument) :
    s.gather (passed ++ between ++ remaining) actor (read ++ token :: rest) rest.length
        (List.range' (s.declaration + between.length) remaining.length) =
      .ok ((candidates actor token rest (s.budget - between.length) between.length remaining).value.map
        fun c => (s.declaration + c.skipped, c.value)) := by
  induction remaining generalizing between with
  | nil => simp [gather, candidates]
  | cons a following ih =>
      have hplace : s.declaration + between.length = (passed ++ between).length := by
        rw [hd, List.length_append]
      have hbehind : s.gather (passed ++ between ++ a :: following) actor (read ++ token :: rest) rest.length
          (List.range' (s.declaration + between.length + 1) following.length) =
          .ok ((if 0 < s.budget - between.length then
            (candidates actor token rest (s.budget - between.length - 1) (between.length + 1) following).value
            else []).map fun c => (s.declaration + c.skipped, c.value)) := by
        rcases Nat.lt_or_ge between.length s.budget with hlt | hge
        · have hone : (between ++ [a]).length ≤ s.budget := by
            rw [List.length_append]
            exact hlt
          have hleft : 0 < s.budget - between.length := Nat.sub_pos_of_lt hlt
          rw [if_pos hleft]
          simpa [Nat.sub_sub, Nat.add_assoc] using ih hone
        · have hspent : s.budget < between.length + 1 := Nat.lt_succ_of_le hge
          have hleft : ¬ 0 < s.budget - between.length := by omega
          rw [if_neg hleft]
          exact gather_spent hspent rest.length following.length
      rw [List.length_cons, List.range'_succ, gather, Checked.sub_add, Checked.ok_bind, if_neg (Nat.not_lt.mpr hb),
        hplace, Checked.get_append, Checked.ok_bind, candidateValue_eq hi, Checked.ok_bind, candidates_cons_value,
        ← hplace, hbehind]
      cases a.isOptional <;> simp

theorem prefer_eq_head?_kept (cs : List Candidate) :
    prefer cs = (if 1 < cs.length && !cs.all (·.argument.type.isString) then cs.filter (!·.argument.type.isString)
      else cs).head? := by
  rw [prefer]
  cases hf : cs.find? (!·.argument.type.isString) with
  | none =>
      have hall : cs.all (·.argument.type.isString) = true := by simpa using hf
      simp [hall]
  | some c =>
      have hnot : cs.all (·.argument.type.isString) = false := by
        rw [List.all_eq_false]
        exact ⟨c, List.mem_of_find?_eq_some hf, by simpa using List.find?_some hf⟩
      have hkept : (cs.filter (!·.argument.type.isString)).head? = some c := by rw [List.head?_filter, hf]
      rcases Nat.lt_or_ge 1 cs.length with hmany | hone
      · simp [hmany, hnot, hkept]
      · obtain ⟨d, rfl⟩ : ∃ d, cs = [d] := by
          have hpos := List.length_pos_of_mem (List.mem_of_find?_eq_some hf)
          exact List.length_eq_one_iff.mp (by omega)
        obtain rfl : c = d := by simpa using List.mem_of_find?_eq_some hf
        simp

theorem generic_eq {cs : List Candidate} {start : Nat}
    (h : ∀ c ∈ cs, arguments[start + c.skipped]? = some c.argument) :
    generic arguments (cs.map fun c => (start + c.skipped, c.value)) =
      .ok (cs.map fun c => ((start + c.skipped, c.value), c.argument.type.isString)) := by
  induction cs with
  | nil => rfl
  | cons c cs ih =>
      obtain ⟨hc, hcs⟩ := List.forall_mem_cons.mp h
      have hget : Checked.get arguments (start + c.skipped) = .ok c.argument := by rw [Checked.get, hc]
      rw [List.map_cons, generic, hget, Checked.ok_bind, ih hcs]
      rfl

theorem Cursor.pick_eq {s : Cursor} (hd : s.declaration = passed.length) (hi : s.index = read.length)
    (actor : Actor) (token : String) (rest : List String) (remaining : List Argument) :
    s.pick (passed ++ remaining) actor (read ++ token :: rest) rest.length =
      .ok ((pickCandidate remaining s.budget actor token rest).value.map
        fun c => (s.declaration + c.skipped, c.value)) := by
  have hcount : (passed ++ remaining).length - s.declaration = remaining.length := by
    rw [hd, List.length_append, Nat.add_sub_cancel_left]
  have hnone : ([] : List Argument).length ≤ s.budget := Nat.zero_le s.budget
  have hfound := gather_eq hd hi actor token rest hnone remaining
  simp only [List.append_nil, List.length_nil, Nat.add_zero, Nat.sub_zero] at hfound
  have hplaces : ∀ c ∈ (candidates actor token rest s.budget 0 remaining).value,
      (passed ++ remaining)[s.declaration + c.skipped]? = some c.argument := by
    intro c hc
    obtain ⟨between, rfl, hk, -⟩ := mem_candidates_iff.mp hc
    rw [hd, hk]
    simp
  rw [pick, hcount, hfound, Checked.ok_bind, generic_eq hplaces, Checked.ok_bind, pickCandidate, Logged.value_bind,
    Logged.value_pure, prefer_eq_head?_kept]
  simp only [List.length_map, List.all_map, List.filter_map, Function.comp_def]
  split <;> simp [Function.comp_def]

theorem Cursor.instead_eq {s : Cursor} (hd : s.declaration = passed.length) (hi : s.index = read.length)
    (actor : Actor) (token : String) (rest : List String) (a : Argument) (following : List Argument) :
    s.instead (passed ++ a :: following) actor (read ++ token :: rest) rest.length a =
      .ok ((insteadOf actor a following s.budget token rest).map fun c => (s.declaration + c.skipped, c.value)) := by
  rw [instead, insteadOf, pick_eq hd hi]
  split <;> rfl

theorem insteadOf_skipped_le {budget : Nat} {c : Candidate}
    (h : insteadOf actor a following budget token rest = some c) : c.skipped ≤ budget := by
  rw [insteadOf] at h
  split at h
  · obtain ⟨between, -, hk, -, hb, -⟩ := mem_candidates_iff.mp (mem_of_prefer h)
    rwa [hk, Nat.zero_add]
  · simp at h

theorem noSlots_append (before behind : List Argument) :
    noSlots (before ++ behind) = List.replicate before.length none ++ noSlots behind := by
  simp [noSlots]

end Reading

def slotsAfter (written : List (Option Value)) (skipped : Nat) (value : Value) : List (Option Value) :=
  written ++ List.replicate skipped none ++ [some value]

namespace Cursor.At

variable {s : Cursor} {passed remaining following : List Argument} {a : Argument} {read rest : List String}
  {token : String} {written : List (Option Value)}

theorem place_eq {between : List Argument} {left : List String}
    (h : s.At passed (between ++ a :: following) read left written) (hb : between.length ≤ s.budget) (value : Value) :
    s.place (passed ++ (between ++ a :: following)) (s.declaration + between.length) value =
      .ok (if a.isVariadic then .stop (some (slotsAfter written between.length value ++ noSlots following))
        else .again ⟨s.declaration + between.length + 1, s.index + 1, s.budget - between.length,
          slotsAfter written between.length value ++ noSlots following⟩) := by
  have hplace : s.declaration + between.length = (passed ++ between).length := by
    rw [h.declaration, List.length_append]
  have hget : Checked.get (passed ++ (between ++ a :: following)) (s.declaration + between.length) = .ok a := by
    rw [hplace, ← List.append_assoc, Checked.get_append]
  have hslots : s.slots = (written ++ List.replicate between.length none) ++ none :: noSlots following := by
    rw [h.slots, noSlots_append, List.append_assoc]
    rfl
  have hset : Checked.set s.slots (s.declaration + between.length) (some value) =
      .ok (slotsAfter written between.length value ++ noSlots following) := by
    have hlength : s.declaration + between.length = (written ++ List.replicate between.length none).length := by
      rw [h.declaration, List.length_append, List.length_replicate, h.length_written]
    rw [hslots, hlength, Checked.set_append, List.append_cons]
    rfl
  rw [place, hget, Checked.ok_bind, Checked.sub_add, Checked.ok_bind, Checked.sub_eq hb, Checked.ok_bind, hset,
    Checked.ok_bind]
  split <;> rfl

theorem again {between : List Argument}
    (h : s.At passed (between ++ a :: following) read (token :: rest) written) (value : Value) (budget : Nat) :
    Cursor.At ⟨s.declaration + between.length + 1, s.index + 1, budget,
        slotsAfter written between.length value ++ noSlots following⟩
      (passed ++ between ++ [a]) following (read ++ [token]) rest (slotsAfter written between.length value) where
  declaration := by simp [h.declaration, Nat.add_assoc]
  index := by simp [h.index]
  slots := rfl
  length_written := by simp [slotsAfter, h.length_written]

theorem step_nil (h : s.At passed remaining read [] written) :
    (cursorLoop (passed ++ remaining) actor (read ++ [])).step s = .ok (.stop (some s.slots)) := by
  have hi : ¬ s.index < (read ++ []).length := by simp [h.index]
  exact if_neg hi

theorem step_past (h : s.At passed [] read (token :: rest) written) :
    (cursorLoop (passed ++ []) actor (read ++ token :: rest)).step s = .ok (.stop none) := by
  have hi : s.index < (read ++ token :: rest).length := by simp [h.index]
  have hget : (passed ++ [])[s.declaration]? = none := by simp [h.declaration]
  have hstep : (cursorLoop (passed ++ []) actor (read ++ token :: rest)).step s =
      s.step (passed ++ []) actor (read ++ token :: rest) := rfl
  rw [hstep, Cursor.step, if_pos hi, hget]

theorem step_cons (h : s.At passed (a :: following) read (token :: rest) written) (actor : Actor) :
    (cursorLoop (passed ++ a :: following) actor (read ++ token :: rest)).step s =
      match insteadOf actor a following s.budget token rest with
      | some c => s.place (passed ++ a :: following) (s.declaration + c.skipped) c.value
      | none =>
          match (takeTokens a actor token rest).value with
          | none => .ok (.stop none)
          | some value => s.place (passed ++ a :: following) s.declaration value := by
  have hi : s.index < (read ++ token :: rest).length := by simp [h.index]
  have hget : (passed ++ a :: following)[s.declaration]? = some a := by simp [h.declaration]
  have hleft : Checked.sub (read ++ token :: rest).length s.index = .ok (rest.length + 1) := by
    rw [h.index, List.length_append, Checked.sub_add]
    rfl
  have hrest : Checked.sub (rest.length + 1) 1 = .ok rest.length := Checked.sub_eq (Nat.le_add_left 1 rest.length)
  have hvalue := valueAt_eq actor a read rest token
  rw [← h.index] at hvalue
  have hstep : (cursorLoop (passed ++ a :: following) actor (read ++ token :: rest)).step s =
      s.step (passed ++ a :: following) actor (read ++ token :: rest) := rfl
  rw [hstep, Cursor.step, if_pos hi, hget]
  simp only [hleft, hrest, Checked.ok_bind, instead_eq h.declaration h.index, hvalue]
  cases insteadOf actor a following s.budget token rest <;> rfl

theorem run_place {c : Candidate} {between : List Argument}
    (h : s.At passed (a :: following) read (token :: rest) written)
    (hsplit : a :: following = between ++ c.argument :: c.following) (hk : c.skipped = between.length)
    (hb : c.skipped ≤ s.budget)
    (hrest : ∀ {next : Cursor} {passed remaining : List Argument} {read : List String} {written : List (Option Value)},
      next.At passed remaining read rest written → (cursorLoop (passed ++ remaining) actor (read ++ rest)).run next =
        .ok ((assign actor remaining next.budget rest).value.map (written ++ ·)))
    (hs : (cursorLoop (passed ++ a :: following) actor (read ++ token :: rest)).step s =
      s.place (passed ++ a :: following) (s.declaration + c.skipped) c.value) :
    (cursorLoop (passed ++ a :: following) actor (read ++ token :: rest)).run s =
      .ok (((consSlot c.value (if c.argument.isVariadic then some (noSlots c.following)
        else (assign actor c.following (s.budget - c.skipped) rest).value)).map
          (List.replicate c.skipped none ++ ·)).map (written ++ ·)) := by
  rw [hsplit] at h
  rw [hk] at hb
  rw [hk, hsplit, h.place_eq hb] at hs
  rw [hk, hsplit]
  cases hv : c.argument.isVariadic with
  | true =>
      rw [hv, if_pos rfl] at hs
      rw [Loop.run_stop hs]
      simp [consSlot, slotsAfter]
  | false =>
      rw [hv, if_neg Bool.false_ne_true] at hs
      have hrun := hrest (h.again c.value (s.budget - between.length))
      have hargs : passed ++ (between ++ c.argument :: c.following) =
          (passed ++ between ++ [c.argument]) ++ c.following := by simp
      rw [Loop.run_again hs, hargs, List.append_cons read, hrun]
      simp [consSlot, slotsAfter, Function.comp_def]

end Cursor.At

theorem cursorLoop_run {s : Cursor} {passed remaining : List Argument} {read left : List String}
    {written : List (Option Value)} (h : s.At passed remaining read left written) (actor : Actor) :
    (cursorLoop (passed ++ remaining) actor (read ++ left)).run s =
      .ok ((assign actor remaining s.budget left).value.map (written ++ ·)) := by
  -- Where the cursors stand, what they have passed and what lies ahead is kept in step by `Cursor.At`.
  induction left generalizing s passed remaining read written with
  | nil =>
      rw [Loop.run_stop h.step_nil, h.slots]
      cases remaining <;> rfl
  | cons token rest ih =>
      cases remaining with
      | nil =>
          rw [Loop.run_stop h.step_past]
          rfl
      | cons a following =>
          have hstep := h.step_cons actor
          rw [assign_cons_value]
          cases hi : insteadOf actor a following s.budget token rest with
          | some c =>
              obtain ⟨-, between, hsplit, hk⟩ := insteadOf_sound hi
              rw [hi] at hstep
              exact h.run_place hsplit hk (insteadOf_skipped_le hi) ih hstep
          | none =>
              cases ht : (takeTokens a actor token rest).value with
              | none =>
                  rw [hi, ht] at hstep
                  rw [Loop.run_stop hstep]
                  rfl
              | some value =>
                  rw [hi, ht] at hstep
                  have hsplit : a :: following = [] ++ a :: following := rfl
                  have hrun := h.run_place (c := ⟨0, a, following, value⟩) hsplit rfl (Nat.zero_le s.budget) ih hstep
                  simpa using hrun

theorem budgetAt_eq (arguments : List Argument) (count : Nat) :
    budgetAt arguments count = .ok (skipBudget arguments count) := by
  rw [budgetAt, skipBudget]
  cases ht : hasTail arguments with
  | false => rfl
  | true =>
      have hne : arguments ≠ [] := by
        rintro rfl
        simp [hasTail] at ht
      have hone : 1 ≤ arguments.length := List.length_pos_iff.mpr hne
      have hlast : arguments.length - 1 ≤ arguments.length := Nat.sub_le arguments.length 1
      rw [if_pos rfl, Checked.sub_eq hone, Checked.ok_bind, Checked.before_eq hlast, Checked.ok_bind, if_pos rfl,
        List.dropLast_eq_take]

theorem matchPositionalChecked_eq (arguments : List Argument) (actor : Actor) (tokens : List String) :
    matchPositionalChecked arguments actor tokens = .ok (matchPositional arguments actor tokens).value := by
  have hstart : Cursor.At ⟨0, 0, skipBudget arguments tokens.length, List.replicate arguments.length none⟩ [] arguments
      [] tokens [] := ⟨rfl, rfl, by simp [noSlots], rfl⟩
  have hrun := cursorLoop_run hstart actor
  rw [List.nil_append, List.nil_append] at hrun
  rw [matchPositionalChecked, matchPositional]
  split
  · rfl
  · rw [budgetAt_eq, Checked.ok_bind, hrun, Checked.ok_bind, Logged.value_bind]
    cases (assign actor arguments (skipBudget arguments tokens.length) tokens).value <;> rfl

theorem matching_stays_in_range {σ : Type} {r : Registries} {n : Node σ} (h : n.Parsed r) (actor : Actor)
    (tokens : List String) :
    (∀ flag ∈ n.command.flags, flag.position < n.command.flags.length) ∧
      extractFlagsChecked n.command.flags actor tokens = .ok (extractFlags n.command.flags actor tokens).value ∧
      (∀ s next, (flagLoop n.command.flags actor).step s = .ok (.again next) → next.left.length < s.left.length) ∧
      ∀ positional : List String,
        matchPositionalChecked n.command.arguments actor positional =
          .ok (matchPositional n.command.arguments actor positional).value ∧
        ∀ s next, (cursorLoop n.command.arguments actor positional).step s = .ok (.again next) →
          s.index < positional.length ∧ next.index = s.index + 1 := by
  have hp : ∀ flag ∈ n.command.flags, flag.position < n.command.flags.length := by
    intro flag hf
    obtain ⟨i, hi, rfl⟩ := List.mem_iff_getElem.mp hf
    rwa [h.wellFormed.flagPositions i hi]
  refine ⟨hp, extractFlagsChecked_eq hp actor tokens, fun _ _ => FlagScan.consumes, ?_⟩
  intro positional
  exact ⟨matchPositionalChecked_eq n.command.arguments actor positional, fun _ _ => Cursor.consumes⟩

def ringText : String :=
  "ring int:times(1) string:words... string:-n --softly \x7b\n\x7d"

theorem ring_stays_in_range : ∃ n : Node Nat, n.Parsed ⟨.standard, .empty⟩ ∧
    (∀ flag ∈ n.command.flags, flag.position < n.command.flags.length) ∧
    extractFlagsChecked n.command.flags .console ["--softly", "hi", "there"] =
      .ok (some (["hi", "there"], [none, some (.boolean true)])) ∧
    matchPositionalChecked n.command.arguments .console ["hi", "there"] =
      .ok (some [some (.int 1), some (.string "hi there")]) ∧
    (∀ s next, (flagLoop n.command.flags .console).step s = .ok (.again next) → next.left.length < s.left.length) ∧
    ∀ s next, (cursorLoop n.command.arguments .console ["hi", "there"]).step s = .ok (.again next) →
      s.index < 2 ∧ next.index = s.index + 1 := by
  let flagsTaken (n : Node Nat) : Prop := (extractFlags n.command.flags .console ["--softly", "hi", "there"]).value =
    some (["hi", "there"], [none, some (.boolean true)])
  let wordsTaken (n : Node Nat) : Prop := (matchPositional n.command.arguments .console ["hi", "there"]).value =
    some [some (.int 1), some (.string "hi there")]
  have hread : ((Definition.readText (σ := Nat) ⟨.standard, .empty⟩ ringText).value.toOption.map fun roots =>
      (Node.preorderAll roots).map fun n => decide (flagsTaken n ∧ wordsTaken n)) = some [true] := by
    decide +kernel
  obtain ⟨roots, hr, hview⟩ := Definition.exists_roots_of_toOption hread
  obtain ⟨n, hn, htaken⟩ := List.mem_map.mp (hview ▸ List.mem_singleton_self _)
  obtain ⟨hflags, hwords⟩ := of_decide_eq_true htaken
  have hparsed : n.Parsed ⟨.standard, .empty⟩ := .definition hr hn
  obtain ⟨hpositions, hextracted, hscan, hmatched⟩ :=
    matching_stays_in_range hparsed .console ["--softly", "hi", "there"]
  obtain ⟨hpositional, hcursor⟩ := hmatched ["hi", "there"]
  exact ⟨n, hparsed, hpositions, hextracted.trans (congrArg Except.ok hflags),
    hpositional.trans (congrArg Except.ok hwords), hscan, hcursor⟩

end CommandTree.Matching
