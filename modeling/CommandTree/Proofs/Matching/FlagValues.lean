import CommandTree.Proofs.Matching.Providers

namespace CommandTree.Matching

variable {flags : List Flag} {actor : Actor}

structure FirstNamed (flags : List Flag) (token : String) (i : Nat) (f : Flag) : Prop where
  at_index : flags[i]? = some f
  answers : f.answersTo token = true
  first : ∀ j g, j < i → flags[j]? = some g → g.answersTo token = false

inductive Separated (flags : List Flag) (actor : Actor) :
    List String → List String → List (Nat × Value) → Prop
  | nil : Separated flags actor [] [] []
  | positional {token : String} {tokens rest : List String} {found : List (Nat × Value)} :
      (∀ f ∈ flags, f.answersTo token = false) → Separated flags actor tokens rest found →
      Separated flags actor (token :: tokens) (token :: rest) found
  | switch {token : String} {tokens rest : List String} {found : List (Nat × Value)} {i : Nat} {f : Flag} :
      FirstNamed flags token i f → f.isSwitch = true → Separated flags actor tokens rest found →
      Separated flags actor (token :: tokens) rest ((i, .boolean true) :: found)
  | valued {token text : String} {tokens rest : List String} {found : List (Nat × Value)} {i : Nat}
      {f : Flag} {value : Value} : FirstNamed flags token i f → f.isSwitch = false →
      (f.type.convert (some actor) text).value = some value → Separated flags actor tokens rest found →
      Separated flags actor (token :: text :: tokens) rest ((i, value) :: found)

theorem Separated.of_mem {tokens rest : List String} {found : List (Nat × Value)}
    (h : Separated flags actor tokens rest found) {i : Nat} {value : Value} (hm : (i, value) ∈ found) :
    ∃ f, flags[i]? = some f ∧ (f.isSwitch = true ∧ value = .boolean true ∨
      ∃ text, (f.type.convert (some actor) text).value = some value) := by
  induction h with
  | nil => simp at hm
  | positional _ _ ih => exact ih hm
  | switch hf hs _ ih =>
      rcases List.mem_cons.mp hm with he | hm
      · obtain ⟨rfl, rfl⟩ := Prod.mk.inj he
        exact ⟨_, hf.at_index, .inl ⟨hs, rfl⟩⟩
      · exact ih hm
  | valued hf _ hv _ ih =>
      rcases List.mem_cons.mp hm with he | hm
      · obtain ⟨rfl, rfl⟩ := Prod.mk.inj he
        exact ⟨_, hf.at_index, .inr ⟨_, hv⟩⟩
      · exact ih hm

inductive FlagSlot (actor : Actor) (found : List (Nat × Value)) (i : Nat) (f : Flag) : Option Value → Prop
  | given {before after : List (Nat × Value)} {value : Value} : found = before ++ (i, value) :: after →
      (∀ o ∈ after, o.1 ≠ i) → FlagSlot actor found i f (some value)
  | absent : (∀ o ∈ found, o.1 ≠ i) → FlagSlot actor found i f (f.whenAbsent actor)

theorem firstNamed_of_flagNamed? (hp : ∀ i, (hi : i < flags.length) → flags[i].position = i) {token : String}
    {f : Flag} (h : flagNamed? flags token = some f) : FirstNamed flags token f.position f := by
  obtain ⟨ha, i, hi, he, hfirst⟩ := List.find?_eq_some_iff_getElem.mp h
  obtain rfl : f.position = i := he ▸ hp i hi
  refine ⟨?_, ha, ?_⟩
  · rw [List.getElem?_eq_getElem hi, he]
  · intro j g hj hg
    obtain ⟨hlt, rfl⟩ := List.getElem?_eq_some_iff.mp hg
    simpa using hfirst j hj

theorem flagNamed?_of_firstNamed {token : String} {i : Nat} {f : Flag} (h : FirstNamed flags token i f) :
    flagNamed? flags token = some f := by
  obtain ⟨hi, he⟩ := List.getElem?_eq_some_iff.mp h.at_index
  rw [flagNamed?, List.find?_eq_some_iff_getElem]
  refine ⟨h.answers, i, hi, he, ?_⟩
  intro j hj
  have hother := h.first j flags[j] hj (List.getElem?_eq_getElem (Nat.lt_trans hj hi))
  simpa using hother

theorem FirstNamed.position_eq (hp : ∀ i, (hi : i < flags.length) → flags[i].position = i) {token : String}
    {i : Nat} {f : Flag} (h : FirstNamed flags token i f) : f.position = i := by
  obtain ⟨hi, rfl⟩ := List.getElem?_eq_some_iff.mp h.at_index
  exact hp i hi

inductive Separation (flags : List Flag) (actor : Actor) : List String → Extraction → Prop
  | nil : Separation flags actor [] ⟨[], []⟩
  | positional {token : String} {tokens : List String} {e : Extraction} :
      flagNamed? flags token = none → Separation flags actor tokens e →
      Separation flags actor (token :: tokens) ⟨token :: e.positional, e.occurrences⟩
  | switch {token : String} {tokens : List String} {e : Extraction} {f : Flag} :
      flagNamed? flags token = some f → f.isSwitch = true → Separation flags actor tokens e →
      Separation flags actor (token :: tokens) ⟨e.positional, (f.position, .boolean true) :: e.occurrences⟩
  | valued {token text : String} {tokens : List String} {e : Extraction} {f : Flag} {value : Value} :
      flagNamed? flags token = some f → f.isSwitch = false →
      (f.type.convert (some actor) text).value = some value → Separation flags actor tokens e →
      Separation flags actor (token :: text :: tokens) ⟨e.positional, (f.position, value) :: e.occurrences⟩

theorem separation_of_separate {tokens : List String} {e : Extraction}
    (h : (separate flags actor tokens).value = some e) : Separation flags actor tokens e := by
  fun_induction separate flags actor tokens generalizing e with
  | case1 =>
      obtain rfl := Option.some.inj h
      exact .nil
  | case2 token tokens hn ih =>
      rw [Logged.value_bind] at h
      cases hs : (separate flags actor tokens).value with
      | none => simp [hs] at h
      | some e' =>
          obtain rfl : ⟨token :: e'.positional, e'.occurrences⟩ = e := by simpa [hs] using h
          exact .positional hn (ih hs)
  | case3 token tokens flag hn hf ih =>
      rw [Logged.value_bind] at h
      cases hs : (separate flags actor tokens).value with
      | none => simp [hs] at h
      | some e' =>
          obtain rfl : ⟨e'.positional, (flag.position, .boolean true) :: e'.occurrences⟩ = e := by
            simpa [hs] using h
          exact .switch hn hf (ih hs)
  | case4 => simp at h
  | case5 token flag hn hf text tokens ih =>
      rw [Logged.value_bind] at h
      cases hv : (flag.type.convert (some actor) text).value with
      | none => simp [hv] at h
      | some value =>
          simp only [hv, Logged.value_bind] at h
          cases hs : (separate flags actor tokens).value with
          | none => simp [hs] at h
          | some e' =>
              obtain rfl : ⟨e'.positional, (flag.position, value) :: e'.occurrences⟩ = e := by
                simpa [hs] using h
              exact .valued hn (by simpa using hf) hv (ih hs)

theorem Separation.separated (hp : ∀ i, (hi : i < flags.length) → flags[i].position = i)
    {tokens : List String} {e : Extraction} (h : Separation flags actor tokens e) :
    Separated flags actor tokens e.positional e.occurrences := by
  induction h with
  | nil => exact .nil
  | positional hn _ ih => exact .positional (by simpa [flagNamed?] using hn) ih
  | switch hn hs _ ih => exact .switch (firstNamed_of_flagNamed? hp hn) hs ih
  | valued hn hs hv _ ih => exact .valued (firstNamed_of_flagNamed? hp hn) hs hv ih

theorem exists_separation_of_extractFlags {tokens positional : List String} {slots : List (Option Value)}
    (h : (extractFlags flags actor tokens).value = some (positional, slots)) :
    ∃ e, Separation flags actor tokens e ∧ e.positional = positional ∧
      (flagSlots e.occurrences actor 0 flags).value = slots := by
  rw [extractFlags, Logged.value_bind] at h
  cases hs : (separate flags actor tokens).value with
  | none => simp [hs] at h
  | some e =>
      simp only [hs, Logged.value_bind, Logged.value_pure, Option.some.injEq, Prod.mk.injEq] at h
      exact ⟨e, separation_of_separate hs, h.1, h.2⟩

theorem flagSlot_of_lastOccurrence? (found : List (Nat × Value)) (i : Nat) (f : Flag) :
    FlagSlot actor found i f ((lastOccurrence? found i).or (f.whenAbsent actor)) := by
  rw [lastOccurrence?]
  cases h : found.reverse.find? (·.1 == i) with
  | none =>
      refine .absent ?_
      simpa using h
  | some o =>
      obtain ⟨j, value⟩ := o
      obtain ⟨hj, after, before, hr, ha⟩ := List.find?_eq_some_iff_append.mp h
      obtain rfl : j = i := by simpa using hj
      have hsplit : found = before.reverse ++ (j, value) :: after.reverse := by
        simpa using congrArg List.reverse hr
      exact .given hsplit (by simpa using ha)

theorem flagSlots_cons_value (found : List (Nat × Value)) (index : Nat) (f : Flag) (flags : List Flag) :
    (flagSlots found actor index (f :: flags)).value =
      (lastOccurrence? found index).or (f.whenAbsent actor) ::
        (flagSlots found actor (index + 1) flags).value := by
  rw [flagSlots, ← f.defaultFor_value]
  cases lastOccurrence? found index <;> rfl

theorem length_flagSlots (found : List (Nat × Value)) (index : Nat) (flags : List Flag) :
    (flagSlots found actor index flags).value.length = flags.length := by
  induction flags generalizing index with
  | nil => rfl
  | cons f flags ih => rw [flagSlots_cons_value, List.length_cons, ih, List.length_cons]

theorem getElem?_flagSlots (actor : Actor) (found : List (Nat × Value)) (index : Nat) {i : Nat} {f : Flag}
    (h : flags[i]? = some f) :
    (flagSlots found actor index flags).value[i]? =
      some ((lastOccurrence? found (index + i)).or (f.whenAbsent actor)) := by
  induction flags generalizing index i with
  | nil => simp at h
  | cons g flags ih =>
      rw [flagSlots_cons_value]
      cases i with
      | zero =>
          obtain rfl : g = f := by simpa using h
          rfl
      | succ i =>
          rw [List.getElem?_cons_succ] at h ⊢
          rw [ih (index + 1) h, Nat.add_right_comm, Nat.add_assoc]

theorem extractFlags_separated (hp : ∀ i, (hi : i < flags.length) → flags[i].position = i)
    {tokens positional : List String} {slots : List (Option Value)}
    (h : (extractFlags flags actor tokens).value = some (positional, slots)) :
    ∃ found, Separated flags actor tokens positional found ∧ slots.length = flags.length ∧
      ∀ i, (hi : i < flags.length) → ∃ slot, slots[i]? = some slot ∧ FlagSlot actor found i flags[i] slot := by
  obtain ⟨e, hs, rfl, rfl⟩ := exists_separation_of_extractFlags h
  refine ⟨e.occurrences, hs.separated hp, length_flagSlots e.occurrences 0 flags, ?_⟩
  intro i hi
  refine ⟨_, getElem?_flagSlots actor e.occurrences 0 (List.getElem?_eq_getElem hi), ?_⟩
  rw [Nat.zero_add]
  exact flagSlot_of_lastOccurrence? e.occurrences i flags[i]

end CommandTree.Matching
