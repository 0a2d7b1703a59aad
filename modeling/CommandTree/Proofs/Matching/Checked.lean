import CommandTree.Proofs.Matching.FlagValues

/-!
Matching with places for what it reads, and each place checked. A list is read, written and cut at an index and numbers
are subtracted, and what is out of range is a fault. A loop carries the proof that each turn uses up some of what is
left. Here the flags are taken out of the tokens so, without a fault and with the same result.
-/

namespace CommandTree.Matching

inductive Fault where
  | index (i length : Nat)
  | bound (i length : Nat)
  | negative (minuend subtrahend : Nat)
  deriving DecidableEq

abbrev Checked (α : Type) : Type :=
  Except Fault α

namespace Checked

variable {α β : Type}

def get (xs : List α) (i : Nat) : Checked α :=
  match xs[i]? with
  | some x => .ok x
  | none => .error (.index i xs.length)

def set (xs : List α) (i : Nat) (x : α) : Checked (List α) :=
  if i < xs.length then .ok (xs.set i x) else .error (.index i xs.length)

def behind (xs : List α) (i : Nat) : Checked (List α) :=
  if i ≤ xs.length then .ok (xs.drop i) else .error (.bound i xs.length)

def before (xs : List α) (i : Nat) : Checked (List α) :=
  if i ≤ xs.length then .ok (xs.take i) else .error (.bound i xs.length)

def sub (m n : Nat) : Checked Nat :=
  if n ≤ m then .ok (m - n) else .error (.negative m n)

@[simp] theorem ok_bind (a : α) (f : α → Checked β) : (Except.ok a >>= f) = f a := rfl

theorem bind_eq_ok_iff {x : Checked α} {f : α → Checked β} {b : β} :
    (x >>= f) = .ok b ↔ ∃ a, x = .ok a ∧ f a = .ok b := by
  cases x with
  | error fault => exact ⟨nofun, fun ⟨_, h, _⟩ => nomatch h⟩
  | ok a => exact ⟨fun h => ⟨a, rfl, h⟩, fun ⟨_, h, hf⟩ => Except.ok.inj h ▸ hf⟩

theorem get_append (xs ys : List α) (x : α) : get (xs ++ x :: ys) xs.length = .ok x := by
  simp [get]

theorem set_append (xs ys : List α) (x y : α) : set (xs ++ x :: ys) xs.length y = .ok (xs ++ y :: ys) := by
  simp [set]

theorem set_eq {xs : List α} {i : Nat} (h : i < xs.length) (x : α) : set xs i x = .ok (xs.set i x) :=
  if_pos h

theorem behind_append (xs ys : List α) : behind (xs ++ ys) xs.length = .ok ys := by
  simp [behind]

theorem before_eq {xs : List α} {i : Nat} (h : i ≤ xs.length) : before xs i = .ok (xs.take i) :=
  if_pos h

theorem sub_add (m n : Nat) : sub (m + n) m = .ok n := by
  simp [sub]

theorem sub_eq {m n : Nat} (h : n ≤ m) : sub m n = .ok (m - n) :=
  if_pos h

end Checked

inductive Turn (state result : Type) where
  | stop (r : result)
  | again (s : state)

structure Loop (state result : Type) where
  step : state → Checked (Turn state result)
  left : state → Nat
  consumes : ∀ s next, step s = .ok (.again next) → left next < left s

namespace Loop

variable {state result : Type} {loop : Loop state result} {s next : state} {r : result}

def run (loop : Loop state result) (s : state) : Checked result :=
  match _h : loop.step s with
  | .error fault => .error fault
  | .ok (.stop r) => .ok r
  | .ok (.again next) => loop.run next
termination_by loop.left s
decreasing_by exact loop.consumes s next _h

theorem run_stop (h : loop.step s = .ok (.stop r)) : loop.run s = .ok r := by
  rw [run]
  split <;> simp_all

theorem run_again (h : loop.step s = .ok (.again next)) : loop.run s = loop.run next := by
  rw [run]
  split <;> simp_all

end Loop

structure FlagScan where
  left : List String
  positional : List String
  present : List (Option Value)

abbrev Extracted : Type :=
  Option (List String × List (Option Value))

def FlagScan.mark (s : FlagScan) (left : List String) (flag : Flag) (value : Value) :
    Checked (Turn FlagScan Extracted) := do
  let present ← Checked.set s.present flag.position (some value)
  .ok (.again ⟨left, s.positional, present⟩)

def FlagScan.step (flags : List Flag) (actor : Actor) (s : FlagScan) : Checked (Turn FlagScan Extracted) :=
  match s.left with
  | [] => .ok (.stop (some (s.positional, s.present)))
  | token :: left =>
      match flagNamed? flags token with
      | none => .ok (.again ⟨left, s.positional ++ [token], s.present⟩)
      | some flag =>
          if flag.isSwitch then s.mark left flag (.boolean true)
          else
            match left with
            | [] => .ok (.stop none)
            | text :: left =>
                match (flag.type.convert (some actor) text).value with
                | none => .ok (.stop none)
                | some value => s.mark left flag value

theorem FlagScan.left_of_mark {s next : FlagScan} {left : List String} {flag : Flag} {value : Value}
    (h : s.mark left flag value = .ok (.again next)) : next.left = left := by
  obtain ⟨present, -, h⟩ := Checked.bind_eq_ok_iff.mp h
  obtain rfl : _ = next := by simpa using h
  rfl

variable {flags : List Flag} {actor : Actor}

theorem FlagScan.consumes {s next : FlagScan} (h : s.step flags actor = .ok (.again next)) :
    next.left.length < s.left.length := by
  rw [step] at h
  split at h
  · simp at h
  next token left hl =>
    rw [hl]
    split at h
    · obtain rfl : _ = next := by simpa using h
      simp
    · split at h
      · simp [left_of_mark h]
      · split at h
        · simp at h
        · split at h
          · simp at h
          · rw [left_of_mark h, List.length_cons, List.length_cons]
            omega

def flagLoop (flags : List Flag) (actor : Actor) : Loop FlagScan Extracted where
  step := FlagScan.step flags actor
  left s := s.left.length
  consumes _ _ := FlagScan.consumes

def extractFlagsChecked (flags : List Flag) (actor : Actor) (tokens : List String) : Checked Extracted :=
  if flags.isEmpty then .ok (some (tokens, []))
  else do
    match ← (flagLoop flags actor).run ⟨tokens, [], List.replicate flags.length none⟩ with
    | none => .ok none
    | some (positional, present) =>
        .ok (some (positional, (flags.zip present).map fun (f, slot) => slot.or (f.defaultFor actor).value))

def marked (present : List (Option Value)) (occurrences : List (Nat × Value)) : List (Option Value) :=
  occurrences.foldl (fun slots o => slots.set o.1 (some o.2)) present

theorem length_marked (present : List (Option Value)) (occurrences : List (Nat × Value)) :
    (marked present occurrences).length = present.length := by
  induction occurrences generalizing present with
  | nil => rfl
  | cons o occurrences ih => exact (ih _).trans List.length_set

theorem lastOccurrence?_cons (o : Nat × Value) (occurrences : List (Nat × Value)) (i : Nat) :
    lastOccurrence? (o :: occurrences) i =
      (lastOccurrence? occurrences i).or (if o.1 = i then some o.2 else none) := by
  rw [lastOccurrence?, lastOccurrence?, List.reverse_cons, List.find?_append]
  cases occurrences.reverse.find? (·.1 == i) with
  | some found => rfl
  | none => by_cases h : o.1 = i <;> simp [h]

theorem getElem?_marked {present : List (Option Value)} {i : Nat} (h : i < present.length)
    (occurrences : List (Nat × Value)) :
    (marked present occurrences)[i]? = some ((lastOccurrence? occurrences i).or present[i]) := by
  induction occurrences generalizing present with
  | nil => simp [marked, lastOccurrence?, h]
  | cons o occurrences ih =>
      have hset : i < (present.set o.1 (some o.2)).length := by simpa using h
      have hmarked : marked present (o :: occurrences) = marked (present.set o.1 (some o.2)) occurrences := rfl
      rw [hmarked, ih hset, lastOccurrence?_cons, List.getElem_set]
      cases lastOccurrence? occurrences i with
      | some value => rfl
      | none => split <;> rfl

theorem FlagScan.mark_eq {s : FlagScan} {flag : Flag} (h : flag.position < s.present.length) (left : List String)
    (value : Value) :
    s.mark left flag value = .ok (.again ⟨left, s.positional, s.present.set flag.position (some value)⟩) := by
  rw [mark, Checked.set_eq h]
  rfl

theorem flagLoop_run (hp : ∀ flag ∈ flags, flag.position < flags.length) (left positional : List String)
    {present : List (Option Value)} (hl : present.length = flags.length) :
    (flagLoop flags actor).run ⟨left, positional, present⟩ =
      .ok ((separate flags actor left).value.map fun e =>
        (positional ++ e.positional, marked present e.occurrences)) := by
  -- What is left is separated the same way whatever was read before, so the induction is for all of that.
  fun_induction separate flags actor left generalizing positional present with
  | case1 =>
      rw [Loop.run_stop (r := some (positional, present)) rfl]
      simp [marked]
  | case2 token tokens hn ih =>
      have hs : (flagLoop flags actor).step ⟨token :: tokens, positional, present⟩ =
          .ok (.again ⟨tokens, positional ++ [token], present⟩) := by
        simp only [flagLoop, FlagScan.step, hn]
      rw [Loop.run_again hs, ih _ hl, Logged.value_bind]
      cases (separate flags actor tokens).value <;> simp
  | case3 token tokens flag hn hf ih =>
      have hposition : flag.position < present.length := hl ▸ hp flag (List.mem_of_find?_eq_some hn)
      have hs : (flagLoop flags actor).step ⟨token :: tokens, positional, present⟩ =
          .ok (.again ⟨tokens, positional, present.set flag.position (some (.boolean true))⟩) := by
        simp only [flagLoop, FlagScan.step, hn, hf, if_true]
        exact FlagScan.mark_eq hposition tokens (.boolean true)
      rw [Loop.run_again hs, ih _ (by rwa [List.length_set]), Logged.value_bind]
      cases (separate flags actor tokens).value <;> simp [marked]
  | case4 token flag hn hf =>
      have hs : (flagLoop flags actor).step ⟨[token], positional, present⟩ = .ok (.stop none) := by
        simp only [flagLoop, FlagScan.step, hn, hf, Bool.false_eq_true, if_false]
      rw [Loop.run_stop hs]
      rfl
  | case5 token flag hn hf text tokens ih =>
      have hposition : flag.position < present.length := hl ▸ hp flag (List.mem_of_find?_eq_some hn)
      rw [Logged.value_bind]
      cases hv : (flag.type.convert (some actor) text).value with
      | none =>
          have hs : (flagLoop flags actor).step ⟨token :: text :: tokens, positional, present⟩ = .ok (.stop none) := by
            simp only [flagLoop, FlagScan.step, hn, hf, hv, Bool.false_eq_true, if_false]
          rw [Loop.run_stop hs]
          rfl
      | some value =>
          have hs : (flagLoop flags actor).step ⟨token :: text :: tokens, positional, present⟩ =
              .ok (.again ⟨tokens, positional, present.set flag.position (some value)⟩) := by
            simp only [flagLoop, FlagScan.step, hn, hf, hv, Bool.false_eq_true, if_false]
            exact FlagScan.mark_eq hposition tokens value
          rw [Loop.run_again hs, ih _ (by rwa [List.length_set])]
          simp only [Logged.value_bind]
          cases (separate flags actor tokens).value <;> simp [marked]

theorem zip_marked (actor : Actor) (flags : List Flag) (occurrences : List (Nat × Value)) :
    ((flags.zip (marked (List.replicate flags.length none) occurrences)).map fun (f, slot) =>
        slot.or (f.defaultFor actor).value) = (flagSlots occurrences actor 0 flags).value := by
  apply List.ext_getElem?
  intro i
  rcases Nat.lt_or_ge i flags.length with hi | hi
  · have hpresent : i < (List.replicate flags.length (none : Option Value)).length := by simpa using hi
    have hslot := getElem?_marked hpresent occurrences
    rw [List.getElem_replicate, Option.or_none] at hslot
    have hzip : (flags.zip (marked (List.replicate flags.length none) occurrences))[i]? =
        some (flags[i], lastOccurrence? occurrences i) :=
      List.getElem?_zip_eq_some.mpr ⟨List.getElem?_eq_getElem hi, hslot⟩
    rw [getElem?_flagSlots actor occurrences 0 (List.getElem?_eq_getElem hi), Nat.zero_add, List.getElem?_map, hzip,
      Option.map_some]
    simp only [Flag.defaultFor_value]
  · rw [List.getElem?_eq_none (by simpa [length_marked] using hi),
      List.getElem?_eq_none (by rwa [length_flagSlots])]

theorem separate_nil (actor : Actor) (tokens : List String) :
    (separate [] actor tokens).value = some ⟨tokens, []⟩ := by
  induction tokens with
  | nil => rfl
  | cons token tokens ih =>
      have hn : flagNamed? [] token = none := rfl
      simp only [separate, hn, Logged.value_bind, ih, Logged.value_pure]

theorem extractFlagsChecked_eq (hp : ∀ flag ∈ flags, flag.position < flags.length) (actor : Actor)
    (tokens : List String) : extractFlagsChecked flags actor tokens = .ok (extractFlags flags actor tokens).value := by
  rw [extractFlagsChecked, extractFlags, Logged.value_bind]
  split
  next he =>
    obtain rfl := List.isEmpty_iff.mp he
    simp only [separate_nil, flagSlots, Logged.value_bind, Logged.value_pure]
  next =>
    rw [flagLoop_run hp tokens [] List.length_replicate]
    cases (separate flags actor tokens).value with
    | none => rfl
    | some e =>
        simp only [Option.map_some, Checked.ok_bind, List.nil_append, zip_marked, Logged.value_bind, Logged.value_pure]

end CommandTree.Matching
