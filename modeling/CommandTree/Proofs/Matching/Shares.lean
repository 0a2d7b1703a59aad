import Mathlib.Data.List.Forall2
import CommandTree.Proofs.Matching.Providers

namespace CommandTree.Matching

structure Share where
  tokens : List String
  slot : Option Value

inductive Takes (actor : Actor) (a : Argument) : Share → Prop
  | single {token : String} {value : Value} : a.isVariadic = false →
      (a.type.convert (some actor) token).value = some value → Takes actor a ⟨[token], some value⟩
  | remainder {tokens : List String} {value : Value} : a.isVariadic = true → tokens ≠ [] →
      (a.type.convert (some actor) (" ".intercalate tokens)).value = some value →
      Takes actor a ⟨tokens, some value⟩

theorem Takes.exists_slot {actor : Actor} {a : Argument} {share : Share} (h : Takes actor a share) :
    ∃ value, share.slot = some value := by
  cases h with
  | single => exact ⟨_, rfl⟩
  | remainder => exact ⟨_, rfl⟩

inductive Places (actor : Actor) (a : Argument) : Share → Prop
  | omitted : Places actor a ⟨[], none⟩
  | taken {share : Share} : Takes actor a share → Places actor a share

inductive Fills (actor : Actor) (a : Argument) : Share → Prop
  | omitted : a.isOptional = true → Fills actor a ⟨[], a.whenOmitted actor⟩
  | taken {share : Share} : Takes actor a share → Fills actor a share

def SharedOut (R : Argument → Share → Prop) (arguments : List Argument) (tokens : List String)
    (slots : List (Option Value)) : Prop :=
  ∃ shares : List Share, shares.map (·.slot) = slots ∧ shares.flatMap (·.tokens) = tokens ∧
    List.Forall₂ R arguments shares

variable {actor : Actor}

namespace SharedOut

variable {R : Argument → Share → Prop} {a : Argument} {arguments : List Argument} {tokens : List String}
  {slots : List (Option Value)}

theorem nil : SharedOut R [] [] [] :=
  ⟨[], rfl, rfl, .nil⟩

theorem cons {share : Share} (hs : R a share) (h : SharedOut R arguments tokens slots) :
    SharedOut R (a :: arguments) (share.tokens ++ tokens) (share.slot :: slots) := by
  obtain ⟨shares, rfl, rfl, hf⟩ := h
  exact ⟨share :: shares, by simp, by simp, .cons hs hf⟩

theorem length_eq (h : SharedOut R arguments tokens slots) : slots.length = arguments.length := by
  obtain ⟨shares, rfl, -, hf⟩ := h
  rw [List.length_map, hf.length_eq]

theorem noSlots (arguments : List Argument) :
    SharedOut (Places actor) arguments [] (noSlots arguments) := by
  induction arguments with
  | nil => exact nil
  | cons a arguments ih => exact cons .omitted ih

theorem skip (before : List Argument) (h : SharedOut (Places actor) arguments tokens slots) :
    SharedOut (Places actor) (before ++ arguments) tokens (List.replicate before.length none ++ slots) := by
  induction before with
  | nil => exact h
  | cons a before ih => exact cons .omitted ih

end SharedOut

theorem sharedOut_of_takeTokens {a : Argument} {following : List Argument} {token : String}
    {rest : List String} {value : Value} {slots : List (Option Value)}
    (ht : (takeTokens a actor token rest).value = some value)
    (hv : a.isVariadic = true → slots = noSlots following)
    (hn : a.isVariadic = false → SharedOut (Places actor) following rest slots) :
    SharedOut (Places actor) (a :: following) (token :: rest) (some value :: slots) := by
  cases h : a.isVariadic with
  | true =>
      have hc : (a.type.convert (some actor) (" ".intercalate (token :: rest))).value = some value := by
        simpa [takeTokens, h] using ht
      have hs : Takes actor a ⟨token :: rest, some value⟩ := .remainder h (by simp) hc
      rw [hv h]
      simpa using SharedOut.cons (.taken hs) (SharedOut.noSlots following)
  | false =>
      have hc : (a.type.convert (some actor) token).value = some value := by
        simpa [takeTokens, h] using ht
      exact SharedOut.cons (.taken (.single h hc)) (hn h)

theorem mem_candidates_cons_iff {a : Argument} {following : List Argument} {token : String}
    {rest : List String} {budget skipped : Nat} {c : Candidate} :
    c ∈ (candidates actor token rest budget skipped (a :: following)).value ↔
      (isFeasible a following rest.length = true ∧ ∃ value,
        (takeTokens a actor token rest).value = some value ∧ c = ⟨skipped, a, following, value⟩) ∨
      (a.isOptional = true ∧ ∃ more, budget = more + 1 ∧
        c ∈ (candidates actor token rest more (skipped + 1) following).value) := by
  cases hf : isFeasible a following rest.length <;> cases ht : (takeTokens a actor token rest).value <;>
    cases ho : a.isOptional <;> cases budget <;> simp [candidates, hf, ht, ho]

theorem mem_candidates_iff {token : String} {rest : List String} {arguments : List Argument}
    {budget skipped : Nat} {c : Candidate} :
    c ∈ (candidates actor token rest budget skipped arguments).value ↔
      ∃ before, arguments = before ++ c.argument :: c.following ∧ c.skipped = skipped + before.length ∧
        (∀ a ∈ before, a.isOptional = true) ∧ before.length ≤ budget ∧
        isFeasible c.argument c.following rest.length = true ∧
        (takeTokens c.argument actor token rest).value = some c.value := by
  induction arguments generalizing budget skipped with
  | nil => simp [candidates]
  | cons a following ih =>
      rw [mem_candidates_cons_iff]
      constructor
      · rintro (⟨hf, value, ht, rfl⟩ | ⟨ho, more, rfl, hc⟩)
        · exact ⟨[], rfl, rfl, by simp, Nat.zero_le _, hf, ht⟩
        · obtain ⟨before, hs, hk, hb, hl, hf, ht⟩ := ih.mp hc
          refine ⟨a :: before, by rw [hs, List.cons_append], ?_, ?_, Nat.succ_le_succ hl, hf, ht⟩
          · rw [hk, List.length_cons]
            omega
          · simpa [ho] using hb
      · rintro ⟨before, hs, hk, hb, hl, hf, ht⟩
        cases before with
        | nil =>
            obtain ⟨rfl, rfl⟩ := List.cons.inj hs
            exact .inl ⟨hf, c.value, ht, by rw [← show c.skipped = skipped from hk]⟩
        | cons b before =>
            obtain ⟨rfl, hbehind⟩ := List.cons.inj hs
            obtain ⟨ho, hb⟩ := List.forall_mem_cons.mp hb
            obtain ⟨more, rfl⟩ : ∃ more, budget = more + 1 := Nat.exists_eq_add_one.mpr (by
              rw [List.length_cons] at hl
              omega)
            refine .inr ⟨ho, more, rfl, ih.mpr ⟨before, hbehind, ?_, hb, Nat.le_of_succ_le_succ hl, hf, ht⟩⟩
            rw [hk, List.length_cons]
            omega

theorem mem_of_prefer {cs : List Candidate} {c : Candidate} (h : prefer cs = some c) : c ∈ cs := by
  rw [prefer] at h
  split at h
  next d hd =>
    obtain rfl := Option.some.inj h
    exact List.mem_of_find?_eq_some hd
  next => exact List.mem_of_head? h

theorem pickCandidate_sound {arguments : List Argument} {budget : Nat} {token : String}
    {rest : List String} {c : Candidate}
    (h : (pickCandidate arguments budget actor token rest).value = some c) :
    (takeTokens c.argument actor token rest).value = some c.value ∧
      ∃ before, arguments = before ++ c.argument :: c.following ∧ c.skipped = before.length := by
  obtain ⟨before, hs, hk, -, -, -, ht⟩ := mem_candidates_iff.mp (mem_of_prefer h)
  exact ⟨ht, before, hs, by rw [hk, Nat.zero_add]⟩

def insteadOf (actor : Actor) (a : Argument) (following : List Argument) (budget : Nat) (token : String)
    (rest : List String) : Option Candidate :=
  if !a.isVariadic && 0 < budget && a.isOptional then
    (pickCandidate (a :: following) budget actor token rest).value
  else none

theorem assign_cons_value {a : Argument} {following : List Argument} {budget : Nat} {token : String}
    {rest : List String} :
    (assign actor (a :: following) budget (token :: rest)).value =
      match insteadOf actor a following budget token rest with
      | some c =>
          (consSlot c.value (if c.argument.isVariadic then some (noSlots c.following)
            else (assign actor c.following (budget - c.skipped) rest).value)).map
              (List.replicate c.skipped none ++ ·)
      | none =>
          match (takeTokens a actor token rest).value with
          | none => none
          | some value =>
              consSlot value (if a.isVariadic then some (noSlots following)
                else (assign actor following budget rest).value) := by
  rw [assign, insteadOf]
  split
  · rw [Logged.value_bind]
    cases (pickCandidate (a :: following) budget actor token rest).value with
    | some c => cases hv : c.argument.isVariadic <;> simp [hv]
    | none =>
        cases ht : (takeTokens a actor token rest).value with
        | none => simp [ht]
        | some value => cases a.isVariadic <;> simp [ht]
  · cases ht : (takeTokens a actor token rest).value with
    | none => simp [ht]
    | some value => cases a.isVariadic <;> simp [ht]

theorem insteadOf_sound {a : Argument} {following : List Argument} {budget : Nat} {token : String}
    {rest : List String} {c : Candidate} (h : insteadOf actor a following budget token rest = some c) :
    (takeTokens c.argument actor token rest).value = some c.value ∧
      ∃ before, a :: following = before ++ c.argument :: c.following ∧ c.skipped = before.length := by
  rw [insteadOf] at h
  split at h
  · exact pickCandidate_sound h
  · simp at h

theorem consSlot_eq_some_iff {value : Value} {slots : Option (List (Option Value))}
    {result : List (Option Value)} :
    consSlot value slots = some result ↔ ∃ behind, slots = some behind ∧ some value :: behind = result := by
  simp [consSlot]

theorem assign_sharedOut {arguments : List Argument} {budget : Nat} {tokens : List String}
    {slots : List (Option Value)} (h : (assign actor arguments budget tokens).value = some slots) :
    SharedOut (Places actor) arguments tokens slots := by
  induction tokens generalizing arguments budget slots with
  | nil =>
      have hs : noSlots arguments = slots := by cases arguments <;> simpa [assign] using h
      exact hs ▸ SharedOut.noSlots arguments
  | cons token rest ih =>
      -- Behind an argument that takes the token nothing is left, or the others share the rest.
      have take {a : Argument} {following : List Argument} {budget : Nat} {value : Value}
          {behind : List (Option Value)} (ht : (takeTokens a actor token rest).value = some value)
          (hb : (if a.isVariadic then some (noSlots following)
            else (assign actor following budget rest).value) = some behind) :
          SharedOut (Places actor) (a :: following) (token :: rest) (some value :: behind) := by
        refine sharedOut_of_takeTokens ht (fun hv => ?_) fun hv => ?_
        · simpa [hv] using hb.symm
        · exact ih (by simpa [hv] using hb)
      cases arguments with
      | nil => simp [assign] at h
      | cons a following =>
          rw [assign_cons_value] at h
          cases hi : insteadOf actor a following budget token rest with
          | some c =>
              obtain ⟨ht, before, hf, hk⟩ := insteadOf_sound hi
              simp only [hi, Option.map_eq_some_iff, consSlot_eq_some_iff] at h
              obtain ⟨_, ⟨behind, hb, rfl⟩, rfl⟩ := h
              rw [hf, hk]
              exact SharedOut.skip before (take ht hb)
          | none =>
              cases ht : (takeTokens a actor token rest).value with
              | none => simp [hi, ht] at h
              | some value =>
                  simp only [hi, ht, consSlot_eq_some_iff] at h
                  obtain ⟨behind, hb, rfl⟩ := h
                  exact take ht hb

theorem fillDefaults_sharedOut {arguments : List Argument} {tokens : List String}
    {slots values : List (Option Value)} (hs : SharedOut (Places actor) arguments tokens slots)
    (h : (fillDefaults actor arguments slots).value = some values) :
    SharedOut (Fills actor) arguments tokens values := by
  obtain ⟨shares, rfl, rfl, hf⟩ := hs
  induction hf generalizing values with
  | nil =>
      obtain rfl : [] = values := by simpa [fillDefaults] using h
      exact .nil
  | @cons a share arguments shares ha _ ih =>
      cases ha with
      | omitted =>
          cases ho : a.isOptional with
          | false => simp [fillDefaults, ho] at h
          | true =>
              simp only [List.map_cons, fillDefaults, ho, if_true, Logged.value_bind, Logged.value_pure,
                a.defaultFor_value, Option.map_eq_some_iff] at h
              obtain ⟨filled, hv, rfl⟩ := h
              exact SharedOut.cons (.omitted ho) (ih hv)
      | taken ht =>
          obtain ⟨value, hv⟩ := ht.exists_slot
          simp only [List.map_cons, hv, fillDefaults, Logged.value_bind, Logged.value_pure,
            Option.map_eq_some_iff] at h
          obtain ⟨filled, hr, rfl⟩ := h
          exact hv ▸ SharedOut.cons (.taken ht) (ih hr)

def Covered (arguments : List Argument) (slots : List (Option Value)) : Prop :=
  List.Forall₂ (fun a slot => a.isOptional = true ∨ slot.isSome = true) arguments slots

theorem fillDefaults_of_covered {arguments : List Argument} {slots : List (Option Value)}
    (h : Covered arguments slots) :
    (fillDefaults actor arguments slots).value =
      some (List.zipWith (fun a slot => slot.or (a.whenOmitted actor)) arguments slots) := by
  induction h with
  | nil => rfl
  | @cons a slot arguments slots ha _ ih =>
      cases slot with
      | some value => simp [fillDefaults, ih]
      | none =>
          have ho : a.isOptional = true := by simpa using ha
          simp [fillDefaults, a.defaultFor_value, ho, ih]

end CommandTree.Matching
