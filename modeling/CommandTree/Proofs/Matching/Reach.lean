import CommandTree.Proofs.Matching.Shares

namespace CommandTree.Matching

variable {actor : Actor} {arguments following before : List Argument} {budget : Nat} {token : String}
  {rest : List String}

structure Reach (actor : Actor) (arguments : List Argument) (budget : Nat) (token : String) (rest : List String)
    (before : List Argument) (c : Candidate) : Prop where
  split : arguments = before ++ c.argument :: c.following
  skipped : c.skipped = before.length
  optional : ∀ a ∈ before, a.isOptional = true
  inBudget : before.length ≤ budget
  feasible : isFeasible c.argument c.following rest.length = true
  accepted : (takeTokens c.argument actor token rest).value = some c.value

theorem mem_candidates_iff_reach {c : Candidate} :
    c ∈ (candidates actor token rest budget 0 arguments).value ↔
      ∃ before, Reach actor arguments budget token rest before c := by
  rw [mem_candidates_iff]
  constructor
  · rintro ⟨before, hs, hk, hb, hl, hf, ht⟩
    exact ⟨before, hs, by rw [hk, Nat.zero_add], hb, hl, hf, ht⟩
  · rintro ⟨before, h⟩
    exact ⟨before, h.split, by rw [h.skipped, Nat.zero_add], h.optional, h.inBudget, h.feasible, h.accepted⟩

theorem candidates_increasing (arguments : List Argument) (budget skipped : Nat) :
    (candidates actor token rest budget skipped arguments).value.Pairwise (·.skipped < ·.skipped) := by
  induction arguments generalizing budget skipped with
  | nil => simp [candidates]
  | cons a following ih =>
      have hlater (more : Nat) : ∀ c ∈ (candidates actor token rest more (skipped + 1) following).value,
          skipped < c.skipped := by
        intro c hc
        obtain ⟨before, -, hk, -⟩ := mem_candidates_iff.mp hc
        omega
      cases hf : isFeasible a following rest.length <;> cases ht : (takeTokens a actor token rest).value <;>
        cases ho : a.isOptional <;> cases budget <;> simp [candidates, hf, ht, ho, ih]
      case true.some.true.succ => exact hlater _

theorem exists_prefer {cs : List Candidate} {d : Candidate} (h : d ∈ cs) : ∃ c, prefer cs = some c := by
  rw [prefer]
  split
  · exact ⟨_, rfl⟩
  · exact Option.isSome_iff_exists.mp (List.isSome_head?.mpr (List.ne_nil_of_mem h))

theorem prefer_eq_head? {cs : List Candidate} (h : ∀ c ∈ cs, c.argument.type.isString = false) :
    prefer cs = cs.head? := by
  cases cs with
  | nil => rfl
  | cons c cs =>
      have hc := h c List.mem_cons_self
      simp [prefer, hc]

theorem Reach.mem {before : List Argument} {c : Candidate} (h : Reach actor arguments budget token rest before c) :
    c.argument ∈ arguments := by
  rw [h.split]
  simp

theorem exists_pick {d : Candidate} (hd : Reach actor arguments budget token rest before d) :
    ∃ c, (pickCandidate arguments budget actor token rest).value = some c ∧
      (∃ before, Reach actor arguments budget token rest before c) ∧
      ((∀ a ∈ arguments, a.type.isString = false) →
        ∀ before' c', Reach actor arguments budget token rest before' c' → c.skipped ≤ c'.skipped) := by
  have hmem {before : List Argument} {d : Candidate} (h : Reach actor arguments budget token rest before d) :
      d ∈ (candidates actor token rest budget 0 arguments).value := mem_candidates_iff_reach.mpr ⟨before, h⟩
  obtain ⟨c, hc⟩ := exists_prefer (hmem hd)
  refine ⟨c, hc, mem_candidates_iff_reach.mp (mem_of_prefer hc), ?_⟩
  intro hs before' c' hc'
  have hhead : (candidates actor token rest budget 0 arguments).value.head? = some c := by
    rw [← hc, prefer_eq_head?]
    intro d hd
    obtain ⟨_, hreach⟩ := mem_candidates_iff_reach.mp hd
    exact hs _ hreach.mem
  obtain ⟨others, hlist⟩ := List.head?_eq_some_iff.mp hhead
  have hincreasing : (candidates actor token rest budget 0 arguments).value.Pairwise (·.skipped < ·.skipped) :=
    candidates_increasing arguments budget 0
  rw [hlist, List.pairwise_cons] at hincreasing
  have hc' := hmem hc'
  rw [hlist, List.mem_cons] at hc'
  rcases hc' with rfl | hother
  · exact Nat.le_refl _
  · exact Nat.le_of_lt (hincreasing.1 _ hother)

def assignBehind (actor : Actor) (budget : Nat) (rest : List String) (c : Candidate) :
    Option (List (Option Value)) :=
  (consSlot c.value (if c.argument.isVariadic then some (noSlots c.following)
    else (assign actor c.following (budget - c.skipped) rest).value)).map (List.replicate c.skipped none ++ ·)

def mayGiveWay (a : Argument) (budget : Nat) : Bool :=
  !a.isVariadic && decide (0 < budget) && a.isOptional

theorem assign_cons_of_accepted {a : Argument} {value : Value} (hg : mayGiveWay a budget = false)
    (ht : (takeTokens a actor token rest).value = some value) :
    (assign actor (a :: following) budget (token :: rest)).value =
      assignBehind actor budget rest ⟨0, a, following, value⟩ := by
  rw [assign_cons_value, insteadOf, if_neg (by simpa [mayGiveWay] using hg), assignBehind]
  simp [ht]

theorem Reach.eq_nil {a : Argument} {c : Candidate} (h : Reach actor (a :: following) budget token rest before c)
    (hl : (a :: following).Pairwise fun b _ => b.isVariadic = false) (hg : mayGiveWay a budget = false) :
    before = [] := by
  cases before with
  | nil => rfl
  | cons b before =>
      obtain ⟨rfl, hbehind⟩ := List.cons.inj h.split
      have hm : c.argument ∈ following := by simp [hbehind]
      have hv : a.isVariadic = false := List.rel_of_pairwise_cons hl hm
      have ho : a.isOptional = true := h.optional a List.mem_cons_self
      have hb : 0 < budget := Nat.lt_of_lt_of_le (Nat.succ_pos _) h.inBudget
      simp [mayGiveWay, hv, ho, hb] at hg

theorem exists_step (hl : arguments.Pairwise fun a _ => a.isVariadic = false) {d : Candidate}
    (hd : Reach actor arguments budget token rest before d) :
    ∃ before c, Reach actor arguments budget token rest before c ∧
      (assign actor arguments budget (token :: rest)).value = assignBehind actor budget rest c ∧
      ((∀ a ∈ arguments, a.type.isString = false) →
        ∀ before' c', Reach actor arguments budget token rest before' c' → c.skipped ≤ c'.skipped) := by
  cases arguments with
  | nil => simpa using hd.split
  | cons a following =>
      cases hg : mayGiveWay a budget with
      | true =>
          obtain ⟨c, hc, ⟨before, hreach⟩, hfirst⟩ := exists_pick hd
          refine ⟨before, c, hreach, ?_, hfirst⟩
          rw [mayGiveWay] at hg
          rw [assign_cons_value, insteadOf, if_pos hg, hc]
          rfl
      | false =>
          obtain rfl := hd.eq_nil hl hg
          obtain ⟨rfl, rfl⟩ := List.cons.inj hd.split
          obtain ⟨skipped, argument, following, value⟩ := d
          obtain rfl : skipped = 0 := hd.skipped
          exact ⟨[], _, hd, assign_cons_of_accepted hg hd.accepted, fun _ _ _ _ => Nat.zero_le _⟩

end CommandTree.Matching
