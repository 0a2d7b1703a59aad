import CommandTree.Proofs.Matching.Positional
import CommandTree.Proofs.Matching.Reach

/-!
Where every type accepts every text, whether the tokens fit is a matter of counting. The budget never lets the matching
run into a dead end: as long as there is room for the tokens left, an argument is in reach, and behind it there is room
again.
-/

namespace CommandTree.Matching

variable {actor : Actor} {arguments before following : List Argument} {a : Argument} {budget n : Nat}

theorem hasTail_append_cons (before : List Argument) (a : Argument) (following : List Argument) :
    hasTail (before ++ a :: following) = hasTail (a :: following) := by
  rw [hasTail, hasTail, List.getLast?_append_of_ne_nil _ (List.cons_ne_nil a following)]

theorem hasTail_cons (h : a.isVariadic = false) : hasTail (a :: following) = hasTail following := by
  cases following with
  | nil => simp [hasTail, h]
  | cons b following => exact hasTail_append_cons [a] b following

theorem pairwise_of_dropLast (hl : ∀ a ∈ arguments.dropLast, a.isVariadic = false) :
    arguments.Pairwise fun a _ => a.isVariadic = false := by
  rw [List.pairwise_iff_getElem]
  intro i j hi hj hij
  by_contra hv
  have := isLast_of_isVariadic hl hi (by simpa using hv)
  omega

theorem any_isVariadic_eq (hl : arguments.Pairwise fun a _ => a.isVariadic = false) :
    arguments.any (·.isVariadic) = hasTail arguments := by
  induction arguments with
  | nil => rfl
  | cons a following ih =>
      obtain ⟨ha, hf⟩ := List.pairwise_cons.mp hl
      rw [List.any_cons, ih hf]
      cases hv : a.isVariadic with
      | false => rw [hasTail_cons hv, Bool.false_or]
      | true =>
          cases following with
          | nil => simp [hasTail, hv]
          | cons b following => simp [ha b List.mem_cons_self] at hv

/-- There is room for `n` tokens: enough for the required arguments, and with a tail the budget reaches across every
optional argument before it, without one it is what is left over. -/
structure Room (arguments : List Argument) (budget n : Nat) : Prop where
  required : arguments.countP (!·.isOptional) ≤ n
  tail : hasTail arguments = true → arguments.dropLast.countP (·.isOptional) ≤ budget
  noTail : hasTail arguments = false → n + budget = arguments.length

theorem room_of_counts (hr : arguments.countP (!·.isOptional) ≤ n)
    (hn : n ≤ arguments.length ∨ hasTail arguments = true) : Room arguments (skipBudget arguments n) n where
  required := hr
  tail ht := by
    rw [skipBudget, if_pos ht]
    exact Nat.le_max_right _ _
  noTail ht := by
    have hle : n ≤ arguments.length := hn.resolve_right (by simp [ht])
    rw [skipBudget, if_neg (by simp [ht])]
    omega

theorem countP_required_of_optional (h : ∀ b ∈ before, b.isOptional = true) :
    before.countP (!·.isOptional) = 0 := by
  simpa [List.countP_eq_zero] using h

namespace Room

theorem feasible_of_le (before : List Argument)
    (hl : (before ++ a :: following).Pairwise fun b _ => b.isVariadic = false)
    (h : Room (before ++ a :: following) budget (n + 1)) (hb : before.length ≤ budget)
    (hr : following.countP (!·.isOptional) ≤ n) : isFeasible a following n = true := by
  obtain ⟨-, hcons, -⟩ := List.pairwise_append.mp hl
  obtain ⟨-, hfollowing⟩ := List.pairwise_cons.mp hcons
  cases hv : a.isVariadic with
  | true => simp [isFeasible, hv]
  | false =>
      have htail : hasTail (before ++ a :: following) = hasTail following := by
        rw [hasTail_append_cons, hasTail_cons hv]
      cases ht : hasTail following with
      | true => simp [isFeasible, hv, hr, any_isVariadic_eq hfollowing, ht]
      | false =>
          have hlength := h.noTail (htail.trans ht)
          rw [List.length_append, List.length_cons] at hlength
          have hn : n ≤ following.length := by omega
          simp [isFeasible, hr, hn]

theorem exists_feasible (hl : arguments.Pairwise fun b _ => b.isVariadic = false)
    (h : Room arguments budget (n + 1)) :
    ∃ before a following, arguments = before ++ a :: following ∧ (∀ b ∈ before, b.isOptional = true) ∧
      before.length ≤ budget ∧ isFeasible a following n = true := by
  rcases Nat.lt_or_ge n (arguments.countP (!·.isOptional)) with hr | hr
  · obtain ⟨a, ha, hreq⟩ : ∃ a ∈ arguments, (!a.isOptional) = true := by
      rw [← List.countP_pos_iff]
      omega
    obtain ⟨c, hc⟩ := Option.isSome_iff_exists.mp (List.find?_isSome (p := (!·.isOptional)).mpr ⟨a, ha, hreq⟩)
    obtain ⟨hneeds, before, following, rfl, hbefore⟩ := List.find?_eq_some_iff_append.mp hc
    have hopt : ∀ b ∈ before, b.isOptional = true := by simpa using hbefore
    have hcount : (before ++ c :: following).countP (!·.isOptional) = following.countP (!·.isOptional) + 1 := by
      rw [List.countP_append, countP_required_of_optional hopt, List.countP_cons, if_pos hneeds, Nat.zero_add]
    have hrequired := h.required
    rw [hcount] at hr hrequired
    have hb : before.length ≤ budget := by
      cases ht : hasTail (before ++ c :: following) with
      | true =>
          have htail := h.tail ht
          rw [List.dropLast_append_of_ne_nil (List.cons_ne_nil c following), List.countP_append,
            List.countP_eq_length.mpr hopt] at htail
          omega
      | false =>
          have hlength := h.noTail ht
          have hle := List.countP_le_length (p := (!·.isOptional)) (l := following)
          rw [List.length_append, List.length_cons] at hlength
          omega
    exact ⟨before, c, following, rfl, hopt, hb, h.feasible_of_le before hl hb (by omega)⟩
  · cases arguments with
    | nil =>
        have hlength := h.noTail rfl
        simp at hlength
    | cons a following =>
        have hle : following.countP (!·.isOptional) ≤ n := by
          rw [List.countP_cons] at hr
          omega
        refine ⟨[], a, following, rfl, by simp, Nat.zero_le _, ?_⟩
        exact feasible_of_le [] hl h (Nat.zero_le _) hle

theorem behind (h : Room (before ++ a :: following) budget (n + 1)) (hb : before.length ≤ budget)
    (hopt : ∀ b ∈ before, b.isOptional = true) (hv : a.isVariadic = false) (hf : isFeasible a following n = true) :
    Room following (budget - before.length) n := by
  have htail : hasTail (before ++ a :: following) = hasTail following := by
    rw [hasTail_append_cons, hasTail_cons hv]
  refine ⟨?_, ?_, ?_⟩
  · simp only [isFeasible, hv, Bool.false_or, Bool.and_eq_true, decide_eq_true_eq] at hf
    exact hf.1
  · intro ht
    have hbudget := h.tail (htail.trans ht)
    have hne : following ≠ [] := by
      rintro rfl
      simp [hasTail] at ht
    rw [List.dropLast_append_of_ne_nil (List.cons_ne_nil a following), List.dropLast_cons_of_ne_nil hne,
      List.countP_append, List.countP_eq_length.mpr hopt, List.countP_cons] at hbudget
    omega
  · intro ht
    have hlength := h.noTail (htail.trans ht)
    rw [List.length_append, List.length_cons] at hlength
    omega

end Room

theorem exists_takeTokens (h : ∀ text, (a.type.convert (some actor) text).value ≠ none) (token : String)
    (rest : List String) : ∃ value, (takeTokens a actor token rest).value = some value := by
  rw [takeTokens]
  split
  · exact Option.ne_none_iff_exists'.mp (h _)
  · exact Option.ne_none_iff_exists'.mp (h _)

theorem Room.exists_reach {token : String} {rest : List String}
    (hl : arguments.Pairwise fun b _ => b.isVariadic = false)
    (hc : ∀ a ∈ arguments, ∀ text, (a.type.convert (some actor) text).value ≠ none)
    (h : Room arguments budget (rest.length + 1)) :
    ∃ before c, Reach actor arguments budget token rest before c := by
  obtain ⟨before, a, following, rfl, hopt, hb, hf⟩ := h.exists_feasible hl
  obtain ⟨value, ht⟩ := exists_takeTokens (hc a (by simp)) token rest
  exact ⟨before, ⟨before.length, a, following, value⟩, rfl, rfl, hopt, hb, hf, ht⟩

theorem covered_skip {slots : List (Option Value)} (hopt : ∀ b ∈ before, b.isOptional = true)
    (h : Covered following slots) : Covered (before ++ following) (List.replicate before.length none ++ slots) := by
  induction before with
  | nil => exact h
  | cons b before ih =>
      obtain ⟨hb, hbefore⟩ := List.forall_mem_cons.mp hopt
      exact .cons (.inl hb) (ih hbefore)

theorem covered_noSlots (h : arguments.countP (!·.isOptional) = 0) : Covered arguments (noSlots arguments) := by
  rw [Covered, noSlots, List.forall₂_map_right_iff, List.forall₂_same]
  simpa [List.countP_eq_zero] using h

theorem assign_covered {tokens : List String} (hl : arguments.Pairwise fun b _ => b.isVariadic = false)
    (hc : ∀ a ∈ arguments, ∀ text, (a.type.convert (some actor) text).value ≠ none)
    (hr : Room arguments budget tokens.length) :
    ∃ slots, (assign actor arguments budget tokens).value = some slots ∧ Covered arguments slots := by
  induction tokens generalizing arguments budget with
  | nil =>
      have hrequired : arguments.countP (!·.isOptional) = 0 := Nat.le_zero.mp hr.required
      exact ⟨noSlots arguments, by cases arguments <;> rfl, covered_noSlots hrequired⟩
  | cons token rest ih =>
      obtain ⟨_, _, hd⟩ := hr.exists_reach hl hc
      obtain ⟨before, c, hreach, ha, -⟩ := exists_step hl hd
      obtain rfl := hreach.split
      obtain ⟨-, hcons, -⟩ := List.pairwise_append.mp hl
      obtain ⟨hlast, hfollowing⟩ := List.pairwise_cons.mp hcons
      rw [ha, assignBehind, hreach.skipped]
      cases hv : c.argument.isVariadic with
      | true =>
          -- Nothing stands behind the tail, which has taken all tokens.
          have hnone : c.following = [] := by
            refine List.eq_nil_iff_forall_not_mem.mpr fun b hb => ?_
            simp [hlast b hb] at hv
          rw [hnone]
          exact ⟨_, rfl, covered_skip hreach.optional (.cons (.inr rfl) .nil)⟩
      | false =>
          have hroom := hr.behind hreach.inBudget hreach.optional hv hreach.feasible
          obtain ⟨slots, hs, hcovered⟩ := ih hfollowing (fun b hb => hc b (by simp [hb])) hroom
          simp only [Bool.false_eq_true, if_false, hs]
          exact ⟨_, rfl, covered_skip hreach.optional (.cons (.inr rfl) hcovered)⟩

theorem countP_required_le {shares : List Share} (h : List.Forall₂ (Fills actor) arguments shares) :
    arguments.countP (!·.isOptional) ≤ (shares.flatMap (·.tokens)).length := by
  induction h with
  | nil => simp
  | @cons a share arguments shares ha _ ih =>
      rw [List.countP_cons, List.flatMap_cons, List.length_append]
      cases ha with
      | omitted ho => simpa [ho] using ih
      | taken ht =>
          have hpos : 0 < share.tokens.length := by
            cases ht with
            | single => simp
            | remainder _ hne => exact List.length_pos_of_ne_nil hne
          split <;> omega

theorem matched_iff_counts (arguments : List Argument) (actor : Actor) (tokens : List String)
    (hl : ∀ a ∈ arguments.dropLast, a.isVariadic = false)
    (hc : ∀ a ∈ arguments, ∀ text, (a.type.convert (some actor) text).value ≠ none) :
    (∃ values, (matchPositional arguments actor tokens).value = some values) ↔
      arguments.countP (!·.isOptional) ≤ tokens.length ∧
        (tokens.length ≤ arguments.length ∨ ∃ a, arguments.getLast? = some a ∧ a.isVariadic = true) := by
  have htail : hasTail arguments = true ↔ ∃ a, arguments.getLast? = some a ∧ a.isVariadic = true := by
    rw [hasTail]
    cases arguments.getLast? <;> simp
  rw [← htail]
  constructor
  · rintro ⟨values, h⟩
    obtain ⟨shares, -, ht, hf⟩ := matchPositional_sharedOut h
    refine ⟨ht ▸ countP_required_le hf, ?_⟩
    by_contra hn
    obtain ⟨hlong, hnone⟩ := not_or.mp hn
    simp [matchPositional, Nat.not_le.mp hlong, Bool.eq_false_iff.mpr hnone] at h
  · rintro ⟨hr, hn⟩
    obtain ⟨slots, ha, hcovered⟩ := assign_covered (pairwise_of_dropLast hl) hc (room_of_counts hr hn)
    have hfits : (decide (arguments.length < tokens.length) && !hasTail arguments) = false := by
      rcases hn with hn | hn
      · simp [Nat.not_lt.mpr hn]
      · simp [hn]
    rw [matchPositional, hfits]
    simp only [Bool.false_eq_true, if_false, Logged.value_bind, ha, fillDefaults_of_covered hcovered]
    exact ⟨_, rfl⟩

def anyWord : ArgumentType :=
  .plain "word" (some <| .string ·)

def greet : List Argument :=
  [⟨anyWord, "greeting", 0, true, false, false, none⟩, ⟨.string, "title", 1, true, false, false, none⟩,
    ⟨.string, "name", 2, false, false, false, none⟩, ⟨anyWord, "place", 3, true, false, false, none⟩,
    ⟨anyWord, "words", 4, false, true, false, none⟩]

theorem greet_counts :
    (∀ a ∈ greet.dropLast, a.isVariadic = false) ∧
      (∀ a ∈ greet, ∀ text, (a.type.convert (some .console) text).value ≠ none) ∧
      (∃ values, (matchPositional greet .console ["bob", "hello"]).value = some values) ∧
      ¬ ∃ values, (matchPositional greet .console ["bob"]).value = some values := by
  have hl : ∀ a ∈ greet.dropLast, a.isVariadic = false := by simp [greet]
  have hc : ∀ a ∈ greet, ∀ text, (a.type.convert (some .console) text).value ≠ none := by
    simp [greet, anyWord, ArgumentType.string, ArgumentType.plain, ArgumentType.convert]
  refine ⟨hl, hc, (matched_iff_counts greet .console ["bob", "hello"] hl hc).mpr (by decide), ?_⟩
  rw [matched_iff_counts greet .console ["bob"] hl hc]
  simp [greet]

end CommandTree.Matching
