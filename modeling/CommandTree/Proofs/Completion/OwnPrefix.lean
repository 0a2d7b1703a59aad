import CommandTree.Manager
import CommandTree.Proofs.Completion.Offers
import CommandTree.Proofs.Line.Quoting

/-!
When a name stays on offer while it is being typed. Lowercasing keeps what has been typed a beginning of the name, but
for one letter: a capital sigma ends a word as long as no letter is typed behind it, and then it has another small form
than it has within the name.
-/

namespace CommandTree

open Text

namespace Text

/-- What is typed breaks off behind a sigma that ends a word there, and the word goes on in the rest. The text that has
been read before it is given backwards. -/
def BreaksAtSigma (read typed rest : List Char) : Prop :=
  ∃ before marks, typed = before ++ 'Σ' :: marks ∧ meetsCased (before.reverse ++ read) = true ∧
    (∀ m ∈ marks, isCaseIgnorable m = true) ∧ meetsCased rest = true

theorem meetsCased_marks {marks : List Char} (h : ∀ m ∈ marks, isCaseIgnorable m = true) (rest : List Char) :
    meetsCased (marks ++ rest) = meetsCased rest := by
  induction marks with
  | nil => rfl
  | cons m marks ih =>
      obtain ⟨hm, hs⟩ := List.forall_mem_cons.mp h
      rw [meetsCased, List.cons_append, List.dropWhile_cons_of_pos hm, ← meetsCased, ih hs]

theorem meetsCased_append {cs : List Char} (h : ¬ ∀ c ∈ cs, isCaseIgnorable c = true) (rest : List Char) :
    meetsCased (cs ++ rest) = meetsCased cs := by
  induction cs with
  | nil => simp at h
  | cons c cs ih =>
      cases hc : isCaseIgnorable c with
      | true =>
          have hn : ¬ ∀ d ∈ cs, isCaseIgnorable d = true := by simpa [hc] using h
          rw [meetsCased, List.cons_append, List.dropWhile_cons_of_pos hc, ← meetsCased, ih hn, meetsCased, meetsCased,
            List.dropWhile_cons_of_pos hc]
      | false => simp [meetsCased, hc]

theorem length_lowerAt (before : List Char) (c : Char) (after after' : List Char) :
    (lowerAt before c after).length = (lowerAt before c after').length := by
  rw [lowerAt, lowerAt]
  split
  · rfl
  split
  · rfl
  split <;> rfl

theorem lowerAt_of_ne {c : Char} (h : c ≠ 'Σ') (before after after' : List Char) :
    lowerAt before c after = lowerAt before c after' := by
  simp only [lowerAt, h, if_false]

theorem lowerAt_sigma (before after : List Char) :
    lowerAt before 'Σ' after = [if meetsCased before && !meetsCased after then 'ς' else 'σ'] :=
  rfl

theorem lowerAt_append_iff {before after rest : List Char} {c : Char} :
    lowerAt before c (after ++ rest) = lowerAt before c after ↔
      ¬ (c = 'Σ' ∧ meetsCased before = true ∧ (∀ m ∈ after, isCaseIgnorable m = true) ∧ meetsCased rest = true) := by
  by_cases hc : c = 'Σ'
  · subst hc
    rw [lowerAt_sigma, lowerAt_sigma]
    by_cases hm : ∀ m ∈ after, isCaseIgnorable m = true
    · have ha : meetsCased after = false := by
        have hn := meetsCased_marks hm []
        rwa [List.append_nil] at hn
      rw [meetsCased_marks hm, ha]
      cases meetsCased before <;> cases meetsCased rest <;> simp [eq_true hm]
    · rw [meetsCased_append hm]
      simp [hm]
  · simp [lowerAt_of_ne hc before (after ++ rest) after, hc]

def lowerBefore (rest : List Char) : List Char → List Char → List Char
  | _, [] => []
  | read, c :: typed => lowerAt read c (typed ++ rest) ++ lowerBefore rest (c :: read) typed

theorem lowerFrom_append (rest read typed : List Char) :
    lowerFrom read (typed ++ rest) = lowerBefore rest read typed ++ lowerFrom (typed.reverse ++ read) rest := by
  induction typed generalizing read with
  | nil => rfl
  | cons c typed ih =>
      rw [List.cons_append, lowerFrom, lowerBefore, ih, List.append_assoc, List.reverse_cons, List.append_assoc,
        List.singleton_append]

theorem lowerFrom_eq (read typed : List Char) : lowerFrom read typed = lowerBefore [] read typed := by
  simpa [lowerFrom] using lowerFrom_append [] read typed

theorem length_lowerBefore (rest rest' read typed : List Char) :
    (lowerBefore rest read typed).length = (lowerBefore rest' read typed).length := by
  induction typed generalizing read with
  | nil => rfl
  | cons c typed ih =>
      rw [lowerBefore, lowerBefore, List.length_append, List.length_append, ih, length_lowerAt]

theorem breaksAtSigma_cons_iff {read typed rest : List Char} {c : Char} :
    BreaksAtSigma read (c :: typed) rest ↔
      (c = 'Σ' ∧ meetsCased read = true ∧ (∀ m ∈ typed, isCaseIgnorable m = true) ∧ meetsCased rest = true) ∨
        BreaksAtSigma (c :: read) typed rest := by
  constructor
  · rintro ⟨before, marks, ht, hr⟩
    cases before with
    | nil =>
        obtain ⟨rfl, rfl⟩ := List.cons.inj ht
        exact .inl ⟨rfl, hr⟩
    | cons b before =>
        obtain ⟨rfl, rfl⟩ := List.cons.inj ht
        exact .inr ⟨before, marks, rfl, by simpa using hr⟩
  · rintro (⟨rfl, hr⟩ | ⟨before, marks, rfl, hr⟩)
    · exact ⟨[], typed, rfl, hr⟩
    · exact ⟨c :: before, marks, rfl, by simpa using hr⟩

theorem lowerBefore_eq_iff {read typed rest : List Char} :
    lowerBefore [] read typed = lowerBefore rest read typed ↔ ¬ BreaksAtSigma read typed rest := by
  induction typed generalizing read with
  | nil => simp [lowerBefore, BreaksAtSigma]
  | cons c typed ih =>
      rw [lowerBefore, lowerBefore, breaksAtSigma_cons_iff, not_or, ← ih, ← lowerAt_append_iff, List.append_nil]
      constructor
      · intro h
        obtain ⟨hc, hs⟩ := List.append_inj h (length_lowerAt read c _ _)
        exact ⟨hc.symm, hs⟩
      · rintro ⟨hc, hs⟩
        rw [hc, hs]

theorem lowercase_prefix_iff {typed rest : List Char} :
    lowercase typed <+: lowercase (typed ++ rest) ↔ ¬ BreaksAtSigma [] typed rest := by
  rw [lowercase, lowercase, lowerFrom_append, lowerFrom_eq, ← lowerBefore_eq_iff]
  constructor
  · rintro ⟨others, h⟩
    exact (List.append_inj h (length_lowerBefore [] rest [] typed)).1
  · intro h
    rw [h]
    exact List.prefix_append _ _

theorem startsIgnoringCase_append_iff {typed rest : String} :
    startsIgnoringCase (typed ++ rest) typed = true ↔ ¬ BreaksAtSigma [] typed.toList rest.toList := by
  rw [startsIgnoringCase, List.isPrefixOf_iff_prefix, String.toList_append, lowercase_prefix_iff]

end Text

namespace Manager

variable {σ : Type} {actor : Actor}

theorem mem_completeLabel_iff {m : Manager σ} {name typed : String} :
    quoteIfNeeded name ∈ m.completeLabel actor typed ↔
      startsIgnoringCase name typed = true ∧ ∃ root ∈ m.roots, root.node.command.name = name ∧
        root.node.command.isPermitted actor = true ∧ root.node.command.hidesFromCompletion = false := by
  simp only [completeLabel, mem_firstSeen_iff, List.mem_map, List.mem_filter, Bool.and_eq_true, Bool.not_eq_true']
  constructor
  · rintro ⟨c, ⟨⟨root, hr, rfl⟩, ⟨hn, hp⟩, hs⟩, hq⟩
    obtain rfl := quoteIfNeeded_injective hq
    exact ⟨hs, root, hr, rfl, hp, hn⟩
  · rintro ⟨hs, root, hr, rfl, hp, hn⟩
    exact ⟨root.node.command, ⟨⟨root, hr, rfl⟩, ⟨hn, hp⟩, hs⟩, rfl⟩

end Manager

namespace Node

variable {σ : Type} {actor : Actor}

theorem mem_complete_single_iff {node : Node σ} {typed candidate : String}
    (hp : node.command.isPermitted actor = true) :
    candidate ∈ (node.complete actor [typed]).value ↔
      candidate ∈ childCandidates actor typed node.children ∨
        candidate ∈ (node.command.ownCandidates actor [] typed).value := by
  cases node with
  | mk c children =>
      have hf : ((mk c children).complete actor [typed]).value =
          firstSeen ((mk c children).offers actor typed []).value := rfl
      rw [hf, mem_firstSeen_iff, mem_offers_iff, leadsTo_nil_iff, offers_nil_iff]
      exact and_iff_right hp

end Node

open Node

variable {σ : Type}

theorem name_on_offer_unless_broken_at_sigma (actor : Actor) (typed rest : String) :
    (∀ m : Manager σ, ∀ root ∈ m.roots, root.node.command.isPermitted actor = true →
      root.node.command.hidesFromCompletion = false → root.node.command.name = typed ++ rest →
      (quoteIfNeeded (typed ++ rest) ∈ m.completeLabel actor typed ↔
        ¬ BreaksAtSigma [] typed.toList rest.toList)) ∧
    ∀ node : Node σ, node.command.isPermitted actor = true → ∀ child ∈ node.children,
      child.command.isPermitted actor = true → child.command.hidesFromCompletion = false →
      child.command.name = typed ++ rest →
      (typed ++ rest ∈ (node.complete actor [typed]).value ↔
        ¬ BreaksAtSigma [] typed.toList rest.toList ∨
          typed ++ rest ∈ (node.command.ownCandidates actor [] typed).value) := by
  refine ⟨?_, ?_⟩
  · intro m root hr hp hn hname
    rw [Manager.mem_completeLabel_iff, startsIgnoringCase_append_iff]
    exact and_iff_left ⟨root, hr, hname, hp, hn⟩
  · intro node hp child hc hcp hn hname
    rw [mem_complete_single_iff hp, mem_childCandidates_iff, ← startsIgnoringCase_append_iff]
    apply or_congr_left
    constructor
    · rintro ⟨other, _, _, _, hs, ho⟩
      rwa [ho] at hs
    · intro hs
      exact ⟨child, hc, hcp, hn, hname ▸ hs, hname⟩

def titled (name : String) : Node Nat :=
  .mk (.bare name name) []

def offering (node : Node Nat) : Manager Nat :=
  { (Manager.new "quill" : Manager Nat) with roots := [⟨"quill", node⟩] }

theorem first_sigma_stays_on_offer :
    let actor := Actor.granted "Alex" .player []
    let island := titled "ΣΑΜΟΣ"
    let sea := Node.mk (.bare "sea" "sea") [island]
    ¬ BreaksAtSigma [] "Σ".toList "ΑΜΟΣ".toList ∧ "ΣΑΜΟΣ" ∈ (offering island).completeLabel actor "Σ" ∧
      "ΣΑΜΟΣ" ∈ (sea.complete actor ["Σ"]).value := by
  intro actor island sea
  have hb : ¬ BreaksAtSigma [] "Σ".toList "ΑΜΟΣ".toList := by
    rintro ⟨before, marks, ht, hr, -⟩
    have hn : before = [] := by
      cases before with
      | nil => rfl
      | cons b before => simp at ht
    subst hn
    simp [meetsCased] at hr
  obtain ⟨hlabel, hchild⟩ := name_on_offer_unless_broken_at_sigma actor "Σ" "ΑΜΟΣ"
  refine ⟨hb, ?_, ?_⟩
  · exact (hlabel (offering island) ⟨"quill", island⟩ (by simp [offering]) rfl rfl rfl).mpr hb
  · exact (hchild sea rfl island (by simp [sea]) rfl rfl rfl).mpr (.inl hb)

theorem inner_sigma_leaves_offer :
    let actor := Actor.granted "Alex" .player []
    let island := titled "ΝΗΣΟΣ"
    let sea := Node.mk (.bare "sea" "sea") [island]
    island.command.isPermitted actor = true ∧ island.command.hidesFromCompletion = false ∧
      (offering island).completeLabel actor "ΝΗ" = ["ΝΗΣΟΣ"] ∧ (offering island).completeLabel actor "ΝΗΣ" = [] ∧
      (sea.complete actor ["ΝΗ"]).value = ["ΝΗΣΟΣ"] ∧ (sea.complete actor ["ΝΗΣ"]).value = [] ∧
      ¬ ∀ typed rest, island.command.name = typed ++ rest →
        quoteIfNeeded island.command.name ∈ (offering island).completeLabel actor typed := by
  intro actor island sea
  have hn : (offering island).completeLabel actor "ΝΗΣ" = [] := by decide
  refine ⟨rfl, rfl, by decide, hn, by decide, by decide, ?_⟩
  intro h
  have hm := h "ΝΗΣ" "ΟΣ" rfl
  rw [hn] at hm
  simp at hm

end CommandTree
