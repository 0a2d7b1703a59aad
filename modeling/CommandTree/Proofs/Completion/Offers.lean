import CommandTree.Completion
import CommandTree.Proofs.Tree

namespace CommandTree

open Text

variable {σ : Type}

def addUnseen (seen : List String) (text : String) : List String :=
  if seen.contains text then seen else seen ++ [text]

theorem mem_addUnseen {seen : List String} {text t : String} :
    t ∈ addUnseen seen text ↔ t ∈ seen ∨ t = text := by
  rw [addUnseen]
  split
  next h =>
    have hm : text ∈ seen := List.contains_iff_mem.mp h
    constructor
    · exact Or.inl
    · rintro (ht | rfl)
      · exact ht
      · exact hm
  next => rw [List.mem_append, List.mem_singleton]

theorem nodup_addUnseen {seen : List String} (h : seen.Nodup) (text : String) :
    (addUnseen seen text).Nodup := by
  rw [addUnseen]
  split
  next => exact h
  next hn =>
    have hm : text ∉ seen := by simpa using hn
    rw [List.nodup_append]
    refine ⟨h, by simp, ?_⟩
    intro t ht s hs
    rw [List.mem_singleton.mp hs]
    rintro rfl
    exact hm ht

theorem firstSeen_eq (texts : List String) : firstSeen texts = texts.foldl addUnseen [] := rfl

theorem mem_foldl_addUnseen {texts seen : List String} {t : String} :
    t ∈ texts.foldl addUnseen seen ↔ t ∈ seen ∨ t ∈ texts := by
  induction texts generalizing seen with
  | nil => simp
  | cons text texts ih => rw [List.foldl_cons, ih, mem_addUnseen, List.mem_cons, or_assoc]

theorem nodup_foldl_addUnseen {texts seen : List String} (h : seen.Nodup) :
    (texts.foldl addUnseen seen).Nodup := by
  induction texts generalizing seen with
  | nil => exact h
  | cons text texts ih => exact ih (nodup_addUnseen h text)

theorem mem_firstSeen_iff {texts : List String} {t : String} : t ∈ firstSeen texts ↔ t ∈ texts := by
  simp [firstSeen_eq, mem_foldl_addUnseen]

theorem nodup_firstSeen (texts : List String) : (firstSeen texts).Nodup :=
  nodup_foldl_addUnseen List.nodup_nil

namespace Node

inductive Followed (actor : Actor) : Node σ → List String → Node σ → Prop
  | here {node : Node σ} : node.command.isPermitted actor = true → Followed actor node [] node
  | down {node child n : Node σ} {token : String} {tokens : List String} :
      node.command.isPermitted actor = true → child ∈ node.children → child.command.hasAlias token = true →
      Followed actor child tokens n → Followed actor node (token :: tokens) n

inductive Offers (actor : Actor) (current : String) (node : Node σ) : List String → String → Prop
  | subcommand {child : Node σ} : child ∈ node.children → child.command.isPermitted actor = true →
      child.command.hidesFromCompletion = false → startsIgnoringCase child.command.name current = true →
      Offers actor current node [] child.command.name
  | slot {left : List String} {text : String} : node.command.hidesFromCompletion = false →
      text ∈ (node.command.slotCandidates actor left current).value →
      startsIgnoringCase text current = true → Offers actor current node left (quoteIfNeeded text)

def LeadsTo (actor : Actor) (current : String) (node : Node σ) (typed : List String) (candidate : String) :
    Prop :=
  ∃ followed left n, typed = followed ++ left ∧ Followed actor node followed n ∧
    n.Offers actor current left candidate

variable {actor : Actor} {current candidate : String}

theorem Followed.isPermitted {node n : Node σ} {tokens : List String} (h : Followed actor node tokens n) :
    node.command.isPermitted actor = true := by
  cases h with
  | here hp => exact hp
  | down hp => exact hp

theorem leadsTo_nil_iff {node : Node σ} :
    node.LeadsTo actor current [] candidate ↔
      node.command.isPermitted actor = true ∧ node.Offers actor current [] candidate := by
  constructor
  · rintro ⟨followed, left, n, ht, hf, ho⟩
    obtain ⟨rfl, rfl⟩ := List.append_eq_nil_iff.mp ht.symm
    cases hf with
    | here hp => exact ⟨hp, ho⟩
  · rintro ⟨hp, ho⟩
    exact ⟨[], [], node, rfl, .here hp, ho⟩

theorem leadsTo_cons_iff {node : Node σ} {first : String} {rest : List String} :
    node.LeadsTo actor current (first :: rest) candidate ↔
      node.command.isPermitted actor = true ∧
        ((∃ child ∈ node.children, child.command.hasAlias first = true ∧
            child.LeadsTo actor current rest candidate) ∨
          node.Offers actor current (first :: rest) candidate) := by
  constructor
  · rintro ⟨followed, left, n, ht, hf, ho⟩
    refine ⟨hf.isPermitted, ?_⟩
    cases hf with
    | here =>
        rw [List.nil_append] at ht
        exact .inr (ht ▸ ho)
    | @down _ child _ token tokens hp hc ha hf =>
        obtain ⟨rfl, rfl⟩ := List.cons.inj ht
        exact .inl ⟨child, hc, ha, tokens, left, n, rfl, hf, ho⟩
  · rintro ⟨hp, ⟨child, hc, ha, followed, left, n, rfl, hf, ho⟩ | ho⟩
    · exact ⟨first :: followed, left, n, rfl, .down hp hc ha hf, ho⟩
    · exact ⟨[], first :: rest, node, rfl, .here hp, ho⟩

theorem mem_childCandidates_iff {children : List (Node σ)} :
    candidate ∈ childCandidates actor current children ↔
      ∃ child ∈ children, child.command.isPermitted actor = true ∧
        child.command.hidesFromCompletion = false ∧
        startsIgnoringCase child.command.name current = true ∧ child.command.name = candidate := by
  simp only [childCandidates, List.mem_filter, List.mem_map, Bool.and_eq_true, Bool.not_eq_true']
  constructor
  · rintro ⟨⟨child, ⟨hc, hn, hp⟩, rfl⟩, hs⟩
    exact ⟨child, hc, hp, hn, hs, rfl⟩
  · rintro ⟨child, hc, hp, hn, hs, rfl⟩
    exact ⟨⟨child, ⟨hc, hn, hp⟩, rfl⟩, hs⟩

theorem mem_ownCandidates_iff {c : Command σ} {typed : List String} :
    candidate ∈ (c.ownCandidates actor typed current).value ↔
      c.hidesFromCompletion = false ∧ ∃ text ∈ (c.slotCandidates actor typed current).value,
        startsIgnoringCase text current = true ∧ quoteIfNeeded text = candidate := by
  rw [Command.ownCandidates]
  cases c.hidesFromCompletion with
  | true => simp
  | false => simp [and_assoc]

theorem offers_nil_iff {c : Command σ} {children : List (Node σ)} :
    (mk c children).Offers actor current [] candidate ↔
      candidate ∈ childCandidates actor current children ∨
        candidate ∈ (c.ownCandidates actor [] current).value := by
  rw [mem_childCandidates_iff, mem_ownCandidates_iff]
  constructor
  · rintro (⟨hc, hp, hn, hs⟩ | ⟨hn, ht, hs⟩)
    · exact .inl ⟨_, hc, hp, hn, hs, rfl⟩
    · exact .inr ⟨hn, _, ht, hs, rfl⟩
  · rintro (⟨child, hc, hp, hn, hs, rfl⟩ | ⟨hn, text, ht, hs, rfl⟩)
    · exact .subcommand hc hp hn hs
    · exact .slot hn ht hs

theorem offers_cons_iff {c : Command σ} {children : List (Node σ)} {first : String} {rest : List String} :
    (mk c children).Offers actor current (first :: rest) candidate ↔
      candidate ∈ (c.ownCandidates actor (first :: rest) current).value := by
  rw [mem_ownCandidates_iff]
  constructor
  · intro ho
    cases ho with
    | slot hn ht hs => exact ⟨hn, _, ht, hs, rfl⟩
  · rintro ⟨hn, text, ht, hs, rfl⟩
    exact .slot hn ht hs

theorem mem_offersAll_iff {first : String} {rest : List String} {children : List (Node σ)} :
    candidate ∈ (offersAll actor current first rest children).value ↔
      ∃ child ∈ children, child.command.hasAlias first = true ∧
        candidate ∈ (child.offers actor current rest).value := by
  induction children with
  | nil => simp [offersAll]
  | cons child children ih =>
      rw [offersAll]
      cases h : child.command.hasAlias first with
      | true => simp [h, ih]
      | false => simp [h, ih]

theorem mem_offers_iff {node : Node σ} {typed : List String} :
    candidate ∈ (node.offers actor current typed).value ↔ node.LeadsTo actor current typed candidate := by
  -- Each subcommand that the next token names is asked about one token less.
  induction node generalizing typed with
  | mk c children ih =>
      rw [offers]
      cases hp : c.isPermitted actor with
      | false =>
          cases typed with
          | nil => simp [leadsTo_nil_iff, hp]
          | cons first rest => simp [leadsTo_cons_iff, hp]
      | true =>
          cases typed with
          | nil =>
              rw [leadsTo_nil_iff, offers_nil_iff]
              simp [hp]
          | cons first rest =>
              have hbelow : candidate ∈ (offersAll actor current first rest children).value ↔
                  ∃ child ∈ children, child.command.hasAlias first = true ∧
                    child.LeadsTo actor current rest candidate := by
                rw [mem_offersAll_iff]
                constructor
                · rintro ⟨child, hc, ha, hm⟩
                  exact ⟨child, hc, ha, (ih child hc).mp hm⟩
                · rintro ⟨child, hc, ha, hm⟩
                  exact ⟨child, hc, ha, (ih child hc).mpr hm⟩
              rw [leadsTo_cons_iff, offers_cons_iff]
              simp [hp, hbelow]

theorem completion_offers_exactly (node : Node σ) (actor : Actor) :
    (∀ typed current, let offered := (node.complete actor (typed ++ [current])).value
      offered.Nodup ∧ ∀ candidate, candidate ∈ offered ↔
        ∃ followed left n, typed = followed ++ left ∧ Followed actor node followed n ∧
          n.Offers actor current left candidate) ∧
    node.complete actor [] = node.complete actor [""] := by
  refine ⟨?_, rfl⟩
  intro typed current offered
  have ho : offered = firstSeen (node.offers actor current typed).value := by
    simp [offered, complete]
  rw [ho]
  refine ⟨nodup_firstSeen _, ?_⟩
  intro candidate
  rw [mem_firstSeen_iff, mem_offers_iff]
  exact Iff.rfl

end Node

end CommandTree
