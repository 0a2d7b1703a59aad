import CommandTree.Proofs.Definition.Roots
import CommandTree.Proofs.Matching.FlagValues
import CommandTree.Proofs.Matching.Providers

namespace CommandTree

variable {σ : Type}

def Flag.valueOf (f : Flag) (actor : Actor) : Option String → Option Value
  | none => some (.boolean true)
  | some text => (f.type.convert (some actor) text).value

def Flag.slot (f : Flag) (actor : Actor) (occurrences : List (Option String)) : Option Value :=
  match occurrences.getLast? with
  | some occurrence => f.valueOf actor occurrence
  | none => f.whenAbsent actor

namespace Matching

inductive Item where
  | positional (token : String)
  | switch (flag : Nat) (name : String)
  | valued (flag : Nat) (name text : String)
  deriving DecidableEq

namespace Item

def tokens : Item → List String
  | positional token => [token]
  | switch _ name => [name]
  | valued _ name text => [name, text]

def positional? : Item → Option String
  | positional token => some token
  | _ => none

def occurrence? : Item → Option (Nat × Option String)
  | positional _ => none
  | switch flag _ => some (flag, none)
  | valued flag _ text => some (flag, some text)

inductive Of (flags : List Flag) : Item → Prop
  | positional {token : String} : (∀ f ∈ flags, f.answersTo token = false) → Of flags (.positional token)
  | switch {name : String} {i : Nat} {f : Flag} : FirstNamed flags name i f → f.isSwitch = true →
      Of flags (.switch i name)
  | valued {name text : String} {i : Nat} {f : Flag} : FirstNamed flags name i f → f.isSwitch = false →
      Of flags (.valued i name text)

end Item

/-- A token list taken apart. `dangling` is a flag at its end that lacks a value. -/
structure Itemisation where
  items : List Item
  dangling : Option (Nat × String)
  deriving DecidableEq

namespace Itemisation

def tokens (s : Itemisation) : List String :=
  s.items.flatMap Item.tokens ++ (s.dangling.map (·.2)).toList

def positional (s : Itemisation) : List String :=
  s.items.filterMap Item.positional?

def occurrences (s : Itemisation) : List (Nat × Option String) :=
  s.items.filterMap Item.occurrence?

def occurrencesOf (s : Itemisation) (i : Nat) : List (Option String) :=
  (s.occurrences.filter (·.1 == i)).map (·.2)

def cons (item : Item) (s : Itemisation) : Itemisation :=
  ⟨item :: s.items, s.dangling⟩

end Itemisation

structure Itemises (flags : List Flag) (s : Itemisation) (tokens : List String) : Prop where
  tokens_eq : s.tokens = tokens
  items : ∀ item ∈ s.items, item.Of flags
  dangling : ∀ i name, s.dangling = some (i, name) → ∃ f, FirstNamed flags name i f ∧ f.isSwitch = false

def itemise (flags : List Flag) : List String → Itemisation
  | [] => ⟨[], none⟩
  | token :: tokens =>
      match flagNamed? flags token with
      | none => (itemise flags tokens).cons (.positional token)
      | some flag =>
          if flag.isSwitch then (itemise flags tokens).cons (.switch flag.position token)
          else
            match tokens with
            | [] => ⟨[], some (flag.position, token)⟩
            | text :: rest => (itemise flags rest).cons (.valued flag.position token text)

variable {flags : List Flag} {actor : Actor} {tokens : List String} {s : Itemisation}

theorem Itemises.cons {item : Item} (hi : item.Of flags) (h : Itemises flags s tokens) :
    Itemises flags (s.cons item) (item.tokens ++ tokens) where
  tokens_eq := by
    rw [← h.tokens_eq]
    simp [Itemisation.tokens, Itemisation.cons]
  items := List.forall_mem_cons.mpr ⟨hi, h.items⟩
  dangling := h.dangling

section Positions

variable (hp : ∀ i, (hi : i < flags.length) → flags[i].position = i)

include hp

theorem itemises_itemise (tokens : List String) : Itemises flags (itemise flags tokens) tokens := by
  fun_induction itemise flags tokens with
  | case1 => exact ⟨rfl, by simp, by simp⟩
  | case2 token tokens hn ih => exact ih.cons (.positional (by simpa [flagNamed?] using hn))
  | case3 token tokens flag hn hs ih => exact ih.cons (.switch (firstNamed_of_flagNamed? hp hn) hs)
  | case4 token flag hn hs =>
      refine ⟨rfl, by simp, ?_⟩
      rintro i name ⟨⟩
      exact ⟨flag, firstNamed_of_flagNamed? hp hn, by simpa using hs⟩
  | case5 token flag hn hs text rest ih =>
      exact ih.cons (.valued (firstNamed_of_flagNamed? hp hn) (by simpa using hs))

theorem eq_itemise (h : Itemises flags s tokens) : s = itemise flags tokens := by
  obtain ⟨items, dangling⟩ := s
  obtain ⟨rfl, hitems, hdangling⟩ := h
  induction items with
  | nil =>
      cases dangling with
      | none => rfl
      | some last =>
          obtain ⟨i, name⟩ := last
          obtain ⟨f, hf, hs⟩ := hdangling i name rfl
          simp [Itemisation.tokens, itemise, flagNamed?_of_firstNamed hf, hs, hf.position_eq hp]
  | cons item items ih =>
      obtain ⟨hitem, hitems⟩ := List.forall_mem_cons.mp hitems
      have hrest := ih hitems hdangling
      have htokens : (⟨item :: items, dangling⟩ : Itemisation).tokens =
          item.tokens ++ (⟨items, dangling⟩ : Itemisation).tokens := by
        simp [Itemisation.tokens]
      rw [htokens]
      cases hitem with
      | positional hn =>
          have hnone := List.find?_eq_none.mpr fun f hf => by simpa using hn f hf
          simp [Item.tokens, itemise, flagNamed?, hnone, ← hrest, Itemisation.cons]
      | switch hf hs =>
          simp [Item.tokens, itemise, flagNamed?_of_firstNamed hf, hs, hf.position_eq hp, ← hrest,
            Itemisation.cons]
      | valued hf hs =>
          simp [Item.tokens, itemise, flagNamed?_of_firstNamed hf, hs, hf.position_eq hp, ← hrest,
            Itemisation.cons]

theorem existsUnique_itemises (tokens : List String) : ∃! s, Itemises flags s tokens :=
  ⟨itemise flags tokens, itemises_itemise hp tokens, fun _ h => eq_itemise hp h⟩

end Positions

structure Holds (flags : List Flag) (actor : Actor) (occurrence : Nat × Option String) (found : Nat × Value) :
    Prop where
  index : occurrence.1 = found.1
  value : ∃ f, flags[occurrence.1]? = some f ∧ f.valueOf actor occurrence.2 = some found.2

theorem Separation.itemised (hp : ∀ i, (hi : i < flags.length) → flags[i].position = i) {e : Extraction}
    (h : Separation flags actor tokens e) :
    (itemise flags tokens).dangling = none ∧ (itemise flags tokens).positional = e.positional ∧
      List.Forall₂ (Holds flags actor) (itemise flags tokens).occurrences e.occurrences := by
  induction h with
  | nil => exact ⟨rfl, rfl, .nil⟩
  | positional hn _ ih =>
      obtain ⟨hd, hpositional, hf⟩ := ih
      simp only [itemise, hn]
      exact ⟨hd, congrArg (List.cons _) hpositional, hf⟩
  | switch hn hs _ ih =>
      obtain ⟨hd, hpositional, hf⟩ := ih
      simp only [itemise, hn, hs, if_true]
      exact ⟨hd, hpositional, .cons ⟨rfl, _, (firstNamed_of_flagNamed? hp hn).at_index, rfl⟩ hf⟩
  | valued hn hs hv _ ih =>
      obtain ⟨hd, hpositional, hf⟩ := ih
      simp only [itemise, hn, hs, Bool.false_eq_true, if_false]
      exact ⟨hd, hpositional, .cons ⟨rfl, _, (firstNamed_of_flagNamed? hp hn).at_index, hv⟩ hf⟩

theorem exists_separate (hp : ∀ i, (hi : i < flags.length) → flags[i].position = i)
    (hd : (itemise flags tokens).dangling = none)
    (hv : ∀ o ∈ (itemise flags tokens).occurrences, ∀ f, flags[o.1]? = some f → f.valueOf actor o.2 ≠ none) :
    ∃ e, (separate flags actor tokens).value = some e := by
  fun_induction separate flags actor tokens with
  | case1 => exact ⟨_, rfl⟩
  | case2 token tokens hn ih =>
      simp only [itemise, hn] at hd hv
      obtain ⟨e, he⟩ := ih hd hv
      simp [he]
  | case3 token tokens flag hn hs ih =>
      simp only [itemise, hn, hs, if_true] at hd hv
      obtain ⟨e, he⟩ := ih hd (List.forall_mem_cons.mp hv).2
      simp [he]
  | case4 token flag hn hs => simp [itemise, hn, hs] at hd
  | case5 token flag hn hs text rest ih =>
      simp only [itemise, hn, hs] at hd hv
      obtain ⟨hhead, hrest⟩ := List.forall_mem_cons.mp hv
      obtain ⟨value, hvalue⟩ := Option.ne_none_iff_exists'.mp
        (hhead flag (firstNamed_of_flagNamed? hp hn).at_index)
      obtain ⟨e, he⟩ := ih hd hrest
      have hconvert : (flag.type.convert (some actor) text).value = some value := hvalue
      simp [hconvert, he]

theorem getLast?_occurrencesOf (s : Itemisation) (i : Nat) :
    (s.occurrencesOf i).getLast? = (s.occurrences.reverse.find? (·.1 == i)).map (·.2) := by
  rw [Itemisation.occurrencesOf, List.getLast?_map, List.getLast?_eq_head?_reverse, ← List.filter_reverse,
    List.head?_filter]

theorem slot_of_holds {found : List (Nat × Value)} {i : Nat} {f : Flag} (hf : flags[i]? = some f)
    (h : List.Forall₂ (Holds flags actor) s.occurrences found) :
    (lastOccurrence? found i).or (f.whenAbsent actor) = f.slot actor (s.occurrencesOf i) := by
  rw [lastOccurrence?, Flag.slot, getLast?_occurrencesOf]
  have hreverse := List.forall₂_reverse_iff.mpr h
  -- Read backwards, both sides look for the first entry with this index, so the induction is on the reversed lists.
  generalize s.occurrences.reverse = os at hreverse ⊢
  generalize found.reverse = vs at hreverse ⊢
  induction hreverse with
  | nil => rfl
  | @cons o v os vs hov _ ih =>
      obtain ⟨j, value⟩ := v
      obtain ⟨j', occurrence⟩ := o
      obtain ⟨rfl, g, hg, hvalue⟩ := hov
      by_cases hj : j' = i
      · obtain rfl := hj
        obtain rfl := Option.some.inj (hg.symm.trans hf)
        simpa using hvalue.symm
      · simpa [hj] using ih

structure Itemisation.Extracts (s : Itemisation) (flags : List Flag) (actor : Actor) (tokens : List String) :
    Prop where
  refused : (extractFlags flags actor tokens).value = none ↔ s.dangling.isSome = true ∨
    ∃ i f occurrence, flags[i]? = some f ∧ occurrence ∈ s.occurrencesOf i ∧ f.valueOf actor occurrence = none
  extracted : ∀ extraction, (extractFlags flags actor tokens).value = some extraction →
    extraction = (s.positional, flags.mapIdx fun i f => f.slot actor (s.occurrencesOf i))

theorem mem_occurrencesOf {i : Nat} {occurrence : Option String} :
    occurrence ∈ s.occurrencesOf i ↔ (i, occurrence) ∈ s.occurrences := by
  simp [Itemisation.occurrencesOf]

theorem exists_value {os : List (Nat × Option String)} {found : List (Nat × Value)}
    (h : List.Forall₂ (Holds flags actor) os found) {o : Nat × Option String} (ho : o ∈ os) :
    ∃ value f, flags[o.1]? = some f ∧ f.valueOf actor o.2 = some value := by
  induction h with
  | nil => simp at ho
  | cons hov _ ih =>
      rcases List.mem_cons.mp ho with rfl | ho
      · exact ⟨_, hov.value⟩
      · exact ih ho

theorem extractFlags_eq_none_iff : (extractFlags flags actor tokens).value = none ↔
    (separate flags actor tokens).value = none := by
  rw [extractFlags, Logged.value_bind]
  cases (separate flags actor tokens).value <;> simp

theorem extracts_itemise (hp : ∀ i, (hi : i < flags.length) → flags[i].position = i) (actor : Actor)
    (tokens : List String) : (itemise flags tokens).Extracts flags actor tokens := by
  constructor
  · rw [extractFlags_eq_none_iff]
    constructor
    · intro h
      by_contra hn
      simp only [not_or, not_exists, not_and] at hn
      obtain ⟨hd, hv⟩ := hn
      obtain ⟨e, he⟩ := exists_separate hp (Option.not_isSome_iff_eq_none.mp hd) fun o ho f hf =>
        hv o.1 f o.2 hf (mem_occurrencesOf.mpr ho)
      simp [he] at h
    · intro h
      by_contra hn
      obtain ⟨e, he⟩ := Option.ne_none_iff_exists'.mp hn
      obtain ⟨hd, -, hholds⟩ := (separation_of_separate he).itemised hp
      rcases h with h | ⟨i, f, occurrence, hf, ho, hv⟩
      · simp [hd] at h
      · obtain ⟨found, g, hg, hvalue⟩ := exists_value hholds (mem_occurrencesOf.mp ho)
        obtain rfl := Option.some.inj (hf.symm.trans hg)
        simp [hv] at hvalue
  · rintro ⟨positional, slots⟩ h
    obtain ⟨e, hs, rfl, rfl⟩ := exists_separation_of_extractFlags h
    obtain ⟨-, hpositional, hholds⟩ := hs.itemised hp
    refine Prod.ext hpositional.symm (List.ext_getElem? fun i => ?_)
    rw [List.getElem?_mapIdx]
    cases hf : flags[i]? with
    | none =>
        refine List.getElem?_eq_none_iff.mpr ?_
        rw [length_flagSlots]
        exact List.getElem?_eq_none_iff.mp hf
    | some f =>
        rw [getElem?_flagSlots actor e.occurrences 0 hf, Nat.zero_add, slot_of_holds hf hholds]
        rfl

theorem Itemisation.Extracts.value_eq {s' : Itemisation} {tokens' : List String}
    (h : s.Extracts flags actor tokens) (h' : s'.Extracts flags actor tokens')
    (hpositional : s.positional = s'.positional) (hoccurrences : ∀ i, s.occurrencesOf i = s'.occurrencesOf i)
    (hdangling : s.dangling.isSome = s'.dangling.isSome) :
    (extractFlags flags actor tokens).value = (extractFlags flags actor tokens').value := by
  have hrefused := h.refused.trans (by simpa only [hdangling, hoccurrences] using h'.refused.symm)
  cases hx : (extractFlags flags actor tokens).value with
  | none => exact (hrefused.mp hx).symm
  | some extraction =>
      have hne : (extractFlags flags actor tokens').value ≠ none := by
        intro hn
        simp [hrefused.mpr hn] at hx
      obtain ⟨extraction', hx'⟩ := Option.ne_none_iff_exists'.mp hne
      rw [hx', h.extracted _ hx, h'.extracted _ hx', hpositional]
      simp only [hoccurrences]

end Matching

open Matching

theorem flags_are_independent_of_position (r : Registries) (n : Node σ) (h : n.Parsed r) (actor : Actor) :
    (∀ tokens, ∃! s, Itemises n.command.flags s tokens) ∧
      (∀ tokens s, Itemises n.command.flags s tokens → s.Extracts n.command.flags actor tokens) ∧
      ∀ tokens tokens' s s', Itemises n.command.flags s tokens → Itemises n.command.flags s' tokens' →
        s.positional = s'.positional → (∀ i, s.occurrencesOf i = s'.occurrencesOf i) →
        s.dangling.isSome = s'.dangling.isSome →
        (n.command.matchTokens actor tokens).value = (n.command.matchTokens actor tokens').value := by
  have hp := h.wellFormed.flagPositions
  have hextracts {tokens : List String} {s : Itemisation} (hs : Itemises n.command.flags s tokens) :
      s.Extracts n.command.flags actor tokens := by
    rw [eq_itemise hp hs]
    exact extracts_itemise hp actor tokens
  refine ⟨existsUnique_itemises hp, fun _ _ => hextracts, ?_⟩
  intro tokens tokens' s s' hs hs' hpositional hoccurrences hdangling
  have hsame := (hextracts hs).value_eq (hextracts hs') hpositional hoccurrences hdangling
  rw [Command.matchTokens_value, Command.matchTokens_value, hsame]

def mailSource : String :=
  "mail string:to string:text...? string:--from,-f --quiet int:--copies(2) --sealed \x7b\n\x7d"

def mailBefore : Itemisation :=
  ⟨[.switch 1 "--quiet", .valued 0 "-f" "--quiet", .positional "bob", .positional "hi"], none⟩

def mailBetween : Itemisation :=
  ⟨[.positional "bob", .valued 0 "--from" "--quiet", .switch 1 "--quiet", .positional "hi"], none⟩

def mailSlots : List (Option Value) :=
  [some (.string "bob"), some (.string "hi"), some (.string "--quiet"), some (.boolean true), some (.int 2),
    some (.boolean false)]

theorem mail_takes_flags_anywhere :
    ∃ roots : List (Node Nat), (Definition.readText ⟨.standard, .empty⟩ mailSource).value = .ok roots ∧
      ∃ n ∈ Node.preorderAll roots, Itemises n.command.flags mailBefore mailBefore.tokens ∧
        Itemises n.command.flags mailBetween mailBetween.tokens ∧
        (n.command.matchTokens .console mailBefore.tokens).value = .matched mailSlots ∧
        (n.command.matchTokens .console mailBefore.tokens).value =
          (n.command.matchTokens .console mailBetween.tokens).value := by
  have hread : ((Definition.readText (σ := Nat) ⟨.standard, .empty⟩ mailSource).value.toOption.map fun roots =>
      (Node.preorderAll roots).map fun n =>
        (itemise n.command.flags mailBefore.tokens, itemise n.command.flags mailBetween.tokens,
          (n.command.matchTokens .console mailBefore.tokens).value)) =
      some [(mailBefore, mailBetween, .matched mailSlots)] := by
    decide +kernel
  obtain ⟨roots, h, hviews⟩ := Definition.exists_roots_of_toOption hread
  obtain ⟨n, hn, hview⟩ := List.mem_map.mp (hviews ▸ List.mem_singleton_self _)
  simp only [Prod.mk.injEq] at hview
  obtain ⟨hbefore, hbetween, hmatched⟩ := hview
  have hp := (Definition.wellFormed_of_readText h hn).flagPositions
  have hb := hbefore ▸ itemises_itemise hp mailBefore.tokens
  have hb' := hbetween ▸ itemises_itemise hp mailBetween.tokens
  have hsame : ∀ i, mailBefore.occurrencesOf i = mailBetween.occurrencesOf i := by
    intro i
    rcases i with _ | _ | i <;> rfl
  exact ⟨roots, h, n, hn, hb, hb', hmatched,
    (flags_are_independent_of_position ⟨.standard, .empty⟩ n (.definition h hn) .console).2.2
      _ _ mailBefore mailBetween hb hb' rfl hsame rfl⟩

end CommandTree
