import CommandTree.Proofs.Matching.Positional
import CommandTree.Proofs.Matching.Reach

/-!
The choice among optional arguments never has to be taken back. Where these come last and no type is generic, every
placement of the tokens can be moved to the one that matching finds: each token goes to the earliest argument that
accepts it, and what any other placement leaves behind its own choice lies behind this one too.
-/

namespace CommandTree.Matching

variable {actor : Actor} {arguments : List Argument} {budget start : Nat} {token : String}
  {tokens rest : List String} {places : List Nat}

structure Placement (arguments : List Argument) (actor : Actor) (start : Nat) (tokens : List String)
    (places : List Nat) : Prop where
  increasing : places.Pairwise (· < ·)
  within : ∀ i ∈ places, start ≤ i
  accepted : List.Forall₂ (fun i token => ∃ a, arguments[i]? = some a ∧
    (a.type.convert (some actor) token).value ≠ none) places tokens
  covers : ∀ i a, start ≤ i → arguments[i]? = some a → a.isOptional = false → i ∈ places

def placedSlots (actor : Actor) (absent : Argument → Option Value) (placed : List (Nat × String)) (start : Nat)
    (arguments : List Argument) : List (Option Value) :=
  (arguments.zipIdx start).map fun (a, i) =>
    match placed.lookup i with
    | some token => (a.type.convert (some actor) token).value
    | none => absent a

namespace Placement

theorem behind {p : Nat} (h : Placement arguments actor start (token :: rest) (p :: places)) :
    Placement arguments actor (p + 1) rest places := by
  obtain ⟨hp, hincreasing⟩ := List.pairwise_cons.mp h.increasing
  refine ⟨hincreasing, hp, (List.forall₂_cons.mp h.accepted).2, ?_⟩
  intro i a hi ha ho
  have hstart : start ≤ p := h.within p List.mem_cons_self
  have hm := h.covers i a (by omega) ha ho
  rcases List.mem_cons.mp hm with rfl | hm
  · omega
  · exact hm

theorem cons {a : Argument} (ha : arguments[start]? = some a)
    (hc : (a.type.convert (some actor) token).value ≠ none)
    (h : Placement arguments actor (start + 1) rest places) :
    Placement arguments actor start (token :: rest) (start :: places) := by
  refine ⟨.cons h.within h.increasing, ?_, .cons ⟨a, ha, hc⟩ h.accepted, ?_⟩
  · intro i hi
    rcases List.mem_cons.mp hi with rfl | hi
    · exact Nat.le_refl _
    · exact Nat.le_of_succ_le (h.within i hi)
  · intro i b hi hb ho
    rcases Nat.eq_or_lt_of_le hi with rfl | hlt
    · exact List.mem_cons_self
    · exact List.mem_cons_of_mem _ (h.covers i b hlt hb ho)

theorem lower {later : Nat} (h : Placement arguments actor later tokens places) (hle : start ≤ later)
    (hopt : ∀ i a, start ≤ i → i < later → arguments[i]? = some a → a.isOptional = true) :
    Placement arguments actor start tokens places := by
  refine ⟨h.increasing, fun i hi => Nat.le_trans hle (h.within i hi), h.accepted, ?_⟩
  intro i a hi ha ho
  rcases Nat.lt_or_ge i later with hlt | hge
  · simp [hopt i a hi hlt ha] at ho
  · exact h.covers i a hge ha ho

theorem exists_cons (h : Placement arguments actor start (token :: rest) places) :
    ∃ p ps, places = p :: ps := by
  cases h.accepted with
  | cons => exact ⟨_, _, rfl⟩

theorem eq_nil (h : Placement arguments actor start [] places) : places = [] := by
  cases h.accepted with
  | nil => rfl

theorem length_le (h : Placement arguments actor start tokens places) (hs : start ≤ arguments.length) :
    start + tokens.length ≤ arguments.length := by
  induction tokens generalizing start places with
  | nil => exact hs
  | cons token rest ih =>
      obtain ⟨p, ps, rfl⟩ := h.exists_cons
      obtain ⟨⟨a, ha, -⟩, -⟩ := List.forall₂_cons.mp h.accepted
      obtain ⟨hp, -⟩ := List.getElem?_eq_some_iff.mp ha
      have hstart : start ≤ p := h.within p List.mem_cons_self
      have hrest := ih h.behind hp
      rw [List.length_cons]
      omega

theorem lookup (h : Placement arguments actor start tokens places) {i : Nat} {a : Argument} (hi : start ≤ i)
    (ha : arguments[i]? = some a) :
    (∃ token value, (places.zip tokens).lookup i = some token ∧
      (a.type.convert (some actor) token).value = some value) ∨
      ((places.zip tokens).lookup i = none ∧ a.isOptional = true) := by
  have hlength := h.accepted.length_eq
  cases hl : (places.zip tokens).lookup i with
  | some token =>
      obtain ⟨before, after, hz, -⟩ := List.lookup_eq_some_iff.mp hl
      have hm : (i, token) ∈ places.zip tokens := by simp [hz]
      obtain ⟨b, hb, hc⟩ := List.forall₂_zip h.accepted hm
      obtain rfl : b = a := Option.some.inj (hb.symm.trans ha)
      obtain ⟨value, hv⟩ := Option.ne_none_iff_exists'.mp hc
      exact .inl ⟨token, value, rfl, hv⟩
  | none =>
      refine .inr ⟨rfl, ?_⟩
      by_contra ho
      have hm : i ∈ (places.zip tokens).map Prod.fst := by
        rw [List.map_fst_zip (by omega)]
        exact h.covers i a hi ha (by simpa using ho)
      obtain ⟨p, hp, rfl⟩ := List.mem_map.mp hm
      simpa using List.lookup_eq_none_iff.mp hl p hp

end Placement

theorem mem_drop_of_getElem? {i : Nat} {a : Argument} (hi : start ≤ i) (ha : arguments[i]? = some a) :
    a ∈ arguments.drop start := by
  refine List.mem_of_getElem? (i := i - start) ?_
  rw [List.getElem?_drop, Nat.add_sub_cancel' hi, ha]

theorem takeTokens_of_single {a : Argument} (h : a.isVariadic = false) (token : String) (rest : List String) :
    takeTokens a actor token rest = a.type.convert (some actor) token := by
  simp [takeTokens, h]

theorem Placement.exists_reach {p : Nat} (hv : ∀ a ∈ arguments, a.isVariadic = false)
    (hopt : ∀ a ∈ arguments.drop start, a.isOptional = true)
    (hb : start + (rest.length + 1) + budget = arguments.length)
    (h : Placement arguments actor start (token :: rest) (p :: places)) :
    ∃ before c, Reach actor (arguments.drop start) budget token rest before c ∧ c.skipped = p - start := by
  obtain ⟨⟨a, ha, hc⟩, -⟩ := List.forall₂_cons.mp h.accepted
  obtain ⟨value, hvalue⟩ := Option.ne_none_iff_exists'.mp hc
  obtain ⟨hp, he⟩ := List.getElem?_eq_some_iff.mp ha
  have hstart : start ≤ p := h.within p List.mem_cons_self
  have hrest := h.behind.length_le hp
  have hsplit : arguments.drop start = (arguments.drop start).take (p - start) ++ a :: arguments.drop (p + 1) := by
    conv_lhs => rw [← List.take_append_drop (p - start) (arguments.drop start)]
    rw [List.drop_drop, Nat.add_sub_cancel' hstart, List.drop_eq_getElem_cons hp, he]
  have hlength : ((arguments.drop start).take (p - start)).length = p - start := by
    rw [List.length_take, List.length_drop]
    omega
  have hbehind : ∀ b ∈ arguments.drop (p + 1), b.isOptional = true := by
    intro b hb
    refine hopt b ?_
    rw [hsplit]
    simp [hb]
  refine ⟨_, ⟨p - start, a, arguments.drop (p + 1), value⟩, ⟨hsplit, hlength.symm, ?_, ?_, ?_, ?_⟩, rfl⟩
  · exact fun b hb => hopt b (List.mem_of_mem_take hb)
  · rw [hlength]
    omega
  · have hnone : (arguments.drop (p + 1)).countP (!·.isOptional) = 0 := by
      simpa [List.countP_eq_zero] using hbehind
    have hroom : rest.length ≤ arguments.length - (p + 1) := by omega
    simp [isFeasible, hnone, hroom]
  · rw [takeTokens_of_single (hv a (List.mem_of_getElem? ha)), hvalue]

structure EarliestStep (actor : Actor) (arguments : List Argument) (budget start : Nat) (token : String)
    (rest : List String) (before : List Argument) (c : Candidate) : Prop where
  split : arguments.drop start = before ++ c.argument :: c.following
  skipped : c.skipped = before.length
  optional : ∀ a ∈ before, a.isOptional = true
  inBudget : before.length ≤ budget
  accepted : (c.argument.type.convert (some actor) token).value = some c.value
  assigned : (assign actor (arguments.drop start) budget (token :: rest)).value = assignBehind actor budget rest c
  first : ∀ p ps, Placement arguments actor start (token :: rest) (p :: ps) →
    start + before.length ≤ p ∧ Placement arguments actor (start + before.length + 1) rest ps

theorem exists_earliestStep (hv : ∀ a ∈ arguments, a.isVariadic = false)
    (hs : ∀ a ∈ arguments, a.type.isString = false)
    (ho : arguments.Pairwise fun a b => a.isOptional = true → b.isOptional = true)
    (hb : start + (rest.length + 1) + budget = arguments.length)
    (h : Placement arguments actor start (token :: rest) places) :
    ∃ before c, EarliestStep actor arguments budget start token rest before c := by
  obtain ⟨p, ps, rfl⟩ := h.exists_cons
  have hstart : start < arguments.length := by omega
  have hdrop : arguments.drop start = arguments[start] :: arguments.drop (start + 1) :=
    List.drop_eq_getElem_cons hstart
  have hget : arguments[start]? = some arguments[start] := List.getElem?_eq_getElem hstart
  have hsingle : ∀ a ∈ arguments.drop start, a.isVariadic = false := fun a ha => hv a (List.mem_of_mem_drop ha)
  cases hopt : arguments[start].isOptional with
  | true =>
      have hall : ∀ a ∈ arguments.drop start, a.isOptional = true := by
        have hordered := ho.sublist (List.drop_sublist start arguments)
        rw [hdrop, List.pairwise_cons] at hordered
        rw [hdrop]
        intro a ha
        rcases List.mem_cons.mp ha with rfl | ha
        · exact hopt
        · exact hordered.1 a ha hopt
      obtain ⟨_, d, hd, -⟩ := h.exists_reach hv hall hb
      have hl : (arguments.drop start).Pairwise fun a _ => a.isVariadic = false :=
        List.pairwise_of_forall_mem_list fun a ha _ _ => hsingle a ha
      obtain ⟨before, c, hreach, hassign, hfirst⟩ := exists_step hl hd
      have hcsingle := hsingle c.argument hreach.mem
      refine ⟨before, c, hreach.split, hreach.skipped, hreach.optional, hreach.inBudget, ?_, hassign, ?_⟩
      · rw [← takeTokens_of_single hcsingle token rest]
        exact hreach.accepted
      · intro q qs hq
        obtain ⟨_, c', hc', hk⟩ := hq.exists_reach hv hall hb
        have hle := hfirst (fun a ha => hs a (List.mem_of_mem_drop ha)) _ c' hc'
        have hq' : start ≤ q := hq.within q List.mem_cons_self
        have hc := hreach.skipped
        refine ⟨by omega, hq.behind.lower (by omega) ?_⟩
        exact fun i a hi _ ha => hall a (mem_drop_of_getElem? (by omega) ha)
  | false =>
      -- Every placement covers the required argument, and with the first token.
      have hhead {q : Nat} {qs : List Nat} (hq : Placement arguments actor start (token :: rest) (q :: qs)) :
          q = start := by
        have hle : start ≤ q := hq.within q List.mem_cons_self
        rcases List.mem_cons.mp (hq.covers start _ (Nat.le_refl _) hget hopt) with rfl | hm
        · rfl
        · have := (List.pairwise_cons.mp hq.increasing).1 start hm
          omega
      obtain rfl := hhead h
      obtain ⟨⟨a, ha, hc⟩, -⟩ := List.forall₂_cons.mp h.accepted
      obtain rfl := Option.some.inj (hget.symm.trans ha)
      obtain ⟨value, hvalue⟩ := Option.ne_none_iff_exists'.mp hc
      refine ⟨[], ⟨0, _, _, value⟩, hdrop, rfl, by simp, Nat.zero_le _, hvalue, ?_, ?_⟩
      · rw [hdrop]
        refine assign_cons_of_accepted (by simp [mayGiveWay, hopt]) ?_
        rw [takeTokens_of_single (hv _ (List.getElem_mem hstart)), hvalue]
      · intro q qs hq
        obtain rfl := hhead hq
        exact ⟨Nat.le_refl _, hq.behind⟩

theorem placedSlots_nil (absent : Argument → Option Value) (start : Nat) (arguments : List Argument) :
    placedSlots actor absent [] start arguments = arguments.map absent := by
  rw [placedSlots]
  conv_rhs => rw [← List.zipIdx_map_fst start arguments, List.map_map]
  rfl

theorem placedSlots_behind (absent : Argument → Option Value) {placed : List (Nat × String)}
    (before following : List Argument) (a : Argument) (start : Nat) (token : String)
    (hp : ∀ p ∈ placed, start + before.length < p.1) :
    placedSlots actor absent ((start + before.length, token) :: placed) start (before ++ a :: following) =
      before.map absent ++ (a.type.convert (some actor) token).value ::
        placedSlots actor absent placed (start + before.length + 1) following := by
  have hkey {i : Nat} (hi : i ≠ start + before.length) :
      ((start + before.length, token) :: placed).lookup i = placed.lookup i := by
    rw [List.lookup_cons, beq_eq_false_iff_ne.mpr hi]
  have hnone {i : Nat} (hi : i < start + before.length) : placed.lookup i = none := by
    refine List.lookup_eq_none_iff.mpr fun p hm => ?_
    have hlt := hp p hm
    simpa using Nat.ne_of_lt (Nat.lt_trans hi hlt)
  have hbefore : (before.zipIdx start).map (fun (b, i) =>
      match ((start + before.length, token) :: placed).lookup i with
      | some token => (b.type.convert (some actor) token).value
      | none => absent b) = before.map absent := by
    conv_rhs => rw [← List.zipIdx_map_fst start before, List.map_map]
    refine List.map_congr_left ?_
    rintro ⟨b, i⟩ hb
    have hi := List.snd_lt_of_mem_zipIdx hb
    simp [hkey (show i ≠ start + before.length by omega), hnone (show i < start + before.length by omega)]
  have hbehind : placedSlots actor absent ((start + before.length, token) :: placed) (start + before.length + 1)
      following = placedSlots actor absent placed (start + before.length + 1) following := by
    refine List.map_congr_left ?_
    rintro ⟨b, i⟩ hb
    have hi := List.le_snd_of_mem_zipIdx hb
    simp only [hkey (show i ≠ start + before.length by omega)]
  rw [← hbehind]
  simp only [placedSlots, List.zipIdx_append, List.zipIdx_cons, List.map_append, List.map_cons, hbefore,
    List.lookup_cons_self]

theorem exists_earliest (hv : ∀ a ∈ arguments, a.isVariadic = false)
    (hs : ∀ a ∈ arguments, a.type.isString = false)
    (ho : arguments.Pairwise fun a b => a.isOptional = true → b.isOptional = true)
    (hb : start + tokens.length + budget = arguments.length) {others : List Nat}
    (h : Placement arguments actor start tokens others) :
    ∃ places, Placement arguments actor start tokens places ∧
      (∀ others, Placement arguments actor start tokens others → List.Forall₂ (· ≤ ·) places others) ∧
      (assign actor (arguments.drop start) budget tokens).value =
        some (placedSlots actor (fun _ => none) (places.zip tokens) start (arguments.drop start)) := by
  induction tokens generalizing start budget others with
  | nil =>
      obtain rfl := h.eq_nil
      refine ⟨[], h, ?_, ?_⟩
      · intro others hothers
        rw [hothers.eq_nil]
        exact .nil
      · rw [List.zip_nil_left, placedSlots_nil]
        cases arguments.drop start <;> rfl
  | cons token rest ih =>
      -- The step leaves a placement of the rest behind its argument, and a budget that is again what is left over.
      obtain ⟨p, ps, rfl⟩ := h.exists_cons
      obtain ⟨before, c, hstep⟩ := exists_earliestStep hv hs ho hb h
      have hsplit := hstep.split
      have hlength := congrArg List.length hsplit
      rw [List.length_drop, List.length_append, List.length_cons] at hlength
      have hget : arguments[start + before.length]? = some c.argument := by
        rw [← List.getElem?_drop, hsplit]
        simp
      have hfollowing : arguments.drop (start + before.length + 1) = c.following := by
        rw [Nat.add_assoc, ← List.drop_drop, hsplit, List.drop_append]
        simp
      have hbudget : start + before.length + 1 + rest.length + (budget - before.length) = arguments.length := by
        have hle := hstep.inBudget
        rw [List.length_cons] at hb
        omega
      obtain ⟨places, hplaces, hfirst, hassign⟩ := ih hbudget (hstep.first p ps h).2
      have hcons := hplaces.cons hget (by rw [hstep.accepted]; simp)
      refine ⟨(start + before.length) :: places, hcons.lower (Nat.le_add_right _ _) ?_, ?_, ?_⟩
      · intro i a hi hlt ha
        refine hstep.optional a (List.mem_of_getElem? (i := i - start) ?_)
        rw [← List.getElem?_append_left (by omega), ← hsplit, List.getElem?_drop, Nat.add_sub_cancel' hi, ha]
      · intro others hothers
        obtain ⟨q, qs, rfl⟩ := hothers.exists_cons
        obtain ⟨hle, hq⟩ := hstep.first q qs hothers
        exact .cons hle (hfirst qs hq)
      · have hkeys : ∀ p ∈ places.zip rest, start + before.length < p.1 :=
          fun p hp => hplaces.within p.1 (List.of_mem_zip hp).1
        have hsingle : c.argument.isVariadic = false := hv c.argument (List.mem_of_getElem? hget)
        rw [hstep.assigned, assignBehind, hstep.skipped, hsingle, hsplit, List.zip_cons_cons,
          placedSlots_behind _ _ _ _ _ _ hkeys, hstep.accepted, ← hfollowing, hassign]
        simp [consSlot]

theorem exists_placement_of_shares {following : List Argument} {shares : List Share}
    (hv : ∀ a ∈ following, a.isVariadic = false) (hf : List.Forall₂ (Fills actor) following shares)
    (before : List Argument) :
    ∃ places, Placement (before ++ following) actor before.length (shares.flatMap (·.tokens)) places := by
  induction hf generalizing before with
  | nil =>
      refine ⟨[], .nil, by simp, .nil, ?_⟩
      intro i a hi ha
      obtain ⟨hlt, -⟩ := List.getElem?_eq_some_iff.mp ha
      rw [List.append_nil] at hlt
      omega
  | @cons a share following shares ha _ ih =>
      obtain ⟨hsingle, hv⟩ := List.forall_mem_cons.mp hv
      obtain ⟨places, hp⟩ := ih hv (before ++ [a])
      rw [List.append_assoc, List.singleton_append, List.length_append, List.length_singleton] at hp
      have hget : (before ++ a :: following)[before.length]? = some a := by simp
      cases ha with
      | omitted hopt =>
          refine ⟨places, hp.lower (Nat.le_succ _) ?_⟩
          intro i b hi hlt hb
          obtain rfl : i = before.length := by omega
          obtain rfl := Option.some.inj (hget.symm.trans hb)
          exact hopt
      | taken ht =>
          cases ht with
          | single _ hc => exact ⟨_, hp.cons hget (by rw [hc]; simp)⟩
          | remainder htail => simp [hsingle] at htail

theorem fillDefaults_placedSlots {placed : List (Nat × String)} {following : List Argument} (start : Nat)
    (h : ∀ p ∈ following.zipIdx start, (∃ token value, placed.lookup p.2 = some token ∧
      (p.1.type.convert (some actor) token).value = some value) ∨
        (placed.lookup p.2 = none ∧ p.1.isOptional = true)) :
    (fillDefaults actor following (placedSlots actor (fun _ => none) placed start following)).value =
      some (placedSlots actor (fun a => a.whenOmitted actor) placed start following) := by
  induction following generalizing start with
  | nil => rfl
  | cons a following ih =>
      rw [List.zipIdx_cons] at h
      obtain ⟨ha, hfollowing⟩ := List.forall_mem_cons.mp h
      have hrest := ih (start + 1) hfollowing
      rw [placedSlots] at hrest
      simp only [placedSlots, List.zipIdx_cons, List.map_cons] at hrest ⊢
      rcases ha with ⟨token, value, hl, hc⟩ | ⟨hl, hopt⟩
      · simp only at hl hc
        simp [fillDefaults, hl, hc, hrest]
      · simp only at hl hopt
        simp [fillDefaults, a.defaultFor_value, hl, hopt, hrest]

theorem exists_placement_of_matched {values : List (Option Value)} (hv : ∀ a ∈ arguments, a.isVariadic = false)
    (h : (matchPositional arguments actor tokens).value = some values) :
    ∃ places, Placement arguments actor 0 tokens places := by
  obtain ⟨shares, -, rfl, hf⟩ := matchPositional_sharedOut h
  exact exists_placement_of_shares hv hf []

structure UsedPlacement (arguments : List Argument) (actor : Actor) (tokens : List String)
    (values : List (Option Value)) (places : List Nat) : Prop where
  placement : Placement arguments actor 0 tokens places
  earliest : ∀ others, Placement arguments actor 0 tokens others → List.Forall₂ (· ≤ ·) places others
  assigned : (assign actor arguments (skipBudget arguments tokens.length) tokens).value =
    some (placedSlots actor (fun _ => none) (places.zip tokens) 0 arguments)
  values : values = placedSlots actor (fun a => a.whenOmitted actor) (places.zip tokens) 0 arguments

theorem hasTail_eq_false (hv : ∀ a ∈ arguments, a.isVariadic = false) : hasTail arguments = false := by
  rw [hasTail]
  cases hl : arguments.getLast? with
  | none => rfl
  | some a => exact hv a (List.mem_of_getLast? hl)

theorem matched_of_placement (hv : ∀ a ∈ arguments, a.isVariadic = false)
    (hs : ∀ a ∈ arguments, a.type.isString = false)
    (ho : arguments.Pairwise fun a b => a.isOptional = true → b.isOptional = true) {others : List Nat}
    (h : Placement arguments actor 0 tokens others) :
    ∃ values, (matchPositional arguments actor tokens).value = some values ∧
      ∃ places, UsedPlacement arguments actor tokens values places := by
  have hlength := h.length_le (Nat.zero_le _)
  rw [Nat.zero_add] at hlength
  -- The placement bounds the tokens by the arguments, so the budget is what is left over.
  have hbudget : 0 + tokens.length + skipBudget arguments tokens.length = arguments.length := by
    simp only [skipBudget, hasTail_eq_false hv, Bool.false_eq_true, if_false]
    omega
  obtain ⟨places, hp, hfirst, hassign⟩ := exists_earliest hv hs ho hbudget h
  rw [List.drop_zero] at hassign
  have hdefaults := fillDefaults_placedSlots 0 fun p hm =>
    hp.lookup (Nat.zero_le p.2) (List.mem_zipIdx_iff_getElem?.mp hm)
  refine ⟨_, ?_, places, hp, hfirst, hassign, rfl⟩
  simp [matchPositional, Nat.not_lt.mpr hlength, hassign, hdefaults]

theorem earliest_placement_is_used (arguments : List Argument) (actor : Actor) (tokens : List String)
    (hv : ∀ a ∈ arguments, a.isVariadic = false) (hs : ∀ a ∈ arguments, a.type.isString = false)
    (ho : arguments.Pairwise fun a b => a.isOptional = true → b.isOptional = true) :
    ((∃ values, (matchPositional arguments actor tokens).value = some values) ↔
        ∃ places, Placement arguments actor 0 tokens places) ∧
      ∀ values, (matchPositional arguments actor tokens).value = some values →
        ∃ places, UsedPlacement arguments actor tokens values places := by
  constructor
  · constructor
    · rintro ⟨values, h⟩
      exact exists_placement_of_matched hv h
    · rintro ⟨others, h⟩
      obtain ⟨values, hm, -⟩ := matched_of_placement hv hs ho h
      exact ⟨values, hm⟩
  · intro values h
    obtain ⟨others, hothers⟩ := exists_placement_of_matched hv h
    obtain ⟨values', hm, hused⟩ := matched_of_placement hv hs ho hothers
    obtain rfl : values' = values := Option.some.inj (hm.symm.trans h)
    exact hused

def chime : List Argument :=
  [⟨.int, "hours", 0, false, false, false, none⟩, ⟨.boolean, "loud", 1, true, false, false, none⟩,
    ⟨.int, "times", 2, true, false, false, some (.literal (.int 1))⟩,
    ⟨.boolean, "again", 3, true, false, false, none⟩, ⟨.int, "pause", 4, true, false, false, none⟩]

theorem chime_times_before_pause :
    let values := [some (.int 5), none, some (.int 7), none, none]
    (∀ a ∈ chime, a.isVariadic = false) ∧ (∀ a ∈ chime, a.type.isString = false) ∧
      (chime.Pairwise fun a b => a.isOptional = true → b.isOptional = true) ∧
      (matchPositional chime .console ["5", "7"]).value = some values ∧
      (∃ places, UsedPlacement chime .console ["5", "7"] values places) ∧
      ¬ ∃ places, Placement chime .console 0 ["5", "7", "8", "9"] places := by
  intro values
  have hv : ∀ a ∈ chime, a.isVariadic = false := by simp [chime]
  have hs : ∀ a ∈ chime, a.type.isString = false := by decide
  have ho : chime.Pairwise fun a b => a.isOptional = true → b.isOptional = true := by simp [chime]
  have h : (matchPositional chime .console ["5", "7"]).value = some values := by decide
  refine ⟨hv, hs, ho, h, (earliest_placement_is_used chime .console ["5", "7"] hv hs ho).2 values h, ?_⟩
  rw [← (earliest_placement_is_used chime .console ["5", "7", "8", "9"] hv hs ho).1]
  rintro ⟨values, hm⟩
  have hnone : (matchPositional chime .console ["5", "7", "8", "9"]).value = none := by decide
  simp [hnone] at hm

end CommandTree.Matching
