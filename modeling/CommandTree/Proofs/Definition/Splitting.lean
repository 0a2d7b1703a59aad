import CommandTree.Proofs.Definition.Marks

namespace CommandTree.Definition

open Text

structure HeaderToken (token : List Char) : Prop where
  nonempty : token ≠ []
  balanced : Balanced token
  enclosed : ∀ before c, before ++ [c] <+: token → isBlank c = true → before.count ')' < before.count '('

inductive CutInto : List Char → List (List Char) → Prop
  | nothing : CutInto [] []
  | blank {c : Char} {header : List Char} {tokens : List (List Char)} : isBlank c = true → CutInto header tokens →
      CutInto (c :: header) tokens
  | last {token : List Char} : HeaderToken token → CutInto token [token]
  | next {token header : List Char} {c : Char} {tokens : List (List Char)} : HeaderToken token → isBlank c = true →
      CutInto header tokens → CutInto (token ++ c :: header) (token :: tokens)

def withoutGaps (before : List Char) : List Char → List Char
  | [] => []
  | c :: rest =>
      if isBlank c && before.count '(' == before.count ')' then withoutGaps (before ++ [c]) rest
      else c :: withoutGaps (before ++ [c]) rest

structure DefaultOf (token body inner : List Char) : Prop where
  spelled : token = body ++ group inner
  plain : ∀ c ∈ body, isParenthesis c = false
  balanced : Balanced inner

theorem splitFrom_open (depth : Nat) (token rest : List Char) :
    splitFrom depth token ('(' :: rest) = splitFrom (depth + 1) (token ++ ['(']) rest := by
  cases depth <;> simp [splitFrom]

theorem splitFrom_close (depth : Nat) (token rest : List Char) :
    splitFrom (depth + 1) token (')' :: rest) = splitFrom depth (token ++ [')']) rest := by
  simp [splitFrom]

theorem isParenthesis_of_isBlank {c : Char} (h : isBlank c = true) : c ≠ '(' ∧ c ≠ ')' := by
  refine ⟨?_, ?_⟩
  · rintro rfl
    exact absurd h (by decide)
  · rintro rfl
    exact absurd h (by decide)

theorem splitFrom_blank {c : Char} (h : isBlank c = true) (token rest : List Char) :
    splitFrom 0 token (c :: rest) = (splitFrom 0 [] rest).map (pending token ++ ·) := by
  have hp := isParenthesis_of_isBlank h
  simp [splitFrom, hp.1, hp.2, h]

theorem splitFrom_other {c : Char} {depth : Nat} (hopen : c ≠ '(') (hclose : c ≠ ')')
    (hblank : isBlank c = true → 0 < depth) (token rest : List Char) :
    splitFrom depth token (c :: rest) = splitFrom depth (token ++ [c]) rest := by
  cases depth with
  | zero =>
      have hc : isBlank c = false := Bool.eq_false_iff.mpr fun hb => Nat.lt_irrefl 0 (hblank hb)
      simp [splitFrom, hopen, hclose, hc]
  | succ outer => simp [splitFrom, hopen, hclose]

/-- The text closes `depth` groups that are open before it, and those that it opens. -/
structure Closes (depth : Nat) (text : List Char) : Prop where
  opened : ∀ before, before <+: text → before.count ')' ≤ depth + before.count '('
  closed : text.count ')' = depth + text.count '('

theorem closes_zero_iff {text : List Char} : Closes 0 text ↔ Balanced text := by
  constructor
  · intro h
    exact ⟨fun before hb => by simpa using h.opened before hb, by simpa using h.closed⟩
  · intro h
    exact ⟨fun before hb => by simpa using h.opened before hb, by simpa using h.closed⟩

theorem closes_nil_iff {depth : Nat} : Closes depth [] ↔ depth = 0 := by
  constructor
  · intro h
    simpa [eq_comm] using h.closed
  · rintro rfl
    exact closes_zero_iff.mpr ⟨by simp, rfl⟩

section Closing

variable {depth : Nat} {c : Char} {rest : List Char}

theorem closes_cons_iff {behind : Nat}
    (hcount : ∀ text : List Char, (c :: text).count ')' + behind + text.count '(' =
      text.count ')' + depth + (c :: text).count '(') :
    Closes depth (c :: rest) ↔ Closes behind rest := by
  constructor
  · intro h
    refine ⟨?_, ?_⟩
    · intro before hb
      have hopened := h.opened (c :: before) ((List.prefix_cons_inj c).mpr hb)
      have hc := hcount before
      omega
    · have hclosed := h.closed
      have hc := hcount rest
      omega
  · intro h
    refine ⟨?_, ?_⟩
    · intro before hb
      rcases List.prefix_cons_iff.mp hb with rfl | ⟨others, rfl, ho⟩
      · simp
      · have hopened := h.opened others ho
        have hc := hcount others
        omega
    · have hclosed := h.closed
      have hc := hcount rest
      omega

theorem closes_open_iff : Closes depth ('(' :: rest) ↔ Closes (depth + 1) rest := by
  apply closes_cons_iff
  intro text
  simp only [List.count_cons_self, List.count_cons_of_ne (by decide : '(' ≠ ')')]
  omega

theorem closes_close_iff : Closes (depth + 1) (')' :: rest) ↔ Closes depth rest := by
  apply closes_cons_iff
  intro text
  simp only [List.count_cons_self, List.count_cons_of_ne (by decide : ')' ≠ '(')]
  omega

theorem closes_other_iff (hopen : c ≠ '(') (hclose : c ≠ ')') : Closes depth (c :: rest) ↔ Closes depth rest := by
  apply closes_cons_iff
  intro text
  rw [List.count_cons_of_ne hclose, List.count_cons_of_ne hopen]

theorem not_closes_unopened : ¬ Closes 0 (')' :: rest) := by
  intro h
  have hopened := h.opened [')'] (by simp)
  simp at hopened

end Closing

theorem isSome_splitFrom_iff (depth : Nat) (token rest : List Char) :
    (splitFrom depth token rest).isSome = true ↔ Closes depth rest := by
  fun_induction splitFrom depth token rest with
  | case1 token => simp [closes_nil_iff]
  | case2 outer token => simp [closes_nil_iff]
  | case3 depth token rest ih =>
      rw [closes_open_iff]
      exact ih
  | case4 token rest => simp [not_closes_unopened]
  | case5 token rest outer _ ih =>
      rw [closes_close_iff]
      exact ih
  | case6 depth token c rest hopen hclose hgap ih =>
      obtain ⟨-, rfl⟩ : isBlank c = true ∧ depth = 0 := by simpa using hgap
      rw [Option.isSome_map, closes_other_iff hopen hclose]
      exact ih
  | case7 depth token c rest hopen hclose _ ih =>
      rw [closes_other_iff hopen hclose]
      exact ih

structure Begun (depth : Nat) (token : List Char) : Prop where
  opened : ∀ before, before <+: token → before.count ')' ≤ before.count '('
  depth_eq : token.count '(' = token.count ')' + depth
  enclosed : ∀ before c, before ++ [c] <+: token → isBlank c = true → before.count ')' < before.count '('

theorem begun_nil : Begun 0 [] where
  opened := by simp
  depth_eq := rfl
  enclosed := by simp

theorem Begun.snoc {depth behind : Nat} {token : List Char} {c : Char} (h : Begun depth token)
    (hcount : (token ++ [c]).count '(' = (token ++ [c]).count ')' + behind)
    (hblank : isBlank c = true → 0 < depth) : Begun behind (token ++ [c]) where
  opened := by
    intro before hb
    rcases List.prefix_concat_iff.mp hb with rfl | hb
    · omega
    · exact h.opened before hb
  depth_eq := hcount
  enclosed := by
    intro before d hb hd
    rcases List.prefix_concat_iff.mp hb with he | hb
    · obtain ⟨rfl, hdc⟩ := List.append_inj' he rfl
      obtain rfl : d = c := List.singleton_inj.mp hdc
      have hdepth := h.depth_eq
      have hpos := hblank hd
      omega
    · exact h.enclosed before d hb hd

theorem Begun.opening {depth : Nat} {token : List Char} (h : Begun depth token) :
    Begun (depth + 1) (token ++ ['(']) := by
  refine h.snoc ?_ fun hc => absurd hc (by decide)
  simp [h.depth_eq, Nat.add_assoc]

theorem Begun.closing {outer : Nat} {token : List Char} (h : Begun (outer + 1) token) :
    Begun outer (token ++ [')']) := by
  refine h.snoc ?_ fun hc => absurd hc (by decide)
  simpa [Nat.add_right_comm, Nat.add_assoc] using h.depth_eq

theorem Begun.headerToken {token : List Char} (h : Begun 0 token) (hn : token ≠ []) : HeaderToken token where
  nonempty := hn
  balanced := ⟨h.opened, by simpa [eq_comm] using h.depth_eq⟩
  enclosed := h.enclosed

theorem Begun.cutInto_pending {token : List Char} (h : Begun 0 token) : CutInto token (pending token) := by
  cases token with
  | nil => exact .nothing
  | cons c token => exact .last (h.headerToken (List.cons_ne_nil c token))

theorem Begun.cutInto_blank {token rest : List Char} {c : Char} {tokens : List (List Char)} (h : Begun 0 token)
    (hc : isBlank c = true) (hr : CutInto rest tokens) : CutInto (token ++ c :: rest) (pending token ++ tokens) := by
  cases token with
  | nil => exact .blank hc hr
  | cons d token => exact .next (h.headerToken (List.cons_ne_nil d token)) hc hr

theorem cutInto_of_splitFrom {depth : Nat} {token rest : List Char} {tokens : List (List Char)}
    (hb : Begun depth token) (h : splitFrom depth token rest = some tokens) : CutInto (token ++ rest) tokens := by
  fun_induction splitFrom depth token rest generalizing tokens with
  | case1 token =>
      obtain rfl := Option.some.inj h
      simpa using hb.cutInto_pending
  | case2 => simp at h
  | case3 depth token rest ih =>
      rw [List.append_cons]
      exact ih hb.opening h
  | case4 => simp at h
  | case5 token rest outer _ ih =>
      rw [List.append_cons]
      exact ih hb.closing h
  | case6 depth token c rest _ _ hgap ih =>
      obtain ⟨hblank, rfl⟩ : isBlank c = true ∧ depth = 0 := by simpa using hgap
      obtain ⟨behind, hs, rfl⟩ := Option.map_eq_some_iff.mp h
      exact hb.cutInto_blank hblank (ih begun_nil hs)
  | case7 depth token c rest hopen hclose hgap ih =>
      have hpos : isBlank c = true → 0 < depth := by simpa [Nat.pos_iff_ne_zero] using hgap
      rw [List.append_cons]
      refine ih (hb.snoc ?_ hpos) h
      simpa [List.count_append, hopen, hclose] using hb.depth_eq

theorem splitFrom_append {text : List Char} {depth : Nat} (token rest : List Char)
    (ho : ∀ before, before <+: text → before.count ')' ≤ depth + before.count '(')
    (he : ∀ before c, before ++ [c] <+: text → isBlank c = true → before.count ')' < depth + before.count '(') :
    splitFrom depth token (text ++ rest) =
      splitFrom (depth + text.count '(' - text.count ')') (token ++ text) rest := by
  induction text generalizing depth token with
  | nil => simp
  | cons c text ih =>
      have hopened : ∀ before, before <+: text → (c :: before).count ')' ≤ depth + (c :: before).count '(' :=
        fun before hb => ho (c :: before) ((List.prefix_cons_inj c).mpr hb)
      have henclosed : ∀ before d, before ++ [d] <+: text → isBlank d = true →
          (c :: before).count ')' < depth + (c :: before).count '(' :=
        fun before d hb hd => he (c :: before) d ((List.prefix_cons_inj c).mpr hb) hd
      rw [List.cons_append, List.append_cons]
      by_cases hopen : c = '('
      · subst hopen
        simp only [List.count_cons_self, List.count_cons_of_ne (by decide : '(' ≠ ')')] at hopened henclosed ⊢
        rw [splitFrom_open, ih _ (fun before hb => by have := hopened before hb; omega)
          (fun before d hb hd => by have := henclosed before d hb hd; omega)]
        congr 1
        omega
      · by_cases hclose : c = ')'
        · subst hclose
          simp only [List.count_cons_self, List.count_cons_of_ne (by decide : ')' ≠ '(')] at hopened henclosed ⊢
          obtain ⟨outer, rfl⟩ : ∃ outer, depth = outer + 1 := by
            have hfirst := hopened [] List.nil_prefix
            simp only [List.count_nil] at hfirst
            exact ⟨depth - 1, by omega⟩
          rw [splitFrom_close, ih _ (fun before hb => by have := hopened before hb; omega)
            (fun before d hb hd => by have := henclosed before d hb hd; omega)]
          congr 1
          omega
        · have hpos : isBlank c = true → 0 < depth := fun hc => by
            simpa using he [] c (by simp) hc
          simp only [List.count_cons_of_ne hclose, List.count_cons_of_ne hopen] at hopened henclosed ⊢
          rw [splitFrom_other hopen hclose hpos, ih _ hopened henclosed]

theorem HeaderToken.splitFrom_eq {token : List Char} (h : HeaderToken token) (rest : List Char) :
    splitFrom 0 [] (token ++ rest) = splitFrom 0 token rest := by
  rw [splitFrom_append [] rest (by simpa using h.balanced.opened) (by simpa using h.enclosed), h.balanced.closed,
    Nat.add_sub_cancel_right, List.nil_append]

theorem HeaderToken.pending_eq {token : List Char} (h : HeaderToken token) : pending token = [token] := by
  cases token with
  | nil => exact absurd rfl h.nonempty
  | cons c token => rfl

theorem CutInto.splitHeader_eq {header : List Char} {tokens : List (List Char)} (h : CutInto header tokens) :
    splitHeader header = some tokens := by
  rw [splitHeader]
  induction h with
  | nothing => rfl
  | blank hc _ ih => rw [splitFrom_blank hc, ih, Option.map_some, pending, List.nil_append]
  | @last token ht =>
      have hs := ht.splitFrom_eq []
      rw [List.append_nil] at hs
      rw [hs, splitFrom, ht.pending_eq]
  | next ht hc _ ih =>
      rw [ht.splitFrom_eq, splitFrom_blank hc, ih, Option.map_some, ht.pending_eq, List.singleton_append]

theorem splitHeader_eq_some_iff {header : List Char} {tokens : List (List Char)} :
    splitHeader header = some tokens ↔ CutInto header tokens :=
  ⟨cutInto_of_splitFrom begun_nil, CutInto.splitHeader_eq⟩

theorem isSome_splitHeader_iff {header : List Char} : (splitHeader header).isSome = true ↔ Balanced header :=
  (isSome_splitFrom_iff 0 [] header).trans closes_zero_iff

theorem CutInto.headerToken {header : List Char} {tokens : List (List Char)} (h : CutInto header tokens) :
    ∀ token ∈ tokens, HeaderToken token := by
  induction h with
  | nothing => simp
  | blank _ _ ih => exact ih
  | last ht => simpa using ht
  | next ht _ _ ih => exact List.forall_mem_cons.mpr ⟨ht, ih⟩

theorem withoutGaps_append {text : List Char} (before rest : List Char)
    (h : ∀ read c, read ++ [c] <+: text → isBlank c = true → (before ++ read).count ')' < (before ++ read).count '(') :
    withoutGaps before (text ++ rest) = text ++ withoutGaps (before ++ text) rest := by
  induction text generalizing before with
  | nil => simp
  | cons c text ih =>
      have hkept : (isBlank c && before.count '(' == before.count ')') = false := by
        cases hc : isBlank c with
        | false => rfl
        | true =>
            have hlt := h [] c (by simp) hc
            rw [List.append_nil] at hlt
            simpa using hlt.ne'
      rw [List.cons_append, withoutGaps, hkept, if_neg Bool.false_ne_true, List.cons_append, ih, ← List.append_cons]
      intro read d hd hblank
      rw [← List.append_cons]
      exact h (c :: read) d ((List.prefix_cons_inj c).mpr hd) hblank

theorem HeaderToken.withoutGaps_eq {token before : List Char} (h : HeaderToken token)
    (hb : before.count '(' = before.count ')') (rest : List Char) :
    withoutGaps before (token ++ rest) = token ++ withoutGaps (before ++ token) rest := by
  apply withoutGaps_append
  intro read c hc hblank
  have hlt := h.enclosed read c hc hblank
  rw [List.count_append, List.count_append]
  omega

theorem CutInto.flatten_eq {header before : List Char} {tokens : List (List Char)} (h : CutInto header tokens)
    (hb : before.count '(' = before.count ')') : withoutGaps before header = tokens.flatten := by
  induction h generalizing before with
  | nothing => rfl
  | @blank c header tokens hc _ ih =>
      have hp := isParenthesis_of_isBlank hc
      have hlevel : (before ++ [c]).count '(' = (before ++ [c]).count ')' := by
        simp [List.count_append, hp.1, hp.2, hb]
      rw [withoutGaps, hc, hb, beq_self_eq_true, Bool.and_self, if_pos rfl, ih hlevel]
  | @last token ht =>
      have hw := ht.withoutGaps_eq hb []
      simpa [withoutGaps] using hw
  | @next token header c tokens ht hc _ ih =>
      have hp := isParenthesis_of_isBlank hc
      have hclosed := ht.balanced.closed
      have hlevel : (before ++ token).count '(' = (before ++ token).count ')' := by
        rw [List.count_append, List.count_append]
        omega
      have hlevel' : (before ++ token ++ [c]).count '(' = (before ++ token ++ [c]).count ')' := by
        simpa [List.count_append, hp.1, hp.2] using hlevel
      rw [ht.withoutGaps_eq hb, withoutGaps, hc, hlevel, beq_self_eq_true, Bool.and_self, if_pos rfl, ih hlevel',
        List.flatten_cons]

structure Ended (depth : Nat) (text : List Char) : Prop where
  closed : ∀ after, after <:+ text → after.count '(' ≤ after.count ')'
  depth_eq : text.count ')' = text.count '(' + depth

theorem ended_nil : Ended 0 [] where
  closed := by simp
  depth_eq := rfl

theorem Ended.cons {depth outer : Nat} {text : List Char} {c : Char} (h : Ended depth text)
    (hcount : (c :: text).count ')' = (c :: text).count '(' + outer) : Ended outer (c :: text) where
  closed := by
    intro after ha
    rcases List.suffix_cons_iff.mp ha with rfl | ha
    · omega
    · exact h.closed after ha
  depth_eq := hcount

theorem Ended.closing {depth : Nat} {text : List Char} (h : Ended depth text) : Ended (depth + 1) (')' :: text) := by
  apply h.cons
  simp [h.depth_eq, Nat.add_assoc]

theorem Ended.opening {outer : Nat} {text : List Char} (h : Ended (outer + 1) text) : Ended outer ('(' :: text) := by
  apply h.cons
  simpa [Nat.add_right_comm, Nat.add_assoc] using h.depth_eq

theorem Ended.balanced {text : List Char} (h : Ended 0 text) : Balanced text where
  opened := by
    rintro before ⟨after, rfl⟩
    have hafter := h.closed after (List.suffix_append before after)
    have hcount := h.depth_eq
    rw [List.count_append, List.count_append] at hcount
    omega
  closed := h.depth_eq

theorem openingFrom_sound {depth : Nat} {inner before body found : List Char} (h : Ended depth inner)
    (ho : openingFrom depth inner before = some (body, found)) :
    before.reverse ++ inner = body ++ '(' :: found ∧ Balanced found := by
  fun_induction openingFrom depth inner before with
  | case1 => simp at ho
  | case2 depth inner before ih =>
      rw [List.reverse_cons, List.append_assoc, List.singleton_append]
      exact ih h.closing ho
  | case3 inner before =>
      obtain ⟨rfl, rfl⟩ : before.reverse = body ∧ inner = found := by simpa using ho
      exact ⟨by simp, h.balanced⟩
  | case4 inner before outer _ ih =>
      rw [List.reverse_cons, List.append_assoc, List.singleton_append]
      exact ih h.opening ho
  | case5 depth inner c before hclose hopen ih =>
      rw [List.reverse_cons, List.append_assoc, List.singleton_append]
      refine ih (h.cons ?_) ho
      rw [List.count_cons_of_ne hclose, List.count_cons_of_ne hopen]
      exact h.depth_eq

theorem splitDefault_eq_some_iff {token body inner : List Char} :
    splitDefault token = some (body, inner) ↔ DefaultOf token body inner := by
  constructor
  · intro h
    rw [splitDefault] at h
    split at h
    next before ht =>
      split at h
      next body' inner' ho =>
        split at h
        · simp at h
        next hp =>
          obtain ⟨rfl, rfl⟩ : body' = body ∧ inner' = inner := by simpa using h
          obtain ⟨hsplit, hbalanced⟩ := openingFrom_sound ended_nil ho
          refine ⟨?_, by simpa using hp, hbalanced⟩
          rw [List.append_nil] at hsplit
          rw [← List.reverse_reverse token, ht, List.reverse_cons, hsplit]
          simp [group]
      · simp at h
    · simp at h
  · rintro ⟨rfl, hp, hb⟩
    have hnone : body.any isParenthesis = false := by simpa [List.any_eq_false] using hp
    have hsplit := splitDefault_eq hb body
    rw [hnone, if_neg Bool.false_ne_true] at hsplit
    simpa [group] using hsplit

theorem DefaultOf.unique {token body inner body' inner' : List Char} (h : DefaultOf token body inner)
    (h' : DefaultOf token body' inner') : body = body' ∧ inner = inner' := by
  have hsame := (splitDefault_eq_some_iff.mpr h).symm.trans (splitDefault_eq_some_iff.mpr h')
  exact Prod.mk.inj (Option.some.inj hsame)

theorem takeDefault_refused {token : List Char} (hl : token.getLast? = some ')')
    (h : ∀ body inner, ¬ DefaultOf token body inner) :
    takeDefault token = .error (.unbalancedParenthesis (String.ofList token)) := by
  have hnone : splitDefault token = none := by
    rw [Option.eq_none_iff_forall_ne_some]
    rintro ⟨body, inner⟩ hs
    exact h body inner (splitDefault_eq_some_iff.mp hs)
  simp [takeDefault, endsWithParenthesis, hl, hnone]

theorem cuts_accept_exactly_balanced_text :
    (∀ header : List Char, ((splitHeader header).isSome = true ↔ Balanced header) ∧
      (∀ tokens, splitHeader header = some tokens ↔ CutInto header tokens) ∧
      ∀ tokens, splitHeader header = some tokens →
        (∀ token ∈ tokens, HeaderToken token) ∧ tokens.flatten = withoutGaps [] header) ∧
    ∀ token : List Char, token.getLast? = some ')' →
      (∀ body inner, splitDefault token = some (body, inner) ↔ DefaultOf token body inner) ∧
      (∀ body inner body' inner', DefaultOf token body inner → DefaultOf token body' inner' →
        body = body' ∧ inner = inner') ∧
      ((∀ body inner, ¬ DefaultOf token body inner) →
        takeDefault token = .error (.unbalancedParenthesis (String.ofList token))) := by
  refine ⟨?_, ?_⟩
  · intro header
    refine ⟨isSome_splitHeader_iff, fun _ => splitHeader_eq_some_iff, ?_⟩
    intro tokens h
    have hcut := splitHeader_eq_some_iff.mp h
    exact ⟨hcut.headerToken, (hcut.flatten_eq rfl).symm⟩
  · intro token hl
    refine ⟨fun _ _ => splitDefault_eq_some_iff, ?_, takeDefault_refused hl⟩
    intro body inner body' inner' h h'
    exact h.unique h'

def reasonHeader : List Char :=
  " warn string:reason(not (so) nice)  int:days".toList

def reasonTokens : List (List Char) :=
  ["warn".toList, "string:reason(not (so) nice)".toList, "int:days".toList]

theorem reason_stays_whole :
    splitHeader reasonHeader = some reasonTokens ∧ Balanced reasonHeader ∧ CutInto reasonHeader reasonTokens ∧
      (∀ token ∈ reasonTokens, HeaderToken token) ∧ reasonTokens.flatten = withoutGaps [] reasonHeader ∧
      "reason(not (so) nice)".toList.getLast? = some ')' ∧
      DefaultOf "reason(not (so) nice)".toList "reason".toList "not (so) nice".toList ∧
      (∀ body inner, DefaultOf "reason(not (so) nice)".toList body inner →
        body = "reason".toList ∧ inner = "not (so) nice".toList) ∧
      (∀ body inner, ¬ DefaultOf "reason(so))".toList body inner) ∧
      takeDefault "reason(so))".toList = .error (.unbalancedParenthesis "reason(so))") := by
  obtain ⟨hheader, hdefault⟩ := cuts_accept_exactly_balanced_text
  have hsplit : splitHeader reasonHeader = some reasonTokens := by decide +kernel
  obtain ⟨hbalanced, hcut, htokens⟩ := hheader reasonHeader
  obtain ⟨hiff, hunique, -⟩ := hdefault "reason(not (so) nice)".toList rfl
  have hnice := (hiff "reason".toList "not (so) nice".toList).mp (by decide +kernel)
  obtain ⟨hiff', -, hrefused⟩ := hdefault "reason(so))".toList rfl
  have hnone : splitDefault "reason(so))".toList = none := by decide +kernel
  have hopen : ∀ body inner, ¬ DefaultOf "reason(so))".toList body inner := by
    intro body inner h
    have hs := (hiff' body inner).mpr h
    rw [hnone] at hs
    exact nomatch hs
  obtain ⟨hwell, hflat⟩ := htokens _ hsplit
  exact ⟨hsplit, hbalanced.mp (by rw [hsplit]; rfl), (hcut _).mp hsplit, hwell, hflat, rfl, hnice,
    fun body inner h => hunique _ _ _ _ h hnice, hopen, hrefused hopen⟩

end CommandTree.Definition
