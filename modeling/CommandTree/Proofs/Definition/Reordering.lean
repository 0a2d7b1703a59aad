import CommandTree.Proofs.Definition.Items

/-!
Declarations of different kinds commute. Each kind of tag writes its own part of a command, and the blocks of a body see
of it the path alone, so that what a body is read to hangs on the order within each kind only.
-/

namespace CommandTree.Definition

section Fold

variable {α β κ : Type} {f : β → α → β}

theorem foldl_moved {x : α} {before : List α} (hcomm : ∀ s, ∀ b ∈ before, f (f s x) b = f (f s b) x) (s : β)
    (after : List α) : (before ++ x :: after).foldl f s = (x :: (before ++ after)).foldl f s := by
  induction before generalizing s with
  | nil => rfl
  | cons b before ih =>
      have hb := hcomm s b List.mem_cons_self
      have hr := ih (fun s c hc => hcomm s c (List.mem_cons_of_mem b hc)) (f s b)
      rw [List.cons_append, List.foldl_cons, hr, List.foldl_cons, ← hb]
      rfl

/-- Steps that commute where their keys differ may be taken in any order that agrees on the steps of each key. -/
theorem foldl_eq_of_filter_eq [DecidableEq κ] {key : α → κ}
    (hcomm : ∀ s a b, key a ≠ key b → f (f s a) b = f (f s b) a) {xs ys : List α}
    (h : ∀ k, xs.filter (key · = k) = ys.filter (key · = k)) (s : β) : xs.foldl f s = ys.foldl f s := by
  induction xs generalizing ys s with
  | nil =>
      have hys : ys = [] := by
        rw [List.eq_nil_iff_forall_not_mem]
        intro y hy
        have hk := List.filter_eq_nil_iff.mp (h (key y)).symm y hy
        simp at hk
      rw [hys]
  | cons x xs ih =>
      have hx := h (key x)
      rw [List.filter_cons_of_pos (by simp)] at hx
      -- The first step with the key of `x` is `x` itself, and the steps before it have other keys.
      obtain ⟨before, after, rfl, hbefore, -, hafter⟩ := List.filter_eq_cons_iff.mp hx.symm
      have hkeys : ∀ b ∈ before, key x ≠ key b := by
        intro b hb he
        exact hbefore b hb (by simp [he])
      have hmoved := foldl_moved (fun s b hb => hcomm s x b (hkeys b hb)) s after
      have hrest : ∀ k, xs.filter (key · = k) = (before ++ after).filter (key · = k) := by
        intro k
        by_cases hk : key x = k
        · subst hk
          have hnone : before.filter (key · = key x) = [] :=
            List.filter_eq_nil_iff.mpr hbefore
          rw [List.filter_append, hnone, hafter, List.nil_append]
        · have hk' := h k
          simpa [List.filter_append, hk] using hk'
      rw [hmoved, List.foldl_cons, List.foldl_cons]
      exact ih hrest (f s x)

end Fold

variable {σ : Type} {r : Registries}

inductive Group where
  | help
  | permission
  | senderKind
  | context
  | asserters
  | hook
  | hideChildren
  | hideFromCompletion
  | block
  deriving DecidableEq

def Group.ofTag? : String → Option Group
  | "help" => some .help
  | "permission" => some .permission
  | "user" => some .senderKind
  | "users" => some .senderKind
  | "context" => some .context
  | "assert" => some .asserters
  | "hook" => some .hook
  | "hidesub" => some .hideChildren
  | "notab" => some .hideFromCompletion
  | _ => none

def tagGroup? (text : List Char) : Option Group :=
  Group.ofTag? (String.ofList (readTag text).1)

def Item.group? : Item → Option Group
  | .remark _ _ => none
  | .tag _ text _ => tagGroup? text
  | .block _ => some .block

structure Reordering (items items' : List Item) : Prop where
  perm : items.Perm items'
  ordered : ∀ group, items.filter (·.group? = some group) = items'.filter (·.group? = some group)

def Effect.group : Effect → Group
  | .help _ => .help
  | .permission _ => .permission
  | .senderKind _ => .senderKind
  | .context _ => .context
  | .asserters _ => .asserters
  | .hideChildren => .hideChildren
  | .hideFromCompletion => .hideFromCompletion
  | .hook _ => .hook

theorem Effect.on_comm {e e' : Effect} (h : e.group ≠ e'.group) (c : Command σ) :
    e'.on (e.on c) = e.on (e'.on c) := by
  cases e <;> cases e' <;> first | rfl | exact absurd rfl h

theorem group_of_readSender {tag : String} {value : List Char} {e : Effect}
    (h : readEffect.readSender tag value = .ok e) : e.group = .senderKind := by
  rw [readEffect.readSender] at h
  have hk := eq_ok_of_required h
  split at hk
  · obtain rfl := Except.ok.inj hk
    rfl
  · simp at hk

theorem group_of_readEffect {tag : String} {value : List Char} {e : Effect} (h : readEffect r tag value = .ok e) :
    Group.ofTag? tag = some e.group := by
  unfold readEffect at h
  split at h
  · obtain rfl := Except.ok.inj h
    rfl
  · obtain ⟨name, -, rfl⟩ := exists_of_map_eq_ok h
    rfl
  · exact congrArg some (group_of_readSender h).symm
  · exact congrArg some (group_of_readSender h).symm
  · obtain ⟨providers, -, rfl⟩ := exists_of_map_eq_ok h
    rfl
  · obtain ⟨providers, -, rfl⟩ := exists_of_map_eq_ok h
    rfl
  · obtain rfl := Except.ok.inj h
    rfl
  · obtain rfl := Except.ok.inj h
    rfl
  · obtain ⟨name, -, rfl⟩ := exists_of_map_eq_ok h
    rfl
  · simp at h

theorem amended_comm {text text' : List Char} (h : tagGroup? text ≠ tagGroup? text') (c : Command σ) :
    amended r (amended r c text) text' = amended r (amended r c text') text := by
  unfold amended
  cases he : lineEffect r text with
  | error cause => rfl
  | ok e =>
      cases he' : lineEffect r text' with
      | error cause => rfl
      | ok e' =>
          have hgroup : tagGroup? text = some e.group := group_of_readEffect he
          have hgroup' : tagGroup? text' = some e'.group := group_of_readEffect he'
          refine Effect.on_comm ?_ c
          intro hg
          rw [hgroup, hgroup', hg] at h
          exact h rfl

theorem filter_tagTexts (group : Group) (items : List Item) :
    (tagTexts items).filter (tagGroup? · = some group) = tagTexts (items.filter (·.group? = some group)) := by
  induction items with
  | nil => rfl
  | cons i items ih =>
      cases i with
      | remark raw hl => exact ih
      | tag raw text hl =>
          have htexts : tagTexts (.tag raw text hl :: items) = text :: tagTexts items := rfl
          have hgroup : (Item.tag raw text hl).group? = tagGroup? text := rfl
          rw [htexts, List.filter_cons, List.filter_cons, hgroup, ih]
          split <;> rfl
      | block b =>
          rw [List.filter_cons]
          split <;> exact ih

theorem blocksOf_filter (items : List Item) :
    blocksOf (items.filter (·.group? = some .block)) = blocksOf items := by
  induction items with
  | nil => rfl
  | cons i items ih =>
      cases i with
      | remark raw hl => exact ih
      | tag raw text hl =>
          rw [List.filter_cons]
          split <;> exact ih
      | block b => exact congrArg (b :: ·) ih

namespace Reordering

variable {items items' : List Item}

theorem blocksOf_eq (h : Reordering items items') : blocksOf items = blocksOf items' := by
  rw [← blocksOf_filter items, h.ordered, blocksOf_filter]

theorem tagTexts_perm (h : Reordering items items') : (tagTexts items).Perm (tagTexts items') :=
  h.perm.filterMap Item.tag?

theorem foldl_amended (h : Reordering items items') (ht : ∀ text ∈ tagTexts items, ∃ e, lineEffect r text = .ok e)
    (c : Command σ) : (tagTexts items).foldl (amended r) c = (tagTexts items').foldl (amended r) c := by
  have hgrouped : ∀ text ∈ tagTexts items, tagGroup? text ≠ none := by
    intro text hm hn
    obtain ⟨e, he⟩ := ht text hm
    have hgroup : tagGroup? text = some e.group := group_of_readEffect he
    simp [hgroup] at hn
  have hnone : ∀ items : List Item, (∀ text ∈ tagTexts items, tagGroup? text ≠ none) →
      (tagTexts items).filter (tagGroup? · = none) = [] := by
    intro items hg
    rw [List.filter_eq_nil_iff]
    intro text hm
    simpa using hg text hm
  refine foldl_eq_of_filter_eq (fun c text text' hk => amended_comm hk c) ?_ c
  intro k
  cases k with
  | none => rw [hnone items hgrouped, hnone items' fun text hm => hgrouped text (h.tagTexts_perm.mem_iff.mpr hm)]
  | some group => rw [filter_tagTexts, filter_tagTexts, h.ordered]

end Reordering

theorem exists_items_of_readBlock {lines : List String} {start next : Nat} {parent : Option String} {node : Node σ}
    (h : (readBlock r lines start parent).value = .ok (node, next)) :
    ∃ header items closer behind, lines.drop start = header :: (bodyLines items ++ closer :: behind) ∧
      closesBlock closer = true := by
  obtain ⟨header, inner, closer, behind, c, c', children, hl, -, hb, hc, -, -⟩ := exists_body_of_readBlock h
  obtain ⟨items, rfl⟩ := hb.exists_items
  exact ⟨header, items, closer, behind, hl, closesBlock_eq_true_iff.mpr hc⟩

theorem readBlock_reordered {before behind : List String} {header closer : String} {items items' : List Item}
    {parent : Option String} {node : Node σ} {next : Nat} (hc : closesBlock closer = true)
    (ho : Reordering items items')
    (h : (readBlock r (before ++ header :: (bodyLines items ++ closer :: behind)) before.length parent).value =
      .ok (node, next)) :
    ∃ node', (readBlock r (before ++ header :: (bodyLines items' ++ closer :: behind)) before.length parent).value =
        .ok (node', next) ∧ node'.command = node.command ∧
      node'.children.map (Node.renumber fun _ => 0) = node.children.map (Node.renumber fun _ => 0) := by
  obtain ⟨header', inner, closer', behind', c, c', children, hl, hd, hb, hc', rfl, rfl⟩ := exists_body_of_readBlock h
  rw [List.drop_left, List.cons.injEq] at hl
  obtain ⟨rfl, hl⟩ := hl
  obtain ⟨rfl, rfl, rfl⟩ := eq_of_append_closer (nested_bodyLines items) hb.layout.2.nested hc
    (closesBlock_eq_true_iff.mpr hc') hl
  obtain ⟨ht, rfl, hblocks⟩ := hb.parts
  have ht' : ∀ text ∈ tagTexts items', ∃ e, lineEffect r text = .ok e :=
    fun text hm => ht text (ho.tagTexts_perm.mem_iff.mpr hm)
  rw [ho.blocksOf_eq] at hblocks
  obtain ⟨children', hb', hsame⟩ := Body.exists_of_parts (before.length + 2) ht' hblocks
  have hlength : (bodyLines items).length = (bodyLines items').length :=
    (ho.perm.flatMap_right Item.lines).length_eq
  have hdrop : (before ++ header :: (bodyLines items' ++ closer :: behind)).drop before.length =
      header :: (bodyLines items' ++ closer :: behind) := List.drop_left
  have hread := Body.readBlock_eq hdrop hd hb' hc'
  rw [← hlength] at hread
  exact ⟨_, hread, (ho.foldl_amended ht c).symm, hsame⟩

theorem declarations_commute (r : Registries) (parent : Option String) :
    (∀ lines start (node : Node σ) next, (readBlock r lines start parent).value = .ok (node, next) →
      ∃ header items closer behind, lines.drop start = header :: (bodyLines items ++ closer :: behind) ∧
        closesBlock closer = true) ∧
    ∀ before header items closer behind (node : Node σ) next, closesBlock closer = true →
      (readBlock r (before ++ header :: (bodyLines items ++ closer :: behind)) before.length parent).value =
        .ok (node, next) →
      ∀ items', Reordering items items' →
        ∃ node', (readBlock r (before ++ header :: (bodyLines items' ++ closer :: behind)) before.length
              parent).value = .ok (node', next) ∧
          node'.command = node.command ∧
          node'.children.map (Node.renumber fun _ => 0) = node.children.map (Node.renumber fun _ => 0) := by
  refine ⟨?_, ?_⟩
  · intro lines start node next h
    exact exists_items_of_readBlock h
  · intro before header items closer behind node next hc h items' ho
    exact readBlock_reordered hc ho h

def lodgeHelp : List Item :=
  [.tag "  help Rooms" "help Rooms".toList (by decide), .remark "" (by decide),
    .tag "  help and keys" "help and keys".toList (by decide)]

def lodgeRoom : Enclosed where
  raw := "  rent \x7b"
  inner := ["    hook rent"]
  closer := "  \x7d"
  opens := by decide
  nested := (nested_cons_iff (by decide) (by decide)).mpr nested_nil
  closes := by decide

def lodgeRent : List Item :=
  [.block lodgeRoom,
    .tag "  permission lodge.use" "permission lodge.use".toList (by decide)]

theorem lodge_reordered : ∃ node : Node Nat,
    (readBlock ⟨.standard, .empty⟩ ("lodge \x7b" :: (bodyLines (lodgeHelp ++ lodgeRent) ++ ["\x7d"])) 0 none).value =
        .ok (node, 9) ∧
      node.command.help = some "Rooms\nand keys" ∧ closesBlock "\x7d" = true ∧
      Reordering (lodgeHelp ++ lodgeRent) (lodgeRent ++ lodgeHelp) ∧
      ∃ node', (readBlock ⟨.standard, .empty⟩ ("lodge \x7b" :: (bodyLines (lodgeRent ++ lodgeHelp) ++ ["\x7d"])) 0
            none).value = .ok (node', 9) ∧
        node'.command = node.command ∧
        node'.children.map (Node.renumber fun _ => 0) = node.children.map (Node.renumber fun _ => 0) := by
  have hread : ((readBlock (σ := Nat) ⟨.standard, .empty⟩
      ("lodge \x7b" :: (bodyLines (lodgeHelp ++ lodgeRent) ++ ["\x7d"])) 0 none).value.toOption.map
        fun (node, next) => (node.command.help, next)) = some (some "Rooms\nand keys", 9) := by
    decide +kernel
  obtain ⟨⟨node, next⟩, hr, hview⟩ := exists_ok_of_toOption hread
  obtain ⟨hhelp, rfl⟩ := Prod.mk.inj hview
  have hclose : closesBlock "\x7d" = true := by decide
  have horder : Reordering (lodgeHelp ++ lodgeRent) (lodgeRent ++ lodgeHelp) :=
    ⟨List.perm_append_comm, fun group => by cases group <;> rfl⟩
  have hsame := (declarations_commute _ none).2 [] _ _ _ _ node 9 hclose hr _ horder
  exact ⟨node, hr, hhelp, hclose, horder, hsame⟩

end CommandTree.Definition
