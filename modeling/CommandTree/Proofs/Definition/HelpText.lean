import CommandTree.Proofs.Definition.Reordering
import CommandTree.Proofs.Definition.Tidying
import CommandTree.Proofs.Help

namespace CommandTree

open Text

variable {σ : Type}

theorem length_entryLines (usage : String) (values : List String) :
    (entryLines usage values).length = values.length := by
  cases values <;> simp [entryLines]

theorem Command.helpEntry_some {c : Command σ} {text : List Char} (h : c.help = some (String.ofList text)) :
    c.helpEntry = entryLines c.usage (if lines text = [] then [""] else (lines text).map String.ofList) := by
  simp only [Command.helpEntry, h, String.toList_ofList]
  cases lines text with
  | nil => simp [entryLines]
  | cons first others => rfl

namespace Node

variable {actor : Actor}

theorem helpEntry_prefix_helpBelow {n : Node σ} (h : n.command.isPermitted actor = true) (hiddenLabel : String)
    (isRequested : Bool) : n.command.helpEntry <+: n.helpBelow actor hiddenLabel isRequested := by
  cases n with
  | mk c children =>
      rw [command_mk] at h ⊢
      rw [helpBelow, if_pos h]
      exact List.prefix_append _ _

theorem helpLines_eq {n : Node σ} (h : n.command.isPermitted actor = true) (hiddenLabel : String) :
    n.helpLines actor hiddenLabel = n.command.helpEntry ++ helpAll actor hiddenLabel n.children := by
  cases n with
  | mk c children =>
      rw [command_mk] at h
      simp [helpLines, helpBelow, h]

end Node

namespace Definition

variable {r : Registries}

def helpValue? (text : List Char) : Option (List Char) :=
  if String.ofList (readTag text).1 = "help" then some (readTag text).2 else none

def helpValues (items : List Item) : List (List Char) :=
  (tagTexts items).filterMap helpValue?

def withHelp (help : Option String) (value : List Char) : Option String :=
  some (addHelp help (String.ofList value))

theorem eq_help_of_ofTag? {tag : String} (h : Group.ofTag? tag = some .help) : tag = "help" := by
  unfold Group.ofTag? at h
  split at h <;> simp_all

theorem Effect.help_on {e : Effect} (h : e.group ≠ .help) (c : Command σ) : (e.on c).help = c.help := by
  cases e with
  | help line => exact absurd rfl h
  | _ => rfl

theorem help_amended (c : Command σ) (text : List Char) :
    (amended r c text).help = ((helpValue? text).elim c.help (withHelp c.help)) := by
  rw [helpValue?]
  split
  next htag =>
    have he : lineEffect r text = .ok (.help (String.ofList (readTag text).2)) := by
      rw [lineEffect, htag]
      rfl
    rw [amended, he]
    rfl
  next htag =>
    rw [amended]
    split
    next e he =>
      refine Effect.help_on ?_ c
      intro hg
      have hgroup := group_of_readEffect he
      rw [hg] at hgroup
      exact htag (eq_help_of_ofTag? hgroup)
    next => rfl

theorem help_foldl_amended (c : Command σ) (texts : List (List Char)) :
    (texts.foldl (amended r) c).help = (texts.filterMap helpValue?).foldl withHelp c.help := by
  induction texts generalizing c with
  | nil => rfl
  | cons text texts ih =>
      rw [List.foldl_cons, ih, help_amended, List.filterMap_cons]
      cases helpValue? text <;> rfl

theorem foldl_withHelp (text : List Char) (values : List (List Char)) :
    values.foldl withHelp (some (String.ofList text)) = some (String.ofList (text ++ values.flatMap ('\n' :: ·))) := by
  induction values generalizing text with
  | nil => simp
  | cons value values ih =>
      have hone : withHelp (some (String.ofList text)) value = some (String.ofList (text ++ '\n' :: value)) := by
        simp [withHelp, addHelp, ← String.toList_inj]
      rw [List.foldl_cons, hone, ih, List.flatMap_cons, List.append_assoc]

theorem foldl_withHelp_none {values : List (List Char)} (h : values ≠ []) :
    values.foldl withHelp none = some (String.ofList (onLines values)) := by
  cases values with
  | nil => exact absurd rfl h
  | cons first others => exact foldl_withHelp first others

def BlockAt (lines : List String) (number : Nat) (items : List Item) : Prop :=
  ∃ before header closer behind, lines = before ++ header :: (bodyLines items ++ closer :: behind) ∧
    number = before.length + 1 ∧ opensBlock header = true ∧ closesBlock closer = true

inductive ReadFrom (r : Registries) (number : Nat) (lines : List String) (n : Node σ) : Prop
  | mk {before inner behind : List String} {raw closer : String} {header : List Char} {parent : Option String}
      {d d' : Command σ} : lines = before ++ raw :: (inner ++ closer :: behind) →
      n.command.line = number + before.length → Line.read raw = .opening header →
      (readHeader r header n.command.line parent).value = .ok d →
      Body r (n.command.line + 1) inner d d' n.children → Line.read closer = .close →
      n.command.help = d'.help → ReadFrom r number lines n

theorem ReadFrom.among {number place : Nat} {lines all : List String} {n : Node σ} (h : ReadFrom r place lines n)
    (before behind : List String) (hp : place = number + before.length) (ha : all = before ++ (lines ++ behind)) :
    ReadFrom r number all n := by
  obtain @⟨before', inner, behind', raw, closer, header, parent, d, d', rfl, hline, hl, hd, hb, hc, hhelp⟩ := h
  have hlines : all = (before ++ before') ++ raw :: (inner ++ closer :: (behind' ++ behind)) := by
    rw [ha]
    simp
  have hnumber : n.command.line = number + (before ++ before').length := by
    rw [hline, hp, List.length_append, Nat.add_assoc]
  exact .mk hlines hnumber hl hd hb hc hhelp

theorem ReadFrom.behind_line {number : Nat} {raw : String} {lines : List String} {n : Node σ}
    (h : ReadFrom r (number + 1) lines n) : ReadFrom r number (raw :: lines) n :=
  h.among [raw] [] rfl (by simp)

theorem ReadFrom.inside_block {number : Nat} {raw closer : String} {inner rest : List String} {n : Node σ}
    (h : ReadFrom r (number + 1) inner n) : ReadFrom r number (raw :: (inner ++ closer :: rest)) n :=
  h.among [raw] (closer :: rest) rfl rfl

theorem ReadFrom.behind_block {number : Nat} {raw closer : String} {inner rest : List String} {n : Node σ}
    (h : ReadFrom r (number + 1 + inner.length + 1) rest n) :
    ReadFrom r number (raw :: (inner ++ closer :: rest)) n := by
  refine h.among (raw :: (inner ++ [closer])) [] ?_ (by simp)
  simp only [List.length_cons, List.length_append, List.length_nil]
  omega

theorem ReadFrom.first {number : Nat} {raw closer : String} {inner rest : List String} {header : List Char}
    {parent : Option String} {d d' : Command σ} {n : Node σ} (hl : Line.read raw = .opening header)
    (hd : (readHeader r header number parent).value = .ok d) (hb : Body r (number + 1) inner d d' n.children)
    (hc : Line.read closer = .close) (hline : n.command.line = d'.line) (hhelp : n.command.help = d'.help) :
    ReadFrom r number (raw :: (inner ++ closer :: rest)) n := by
  have hnumber : n.command.line = number := hline.trans (hb.layout.1.trans (line_of_readHeader hd))
  rw [← hnumber] at hd hb
  have hlines : raw :: (inner ++ closer :: rest) = [] ++ raw :: (inner ++ closer :: rest) := rfl
  exact .mk hlines hnumber hl hd hb hc hhelp

theorem Body.readFrom {number : Nat} {lines : List String} {c c' : Command σ} {nodes : List (Node σ)}
    (h : Body r number lines c c' nodes) {n : Node σ} (hn : n ∈ Node.preorderAll nodes) :
    ReadFrom r number lines n := by
  induction h with
  | nil => simp [Node.preorderAll] at hn
  | ignored _ _ ih => exact (ih hn).behind_line
  | tag _ _ _ ih => exact (ih hn).behind_line
  | block hl hd hb hc _ ihinner ihrest =>
      rcases Node.mem_preorderAll_cons.mp hn with rfl | hn | hn
      · exact .first hl hd hb hc rfl rfl
      · exact (ihinner hn).inside_block
      · exact (ihrest hn).behind_block

theorem Forest.readFrom {number : Nat} {lines : List String} {nodes : List (Node σ)} (h : Forest r number lines nodes)
    {n : Node σ} (hn : n ∈ Node.preorderAll nodes) : ReadFrom r number lines n := by
  induction h with
  | nil => simp [Node.preorderAll] at hn
  | ignored _ _ ih => exact (ih hn).behind_line
  | block hl hd hb hc _ ih =>
      rcases Node.mem_preorderAll_cons.mp hn with rfl | hn | hn
      · exact .first hl hd hb hc rfl rfl
      · exact (hb.readFrom hn).inside_block
      · exact (ih hn).behind_block

namespace ReadFrom

variable {lines : List String} {n : Node σ}

theorem exists_items (h : ReadFrom r 1 lines n) : ∃ items, BlockAt lines n.command.line items := by
  obtain @⟨before, inner, behind, raw, closer, header, parent, d, d', rfl, hline, hl, hd, hb, hc, hhelp⟩ := h
  obtain ⟨items, rfl⟩ := hb.exists_items
  exact ⟨items, before, raw, closer, behind, rfl, by omega, opensBlock_eq_true_iff.mpr ⟨header, hl⟩,
    closesBlock_eq_true_iff.mpr hc⟩

theorem help_eq {items : List Item} (h : ReadFrom r 1 lines n) (hi : BlockAt lines n.command.line items) :
    n.command.help = (helpValues items).foldl withHelp none := by
  obtain @⟨before, inner, behind, raw, closer, header, parent, d, d', rfl, hline, hl, hd, hb, hc, hhelp⟩ := h
  obtain ⟨before', raw', closer', behind', hlines, hline', ho, hc'⟩ := hi
  have hlength : before.length = before'.length := by omega
  obtain ⟨rfl, hblock⟩ := List.append_inj hlines hlength
  rw [List.cons.injEq] at hblock
  obtain ⟨rfl, hblock⟩ := hblock
  obtain ⟨rfl, -, -⟩ := eq_of_append_closer hb.layout.2.nested (nested_bodyLines items)
    (closesBlock_eq_true_iff.mpr hc) hc' hblock
  obtain ⟨-, rfl, -⟩ := hb.parts
  obtain ⟨name, alternatives, s, rfl, -, -⟩ := exists_signature_of_readHeader hd
  rw [hhelp, help_foldl_amended]
  rfl

end ReadFrom

theorem eq_trim_of_read {raw : String} {text : List Char} (h : Line.read raw = .other text) :
    text = trim raw.toList := by
  rw [Line.read] at h
  unfold Line.ofTrimmed at h
  split at h
  · simp at h
  · simp at h
  · simp at h
  · split at h
    · simp at h
    · exact (Line.other.inj h).symm

theorem mem_of_mem_readTag {text : List Char} {c : Char} (h : c ∈ (readTag text).2) : c ∈ text := by
  unfold readTag at h
  split at h
  next tag value hcut =>
    obtain ⟨blank, rfl⟩ := exists_of_cutAt? hcut
    exact List.mem_append_right tag (List.mem_cons_of_mem blank (mem_of_mem_trim h))
  next => simp at h

theorem trim_readTag (text : List Char) : trim (readTag text).2 = (readTag text).2 := by
  unfold readTag
  split
  next tag value _ => exact trim_trim value
  next => rfl

theorem line_of_mem_helpValues {source : List Char} {number : Nat} {items : List Item} {v : List Char}
    (hi : BlockAt ((Text.lines source).map String.ofList) number items) (hv : v ∈ helpValues items) :
    trim v = v ∧ '\n' ∉ v := by
  obtain ⟨before, header, closer, behind, hlines, -, -, -⟩ := hi
  obtain ⟨text, ht, htext⟩ := List.mem_filterMap.mp hv
  obtain ⟨i, hm, hitem⟩ := List.mem_filterMap.mp ht
  rw [helpValue?] at htext
  split at htext
  next =>
    obtain rfl := Option.some.inj htext
    refine ⟨trim_readTag text, ?_⟩
    intro hn
    cases i with
    | remark raw hl => simp [Item.tag?] at hitem
    | block b => simp [Item.tag?] at hitem
    | tag raw text' hl =>
        obtain rfl : text' = text := Option.some.inj hitem
        have hraw : raw ∈ bodyLines items := List.mem_flatMap.mpr ⟨_, hm, List.mem_singleton_self raw⟩
        have hmem : raw ∈ (Text.lines source).map String.ofList := by
          rw [hlines]
          simp [hraw]
        obtain ⟨line, hline, rfl⟩ := List.mem_map.mp hmem
        have hin := mem_of_mem_readTag hn
        rw [eq_trim_of_read hl, String.toList_ofList] at hin
        exact newline_not_mem_of_mem_linesFrom (by simp) hline (mem_of_mem_trim hin)
  next => simp at htext

theorem lines_onLines_of_trimmed {values : List (List Char)} (hv : ∀ v ∈ values, trim v = v ∧ '\n' ∉ v) :
    Text.lines (onLines values) = if values.getLast? = some [] then values.dropLast else values := by
  apply lines_onLines
  intro v hm
  refine ⟨(hv v hm).2, ?_⟩
  intro hr
  have hlast : '\r' ∈ (trim v).getLast? := by rw [(hv v hm).1, hr, Option.mem_some_iff]
  exact absurd (isBlank_getLast?_trim _ hlast) (by decide)

theorem helpEntry_eq {c : Command σ} {values : List (List Char)} (hc : c.help = values.foldl withHelp none)
    (hv : ∀ v ∈ values, trim v = v ∧ '\n' ∉ v) :
    c.helpEntry = entryLines c.usage
      ((if 2 ≤ values.length ∧ values.getLast? = some [] then values.dropLast else values).map String.ofList) := by
  have hlines := lines_onLines_of_trimmed hv
  cases values with
  | nil => simp [Command.helpEntry, hc, entryLines]
  | cons first others =>
      rw [foldl_withHelp_none (by simp)] at hc
      rw [Command.helpEntry_some hc, hlines]
      cases others with
      | nil => cases first <;> rfl
      | cons second others =>
          have hne : Text.lines (onLines (first :: second :: others)) ≠ [] := by
            rw [hlines]
            split <;> simp
          have htwo : 2 ≤ (first :: second :: others).length := by simp
          rw [if_neg (hlines ▸ hne)]
          simp only [htwo, true_and]

theorem help_values_are_shown_but_an_empty_last_one (r : Registries) (source : String) (roots : List (Node σ))
    (h : (readText r source).value = .ok roots) :
    ∀ n ∈ Node.preorderAll roots,
      (∃ items, BlockAt ((Text.lines source.toList).map String.ofList) n.command.line items) ∧
      ∀ items values, BlockAt ((Text.lines source.toList).map String.ofList) n.command.line items →
        values = helpValues items →
        (∀ v ∈ values, trim v = v ∧ '\n' ∉ v) ∧
        (values.length = 1 ∨ values.getLast? ≠ some [] →
          n.command.helpEntry = entryLines n.command.usage (values.map String.ofList) ∧
          n.command.helpEntry.length = values.length) ∧
        (2 ≤ values.length ∧ values.getLast? = some [] →
          n.command.helpEntry = entryLines n.command.usage (values.dropLast.map String.ofList) ∧
          n.command.helpEntry.length + 1 = values.length) ∧
        ∀ actor hiddenLabel, n.command.isPermitted actor = true →
          n.helpLines actor hiddenLabel =
            n.command.helpEntry ++ Node.helpAll actor hiddenLabel n.children ∧
          ∀ isRequested, n.command.helpEntry <+: n.helpBelow actor hiddenLabel isRequested := by
  intro n hn
  have hread := (forest_of_readLines h).readFrom hn
  refine ⟨hread.exists_items, ?_⟩
  rintro items values hi rfl
  have hv : ∀ v ∈ helpValues items, trim v = v ∧ '\n' ∉ v := fun v hm => line_of_mem_helpValues hi hm
  have hentry := helpEntry_eq (hread.help_eq hi) hv
  refine ⟨hv, ?_, ?_, ?_⟩
  · intro hkept
    have hall : ¬ (2 ≤ (helpValues items).length ∧ (helpValues items).getLast? = some []) := by
      rintro ⟨htwo, hlast⟩
      rcases hkept with hone | hne
      · omega
      · exact hne hlast
    rw [if_neg hall] at hentry
    refine ⟨hentry, ?_⟩
    rw [hentry, length_entryLines, List.length_map]
  · intro hlost
    rw [if_pos hlost] at hentry
    refine ⟨hentry, ?_⟩
    rw [hentry, length_entryLines, List.length_map, List.length_dropLast]
    omega
  · intro actor hiddenLabel hp
    exact ⟨Node.helpLines_eq hp hiddenLabel, Node.helpEntry_prefix_helpBelow hp hiddenLabel⟩

def visitor : Actor :=
  .granted "Alex" .player []

def kioskText : String :=
  "kiosk \x7b\n help Sells things\n help\n help for coins\n open \x7b\n  help Opens\n  help\n \x7d\n\x7d"

def kioskLines : List String :=
  ["kiosk \x7b", " help Sells things", " help", " help for coins", " open \x7b", "  help Opens", "  help", " \x7d",
    "\x7d"]

theorem lines_kioskText : (Text.lines kioskText.toList).map String.ofList = kioskLines := by
  decide +kernel

def openItems : List Item :=
  [.tag "  help Opens" "help Opens".toList (by decide), .tag "  help" "help".toList (by decide)]

def openBlock : Enclosed where
  raw := " open \x7b"
  inner := bodyLines openItems
  closer := " \x7d"
  opens := by decide
  nested := nested_bodyLines openItems
  closes := by decide

def kioskItems : List Item :=
  [.tag " help Sells things" "help Sells things".toList (by decide), .tag " help" "help".toList (by decide),
    .tag " help for coins" "help for coins".toList (by decide), .block openBlock]

theorem kiosk_blockAt : BlockAt kioskLines 1 kioskItems :=
  ⟨[], "kiosk \x7b", "\x7d", [], rfl, rfl, by decide, by decide⟩

theorem open_blockAt : BlockAt kioskLines 5 openItems :=
  ⟨["kiosk \x7b", " help Sells things", " help", " help for coins"], " open \x7b", " \x7d", ["\x7d"], rfl, rfl,
    by decide, by decide⟩

theorem kiosk_help_is_shown : ∃ roots : List (Node Nat), ∃ kiosk ∈ Node.preorderAll roots,
    ∃ inner ∈ Node.preorderAll roots, (readText ⟨.standard, .empty⟩ kioskText).value = .ok roots ∧
      BlockAt kioskLines kiosk.command.line kioskItems ∧
      helpValues kioskItems = ["Sells things".toList, [], "for coins".toList] ∧
      kiosk.command.helpEntry = ["/kiosk - Sells things", "    ", "    for coins"] ∧
      kiosk.command.isPermitted visitor = true ∧
      kiosk.helpLines visitor "[more]" = kiosk.command.helpEntry ++ Node.helpAll visitor "[more]" kiosk.children ∧
      BlockAt kioskLines inner.command.line openItems ∧
      helpValues openItems = ["Opens".toList, []] ∧ inner.command.helpEntry = ["/kiosk open - Opens"] := by
  have hread : ((readLines (σ := Nat) ⟨.standard, .empty⟩ kioskLines).value.toOption.map fun roots =>
      (Node.preorderAll roots).map fun n => (n.command.line, n.command.usage, n.command.permission)) =
      some [(1, "/kiosk", none), (5, "/kiosk open", none)] := by
    decide +kernel
  obtain ⟨roots, hr, hview⟩ := exists_roots_of_toOption hread
  obtain ⟨kiosk, others, hroots, hkiosk, hothers⟩ := List.map_eq_cons_iff.mp hview
  obtain ⟨inner, rest, rfl, hinner, -⟩ := List.map_eq_cons_iff.mp hothers
  simp only [Prod.mk.injEq] at hkiosk hinner
  obtain ⟨hkline, hkusage, hkpermission⟩ := hkiosk
  obtain ⟨hiline, hiusage, -⟩ := hinner
  have hkm : kiosk ∈ Node.preorderAll roots := by simp [hroots]
  have him : inner ∈ Node.preorderAll roots := by simp [hroots]
  have hkb := kiosk_blockAt
  have hib := open_blockAt
  rw [← hkline] at hkb
  rw [← hiline] at hib
  rw [← lines_kioskText] at hr
  have hall := help_values_are_shown_but_an_empty_last_one ⟨.standard, .empty⟩ kioskText roots hr
  rw [lines_kioskText] at hall
  obtain ⟨-, hkentry, -, hklines⟩ := (hall kiosk hkm).2 kioskItems _ hkb rfl
  obtain ⟨-, -, hientry, -⟩ := (hall inner him).2 openItems _ hib rfl
  have hkpermitted : kiosk.command.isPermitted visitor = true := by
    rw [Command.isPermitted, hkpermission]
  have hkshown := (hkentry (.inr (by decide))).1
  have hishown := (hientry (by decide)).1
  rw [hkusage] at hkshown
  rw [hiusage] at hishown
  exact ⟨roots, kiosk, hkm, inner, him, hr, hkb, by decide, hkshown.trans (by decide), hkpermitted,
    (hklines _ _ hkpermitted).1, hib, by decide, hishown.trans (by decide)⟩

theorem empty_last_help_line_is_lost : ∃ roots : List (Node Nat), ∃ n ∈ Node.preorderAll roots,
    (readText ⟨.standard, .empty⟩ kioskText).value = .ok roots ∧
      BlockAt kioskLines n.command.line openItems ∧
      helpValues openItems = ["Opens".toList, []] ∧ n.command.isPermitted visitor = true ∧
      n.helpLines visitor "[more]" = ["/kiosk open - Opens"] ∧
      entryLines n.command.usage ((helpValues openItems).map String.ofList) = ["/kiosk open - Opens", "    "] := by
  have hread : ((readLines (σ := Nat) ⟨.standard, .empty⟩ kioskLines).value.toOption.map fun roots =>
      ((Node.preorderAll roots).map fun n =>
        (n.command.line, n.command.usage, n.command.isPermitted visitor, n.helpLines visitor "[more]")).drop 1) =
      some [(5, "/kiosk open", true, ["/kiosk open - Opens"])] := by
    decide +kernel
  obtain ⟨roots, hr, hview⟩ := exists_roots_of_toOption hread
  rw [← lines_kioskText] at hr
  have hm := List.mem_of_mem_drop (hview ▸ List.mem_singleton_self _)
  obtain ⟨n, hn, hfacts⟩ := List.mem_map.mp hm
  simp only [Prod.mk.injEq] at hfacts
  obtain ⟨hline, husage, hpermitted, hlines⟩ := hfacts
  have hb := open_blockAt
  rw [← hline] at hb
  refine ⟨roots, n, hn, hr, hb, by decide, hpermitted, hlines, ?_⟩
  rw [husage]
  decide

end Definition

end CommandTree
