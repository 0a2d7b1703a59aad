import CommandTree.Proofs.Manager.RootTable
import CommandTree.Settings.Validation

namespace CommandTree

open Text

variable {σ : Type}

namespace Text

theorem toLower_eq_colon_iff (c : Char) : c.toLower = ':' ↔ c = ':' := by
  constructor
  · intro h
    by_cases hc : c.val ≥ 'A'.val ∧ c.val ≤ 'Z'.val
    · exfalso
      have hl : c.toLower.val = c.val + 32 := congrArg Char.val (dif_pos hc)
      rw [h] at hl
      have hn : 58 = (c.val.toNat + 32) % 4294967296 := congrArg UInt32.toNat hl
      have hlo : 65 ≤ c.val.toNat := hc.1
      have hhi : c.val.toNat ≤ 90 := hc.2
      omega
    · have hl : c.toLower = c := dif_neg hc
      exact hl ▸ h
  · rintro rfl
    rfl

theorem colon_mem_map_toLower {text : List Char} : ':' ∈ text.map Char.toLower ↔ ':' ∈ text := by
  simp [toLower_eq_colon_iff]

theorem colon_mem_iff {xs ys : List Char} (h : xs.map Char.toLower = ys.map Char.toLower) :
    ':' ∈ xs ↔ ':' ∈ ys := by
  rw [← colon_mem_map_toLower, h, colon_mem_map_toLower]

theorem exists_cut {label : List Char} {before after : List Char}
    (h : (before ++ ':' :: after).map Char.toLower = label.map Char.toLower) :
    ∃ before' after', label = before' ++ ':' :: after' ∧
      before'.map Char.toLower = before.map Char.toLower ∧
      after'.map Char.toLower = after.map Char.toLower := by
  rw [List.map_append, List.map_cons] at h
  obtain ⟨before', rest, rfl, hb, hr⟩ := List.map_eq_append_iff.mp h.symm
  obtain ⟨c, after', rfl, hc, ha⟩ := List.map_eq_cons_iff.mp hr
  obtain rfl := (toLower_eq_colon_iff c).mp hc
  exact ⟨before', after', rfl, hb, ha⟩

end Text

namespace Root

variable {r : Root σ} {label : String}

theorem answersTo_of_plain (h : ':' ∉ label.toList) : r.answersTo label = r.node.command.hasAlias label := by
  have hc : cutAt? (· == ':') label.toList = none := by
    apply cutAt?_eq_none
    intro c hc
    simp only [beq_eq_false_iff_ne]
    rintro rfl
    exact h hc
  rw [answersTo, hc]

theorem answersTo_of_cut {before after : List Char} (hl : label.toList = before ++ ':' :: after)
    (hb : ':' ∉ before) :
    r.answersTo label =
      (sameIgnoringCase (String.ofList before) r.owner &&
        r.node.command.hasAlias (String.ofList after)) := by
  have hc : cutAt? (· == ':') label.toList = some (before, after) := by
    rw [hl]
    apply cutAt?_append
    · intro c hc
      simp only [beq_eq_false_iff_ne]
      rintro rfl
      exact hb hc
    · rfl
  rw [answersTo, hc]

end Root

theorem Command.hasAlias_congr (c : Command σ) {a b : String}
    (h : a.toList.map Char.toLower = b.toList.map Char.toLower) : c.hasAlias a = c.hasAlias b := by
  simp only [hasAlias, sameIgnoringCase, h]

theorem Command.hasAlias_of_mem {c : Command σ} {name label : String} (hn : name ∈ c.aliases)
    (h : sameIgnoringCase name label = true) : c.hasAlias label = true :=
  hasAlias_eq_true_iff.mpr ⟨name, hn, h⟩

namespace Root

variable {r : Root σ} {name label : String}

theorem answersTo_name (hn : name ∈ r.node.command.aliases) (h : sameIgnoringCase name label = true)
    (hp : ':' ∉ name.toList) : r.answersTo label = true := by
  have hl : ':' ∉ label.toList := by
    rwa [← colon_mem_iff (sameIgnoringCase_iff.mp h)]
  rw [answersTo_of_plain hl]
  exact Command.hasAlias_of_mem hn h

theorem answersTo_of_sameIgnoringCase {before after : String}
    (h : sameIgnoringCase (before ++ ":" ++ after) label = true) (hb : ':' ∉ before.toList) :
    r.answersTo label = (sameIgnoringCase before r.owner && r.node.command.hasAlias after) := by
  have hm : (before.toList ++ ':' :: after.toList).map Char.toLower = label.toList.map Char.toLower := by
    simpa using sameIgnoringCase_iff.mp h
  obtain ⟨before', after', hl, hb', ha'⟩ := exists_cut hm
  have hc : ':' ∉ before' := by
    rwa [colon_mem_iff hb']
  rw [answersTo_of_cut hl hc]
  congr 1
  · simp only [sameIgnoringCase, String.toList_ofList, hb']
  · apply Command.hasAlias_congr
    rw [String.toList_ofList, ha']

theorem answersTo_owned (hn : name ∈ r.node.command.aliases) (ho : ':' ∉ r.owner.toList)
    (h : sameIgnoringCase (r.owner ++ ":" ++ name) label = true) : r.answersTo label = true := by
  rw [answersTo_of_sameIgnoringCase h ho, Command.hasAlias_of_mem hn (by simp [sameIgnoringCase])]
  simp [sameIgnoringCase]

end Root

namespace Settings

theorem colon_not_mem_owner {s : Settings} (h : s.violation? = none) : ':' ∉ s.commands.owner.toList := by
  intro hm
  have hc : commandsViolation? s.commands = none := by
    rw [violation?] at h
    cases hl : loggingViolation? s.logging <;> simp_all
  have hb : s.commands.owner.toList.any isOwnerBreak = true :=
    List.any_eq_true.mpr ⟨':', hm, by simp [isOwnerBreak]⟩
  rw [commandsViolation?, hb] at hc
  split at hc <;> simp at hc

end Settings

namespace Manager

variable {m : Manager σ}

def Call.bringsTrees : Call σ → Bool
  | .add (.trees _ _) _ => true
  | _ => false

theorem owner_of_newRoots {input : Input σ} {tables : List (HookTable σ)} {roots : List (Root σ)}
    (h : input.newRoots m tables = .ok roots) : ∀ root ∈ roots, root.owner = input.owner m := by
  rw [Input.newRoots] at h
  split at h
  · simp at h
  · split at h
    · simp at h
    · obtain rfl := Except.ok.inj h
      simp

theorem owner_of_files {files : Files} {paths : List String} {tables : List (HookTable σ)}
    {batches : List (List (Root σ))}
    (h : List.Forall₂ (fun path roots => (Input.file files path).newRoots m tables = .ok roots) paths batches) :
    ∀ root ∈ batches.flatten, root.owner = m.owner := by
  induction h with
  | nil => simp
  | cons hp _ ih =>
      intro root hr
      rw [List.flatten_cons, List.mem_append] at hr
      rcases hr with hr | hr
      · exact owner_of_newRoots hp root hr
      · exact ih root hr

theorem LoadedUpTo.owned {files : Files} {paths : List String} {tables : List (HookTable σ)}
    {batches : List (List (Root σ))} {error : Option ManagerError}
    (h : LoadedUpTo m files tables paths batches error) : ∀ root ∈ batches.flatten, root.owner = m.owner := by
  cases h with
  | whole hb => exact owner_of_files hb
  | stopped hb => exact owner_of_files hb

theorem Appended.owned {roots : List (Root σ)} {after : Manager σ} (h : Appended m roots after)
    (hm : ∀ root ∈ m.roots, root.owner = m.owner) (hr : ∀ root ∈ roots, root.owner = m.owner) :
    ∀ root ∈ after.roots, root.owner = m.owner := by
  rw [h.same]
  intro root hroot
  rcases List.mem_append.mp hroot with hroot | hroot
  · exact hm root hroot
  · exact hr root hroot

theorem Settled.owned {call : Call σ} {after : Manager σ} {answer : Answer} (h : Settled m call after answer)
    (hc : call.bringsTrees = false) (hm : ∀ root ∈ m.roots, root.owner = m.owner) :
    ∀ root ∈ after.roots, root.owner = m.owner := by
  cases h with
  | refused => exact hm
  | @added input tables roots after hi ha =>
      have ho : input.owner m = m.owner := by
        cases input with
        | text => rfl
        | file => rfl
        | trees => simp [Call.bringsTrees] at hc
      have hr := owner_of_newRoots hi
      rw [ho] at hr
      exact ha.owned hm hr
  | filesAdded hl ha => exact ha.owned hm hl.owned
  | filesStopped hl ha => exact ha.owned hm hl.owned
  | removed hw =>
      rw [hw.same]
      intro root hr
      exact hm root (List.mem_of_mem_filter hr)

theorem performAll_owned (m : Manager σ) {calls : List (Call σ)}
    (hc : ∀ call ∈ calls, call.bringsTrees = false) (hm : ∀ root ∈ m.roots, root.owner = m.owner) :
    ∀ root ∈ (m.performAll calls).roots, root.owner = m.owner := by
  induction calls generalizing m with
  | nil => exact hm
  | cons call calls ih =>
      obtain ⟨hfirst, hrest⟩ := List.forall_mem_cons.mp hc
      have hs := m.perform_settled call
      have ho : (m.perform call).value.1.owner = m.owner := hs.fixed.2
      have hone := hs.owned hfirst hm
      -- The statement is about the owner that the rest of the run starts from.
      rw [← ho] at hone ⊢
      exact ih _ hrest hone

theorem mem_lookup {root : Root σ} {label : String} (hr : root ∈ m.roots) (h : root.answersTo label = true) :
    root.node ∈ m.lookup label :=
  List.mem_map.mpr ⟨root, List.mem_filter.mpr ⟨hr, h⟩, rfl⟩

theorem registered_roots_answer_to_their_names (s : Settings) (hs : s.violation? = none) (r : Registries)
    (calls : List (Call σ)) (hc : ∀ call ∈ calls, call.bringsTrees = false) :
    let m := performAll { (configured s : Manager σ) with registries := r } calls
    ∀ root ∈ m.roots, ∀ name ∈ root.node.command.aliases, ∀ label,
      (sameIgnoringCase (s.commands.owner ++ ":" ++ name) label = true → root.node ∈ m.lookup label) ∧
      (sameIgnoringCase name label = true → ':' ∉ name.toList → root.node ∈ m.lookup label) ∧
      ∀ before after, name = before ++ ":" ++ after → ':' ∉ before.toList →
        sameIgnoringCase name label = true →
        (root.answersTo label = true ↔
          sameIgnoringCase before s.commands.owner = true ∧ root.node.command.hasAlias after = true) := by
  intro m root hr name hn label
  have ho : root.owner = s.commands.owner :=
    performAll_owned _ hc (by simp [configured, new]) root hr
  have hp := Settings.colon_not_mem_owner hs
  refine ⟨?_, ?_, ?_⟩
  · intro h
    rw [← ho] at h hp
    exact mem_lookup hr (Root.answersTo_owned hn hp h)
  · intro h hplain
    exact mem_lookup hr (Root.answersTo_name hn h hplain)
  · rintro before after rfl hb h
    rw [Root.answersTo_of_sameIgnoringCase h hb, ho, Bool.and_eq_true]

theorem bank_answers_to_its_names :
    let calls : List (Call Nat) :=
      [.add (.text "bank,b \x7b\n\x7d\nshop \x7b\n\x7d") [], .remove "quill:SHOP"]
    let m := performAll { (configured .standard : Manager Nat) with registries := ⟨.standard, .empty⟩ } calls
    Settings.standard.violation? = none ∧ (∀ call ∈ calls, call.bringsTrees = false) ∧
      ∃ root ∈ m.roots, root.node.command.aliases = ["bank", "b"] ∧
        root.node ∈ m.lookup "QUILL:B" ∧ root.node ∈ m.lookup "B" := by
  intro calls m
  have hc : ∀ call ∈ calls, call.bringsTrees = false := by simp [calls, Call.bringsTrees]
  have hroots : m.roots.map (·.node.command.aliases) = [["bank", "b"]] := by decide +kernel
  obtain ⟨root, rest, hm, ha, -⟩ := List.map_eq_cons_iff.mp hroots
  have hr : root ∈ m.roots := by simp [hm]
  have hn : "b" ∈ root.node.command.aliases := by simp [ha]
  have h := registered_roots_answer_to_their_names .standard rfl ⟨.standard, .empty⟩ calls hc root hr "b" hn
  exact ⟨rfl, hc, root, hr, ha, (h "QUILL:B").1 (by decide), (h "B").2.1 (by decide) (by decide)⟩

theorem colon_name_leads_nowhere :
    let m := performAll (configured .standard : Manager Nat) [.add (.text "a:b \x7b\n\x7d") []]
    Settings.standard.violation? = none ∧
      ∃ root ∈ m.roots, "a:b" ∈ root.node.command.aliases ∧ root.node ∉ m.lookup "a:b" := by
  intro m
  have hroots : m.roots.map (·.node.command.aliases) = [["a:b"]] := by decide +kernel
  have hl : m.lookup "a:b" = [] := by
    apply List.eq_nil_of_length_eq_zero
    decide +kernel
  obtain ⟨root, rest, hm, ha, -⟩ := List.map_eq_cons_iff.mp hroots
  exact ⟨rfl, root, by simp [hm], by simp [ha], by simp [hl]⟩

end Manager

end CommandTree
