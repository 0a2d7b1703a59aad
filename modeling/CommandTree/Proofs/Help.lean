import Mathlib.Data.List.Chain
import CommandTree.Dispatch
import CommandTree.Proofs.Tree

namespace CommandTree

variable {σ : Type}

def Argument.shown (a : Argument) : String :=
  let text := a.name ++ (if a.hidesType then "" else ":" ++ a.type.name) ++ (if a.isVariadic then "..." else "")
  if a.isOptional then "[" ++ text ++ "]" else "<" ++ text ++ ">"

def Flag.shown (f : Flag) : String :=
  "[" ++ f.name ++ (if f.hidesType || f.type.name == "boolean" then "" else ":" ++ f.type.name) ++ "]"

def Command.shownUsage (c : Command σ) : String :=
  "/" ++ c.path ++ String.join ((c.arguments.map Argument.shown ++ c.flags.map Flag.shown).map (" " ++ ·))

def entryLines (usage : String) : List String → List String
  | [] => []
  | first :: others => (usage ++ " - " ++ first) :: others.map ("    " ++ ·)

def Command.shownEntry (c : Command σ) : List String :=
  match c.help with
  | none => []
  | some text =>
      entryLines c.shownUsage (if text = "" then [""] else (Text.lines text.toList).map String.ofList)

theorem Argument.display_eq (a : Argument) : a.display = a.shown := by
  simp only [display, shown]
  cases a.hidesType <;> cases a.isVariadic <;> cases a.isOptional <;> simp [String.append_assoc]

theorem Flag.display_eq (f : Flag) : f.display = f.shown := by
  simp only [display, shown, isSwitch, ArgumentType.isBoolean]
  by_cases hb : f.type.name = "boolean" <;> cases f.hidesType <;> simp [hb, String.append_assoc]

theorem intercalate_cons (separator first : String) (others : List String) :
    separator.intercalate (first :: others) = first ++ String.join (others.map (separator ++ ·)) := by
  induction others generalizing first with
  | nil => simp
  | cons second others ih =>
      rw [String.intercalate_cons_cons, ih, List.map_cons, String.join_cons, String.append_assoc, String.append_assoc]

namespace Command

theorem usage_eq (c : Command σ) : c.usage = c.shownUsage := by
  have ha : Argument.display = Argument.shown := funext Argument.display_eq
  have hf : Flag.display = Flag.shown := funext Flag.display_eq
  rw [usage, intercalate_cons, signature, shownUsage, ha, hf]

theorem helpEntry_eq (c : Command σ) : c.helpEntry = c.shownEntry := by
  rw [helpEntry, shownEntry, usage_eq]
  cases c.help with
  | none => rfl
  | some text =>
      by_cases ht : text = ""
      · subst ht
        simp [entryLines, Text.lines, Text.linesFrom]
      · have hlines : (Text.lines text.toList).map String.ofList ≠ [] := by
          simpa [Text.lines, Text.linesFrom_eq_nil_iff] using ht
        simp only [if_neg ht]
        cases hl : (Text.lines text.toList).map String.ofList with
        | nil => exact absurd hl hlines
        | cons first others => rfl

end Command

/-- A node with the nodes above it, the requested one first. -/
structure Place (σ : Type) where
  above : List (Node σ)
  node : Node σ

namespace Place

def way (p : Place σ) : List (Node σ) :=
  p.above ++ [p.node]

def isShown (actor : Actor) (p : Place σ) : Bool :=
  p.way.all (·.command.isPermitted actor) && p.above.tail.all (!·.command.hidesChildren)

def listing (hiddenLabel : String) (p : Place σ) : List String :=
  p.node.command.shownEntry ++
    if p.above ≠ [] ∧ p.node.command.hidesChildren = true ∧ p.node.children ≠ [] then
      ["/" ++ p.node.command.path ++ " " ++ hiddenLabel]
    else []

end Place

namespace Node

mutual

def placesUnder (above : List (Node σ)) : Node σ → List (Place σ)
  | mk c children => ⟨above, mk c children⟩ :: allPlacesUnder (above ++ [mk c children]) children

def allPlacesUnder (above : List (Node σ)) : List (Node σ) → List (Place σ)
  | [] => []
  | node :: nodes => node.placesUnder above ++ allPlacesUnder above nodes

end

def places (node : Node σ) : List (Place σ) :=
  node.placesUnder []

theorem allPlacesUnder_eq (above nodes : List (Node σ)) :
    allPlacesUnder above nodes = nodes.flatMap (·.placesUnder above) := by
  induction nodes with
  | nil => rfl
  | cons node nodes ih => rw [allPlacesUnder, ih, List.flatMap_cons]

theorem placesUnder_eq (above : List (Node σ)) (node : Node σ) :
    node.placesUnder above = ⟨above, node⟩ :: node.children.flatMap (·.placesUnder (above ++ [node])) := by
  cases node with
  | mk c children => rw [placesUnder, allPlacesUnder_eq, children_mk]

theorem helpAll_eq (actor : Actor) (hiddenLabel : String) (nodes : List (Node σ)) :
    helpAll actor hiddenLabel nodes = nodes.flatMap (·.helpBelow actor hiddenLabel false) := by
  induction nodes with
  | nil => rfl
  | cons node nodes ih => rw [helpAll, ih, List.flatMap_cons]

theorem map_node_placesUnder (above : List (Node σ)) (node : Node σ) :
    (node.placesUnder above).map Place.node = node.preorder := by
  induction node generalizing above with
  | mk c children ih =>
      rw [placesUnder_eq, preorder, preorderAll_eq, List.map_cons, List.map_flatMap, children_mk]
      apply congrArg
      apply List.flatMap_congr
      intro child hc
      exact ih child hc _

theorem prefix_way_of_mem_placesUnder {above : List (Node σ)} {node : Node σ} {p : Place σ}
    (h : p ∈ node.placesUnder above) : above ++ [node] <+: p.way := by
  induction node generalizing above with
  | mk c children ih =>
      rw [placesUnder_eq] at h
      rcases List.mem_cons.mp h with rfl | h
      · exact List.prefix_rfl
      · obtain ⟨child, hc, hp⟩ := List.mem_flatMap.mp h
        exact (List.prefix_append _ [child]).trans (ih child hc hp)

theorem prefix_above_of_mem_placesUnder {above : List (Node σ)} {node : Node σ} {p : Place σ}
    (h : p ∈ node.placesUnder above) : above <+: p.above := by
  have hw := prefix_way_of_mem_placesUnder h
  apply List.prefix_of_prefix_length_le ((List.prefix_append above [node]).trans hw)
  · exact List.prefix_append p.above [p.node]
  · simpa [Place.way] using hw.length_le

theorem isChain_way_of_mem_placesUnder {above : List (Node σ)} {node : Node σ} {p : Place σ}
    (ha : (above ++ [node]).IsChain fun parent child => child ∈ parent.children) (h : p ∈ node.placesUnder above) :
    p.way.IsChain fun parent child => child ∈ parent.children := by
  induction node generalizing above with
  | mk c children ih =>
      rw [placesUnder_eq] at h
      rcases List.mem_cons.mp h with rfl | h
      · exact ha
      · obtain ⟨child, hc, hp⟩ := List.mem_flatMap.mp h
        apply ih child hc _ hp
        rw [List.isChain_append]
        refine ⟨ha, List.isChain_singleton child, ?_⟩
        simpa using hc

variable {actor : Actor} {above : List (Node σ)}

def isFollowed (actor : Actor) (way : List (Node σ)) : Bool :=
  way.all (·.command.isPermitted actor) && way.tail.all (!·.command.hidesChildren)

theorem isFollowed_of_prefix {way longer : List (Node σ)} (hp : way <+: longer)
    (h : isFollowed actor longer = true) : isFollowed actor way = true := by
  obtain ⟨rest, rfl⟩ := hp
  cases way with
  | nil => rfl
  | cons first way =>
      simp only [isFollowed, List.cons_append, List.tail_cons, List.all_append, List.all_cons, Bool.and_eq_true] at h ⊢
      exact ⟨⟨h.1.1, h.1.2.1⟩, h.2.1⟩

theorem isFollowed_append_singleton (actor : Actor) (above : List (Node σ)) (node : Node σ) :
    isFollowed actor (above ++ [node]) =
      (isFollowed actor above && node.command.isPermitted actor && (above.isEmpty || !node.command.hidesChildren)) := by
  cases above with
  | nil => simp [isFollowed]
  | cons first above =>
      simp only [isFollowed, List.cons_append, List.tail_cons, List.all_cons, List.all_append, List.all_nil,
        List.isEmpty_cons, Bool.and_true, Bool.false_or]
      ac_rfl

theorem isShown_eq (p : Place σ) :
    p.isShown actor = (isFollowed actor p.above && p.node.command.isPermitted actor) := by
  rw [Place.isShown, Place.way, isFollowed, List.all_append]
  simp only [List.all_cons, List.all_nil, Bool.and_true]
  ac_rfl

def listed (actor : Actor) (hiddenLabel : String) (ps : List (Place σ)) : List String :=
  (ps.filter (·.isShown actor)).flatMap (·.listing hiddenLabel)

theorem listed_cons (hiddenLabel : String) (p : Place σ) (ps : List (Place σ)) :
    listed actor hiddenLabel (p :: ps) =
      (if p.isShown actor then p.listing hiddenLabel else []) ++ listed actor hiddenLabel ps := by
  rw [listed, List.filter_cons]
  split <;> simp [listed]

theorem listed_flatMap (hiddenLabel : String) (f : Node σ → List (Place σ)) (nodes : List (Node σ)) :
    listed actor hiddenLabel (nodes.flatMap f) = nodes.flatMap fun node => listed actor hiddenLabel (f node) := by
  simp only [listed, List.filter_flatMap, List.flatMap_assoc]

theorem listed_eq_nil {hiddenLabel : String} {node : Node σ} (h : isFollowed actor above = false) :
    listed actor hiddenLabel (node.placesUnder above) = [] := by
  have hn : ∀ p ∈ node.placesUnder above, ¬ p.isShown actor = true := by
    intro p hp hs
    rw [isShown_eq, Bool.and_eq_true] at hs
    have hf := isFollowed_of_prefix (prefix_above_of_mem_placesUnder hp) hs.1
    simp [h] at hf
  rw [listed, List.filter_eq_nil_iff.mpr hn, List.flatMap_nil]

theorem listed_placesUnder (hiddenLabel : String) {node : Node σ} (h : isFollowed actor above = true) :
    listed actor hiddenLabel (node.placesUnder above) = node.helpBelow actor hiddenLabel above.isEmpty := by
  -- The listing goes on below a node exactly if it follows the way that ends there.
  induction node generalizing above with
  | mk c children ih =>
      have hway := isFollowed_append_singleton actor above (mk c children)
      rw [h, Bool.true_and, command_mk] at hway
      have hbelow : ∀ followed, isFollowed actor (above ++ [mk c children]) = followed →
          listed actor hiddenLabel (children.flatMap (·.placesUnder (above ++ [mk c children]))) =
            if followed then helpAll actor hiddenLabel children else [] := by
        intro followed hf
        rw [listed_flatMap]
        cases followed with
        | false =>
            simp [listed_eq_nil hf]
        | true =>
            rw [if_pos rfl, helpAll_eq]
            apply List.flatMap_congr
            intro child hc
            have he : (above ++ [mk c children]).isEmpty = false := by simp
            rw [ih child hc hf, he]
      rw [placesUnder_eq, children_mk, listed_cons, isShown_eq, h, Bool.true_and, command_mk, helpBelow]
      cases hp : c.isPermitted actor with
      | false =>
          rw [hp, Bool.false_and] at hway
          rw [hbelow false hway]
          simp
      | true =>
          rw [hp, Bool.true_and] at hway
          rw [hbelow _ hway, if_pos rfl, if_pos rfl, Place.listing, command_mk, children_mk, c.helpEntry_eq,
            List.append_assoc]
          congr 1
          cases above with
          | nil => simp
          | cons first above =>
              cases hc : c.hidesChildren with
              | false => simp
              | true => cases children <;> simp [helpAll]

theorem helpLines_eq_listed (node : Node σ) (actor : Actor) (hiddenLabel : String) :
    node.helpLines actor hiddenLabel = listed actor hiddenLabel node.places := by
  have h : isFollowed actor ([] : List (Node σ)) = true := rfl
  exact (listed_placesUnder hiddenLabel h).symm

theorem help_shows_visible_nodes (node : Node σ) (actor : Actor) (hiddenLabel : String) :
    node.helpLines actor hiddenLabel = (node.places.filter (·.isShown actor)).flatMap (·.listing hiddenLabel) ∧
      node.places.map Place.node = node.preorder ∧
      ∀ p ∈ node.places, p.way.head? = some node ∧ p.way.IsChain fun parent child => child ∈ parent.children := by
  refine ⟨node.helpLines_eq_listed actor hiddenLabel, map_node_placesUnder [] node, ?_⟩
  intro p hp
  refine ⟨?_, isChain_way_of_mem_placesUnder (List.isChain_singleton node) hp⟩
  obtain ⟨rest, hr⟩ := prefix_way_of_mem_placesUnder hp
  simp [← hr]

def branch (path help : String) (arguments : List Argument) (flags : List Flag) (children : List (Node Nat)) :
    Node Nat :=
  .mk { (Command.bare path path : Command Nat) with arguments, flags, help := some help, hidesChildren := true }
    children

def vaultRoom : Argument :=
  ⟨.string, "room", 0, true, true, false, none⟩

def vaultFlags : List Flag :=
  [⟨.boolean, "--silent", [], 0, false, none⟩, ⟨.int, "--guards", ["-g"], 1, false, none⟩]

theorem bank_shows_vault :
    let door := branch "bank vault open" "Opens a room" [vaultRoom] [] []
    let vault := branch "bank vault" "Locked rooms\nAsk a guard first" [vaultRoom] vaultFlags [door]
    (branch "bank" "Keeps money" [] [] [vault]).helpLines (.granted "Alex" .player []) "[more]" =
      ["/bank - Keeps money", "/bank vault [room:string...] [--silent] [--guards:int] - Locked rooms",
        "    Ask a guard first", "/bank vault [more]"] := by
  intro door vault
  rw [(help_shows_visible_nodes _ _ _).1]
  decide +kernel

def shownHelp (m : Messages) (actor : Actor) (node : Node σ) : String :=
  let shown := listed actor m.hiddenSubcommands node.places
  "\n".intercalate (m.helpHeader.toList ++ if shown = [] then [node.command.shownUsage] else shown)

theorem helpText_eq (m : Messages) (actor : Actor) (node : Node σ) :
    node.helpText m actor = node.shownHelp m actor := by
  simp only [helpText, shownHelp, helpLines_eq_listed, Command.usage_eq, List.isEmpty_iff]

end Node

end CommandTree
