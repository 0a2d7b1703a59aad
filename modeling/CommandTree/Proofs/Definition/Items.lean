import Mathlib.Data.List.Forall2
import CommandTree.Proofs.Definition.Body

namespace CommandTree.Definition

variable {σ : Type} {r : Registries}

structure Enclosed where
  raw : String
  inner : List String
  closer : String
  opens : opensBlock raw = true
  nested : Nested inner
  closes : closesBlock closer = true

inductive Item where
  | remark (raw : String) (ignored : Line.read raw = .ignored)
  | tag (raw : String) (text : List Char) (tagged : Line.read raw = .other text)
  | block (block : Enclosed)

namespace Item

def lines : Item → List String
  | remark raw _ => [raw]
  | tag raw _ _ => [raw]
  | block b => b.raw :: (b.inner ++ [b.closer])

def tag? : Item → Option (List Char)
  | tag _ text _ => some text
  | _ => none

def block? : Item → Option Enclosed
  | block b => some b
  | _ => none

theorem nested (i : Item) : Nested i.lines := by
  cases i with
  | remark raw hl =>
      exact (nested_cons_iff (opensBlock_eq_false_of_read hl (by simp))
        (closesBlock_eq_false_of_read hl (by simp))).mpr nested_nil
  | tag raw text hl =>
      exact (nested_cons_iff (opensBlock_eq_false_of_read hl (by simp))
        (closesBlock_eq_false_of_read hl (by simp))).mpr nested_nil
  | block b => exact nested_block b.opens b.nested b.closes

end Item

def bodyLines (items : List Item) : List String :=
  items.flatMap Item.lines

def tagTexts (items : List Item) : List (List Char) :=
  items.filterMap Item.tag?

def blocksOf (items : List Item) : List Enclosed :=
  items.filterMap Item.block?

theorem nested_bodyLines (items : List Item) : Nested (bodyLines items) := by
  induction items with
  | nil => exact nested_nil
  | cons i items ih => exact i.nested.append ih

def Enclosed.Reads (r : Registries) (path : String) (b : Enclosed) (number : Nat) (node : Node σ) : Prop :=
  ∃ header d d' children, Line.read b.raw = .opening header ∧
    (readHeader r header number (some path)).value = .ok d ∧ Body r (number + 1) b.inner d d' children ∧
    node = .mk d' children

/-- Line numbers of a block that stood on line `number` once it stands on line `place`. -/
def movedTo (number place k : Nat) : Nat :=
  k - number + place

theorem movedTo_add (number place i : Nat) : movedTo number place (number + i) = place + i := by
  unfold movedTo
  omega

theorem Enclosed.Reads.moved {path : String} {b : Enclosed} {number : Nat} {node : Node σ}
    (h : b.Reads r path number node) (place : Nat) :
    b.Reads r path place (node.renumber (movedTo number place)) := by
  obtain ⟨header, d, d', children, hl, hd, hb, rfl⟩ := h
  have hplace : movedTo number place number = place := movedTo_add number place 0
  have hnext : movedTo number place (number + 1) = place + 1 := movedTo_add number place 1
  have hon : ∀ i, movedTo number place (number + i) = movedTo number place number + i := by
    intro i
    rw [movedTo_add, hplace]
  have hheader := readHeader_renumber (σ := σ) r (movedTo number place) header number (some path)
  have hbody := hb.renumber (numbersOn_add hon 1)
  rw [hplace, hd] at hheader
  rw [hnext] at hbody
  exact ⟨header, _, _, _, hl, hheader, hbody, Node.renumber_mk ..⟩

def amended (r : Registries) (c : Command σ) (text : List Char) : Command σ :=
  match lineEffect r text with
  | .ok e => e.on c
  | .error _ => c

theorem Effect.on_path (e : Effect) (c : Command σ) : (e.on c).path = c.path := by
  cases e <;> rfl

namespace Body

variable {number : Nat} {raw closer : String} {text : List Char} {lines inner rest : List String}
  {c c' : Command σ} {nodes : List (Node σ)}

theorem of_remark (h : Body r number (raw :: lines) c c' nodes) (hl : Line.read raw = .ignored) :
    Body r (number + 1) lines c c' nodes := by
  cases h with
  | ignored _ hb => exact hb
  | tag ht => simp [hl] at ht
  | block ho => simp [hl] at ho

theorem of_tag (h : Body r number (raw :: lines) c c' nodes) (hl : Line.read raw = .other text) :
    ∃ e, lineEffect r text = .ok e ∧ Body r (number + 1) lines (e.on c) c' nodes := by
  cases h with
  | ignored hi => simp [hl] at hi
  | block ho => simp [hl] at ho
  | tag ht ha hb =>
      obtain rfl : _ = text := Line.other.inj (ht.symm.trans hl)
      rw [applyLine_eq] at ha
      obtain ⟨e, he, rfl⟩ := exists_of_map_eq_ok ha
      exact ⟨e, he, hb⟩

theorem of_block {b : Enclosed} (h : Body r number (b.raw :: (b.inner ++ b.closer :: rest)) c c' nodes) :
    ∃ node others, nodes = node :: others ∧ b.Reads r c.path number node ∧
      Body r (number + 1 + b.inner.length + 1) rest c c' others := by
  obtain ⟨header, ho⟩ := opensBlock_eq_true_iff.mp b.opens
  generalize hlines : b.inner ++ b.closer :: rest = lines at h
  cases h with
  | ignored hi => simp [ho] at hi
  | tag ht => simp [ho] at ht
  | block hl hd hb hc hr =>
      obtain ⟨hinner, hcloser, hrest⟩ := eq_of_append_closer b.nested hb.layout.2.nested b.closes
        (closesBlock_eq_true_iff.mpr hc) hlines
      subst hinner hcloser hrest
      exact ⟨_, _, rfl, ⟨_, _, _, _, hl, hd, hb, rfl⟩, hr⟩

theorem parts {items : List Item} (h : Body r number (bodyLines items) c c' nodes) :
    (∀ text ∈ tagTexts items, ∃ e, lineEffect r text = .ok e) ∧ c' = (tagTexts items).foldl (amended r) c ∧
      List.Forall₂ (fun b node => ∃ place, b.Reads r c.path place node) (blocksOf items) nodes := by
  induction items generalizing number c nodes with
  | nil =>
      cases h
      exact ⟨by simp [tagTexts], rfl, .nil⟩
  | cons i items ih =>
      cases i with
      | remark raw hl => exact ih (h.of_remark hl)
      | tag raw text hl =>
          obtain ⟨e, he, hb⟩ := h.of_tag hl
          obtain ⟨hall, rfl, hblocks⟩ := ih hb
          have hamended : amended r c text = e.on c := by rw [amended, he]
          rw [e.on_path] at hblocks
          refine ⟨List.forall_mem_cons.mpr ⟨⟨e, he⟩, hall⟩, ?_, hblocks⟩
          rw [← hamended]
          rfl
      | block b =>
          have hlines : bodyLines (.block b :: items) = b.raw :: (b.inner ++ b.closer :: bodyLines items) := by
            simp [bodyLines, Item.lines]
          rw [hlines] at h
          obtain ⟨node, others, rfl, hnode, hb⟩ := h.of_block
          obtain ⟨hall, hc, hblocks⟩ := ih hb
          exact ⟨hall, hc, .cons ⟨number, hnode⟩ hblocks⟩

theorem exists_of_parts {items : List Item} (number : Nat)
    (ht : ∀ text ∈ tagTexts items, ∃ e, lineEffect r text = .ok e)
    (hb : List.Forall₂ (fun b node => ∃ place, b.Reads r c.path place node) (blocksOf items) nodes) :
    ∃ nodes', Body r number (bodyLines items) c ((tagTexts items).foldl (amended r) c) nodes' ∧
      nodes'.map (Node.renumber fun _ => 0) = nodes.map (Node.renumber fun _ => 0) := by
  induction items generalizing number c nodes with
  | nil =>
      cases hb
      exact ⟨[], .nil, rfl⟩
  | cons i items ih =>
      cases i with
      | remark raw hl =>
          obtain ⟨nodes', hbody, hsame⟩ := ih (number + 1) ht hb
          exact ⟨nodes', .ignored hl hbody, hsame⟩
      | tag raw text hl =>
          obtain ⟨⟨e, he⟩, hall⟩ := List.forall_mem_cons.mp ht
          have hamended : amended r c text = e.on c := by rw [amended, he]
          rw [← e.on_path c, ← hamended] at hb
          obtain ⟨nodes', hbody, hsame⟩ := ih (number + 1) hall hb
          have hline : applyLine r c text = .ok (amended r c text) := by
            rw [applyLine_eq, he, hamended]
            rfl
          exact ⟨nodes', .tag hl hline hbody, hsame⟩
      | block b =>
          cases hb with
          | @cons _ node _ nodes hnode hblocks =>
              obtain ⟨place, hnode⟩ := hnode
              obtain ⟨nodes', hbody, hsame⟩ := ih (number + 1 + b.inner.length + 1) ht hblocks
              obtain ⟨header, d, d', children, hl, hd, hinner, he⟩ := hnode.moved number
              have hlines : bodyLines (.block b :: items) = b.raw :: (b.inner ++ b.closer :: bodyLines items) := by
                simp [bodyLines, Item.lines]
              refine ⟨.mk d' children :: nodes', ?_, ?_⟩
              · rw [hlines]
                exact .block hl hd hinner (closesBlock_eq_true_iff.mp b.closes) hbody
              · rw [List.map_cons, List.map_cons, hsame, ← he, Node.renumber_renumber]
                rfl

theorem exists_items (h : Body r number lines c c' nodes) : ∃ items, bodyLines items = lines := by
  induction h with
  | nil => exact ⟨[], rfl⟩
  | ignored hl _ ih =>
      obtain ⟨items, rfl⟩ := ih
      exact ⟨.remark _ hl :: items, rfl⟩
  | tag hl _ _ ih =>
      obtain ⟨items, rfl⟩ := ih
      exact ⟨.tag _ _ hl :: items, rfl⟩
  | @block number raw closer header inner rest _ _ _ _ _ _ hl _ hb hc _ _ ih =>
      obtain ⟨items, rfl⟩ := ih
      let b : Enclosed :=
        ⟨raw, inner, closer, opensBlock_eq_true_iff.mpr ⟨_, hl⟩, hb.layout.2.nested, closesBlock_eq_true_iff.mpr hc⟩
      exact ⟨.block b :: items, by simp [bodyLines, Item.lines, b]⟩

end Body

end CommandTree.Definition
