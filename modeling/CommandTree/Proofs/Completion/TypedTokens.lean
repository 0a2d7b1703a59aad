import CommandTree.Completion
import CommandTree.Proofs.Matching.FlagValues
import CommandTree.Proofs.Tree

/-!
The slot that completion finds from the tokens already typed. They are read as matching reads them, one token after
the other, so that what has been read is never read differently by what follows. Completion agrees with this reading
unless the last typed token is the value of a flag and itself names a flag that takes one.
-/

namespace CommandTree

open Matching

variable {σ : Type}

namespace Matching

variable {flags : List Flag} {actor : Actor}

structure TypedTokens where
  positional : List String
  awaited : Option Flag

def TypedTokens.read (flags : List Flag) (t : TypedTokens) (token : String) : TypedTokens :=
  match t.awaited with
  | some _ => ⟨t.positional, none⟩
  | none =>
      match flagNamed? flags token with
      | none => ⟨t.positional ++ [token], none⟩
      | some flag => ⟨t.positional, if flag.isSwitch then none else some flag⟩

def readTyped (flags : List Flag) (typed : List String) : TypedTokens :=
  typed.foldl (TypedTokens.read flags) ⟨[], none⟩

def valueFlag? (flags : List Flag) (token : String) : Option Flag :=
  match flagNamed? flags token with
  | none => none
  | some flag => if flag.isSwitch then none else some flag

theorem readTyped_append (flags : List Flag) (before : List String) (last : String) :
    readTyped flags (before ++ [last]) = (readTyped flags before).read flags last := by
  rw [readTyped, List.foldl_append]
  rfl

theorem read_of_awaited {t : TypedTokens} {flag : Flag} (h : t.awaited = some flag) (token : String) :
    t.read flags token = ⟨t.positional, none⟩ := by
  rw [TypedTokens.read, h]

theorem awaited_read_of_none {t : TypedTokens} (h : t.awaited = none) (token : String) :
    (t.read flags token).awaited = valueFlag? flags token := by
  rw [TypedTokens.read, h, valueFlag?]
  cases flagNamed? flags token <;> rfl

theorem length_positional_foldl (flags : List Flag) (typed positional : List String) :
    (typed.foldl (TypedTokens.read flags) ⟨positional, none⟩).positional.length =
      positional.length + positionalCount flags typed := by
  fun_induction positionalCount flags typed generalizing positional with
  | case1 => rfl
  | case2 token tokens hn ih =>
      simp only [List.foldl_cons, TypedTokens.read, hn]
      rw [ih, List.length_append, List.length_singleton]
      omega
  | case3 token tokens flag hn hs ih =>
      simp only [List.foldl_cons, TypedTokens.read, hn, hs]
      exact ih positional
  | case4 token flag hn hs => simp [TypedTokens.read, hn, hs]
  | case5 token flag hn hs value rest ih =>
      simp only [List.foldl_cons, TypedTokens.read, hn, hs]
      exact ih positional

theorem length_positional (flags : List Flag) (typed : List String) :
    (readTyped flags typed).positional.length = positionalCount flags typed := by
  rw [readTyped, length_positional_foldl, List.length_nil, Nat.zero_add]

theorem foldl_of_separation {tokens : List String} {e : Extraction} (h : Separation flags actor tokens e)
    (positional : List String) :
    tokens.foldl (TypedTokens.read flags) ⟨positional, none⟩ = ⟨positional ++ e.positional, none⟩ := by
  induction h generalizing positional with
  | nil => simp
  | positional hn _ ih =>
      simp only [List.foldl_cons, TypedTokens.read, hn]
      rw [ih, List.append_assoc, List.singleton_append]
  | switch hn hs _ ih =>
      simp only [List.foldl_cons, TypedTokens.read, hn, hs]
      exact ih positional
  | valued hn hs _ _ ih =>
      simp only [List.foldl_cons, TypedTokens.read, hn, hs]
      exact ih positional

theorem readTyped_of_extractFlags {tokens positional : List String} {slots : List (Option Value)}
    (h : (extractFlags flags actor tokens).value = some (positional, slots)) :
    readTyped flags tokens = ⟨positional, none⟩ := by
  obtain ⟨e, hs, rfl, -⟩ := exists_separation_of_extractFlags h
  exact foldl_of_separation hs []

theorem extractFlags_of_awaited {tokens : List String} {flag : Flag}
    (h : (readTyped flags tokens).awaited = some flag) (actor : Actor) :
    (extractFlags flags actor tokens).value = none := by
  cases hx : (extractFlags flags actor tokens).value with
  | none => rfl
  | some extracted =>
      obtain ⟨positional, slots⟩ := extracted
      have hr := readTyped_of_extractFlags hx
      simp [hr] at h

theorem flagBefore?_eq (flags : List Flag) (typed : List String) :
    flagBefore? flags typed = typed.getLast?.bind (valueFlag? flags) := by
  cases hl : typed.getLast? with
  | none => rw [flagBefore?, hl, Option.bind_none]
  | some last =>
      rw [Option.bind_some, flagBefore?, hl, valueFlag?]
      cases hn : flagNamed? flags last <;> simp only [hn]

theorem awaited_eq_flagBefore? {typed : List String}
    (h : ∀ last flag, typed.getLast? = some last → valueFlag? flags last = some flag →
      (readTyped flags typed.dropLast).awaited = none) :
    (readTyped flags typed).awaited = flagBefore? flags typed := by
  rw [flagBefore?_eq]
  rcases List.eq_nil_or_concat typed with rfl | ⟨before, last, rfl⟩
  · rfl
  · rw [List.concat_eq_append] at h ⊢
    rw [List.dropLast_concat, List.getLast?_concat] at h
    rw [readTyped_append, List.getLast?_concat, Option.bind_some]
    cases hb : (readTyped flags before).awaited with
    | none => exact awaited_read_of_none hb last
    | some flag =>
        rw [read_of_awaited hb]
        -- The last token is a value here; were it the name of a value flag too, the two readings would part.
        cases hv : valueFlag? flags last with
        | none => rfl
        | some other => simp [h last other rfl hv] at hb

end Matching

inductive Command.SlotOffer (c : Command σ) (actor : Actor) (read : TypedTokens) : Logged (List String) → Prop
  | flagValue {flag : Flag} : read.awaited = some flag → SlotOffer c actor read (flag.type.complete actor)
  | argument {a : Argument} : read.awaited = none → c.arguments[read.positional.length]? = some a →
      SlotOffer c actor read (a.type.complete actor)
  | variadic {a : Argument} : read.awaited = none → c.arguments.length ≤ read.positional.length →
      c.arguments.getLast? = some a → a.isVariadic = true → SlotOffer c actor read (a.type.complete actor)
  | nothing : read.awaited = none → c.arguments.length ≤ read.positional.length →
      (∀ a, c.arguments.getLast? = some a → a.isVariadic = false) → SlotOffer c actor read (pure [])

namespace Command

variable {c : Command σ} {actor : Actor} {typed : List String} {current : String}

theorem slotCandidates_eq (h : startsWithDash current = false) :
    c.slotCandidates actor typed current =
      match flagBefore? c.flags typed with
      | some flag => flag.type.complete actor
      | none =>
          match argumentAt? c.arguments (positionalCount c.flags typed) with
          | some a => a.type.complete actor
          | none => pure [] := by
  rw [slotCandidates, h]
  rfl

theorem slotOffer_of_argumentAt? {read : TypedTokens} (h : read.awaited = none) :
    c.SlotOffer actor read
      (match argumentAt? c.arguments read.positional.length with
        | some a => a.type.complete actor
        | none => pure []) := by
  rw [argumentAt?]
  cases ha : c.arguments[read.positional.length]? with
  | some a => exact .argument h ha
  | none =>
      have hl : c.arguments.length ≤ read.positional.length := List.getElem?_eq_none_iff.mp ha
      cases hlast : c.arguments.getLast? with
      | none => exact .nothing h hl (by simp [hlast])
      | some a =>
          cases hv : a.isVariadic with
          | true =>
              simp only [hv]
              exact .variadic h hl hlast hv
          | false =>
              simp only [hv]
              refine .nothing h hl ?_
              intro b hb
              obtain rfl : a = b := Option.some.inj (hlast.symm.trans hb)
              exact hv

theorem typed_tokens_read_as_matched (c : Command σ) (actor : Actor) (typed : List String) (current : String)
    (hc : startsWithDash current = false) :
    let read := readTyped c.flags typed
    (∀ positional slots, (extractFlags c.flags actor typed).value = some (positional, slots) →
      read = ⟨positional, none⟩) ∧
    (∀ flag, read.awaited = some flag → (extractFlags c.flags actor typed).value = none) ∧
    ((∀ last flag, typed.getLast? = some last → valueFlag? c.flags last = some flag →
        (readTyped c.flags typed.dropLast).awaited = none) →
      c.SlotOffer actor read (c.slotCandidates actor typed current)) ∧
    ∀ last flag, typed.getLast? = some last → valueFlag? c.flags last = some flag →
      c.slotCandidates actor typed current = flag.type.complete actor := by
  intro read
  refine ⟨?_, ?_, ?_, ?_⟩
  · intro positional slots h
    exact readTyped_of_extractFlags h
  · intro flag h
    exact extractFlags_of_awaited h actor
  · intro h
    have ha : read.awaited = flagBefore? c.flags typed := awaited_eq_flagBefore? h
    rw [slotCandidates_eq hc, ← ha, ← length_positional]
    cases hr : read.awaited with
    | some flag => exact .flagValue hr
    | none => exact slotOffer_of_argumentAt? hr
  · intro last flag hl hf
    have hb : flagBefore? c.flags typed = some flag := by
      rw [flagBefore?_eq, hl, Option.bind_some, hf]
    rw [slotCandidates_eq hc, hb]

def suggesting (name : String) (candidates : List String) : ArgumentType :=
  ⟨name, fun _ token => .returned (some (.string token)), some fun _ => .returned candidates⟩

def gift : Command Nat :=
  { (Command.bare "give" "give" : Command Nat) with
    arguments := [⟨suggesting "player" ["Steve", "Alex"], "who", 0, false, false, false, none⟩]
    flags := [⟨suggesting "color" ["red", "green"], "--dye", [], 0, false, none⟩] }

theorem gift_reads_a_dye :
    let actor := Actor.granted "Alex" .player []
    let typed := ["Steve", "--dye"]
    let h := ∀ last flag, typed.getLast? = some last → valueFlag? gift.flags last = some flag →
      (readTyped gift.flags typed.dropLast).awaited = none
    startsWithDash "r" = false ∧ h ∧ (gift.slotCandidates actor typed "r").value = ["red", "green"] ∧
      gift.SlotOffer actor (readTyped gift.flags typed) (gift.slotCandidates actor typed "r") := by
  intro actor typed h
  have hlast : h := fun _ _ _ _ => rfl
  exact ⟨rfl, hlast, rfl, (typed_tokens_read_as_matched gift actor typed "r" rfl).2.2.1 hlast⟩

theorem value_named_as_flag_is_read_twice :
    let actor := Actor.granted "Alex" .player []
    let typed := ["--dye", "--dye"]
    startsWithDash "" = false ∧ readTyped gift.flags typed = ⟨[], none⟩ ∧
      (gift.slotCandidates actor typed "").value = ["red", "green"] ∧
      ¬ gift.SlotOffer actor (readTyped gift.flags typed) (gift.slotCandidates actor typed "") := by
  intro actor typed
  have hr : readTyped gift.flags typed = ⟨[], none⟩ := rfl
  have hs : (gift.slotCandidates actor typed "").value = ["red", "green"] := rfl
  refine ⟨rfl, hr, hs, ?_⟩
  rw [hr]
  generalize gift.slotCandidates actor typed "" = offered at hs
  intro ho
  cases ho with
  | flagValue ha => simp at ha
  | argument _ ha =>
      obtain rfl := Option.some.inj ha
      simp [ArgumentType.complete, suggesting] at hs
  | variadic _ hl => simp [gift] at hl
  | nothing _ hl => simp [gift] at hl

end Command

end CommandTree
