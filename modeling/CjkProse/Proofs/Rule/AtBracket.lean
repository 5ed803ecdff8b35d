import CjkProse.Proofs.Reading.Sentences
import CjkProse.Proofs.Rule.Beside

/-!
# A pass at a bracket

When the pass comes to a bracket, the bracket is as it has been at first, but for its width.  The
rule for brackets closes the gap inside of it, asks whether it is exempt, and sets the gap outside of
it if it is not.  No other rule sets a gap there but the one for wrappers.

## Main definitions

* `Rules.closeBracket`, `Rules.spaceBracket` — what the rule does inside and outside of a bracket.
* `seenAt`, `exemptAt` — what the rule sees when the pass is at a bracket, and its answer.
* `AtBracket` — a pass at a bracket.

## Main results

* `Rules.bracketSpace_eq` — the rule for brackets, by the answer.
* `exists_atBracket` — **what the pass finds at a bracket, and what it leaves.**
-/

namespace CjkProse

open Neighbours

/-! ### The rule, by its answer -/

namespace Rules

/-- Empties the gap inside of a bracket, if that is asked for. -/
def closeBracket (config : Config) (nodes : List Node) (i : Nat) (left : Bool) : List Node :=
  closeGap nodes (if left then spaceAfterHolder? nodes i else spaceBeforeHolder? nodes i)
    config.noSpaceInsideBracket

/-- Sets the gap outside of a bracket, if something faces it there. -/
def spaceBracket (config : Config) (nodes : List Node) (i : Nat) (c : Char) : List Node :=
  if isLeft c then
    if (nodeBefore? nodes i).any fun b => facesEnclosure b || b.isCharAnd isRightBracket then
      outsideBracket config nodes (spaceBeforeHolder? nodes i) (isWideOrChinese c)
    else nodes
  else if (nodeAfter? nodes i).any fun b => facesEnclosure b || b.isCharAnd isLeftBracket then
    outsideBracket config nodes (spaceAfterHolder? nodes i) (isWideOrChinese c)
  else nodes

/-- First the gap inside of a bracket is closed.  Then it is asked whether the bracket is exempt,
and if it is not, the gap outside of it is set. -/
theorem bracketSpace_eq {config : Config} {nodes : List Node} {i : Nat} {v : Revisable Char}
    {a : Revisable Space} (here : nodes[i]? = some (.char v a)) (hv : isBracket v.value = true) :
    bracketSpace config nodes i =
      if isExempt (closeBracket config nodes i (isLeft v.value)) i (isLeft v.value) then
        closeBracket config nodes i (isLeft v.value)
      else spaceBracket config (closeBracket config nodes i (isLeft v.value)) i v.value := by
  unfold bracketSpace
  rw [here]
  dsimp only
  rw [if_pos hv]
  rfl

end Rules

/-- The rules that run before the one for brackets. -/
def Rule.beforeBrackets : List Rule :=
  [.markWidth, .quoteStyle, .letterSpace, .pauseSpace, .quoteSpace]

/-- The rules that run after the one for brackets. -/
def Rule.afterBrackets : List Rule := [.codeSpace, .wrapperSpace, .abbreviation, .numberUnit]

theorem Rule.all_eq : all = beforeBrackets ++ bracketSpace :: afterBrackets := rfl

/-- What the rule for brackets sees in a pass over a list when it asks whether the bracket at index
`i` is exempt. -/
def seenAt (config : Config) (nodes : List Node) (i : Nat) (left : Bool) : List Node :=
  Rules.closeBracket config
    (Rule.applyAllAt Rule.beforeBrackets config (Rule.stateAt config nodes i) i) i left

/-- Whether the bracket at index `i` is exempt when the rules run over a list, after they have run
inside of its quotations. -/
def exemptAt (config : Config) (nodes : List Node) (i : Nat) (left : Bool) : Bool :=
  isExempt (seenAt config (sweepInside Rule.all config nodes) i left) i left

/-! ### A bracket -/

section Bracket

variable {config : Config} {nodes : List Node} {k : Nat} {v : Revisable Char} {a : Revisable Space}

/-- Bringing a mark to its width keeps what it stands for. -/
theorem canonical_of_resized {w : Revisable Char} (h : w = v ∨ w = config.resizeMark v) :
    canonical w.value = canonical v.value := by
  rcases h with rfl | rfl
  · rfl
  · exact Config.canonical_resizeMark

/-- Before the rule for brackets a bracket is at most brought to its width. -/
theorem applyAllAt_beforeBrackets (class_ : ∀ n ∈ nodes, n.KeepsClass)
    (here : nodes[k]? = some (.char v a)) (hv : isBracket v.value = true) :
    ∃ w, (w = v ∨ w = config.resizeMark v) ∧
      Rule.applyAllAt Rule.beforeBrackets config nodes k = nodes.set k (.char w a) := by
  have hany : nodes[k]?.any (Node.isCharAnd isBracket) = true := by
    rw [here]
    exact hv
  have hlasts := (Lasts.refl class_).applyAt .markWidth config k
  have hidle : ∀ r, r ∉ [Rule.markWidth, .bracketSpace, .wrapperSpace] →
      r.applyAt config (Rule.markWidth.applyAt config nodes k) k =
        Rule.markWidth.applyAt config nodes k := by
    intro r hr
    apply Rule.applyAt_of_isBracket hlasts.keepsClass _ hr
    rw [hlasts.any_eq lasting_isBracket, hany]
  have hwidth : Rule.applyAllAt Rule.beforeBrackets config nodes k =
      Rules.markWidth config nodes k := by
    simp only [Rule.applyAllAt, Rule.beforeBrackets, List.foldl_cons, List.foldl_nil]
    rw [hidle .quoteStyle (by simp), hidle .letterSpace (by simp), hidle .pauseSpace (by simp),
      hidle .quoteSpace (by simp)]
    rfl
  rw [hwidth]
  unfold Rules.markWidth
  rw [here]
  dsimp only
  split
  · exact ⟨_, .inr rfl, rfl⟩
  · exact ⟨v, .inl rfl, (set_eq_self here).symm⟩

/-- After the rule for brackets only the space inside of a wrapper is closed. -/
theorem applyAllAt_afterBrackets (class_ : ∀ n ∈ nodes, n.KeepsClass)
    (here : nodes[k]?.any (Node.isCharAnd isBracket) = true) :
    Rule.applyAllAt Rule.afterBrackets config nodes k = Rules.wrapperSpace config nodes k := by
  have hidle : ∀ {ns : List Node}, Lasts nodes ns → ∀ r,
      r ∉ [Rule.markWidth, .bracketSpace, .wrapperSpace] → r.applyAt config ns k = ns := by
    intro ns hlasts r hr
    apply Rule.applyAt_of_isBracket hlasts.keepsClass _ hr
    rw [hlasts.any_eq lasting_isBracket, here]
  have hself := Lasts.refl class_
  have hwrapper := hself.applyAt .wrapperSpace config k
  simp only [Rule.applyAllAt, Rule.afterBrackets, List.foldl_cons, List.foldl_nil]
  rw [hidle hself .codeSpace (by simp), hidle hwrapper .abbreviation (by simp),
    hidle hwrapper .numberUnit (by simp)]
  rfl

/-- A pass at a bracket. -/
structure AtBracket (config : Config) (nodes : List Node) (k : Nat) (w : Revisable Char)
    (a : Revisable Space) : Prop where
  /-- It is there when the pass comes. -/
  here : ∃ v, (Rule.stateAt config nodes k)[k]? = some (.char v a)
  /-- What the rule for brackets sees. -/
  seen : ∀ left, seenAt config nodes k left =
    Rules.closeBracket config ((Rule.stateAt config nodes k).set k (.char w a)) k left
  /-- What is left when the pass goes on. -/
  next : Rule.stateAt config nodes (k + 1) =
    Rules.wrapperSpace config
      (if isExempt (seenAt config nodes k (isLeft w.value)) k (isLeft w.value) then
        seenAt config nodes k (isLeft w.value)
      else Rules.spaceBracket config (seenAt config nodes k (isLeft w.value)) k w.value) k

/-- When a pass comes to a bracket, it is as it has been at first, but for its width. -/
theorem exists_atBracket (class_ : ∀ n ∈ nodes, n.KeepsClass)
    (here : nodes[k]? = some (.char v a)) (hv : isBracket v.value = true) :
    ∃ w, (w = v ∨ w = config.resizeMark v) ∧ AtBracket config nodes k w a := by
  have hseen : isWrapperAt nodes k = false := isWrapperAt_eq_false here rfl
  have hlasts := @Rule.lasts_stateAt config nodes class_ k
  have hget : (Rule.stateAt config nodes k)[k]? = some (.char v a) := by
    rw [Rule.getElem?_stateAt (Nat.le_refl k) hseen, here]
  obtain ⟨w, hw, hbefore⟩ := @applyAllAt_beforeBrackets config _ k v a hlasts.keepsClass hget hv
  have hlt : k < (Rule.stateAt config nodes k).length := (List.getElem?_eq_some_iff.mp hget).1
  have hset : ((Rule.stateAt config nodes k).set k (.char w a))[k]? = some (.char w a) :=
    List.getElem?_set_self hlt
  have hwv : isBracket w.value = true := by
    rw [← isBracket_canonical, canonical_of_resized hw, isBracket_canonical, hv]
  refine ⟨w, hw, ⟨v, hget⟩, ?_, ?_⟩
  · intro left
    rw [seenAt, hbefore]
  · -- all rules run, one after the other
    have hsplit : Rule.applyAllAt Rule.all config (Rule.stateAt config nodes k) k =
        Rule.applyAllAt Rule.afterBrackets config
          (Rules.bracketSpace config ((Rule.stateAt config nodes k).set k (.char w a)) k) k := by
      rw [← hbefore, Rule.all_eq]
      unfold Rule.applyAllAt
      rw [List.foldl_append, List.foldl_cons]
      rfl
    have hlasts' := (hlasts.applyAllAt Rule.beforeBrackets config k).applyAt .bracketSpace config k
    rw [hbefore] at hlasts'
    change Lasts nodes (Rules.bracketSpace config _ k) at hlasts'
    have hany : (Rules.bracketSpace config ((Rule.stateAt config nodes k).set k (.char w a))
        k)[k]?.any (Node.isCharAnd isBracket) = true := by
      rw [hlasts'.any_eq lasting_isBracket, here]
      exact hv
    rw [Rule.stateAt_succ, hsplit, applyAllAt_afterBrackets hlasts'.keepsClass hany,
      Rules.bracketSpace_eq hset hwv, seenAt, hbefore]

end Bracket

/-! ### Spaces around a bracket -/

section Seen

variable {config : Config} {nodes : List Node} {k m : Nat} {w : Revisable Char}
  {a : Revisable Space}

theorem lasts_seenAt (class_ : ∀ n ∈ nodes, n.KeepsClass) (k : Nat) (left : Bool) :
    Lasts nodes (seenAt config nodes k left) :=
  ((Rule.lasts_stateAt class_ k).applyAllAt _ config k).closeGap _ _

namespace AtBracket

variable (h : AtBracket config nodes k w a)

include h

theorem isWrapperAt_set (m : Nat) :
    isWrapperAt ((Rule.stateAt config nodes k).set k (.char w a)) m = isWrapperAt nodes m := by
  obtain ⟨v, here⟩ := h.here
  rw [(@WithinReach.set k _ _ (.char w a) here rfl rfl).local.wrappers, Rule.isWrapperAt_stateAt]

theorem getElem?_set_self : ((Rule.stateAt config nodes k).set k (.char w a))[k]? =
    some (.char w a) := by
  obtain ⟨v, here⟩ := h.here
  exact List.getElem?_set_self (List.getElem?_eq_some_iff.mp here).1

/-- Before a left bracket all is as it has been when the pass came there. -/
theorem getElem?_left_of_lt (hm : m < k) :
    (seenAt config nodes k true)[m]? = (Rule.stateAt config nodes k)[m]? := by
  rw [h.seen, Rules.closeBracket, if_pos rfl,
    getElem?_closeGap_of_ne (ne_of_mem_spaceAfterHolder? hm),
    List.getElem?_set_ne (Nat.ne_of_gt hm)]

/-- After the gap on the right of a left bracket all is as it has been at first. -/
theorem getElem?_left_of_gt (hm : k < m) (seen : isWrapperAt nodes m = false) :
    (seenAt config nodes k true)[m]? = nodes[m]? := by
  have hfar : ¬ Near ((Rule.stateAt config nodes k).set k (.char w a)) k m := by
    apply not_near_of_lt hm
    rw [h.isWrapperAt_set, seen]
  rw [h.seen, Rules.closeBracket, if_pos rfl, (WithinReach.closeGap inReach_after _).local.frame m hfar,
    List.getElem?_set_ne (Nat.ne_of_lt hm), Rule.getElem?_stateAt (Nat.le_of_lt hm) seen]

/-- The gap directly after a left bracket is closed if that is asked for. -/
theorem getElem?_left_self (hlt : k + 1 < nodes.length)
    (seen : isWrapperAt nodes (k + 1) = false) (class_ : ∀ n ∈ nodes, n.KeepsClass) :
    (seenAt config nodes k true)[k]? =
      some (.char w (if config.noSpaceInsideBracket then a.revise Space.empty else a)) := by
  have hlength : k + 1 < ((Rule.stateAt config nodes k).set k (.char w a)).length := by
    rw [List.length_set, (Rule.lasts_stateAt class_ k).length_eq]
    exact hlt
  have hn := List.getElem?_eq_getElem hlength
  have hseen := h.isWrapperAt_set (k + 1)
  rw [isWrapperAt, hn, seen] at hseen
  rw [h.seen, Rules.closeBracket, if_pos rfl, spaceAfterHolder?_of_seen hn hseen]
  cases config.noSpaceInsideBracket with
  | false => exact h.getElem?_set_self
  | true =>
    show (List.modify _ k (Node.setAfter Space.empty))[k]? = _
    rw [List.getElem?_modify_eq, h.getElem?_set_self]
    rfl

/-- The space after a right bracket is not written to. -/
theorem getElem?_right_self : (seenAt config nodes k false)[k]? = some (.char w a) := by
  rw [h.seen, Rules.closeBracket, if_neg Bool.false_ne_true,
    getElem?_closeGap_of_ne (ne_of_mem_spaceBeforeHolder? (Nat.le_refl k))]
  exact h.getElem?_set_self

/-- Before the gap on the left of a right bracket all is as it has been when the pass came there. -/
theorem getElem?_right_of_lt {b : Nat} (hmb : m < b) (hbk : b < k)
    (seen : isWrapperAt nodes b = false) :
    (seenAt config nodes k false)[m]? = (Rule.stateAt config nodes k)[m]? := by
  have hfar : ¬ Near ((Rule.stateAt config nodes k).set k (.char w a)) k m := by
    apply not_near_of_between hmb hbk
    rw [h.isWrapperAt_set, seen]
  rw [h.seen, Rules.closeBracket, if_neg Bool.false_ne_true,
    (WithinReach.closeGap inReach_before _).local.frame m hfar,
    List.getElem?_set_ne (Nat.ne_of_gt (Nat.lt_trans hmb hbk))]

end AtBracket

/-- The gap directly before a right bracket is closed if that is asked for. -/
theorem AtBracket.getElem?_right_before (h : AtBracket config nodes (m + 1) w a)
    (seen : isWrapperAt nodes m = false) :
    (seenAt config nodes (m + 1) false)[m]? =
      (Rule.stateAt config nodes (m + 1))[m]?.map fun n =>
        if config.noSpaceInsideBracket then n.setAfter Space.empty else n := by
  have hne : m + 1 ≠ m := Nat.succ_ne_self m
  have hseen := (h.isWrapperAt_set m).trans seen
  rw [h.seen, Rules.closeBracket, if_neg Bool.false_ne_true, spaceBeforeHolder?_of_seen hseen]
  cases config.noSpaceInsideBracket with
  | false =>
    rw [← List.getElem?_set_ne hne (a := .char w a)]
    simp [closeGap]
  | true =>
    show (List.modify _ m (Node.setAfter Space.empty))[m]? = _
    rw [List.getElem?_modify_eq, List.getElem?_set_ne hne]
    rfl

/-- A run that is directly before a bracket is as it has been at first when the pass comes to the
bracket. -/
theorem getElem?_stateAt_of_isHalf (class_ : ∀ n ∈ nodes, n.KeepsClass)
    (here : nodes[m]?.any Node.isHalf = true)
    (next : nodes[m + 1]?.any (Node.isCharAnd isBracket) = true) :
    (Rule.stateAt config nodes (m + 1))[m]? = nodes[m]? := by
  have hlasts := @Rule.lasts_stateAt config nodes class_ m
  have hidle := @applyAllAt_of_isHalf config (Rule.stateAt config nodes m) m
    (by rw [hlasts.any_eq lasting_isHalf, here]) (by rw [hlasts.any_eq lasting_isBracket, next])
  rw [Rule.stateAt_succ, hidle, Rule.getElem?_stateAt (Nat.le_refl m) (isWrapperAt_of_isHalf here)]

end Seen

end CjkProse
