import CjkProse.Proofs.Rule.Bodies
import CjkProse.Proofs.Rule.Serving

/-!
# The rules at runs and brackets

At a run of half-width letters, and at a bracket, most rules do nothing.  The gap between two nodes
that are seen belongs to the left one, so it is clear which gap is set there.

## Main definitions

* `isCounted` — a number before a unit.

## Main results

* `Rule.applyAt_of_isBracket`, `Rule.applyAt_of_isHalf` — the rules that do nothing.
* `applyAllAt_of_isHalf` — all rules at a run directly before a bracket.
* `getElem?_applyAllAt_of_isHalf` — what all rules at a run do to the gap before it.
-/

namespace CjkProse

open Neighbours

/-- Whether the node at an index is a number before a unit. -/
def isCounted (config : Config) (nodes : List Node) (i : Nat) : Bool :=
  nodes[i]?.any Rules.isNumber && (nodeAfter? nodes i).any (Rules.isFullUnit config)

theorem lasting_isUnit (config : Config) : Node.Lasting (Rules.isUnit config) where
  mapAfter g n := by cases n <;> rfl
  group _ _ _ _ _ _ _ _ _ _ := rfl
  char _ _ _ _ _ := rfl

theorem lasting_isFullUnit (config : Config) : Node.Lasting (Rules.isFullUnit config) :=
  lasting_isFull.map₂ and (lasting_isUnit config)

section Counted

variable {nodes nodes' : List Node}

theorem Lasts.isCounted (h : Lasts nodes nodes') (config : Config) (i : Nat) :
    isCounted config nodes' i = isCounted config nodes i := by
  unfold CjkProse.isCounted nodeAfter?
  rw [h.any_eq lasting_isNumber, visibleAfter?_congr (h.map_eq lasting_isWrapper)]
  cases visibleAfter? nodes i with
  | none => rfl
  | some r => exact congrArg _ (h.any_eq (lasting_isFullUnit config) r)

end Counted

/-! ### What the rules do at a bracket and at a run before one -/

namespace Rule

variable {config : Config} {nodes : List Node} {i : Nat}

theorem applyAllAt_of_forall {rules : List Rule}
    (h : ∀ r ∈ rules, r.applyAt config nodes i = nodes) :
    applyAllAt rules config nodes i = nodes := by
  unfold applyAllAt
  induction rules with
  | nil => rfl
  | cons r rules ih =>
    obtain ⟨hr, hrules⟩ := List.forall_mem_cons.mp h
    rw [List.foldl_cons, hr]
    exact ih hrules

/-- At a bracket only three rules do anything. -/
theorem applyAt_of_isBracket (class_ : ∀ n ∈ nodes, n.KeepsClass)
    (here : nodes[i]?.any (Node.isCharAnd isBracket) = true) {r : Rule}
    (hr : r ∉ [markWidth, bracketSpace, wrapperSpace]) : r.applyAt config nodes i = nodes := by
  obtain ⟨v, a, here, hv⟩ := exists_char here
  have hpause : (Node.char v a).isCharAnd isPause = false := by
    have hk : (CharKind.of v.value).isBracket = true := hv
    show (CharKind.of v.value).isPause = false
    cases hkind : CharKind.of v.value <;> simp_all [CharKind.isBracket, CharKind.isPause]
  apply applyAt_of_not_serves here (class_ _ (List.mem_of_getElem? here))
  cases r with
  | markWidth | bracketSpace | wrapperSpace => simp at hr
  | pauseSpace | abbreviation => exact hpause
  | _ => rfl

/-- At a half-width run only three rules do anything. -/
theorem applyAt_of_isHalf (here : nodes[i]?.any Node.isHalf = true) {r : Rule}
    (hr : r ∉ [letterSpace, wrapperSpace, numberUnit]) : r.applyAt config nodes i = nodes := by
  obtain ⟨n, here, hn⟩ := (Option.any_eq_true _ _).mp here
  cases n with
  | half v a =>
    apply applyAt_of_not_serves here trivial
    cases r with
    | letterSpace | wrapperSpace | numberUnit => simp at hr
    | _ => rfl
  | char v a => cases hn
  | full v a => cases hn
  | event e s a => cases hn
  | group o inner ns c a => cases hn

end Rule

/-! ### Gaps between nodes that are seen -/

section Gaps

variable {config : Config} {nodes : List Node} {i m : Nat}

theorem spaceBeforeHolder?_of_seen (seen : isWrapperAt nodes i = false) :
    spaceBeforeHolder? nodes (i + 1) = some i := by
  have hvisible : visibleBefore? nodes (i + 1) = some i := by
    rw [visibleBefore?, seen]
    rfl
  rw [spaceBeforeHolder?, hvisible, Option.map_some, gapHolder, Nat.add_sub_cancel_left]
  rfl

theorem visibleAfter?_of_seen {n : Node} (next : nodes[i + 1]? = some n)
    (seen : n.isWrapper = false) : visibleAfter? nodes i = some (i + 1) := by
  obtain ⟨hlt, rfl⟩ := List.getElem?_eq_some_iff.mp next
  rw [visibleAfter?, List.drop_eq_getElem_cons hlt, List.findIdx?_cons, seen]
  rfl

theorem spaceAfterHolder?_of_seen {n : Node} (next : nodes[i + 1]? = some n)
    (seen : n.isWrapper = false) : spaceAfterHolder? nodes i = some i := by
  rw [spaceAfterHolder?, visibleAfter?_of_seen next seen, Option.map_some, gapHolder,
    Nat.add_sub_cancel_left]
  rfl

theorem getElem?_setGap_of_ne {holder : Option Nat} (h : ∀ k ∈ holder, k ≠ m) (s : Space) :
    (setGap nodes holder s)[m]? = nodes[m]? := by
  cases holder with
  | none => rfl
  | some k => exact List.getElem?_modify_ne _ _ (h k rfl)

theorem getElem?_closeGap_of_ne {holder : Option Nat} (h : ∀ k ∈ holder, k ≠ m) (asked : Bool) :
    (closeGap nodes holder asked)[m]? = nodes[m]? := by
  cases asked with
  | false => rfl
  | true => exact getElem?_setGap_of_ne h Space.empty

theorem getElem?_demandGap_of_ne {holder : Option Nat} (h : ∀ k ∈ holder, k ≠ m)
    (demand : Option Bool) : (demandGap nodes holder demand)[m]? = nodes[m]? := by
  cases demand with
  | none => rfl
  | some present => exact getElem?_setGap_of_ne h _

theorem getElem?_revertGap_of_ne {holder : Option Nat} (h : ∀ k ∈ holder, k ≠ m) :
    (revertGap nodes holder)[m]? = nodes[m]? := by
  cases holder with
  | none => rfl
  | some k => exact List.getElem?_modify_ne _ _ (h k rfl)

/-- The gap after a node belongs to no node before it. -/
theorem ne_of_mem_spaceAfterHolder? (h : m < i) : ∀ k ∈ spaceAfterHolder? nodes i, k ≠ m := by
  intro k hk
  obtain ⟨r, hr, rfl⟩ := Option.map_eq_some_iff.mp hk
  obtain ⟨hlt, -⟩ := visibleAfter?_spec hr
  obtain ⟨hle, -⟩ := @gapHolder_spec nodes i r hlt
  omega

/-- The gap before a node belongs to a node before it. -/
theorem ne_of_mem_spaceBeforeHolder? (h : i ≤ m) : ∀ k ∈ spaceBeforeHolder? nodes i, k ≠ m := by
  intro k hk
  obtain ⟨l, hl, rfl⟩ := Option.map_eq_some_iff.mp hk
  obtain ⟨-, hgt⟩ := @gapHolder_spec nodes l i (visibleBefore?_spec hl).1
  omega

theorem getElem?_wrapperSpace_of_ne (h : m ≠ i) :
    (Rules.wrapperSpace config nodes i)[m]? = nodes[m]? := by
  unfold Rules.wrapperSpace
  split
  · apply getElem?_closeGap_of_ne
    intro k hk
    cases hk
    exact h.symm
  · rfl

/-- Between two nodes that are seen there is no space inside of a wrapper. -/
theorem wrapperSpace_of_seen (seen : isWrapperAt nodes i = false)
    (seen' : isWrapperAt nodes (i + 1) = false) : Rules.wrapperSpace config nodes i = nodes := by
  unfold Rules.wrapperSpace
  split
  · next current next hc hn =>
    rw [isWrapperAt, hc] at seen
    have hnext : nodes[i + 1]? = some next := hn
    rw [isWrapperAt, hnext] at seen'
    simp only [Option.any_some, Node.isWrapper, Bool.or_eq_false_iff] at seen seen'
    have hinside : Rules.isInsideWrapper current next = false := by
      simp [Rules.isInsideWrapper, seen, seen']
    rw [hinside, Bool.and_false]
    rfl
  · rfl

end Gaps

/-! ### Runs next to brackets -/

section Runs

variable {config : Config} {nodes : List Node} {i : Nat}

theorem isWrapperAt_of_isHalf (h : nodes[i]?.any Node.isHalf = true) :
    isWrapperAt nodes i = false := by
  obtain ⟨n, hn, hhalf⟩ := (Option.any_eq_true _ _).mp h
  rw [isWrapperAt, hn]
  cases n with
  | half v a => rfl
  | char v a => cases hhalf
  | full v a => cases hhalf
  | event e s a => cases hhalf
  | group o inner ns c a => cases hhalf

theorem isWrapperAt_of_isCharAnd {p : Char → Bool} (h : nodes[i]?.any (Node.isCharAnd p) = true) :
    isWrapperAt nodes i = false := by
  obtain ⟨v, a, hn, -⟩ := exists_char h
  exact isWrapperAt_eq_false hn rfl

/-- A run that is directly before a bracket is left alone by the rules there. -/
theorem applyAllAt_of_isHalf (here : nodes[i]?.any Node.isHalf = true)
    (next : nodes[i + 1]?.any (Node.isCharAnd isBracket) = true) :
    Rule.applyAllAt Rule.all config nodes i = nodes := by
  obtain ⟨v, a, hnext, -⟩ := exists_char next
  have hafter : nodeAfter? nodes i = some (.char v a) := by
    rw [nodeAfter?, visibleAfter?_of_seen hnext rfl, Option.bind_some, hnext]
  apply Rule.applyAllAt_of_forall
  intro r _
  by_cases hr : r ∈ [Rule.letterSpace, Rule.wrapperSpace, Rule.numberUnit]
  · simp only [List.mem_cons, List.not_mem_nil, or_false] at hr
    rcases hr with rfl | rfl | rfl
    · show Rules.letterSpace config nodes i = nodes
      unfold Rules.letterSpace
      rw [hafter]
      split
      · next current next _ hn =>
        cases hn
        simp [Node.isHalf, Node.isFull, Node.isContent]
      · rfl
    · exact wrapperSpace_of_seen (isWrapperAt_of_isHalf here) (isWrapperAt_of_isCharAnd next)
    · show Rules.numberUnit config nodes i = nodes
      unfold Rules.numberUnit
      rw [hafter]
      simp [Rules.isFullUnit, Node.isFull]
  · exact Rule.applyAt_of_isHalf here hr

/-- At a run the rule for letters sets the gap after it. -/
theorem getElem?_letterSpace_of_lt {m : Nat} (h : m < i) :
    (Rules.letterSpace config nodes i)[m]? = nodes[m]? := by
  have hne := @ne_of_mem_spaceAfterHolder? nodes i m h
  unfold Rules.letterSpace
  split
  · next current next _ _ =>
    dsimp only
    by_cases hhalf : (current.isHalf && next.isHalf) = true
    · rw [if_pos hhalf]
      split
      · exact getElem?_setGap_of_ne hne _
      · rfl
    rw [if_neg hhalf]
    by_cases hfull : (current.isFull && next.isFull) = true
    · rw [if_pos hfull]
      exact getElem?_closeGap_of_ne hne _
    rw [if_neg hfull]
    by_cases hmixed : (current.isContent && next.isContent) = true
    · rw [if_pos hmixed]
      by_cases hunit : Rules.isUnit config (if current.isFull then current else next) = true
      · rw [if_pos hunit]
      · rw [if_neg hunit]
        exact getElem?_demandGap_of_ne hne _
    · rw [if_neg hmixed]
  · rfl

/-- Of the gap before a run only the exception for units takes anything back. -/
theorem getElem?_applyAllAt_of_isHalf (class_ : ∀ n ∈ nodes, n.KeepsClass)
    (here : nodes[i + 1]?.any Node.isHalf = true) (seen : isWrapperAt nodes i = false) :
    (Rule.applyAllAt Rule.all config nodes (i + 1))[i]? =
      if isCounted config nodes (i + 1) then nodes[i]?.map Node.revertAfter else nodes[i]? := by
  have hlasts := ((Lasts.refl class_).applyAt .letterSpace config (i + 1)).applyAt .wrapperSpace
    config (i + 1)
  have hreach := (Rule.withinReach_applyAt config .letterSpace nodes (i + 1)).trans
    (Rule.withinReach_applyAt config .wrapperSpace _ (i + 1))
  have hget : (Rules.wrapperSpace config (Rules.letterSpace config nodes (i + 1)) (i + 1))[i]? =
      nodes[i]? := by
    rw [getElem?_wrapperSpace_of_ne (Nat.ne_of_lt (Nat.lt_succ_self i)),
      getElem?_letterSpace_of_lt (Nat.lt_succ_self i)]
  obtain ⟨n, hn, hhalf⟩ := (Option.any_eq_true _ _).mp here
  rw [applyAllAt_of_isContent class_ hn (by simp [Node.isContent, hhalf])]
  have hcounted := hlasts.isCounted config (i + 1)
  have hholder := spaceBeforeHolder?_of_seen ((isWrapperAt_congr hreach.wrappers i).trans seen)
  change isCounted config (Rules.wrapperSpace config (Rules.letterSpace config nodes (i + 1))
    (i + 1)) (i + 1) = _ at hcounted
  change spaceBeforeHolder? (Rules.wrapperSpace config (Rules.letterSpace config nodes (i + 1))
    (i + 1)) (i + 1) = _ at hholder
  generalize Rules.wrapperSpace config (Rules.letterSpace config nodes (i + 1)) (i + 1) = ns at *
  rw [← hcounted]
  show (Rules.numberUnit config ns (i + 1))[i]? = _
  unfold Rules.numberUnit isCounted
  split
  · dsimp only
    rw [getElem?_revertGap_of_ne (ne_of_mem_spaceAfterHolder? (Nat.lt_succ_self i)), hholder,
      ← hget]
    exact List.getElem?_modify_eq _ _ _
  · exact hget

end Runs

end CjkProse
