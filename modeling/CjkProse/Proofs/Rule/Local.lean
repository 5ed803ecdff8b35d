import CjkProse.Proofs.Rule.Lasting

/-!
# What a rule leaves alone

A rule at a node changes that node and the two gaps beside it, which wrappers may draw out.  So a
node that is seen stays as it is until the pass comes to it, and again once the pass has left the
next node that is seen behind.

## Main definitions

* `InReach` — the indexes whose nodes a rule writes to.
* `WithinReach` — lists that differ only in the reach of an index.
* `Near`, `Local` — the same, told by the wrappers alone.
* `Rule.stateAt` — a list when the pass over it comes to an index.

## Main results

* `Rule.withinReach_applyAt` — **a rule changes its own node and the two that own the gaps beside
  it only.**
* `Rule.local_applyAllAt` — so rules change nodes near their own index only.
* `Rule.lasts_stateAt` — the lasting traits of a list are there all along.
* `Rule.getElem?_stateAt`, `Rule.getElem?_stateAt_of_passed` — a node before the pass comes to it,
  and after the pass has left it behind.
-/

namespace CjkProse

open Neighbours

/-! ### Neighbours are told by the wrappers -/

section Congr

variable {nodes nodes' : List Node} {i : Nat}

theorem isWrapperAt_eq_false {n : Node} (here : nodes[i]? = some n)
    (seen : n.isWrapper = false) : isWrapperAt nodes i = false := by
  rw [isWrapperAt, here, Option.any_some, seen]

theorem isWrapperAt_congr (h : nodes'.map Node.isWrapper = nodes.map Node.isWrapper) (k : Nat) :
    isWrapperAt nodes' k = isWrapperAt nodes k := any_eq_of_map_eq h k

theorem visibleBefore?_congr (h : nodes'.map Node.isWrapper = nodes.map Node.isWrapper) :
    visibleBefore? nodes' i = visibleBefore? nodes i := by
  induction i with
  | zero => rfl
  | succ i ih => rw [visibleBefore?, visibleBefore?, isWrapperAt_congr h, ih]

theorem visibleAfter?_congr (h : nodes'.map Node.isWrapper = nodes.map Node.isWrapper) :
    visibleAfter? nodes' i = visibleAfter? nodes i := by
  have hfind : ∀ ns : List Node, (ns.drop (i + 1)).findIdx? (fun n => !n.isWrapper) =
      ((ns.map Node.isWrapper).drop (i + 1)).findIdx? not := by
    intro ns
    rw [← List.map_drop, List.findIdx?_map]
    rfl
  unfold visibleAfter?
  rw [hfind, hfind, h]

theorem gapHolder_congr (h : nodes'.map Node.isClosing = nodes.map Node.isClosing) (l r : Nat) :
    gapHolder nodes' l r = gapHolder nodes l r := by
  have hlength : ∀ ns : List Node,
      (((ns.drop (l + 1)).take (r - l - 1)).takeWhile Node.isClosing).length =
        ((((ns.map Node.isClosing).drop (l + 1)).take (r - l - 1)).takeWhile id).length := by
    intro ns
    rw [← List.map_drop, ← List.map_take, List.takeWhile_map, List.length_map]
    rfl
  unfold gapHolder
  rw [hlength, hlength, h]

end Congr

/-! ### In reach of an index -/

/-- A rule at `i` writes to its own node and to those that own the gaps beside it. -/
def InReach (nodes : List Node) (i m : Nat) : Prop :=
  m = i ∨ m ∈ spaceBeforeHolder? nodes i ∨ m ∈ spaceAfterHolder? nodes i

/-- Two lists differ only in the reach of an index, and in no wrapper. -/
structure WithinReach (i : Nat) (nodes nodes' : List Node) : Prop where
  /-- The same nodes are wrappers. -/
  wrappers : nodes'.map Node.isWrapper = nodes.map Node.isWrapper
  /-- The same nodes are ends of wrappers. -/
  closings : nodes'.map Node.isClosing = nodes.map Node.isClosing
  /-- Other nodes are the same. -/
  frame : ∀ m, ¬ InReach nodes i m → nodes'[m]? = nodes[m]?

theorem inReach_self {nodes : List Node} {i : Nat} : InReach nodes i i := .inl rfl

theorem inReach_before {nodes : List Node} {i : Nat} :
    ∀ j ∈ spaceBeforeHolder? nodes i, InReach nodes i j := fun _ hj => .inr (.inl hj)

theorem inReach_after {nodes : List Node} {i : Nat} :
    ∀ j ∈ spaceAfterHolder? nodes i, InReach nodes i j := fun _ hj => .inr (.inr hj)

namespace WithinReach

variable {i : Nat} {nodes nodes' nodes'' : List Node}

theorem refl : WithinReach i nodes nodes := ⟨rfl, rfl, fun _ _ => rfl⟩

/-- What is in reach does not depend on which of two lists is meant. -/
theorem inReach_iff (h : WithinReach i nodes nodes') {k m : Nat} :
    InReach nodes' k m ↔ InReach nodes k m := by
  unfold InReach spaceBeforeHolder? spaceAfterHolder?
  rw [visibleBefore?_congr h.wrappers, visibleAfter?_congr h.wrappers]
  simp only [gapHolder_congr h.closings]

theorem trans (h : WithinReach i nodes nodes') (h' : WithinReach i nodes' nodes'') :
    WithinReach i nodes nodes'' := by
  refine ⟨h'.wrappers.trans h.wrappers, h'.closings.trans h.closings, fun m hm => ?_⟩
  rw [h'.frame m (mt h.inReach_iff.mp hm), h.frame m hm]

theorem ite {p : Prop} [Decidable p] (h : p → WithinReach i nodes nodes')
    (h' : WithinReach i nodes nodes'') : WithinReach i nodes (if p then nodes' else nodes'') := by
  split
  · next hp => exact h hp
  · exact h'

theorem modify {f : Node → Node} (wrapper : ∀ n, (f n).isWrapper = n.isWrapper)
    (closing : ∀ n, (f n).isClosing = n.isClosing) {j : Nat} (reach : InReach nodes i j) :
    WithinReach i nodes (nodes.modify j f) := by
  refine ⟨map_modify_eq wrapper nodes j, map_modify_eq closing nodes j, fun m hm => ?_⟩
  have hne : j ≠ m := by
    rintro rfl
    exact hm reach
  exact List.getElem?_modify_ne _ _ hne

theorem set {n n' : Node} (here : nodes[i]? = some n) (wrapper : n'.isWrapper = n.isWrapper)
    (closing : n'.isClosing = n.isClosing) : WithinReach i nodes (nodes.set i n') := by
  refine ⟨map_set_eq here wrapper, map_set_eq here closing, fun m hm => ?_⟩
  have hne : i ≠ m := by
    rintro rfl
    exact hm inReach_self
  exact List.getElem?_set_ne hne

theorem mapAfter {g : Revisable Space → Revisable Space} {j : Nat} (reach : InReach nodes i j) :
    WithinReach i nodes (nodes.modify j (Node.mapAfter g)) :=
  modify (fun n => by cases n <;> rfl) (fun n => by cases n <;> rfl) reach

theorem setGap {holder : Option Nat} (reach : ∀ j ∈ holder, InReach nodes i j) (s : Space) :
    WithinReach i nodes (setGap nodes holder s) := by
  cases holder with
  | none => exact refl
  | some j => exact mapAfter (reach j rfl)

theorem revertGap {holder : Option Nat} (reach : ∀ j ∈ holder, InReach nodes i j) :
    WithinReach i nodes (revertGap nodes holder) := by
  cases holder with
  | none => exact refl
  | some j => exact mapAfter (reach j rfl)

theorem closeGap {holder : Option Nat} (reach : ∀ j ∈ holder, InReach nodes i j) (asked : Bool) :
    WithinReach i nodes (closeGap nodes holder asked) :=
  ite (fun _ => setGap reach Space.empty) refl

theorem demandGap {holder : Option Nat} (reach : ∀ j ∈ holder, InReach nodes i j)
    (demand : Option Bool) : WithinReach i nodes (demandGap nodes holder demand) := by
  cases demand with
  | none => exact refl
  | some present => exact setGap reach _

end WithinReach

/-! ### Near an index -/

/-- Between the node at `i` and the gap after the node at `m` there are wrappers only. -/
def Near (nodes : List Node) (i m : Nat) : Prop :=
  (m < i ∧ ∀ k, m < k → k < i → isWrapperAt nodes k = true) ∨
    (i ≤ m ∧ ∀ k, i < k → k ≤ m → isWrapperAt nodes k = true)

/-- Two lists differ only near an index, and in no wrapper. -/
structure Local (i : Nat) (nodes nodes' : List Node) : Prop where
  /-- The same nodes are wrappers. -/
  wrappers : ∀ k, isWrapperAt nodes' k = isWrapperAt nodes k
  /-- Other nodes are the same. -/
  frame : ∀ m, ¬ Near nodes i m → nodes'[m]? = nodes[m]?

theorem near_self {nodes : List Node} {i : Nat} : Near nodes i i := by
  right
  exact ⟨Nat.le_refl i, fun k hik hki => absurd hik (Nat.not_lt.mpr hki)⟩

theorem near_before {nodes : List Node} {i : Nat} :
    ∀ j ∈ spaceBeforeHolder? nodes i, Near nodes i j := by
  intro j hj
  obtain ⟨l, hl, rfl⟩ := Option.map_eq_some_iff.mp hj
  obtain ⟨hlt, -, hbetween⟩ := visibleBefore?_spec hl
  obtain ⟨hle, hgt⟩ := @gapHolder_spec nodes l i hlt
  left
  exact ⟨hgt, fun k hk hki => hbetween k (Nat.lt_of_le_of_lt hle hk) hki⟩

theorem near_after {nodes : List Node} {i : Nat} :
    ∀ j ∈ spaceAfterHolder? nodes i, Near nodes i j := by
  intro j hj
  obtain ⟨r, hr, rfl⟩ := Option.map_eq_some_iff.mp hj
  obtain ⟨hlt, -, -, hbetween⟩ := visibleAfter?_spec hr
  obtain ⟨hle, hgt⟩ := @gapHolder_spec nodes i r hlt
  right
  exact ⟨hle, fun k hik hk => hbetween k hik (Nat.lt_of_le_of_lt hk hgt)⟩

/-- A node is not near when one that is seen stands after the index and not after the node. -/
theorem not_near_of_le {nodes : List Node} {i b m : Nat} (hib : i < b) (hbm : b ≤ m)
    (hb : isWrapperAt nodes b = false) : ¬ Near nodes i m := by
  rintro (⟨hlt, -⟩ | ⟨-, hwrappers⟩)
  · omega
  · have htrue := hwrappers b hib hbm
    rw [hb] at htrue
    cases htrue

/-- A node further right is near only behind wrappers. -/
theorem not_near_of_lt {nodes : List Node} {i m : Nat} (h : i < m)
    (hm : isWrapperAt nodes m = false) : ¬ Near nodes i m := not_near_of_le h (Nat.le_refl m) hm

/-- A node is not near when another one that is seen stands in between. -/
theorem not_near_of_between {nodes : List Node} {i b m : Nat} (hmb : m < b) (hbi : b < i)
    (hb : isWrapperAt nodes b = false) : ¬ Near nodes i m := by
  rintro (⟨-, hwrappers⟩ | ⟨hle, -⟩)
  · have htrue := hwrappers b hmb hbi
    rw [hb] at htrue
    cases htrue
  · omega

/-- What is in reach is near. -/
theorem near_of_inReach {nodes : List Node} {i m : Nat} (h : InReach nodes i m) :
    Near nodes i m := by
  rcases h with rfl | hbefore | hafter
  · exact near_self
  · exact near_before m hbefore
  · exact near_after m hafter

/-- So lists that differ in the reach of an index only differ near it only. -/
theorem WithinReach.local {i : Nat} {nodes nodes' : List Node} (h : WithinReach i nodes nodes') :
    Local i nodes nodes' :=
  ⟨isWrapperAt_congr h.wrappers, fun m hm => h.frame m (mt near_of_inReach hm)⟩

/-! ### The rules -/

namespace Rules

variable {config : Config} {nodes : List Node} {i : Nat}

theorem withinReach_markWidth : WithinReach i nodes (markWidth config nodes i) := by
  unfold markWidth
  split
  · next here => exact .set here rfl rfl
  · next here => exact .ite (fun _ => .set here rfl rfl) .refl
  · exact .refl

theorem withinReach_quoteStyle : WithinReach i nodes (quoteStyle config nodes i) := by
  unfold quoteStyle
  split
  · next here => exact .set here rfl rfl
  · exact .refl

theorem withinReach_letterSpace : WithinReach i nodes (letterSpace config nodes i) := by
  unfold letterSpace
  split
  · dsimp only
    apply WithinReach.ite
    · intro _
      exact .ite (fun _ => .setGap inReach_after _) .refl
    · apply WithinReach.ite (fun _ => .closeGap inReach_after _)
      exact .ite (fun _ => .ite (fun _ => .refl) (.demandGap inReach_after _)) .refl
  · exact .refl

theorem withinReach_pauseSpace : WithinReach i nodes (pauseSpace config nodes i) := by
  unfold pauseSpace
  split
  · refine .ite (fun _ => ?_) .refl
    apply WithinReach.trans (.closeGap inReach_before _)
    refine .ite (fun _ => ?_) .refl
    exact .ite (fun _ => .closeGap inReach_after _) (.demandGap inReach_after _)
  · exact .refl

theorem withinReach_outsideQuote {holder : Option Nat} (reach : ∀ j ∈ holder, InReach nodes i j)
    (wide : Bool) : WithinReach i nodes (outsideQuote config nodes holder wide) :=
  .ite (fun _ => .closeGap reach _) (.demandGap reach _)

theorem withinReach_facing (neighbour : Option Node) {holder : Option Nat}
    (reach : ∀ j ∈ holder, InReach nodes i j) (wide : Node → Bool) :
    WithinReach i nodes
      (match neighbour with
      | some b => if facesEnclosure b then outsideQuote config nodes holder (wide b) else nodes
      | none => nodes) := by
  cases neighbour with
  | none => exact .refl
  | some b => exact .ite (fun _ => withinReach_outsideQuote reach _) .refl

theorem withinReach_quoteSpace : WithinReach i nodes (quoteSpace config nodes i) := by
  unfold quoteSpace
  split
  · next o inner ns c a here =>
    have hinside : WithinReach i nodes
        (if config.noSpaceInsideQuote then nodes.modify i closeInside else nodes) :=
      .ite (fun _ => .modify (fun n => by cases n <;> rfl) (fun n => by cases n <;> rfl)
        inReach_self) .refl
    apply hinside.trans
    apply WithinReach.trans (withinReach_facing _ inReach_before
      fun b => isWideOrChinese o.value || isWideSide closerOf b)
    exact withinReach_facing _ inReach_after
      fun b => isWideOrChinese c.value || isWideSide openerOf b
  · exact .refl

theorem withinReach_outsideBracket {holder : Option Nat} (reach : ∀ j ∈ holder, InReach nodes i j)
    (wide : Bool) : WithinReach i nodes (outsideBracket config nodes holder wide) :=
  .ite (fun _ => .closeGap reach _) (.demandGap reach _)

theorem withinReach_bracketSpace : WithinReach i nodes (bracketSpace config nodes i) := by
  unfold bracketSpace
  split
  · next v a here =>
    have hinside : WithinReach i nodes (closeGap nodes
        (if isLeft v.value then spaceAfterHolder? nodes i else spaceBeforeHolder? nodes i)
        config.noSpaceInsideBracket) := by
      apply WithinReach.closeGap
      split
      · exact inReach_after
      · exact inReach_before
    refine .ite (fun _ => hinside.trans ?_) .refl
    refine .ite (fun _ => .refl) (.ite (fun _ => ?_) ?_)
    · exact .ite (fun _ => withinReach_outsideBracket inReach_before _) .refl
    · exact .ite (fun _ => withinReach_outsideBracket inReach_after _) .refl
  · exact .refl

theorem withinReach_codeSpace : WithinReach i nodes (codeSpace config nodes i) := by
  unfold codeSpace
  dsimp only
  have hbefore : WithinReach i nodes
      (if (nodeBefore? nodes i).any (fun n => n.isContent || n.isCode) then
        demandGap nodes (spaceBeforeHolder? nodes i) config.spaceOutsideCode else nodes) :=
    .ite (fun _ => .demandGap inReach_before _) .refl
  refine .ite (fun _ => hbefore.trans ?_) .refl
  exact .ite (fun _ => .demandGap inReach_after _) .refl

theorem withinReach_wrapperSpace : WithinReach i nodes (wrapperSpace config nodes i) := by
  unfold wrapperSpace
  split
  · apply WithinReach.closeGap
    intro j hj
    cases hj
    exact inReach_self
  · exact .refl

theorem withinReach_abbreviation : WithinReach i nodes (abbreviation config nodes i) := by
  unfold abbreviation
  split
  · next here => exact .ite (fun _ => .set here rfl rfl) .refl
  · exact .refl

theorem withinReach_numberUnit : WithinReach i nodes (numberUnit config nodes i) := by
  unfold numberUnit
  refine .ite (fun _ => ?_) .refl
  exact (WithinReach.revertGap inReach_before).trans (.revertGap inReach_after)

end Rules

namespace Rule

variable (config : Config)

/-- **A rule changes its own node and the two that own the gaps beside it only.** -/
theorem withinReach_applyAt (r : Rule) (nodes : List Node) (i : Nat) :
    WithinReach i nodes (r.applyAt config nodes i) := by
  cases r with
  | markWidth => exact Rules.withinReach_markWidth
  | quoteStyle => exact Rules.withinReach_quoteStyle
  | letterSpace => exact Rules.withinReach_letterSpace
  | pauseSpace => exact Rules.withinReach_pauseSpace
  | quoteSpace => exact Rules.withinReach_quoteSpace
  | bracketSpace => exact Rules.withinReach_bracketSpace
  | codeSpace => exact Rules.withinReach_codeSpace
  | wrapperSpace => exact Rules.withinReach_wrapperSpace
  | abbreviation => exact Rules.withinReach_abbreviation
  | numberUnit => exact Rules.withinReach_numberUnit

/-- So do some rules, one after the other. -/
theorem withinReach_applyAllAt (rules : List Rule) (nodes : List Node) (i : Nat) :
    WithinReach i nodes (applyAllAt rules config nodes i) := by
  unfold applyAllAt
  induction rules generalizing nodes with
  | nil => exact .refl
  | cons r rules ih => exact (withinReach_applyAt config r nodes i).trans (ih _)

/-- Some rules change nodes near their own index only. -/
theorem local_applyAllAt (rules : List Rule) (nodes : List Node) (i : Nat) :
    Local i nodes (applyAllAt rules config nodes i) :=
  (withinReach_applyAllAt config rules nodes i).local

end Rule

/-! ### A pass on its way -/

namespace Rule

variable (config : Config) (nodes : List Node)

/-- A list when the pass over it comes to an index. -/
def stateAt (i : Nat) : List Node := (List.range i).foldl (applyAllAt all config) nodes

theorem stateAt_succ (i : Nat) :
    stateAt config nodes (i + 1) = applyAllAt all config (stateAt config nodes i) i := by
  unfold stateAt
  rw [List.range_succ, List.foldl_append, List.foldl_cons, List.foldl_nil]

/-- At the end all rules have been at every node. -/
theorem stateAt_length : stateAt config nodes nodes.length = applyAll all config nodes := rfl

variable {config nodes}

theorem isWrapperAt_stateAt (i k : Nat) :
    isWrapperAt (stateAt config nodes i) k = isWrapperAt nodes k := by
  induction i with
  | zero => rfl
  | succ i ih => rw [stateAt_succ, (local_applyAllAt config all _ i).wrappers, ih]

/-- What lasts is there all along. -/
theorem lasts_stateAt (class_ : ∀ n ∈ nodes, n.KeepsClass) (i : Nat) :
    Lasts nodes (stateAt config nodes i) := by
  induction i with
  | zero => exact .refl class_
  | succ i ih =>
    rw [stateAt_succ]
    exact ih.applyAllAt all config i

/-- From a node that is seen on, all is as it has been at first when the pass comes to this node. -/
theorem getElem?_stateAt_of_le {i b m : Nat} (hib : i ≤ b) (hbm : b ≤ m)
    (seen : isWrapperAt nodes b = false) : (stateAt config nodes i)[m]? = nodes[m]? := by
  induction i with
  | zero => rfl
  | succ i ih =>
    have hfar : ¬ Near (stateAt config nodes i) i m := by
      apply not_near_of_le hib hbm
      rw [isWrapperAt_stateAt, seen]
    rw [stateAt_succ, (local_applyAllAt config all _ i).frame m hfar, ih (Nat.le_of_lt hib)]

/-- A node that is seen is as it has been at first when the pass comes to it. -/
theorem getElem?_stateAt {i m : Nat} (him : i ≤ m) (seen : isWrapperAt nodes m = false) :
    (stateAt config nodes i)[m]? = nodes[m]? :=
  getElem?_stateAt_of_le him (Nat.le_refl m) seen

/-- A node stays as it is once the pass has left a later node that is seen behind. -/
theorem getElem?_stateAt_of_passed {i i' b m : Nat} (hmb : m < b) (hbi : b < i) (hi : i ≤ i')
    (seen : isWrapperAt nodes b = false) :
    (stateAt config nodes i')[m]? = (stateAt config nodes i)[m]? := by
  induction hi with
  | refl => rfl
  | @step k hk ih =>
    have hfar : ¬ Near (stateAt config nodes k) k m := by
      apply not_near_of_between hmb (Nat.lt_of_lt_of_le hbi hk)
      rw [isWrapperAt_stateAt, seen]
    rw [stateAt_succ, (local_applyAllAt config all _ k).frame m hfar, ih]

end Rule

end CjkProse
