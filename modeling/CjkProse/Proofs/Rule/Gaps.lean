import CjkProse.Proofs.Rule.Demands

/-!
# The gap between two nodes that are seen

Two nodes that are seen and have nothing but wrappers between them have one gap between them, which
belongs to the last node that is not inside of a wrapper opened in between.  A pass sets this gap at
the left node and at the right one and nowhere else: at the wrappers in between it sets spaces
inside of them only, and before and after that the two nodes keep the rules away.

## Main definitions

* `spaceAt` — the space after a node; `spaceBefore?`, `spaceAfter?` — the space in the gap before it
  and in the one after it.
* `Gap` — a gap between two nodes that are seen.
* `Retouched` — only a node has been changed, but not the space after it.
* `AtNode` — all rules at a node that set the gaps beside it as demanded.

## Main results

* `Gap.not_isInsideWrapper` — no such gap is inside of a wrapper.
* `Rule.getElem?_stateAt_of_apart` — a node that owns no gap is written to at its own index only.
* `Gap.spaceAt_applyAll`, `Gap.spaceAt_stateAt_right`, `Gap.spaceAt_stateAt_left` — **a pass sets a
  gap at its two ends only.**
* `AtNode.spaceAt_after`, `AtNode.spaceAt_before` — a gap that is set as demanded.
-/

namespace CjkProse

open Neighbours

/-! ### Who owns a gap -/

section Holder

variable {nodes : List Node} {l r : Nat}

/-- The nearest node before an index that is seen. -/
theorem visibleBefore?_eq_some (hlt : l < r) (seen : isWrapperAt nodes l = false)
    (between : ∀ k, l < k → k < r → isWrapperAt nodes k = true) :
    visibleBefore? nodes r = some l := by
  -- the wrappers in between are passed over one by one
  induction r with
  | zero => omega
  | succ r ih =>
    rw [visibleBefore?]
    rcases Nat.lt_succ_iff_lt_or_eq.mp hlt with hlr | rfl
    · rw [if_pos (between r hlr (Nat.lt_succ_self r))]
      exact ih hlr fun k hlk hkr => between k hlk (Nat.lt_succ_of_lt hkr)
    · rw [if_neg (by simp [seen])]

/-- The nearest node after an index that is seen. -/
theorem visibleAfter?_eq_some (hlt : l < r) (hr : r < nodes.length)
    (seen : isWrapperAt nodes r = false)
    (between : ∀ k, l < k → k < r → isWrapperAt nodes k = true) :
    visibleAfter? nodes l = some r := by
  cases h : visibleAfter? nodes l with
  | none =>
    -- then all nodes after it would be wrappers
    rw [visibleAfter?, Option.map_eq_none_iff, List.findIdx?_eq_none_iff] at h
    have hmem : nodes[r] ∈ nodes.drop (l + 1) :=
      List.mem_drop_iff_getElem.mpr ⟨r - (l + 1), by omega, by congr; omega⟩
    have hwrapper := h _ hmem
    rw [isWrapperAt, List.getElem?_eq_getElem hr] at seen
    simp_all
  | some s =>
    obtain ⟨hls, hs, hseen, hbetween⟩ := visibleAfter?_spec h
    rcases Nat.lt_trichotomy s r with hsr | rfl | hrs
    · rw [between s hls hsr] at hseen
      cases hseen
    · rfl
    · rw [hbetween r hlt hrs] at seen
      cases seen

theorem gapHolder_eq : gapHolder nodes l r =
    l + ((nodes.drop (l + 1)).take (r - l - 1)).findIdx fun n : Node => !n.isClosing := by
  rw [gapHolder, List.takeWhile_eq_take_findIdx_not, List.length_take,
    Nat.min_eq_left List.findIdx_le_length]

/-- From the left node to what owns the gap there are ends of wrappers only. -/
theorem isClosing_of_le_gapHolder {k : Nat} (hr : r ≤ nodes.length) (hlk : l < k)
    (hk : k ≤ gapHolder nodes l r) : nodes[k]?.any Node.isClosing = true := by
  rw [gapHolder_eq] at hk
  generalize hd : ((nodes.drop (l + 1)).take (r - l - 1)).findIdx (fun n => !n.isClosing) = d at *
  have hle : d ≤ ((nodes.drop (l + 1)).take (r - l - 1)).length := hd ▸ List.findIdx_le_length
  have hclosing := @List.not_of_lt_findIdx _ (fun n => !n.isClosing)
    ((nodes.drop (l + 1)).take (r - l - 1)) (k - l - 1) (by omega)
  rw [List.getElem_take, List.getElem_drop] at hclosing
  rw [List.length_take, List.length_drop] at hle
  have hindex : l + 1 + (k - l - 1) = k := by omega
  rw [List.getElem?_eq_getElem (by omega)]
  simpa [hindex] using hclosing

/-- What owns a gap is the left node or the end of a wrapper. -/
theorem isClosing_of_lt_gapHolder (hr : r ≤ nodes.length) (hlt : l < gapHolder nodes l r) :
    nodes[gapHolder nodes l r]?.any Node.isClosing = true :=
  isClosing_of_le_gapHolder hr hlt (Nat.le_refl _)

/-- What comes after a gap is the right node or the start of a wrapper. -/
theorem not_isClosing_after_gapHolder (hr : r ≤ nodes.length)
    (hlt : gapHolder nodes l r + 1 < r) :
    nodes[gapHolder nodes l r + 1]?.any Node.isClosing = false := by
  rw [gapHolder_eq] at hlt ⊢
  have hinside : ((nodes.drop (l + 1)).take (r - l - 1)).findIdx (fun n => !n.isClosing) <
      ((nodes.drop (l + 1)).take (r - l - 1)).length := by
    rw [List.length_take, List.length_drop]
    omega
  have hstop := @List.findIdx_getElem _ (fun n : Node => !n.isClosing) _ hinside
  rw [List.getElem_take, List.getElem_drop] at hstop
  generalize ((nodes.drop (l + 1)).take (r - l - 1)).findIdx (fun n => !n.isClosing) = d at *
  have hindex : l + 1 + d = l + d + 1 := by omega
  rw [List.getElem?_eq_getElem (by omega)]
  simpa [hindex] using hstop

end Holder

/-! ### Spaces -/

/-- The space after the node at an index. -/
def spaceAt (nodes : List Node) (k : Nat) : Option (Revisable Space) := nodes[k]?.map Node.after

/-- The space in the gap before a node. -/
def spaceBefore? (nodes : List Node) (i : Nat) : Option (Revisable Space) :=
  (spaceBeforeHolder? nodes i).bind (spaceAt nodes)

/-- The space in the gap after a node. -/
def spaceAfter? (nodes : List Node) (i : Nat) : Option (Revisable Space) :=
  (spaceAfterHolder? nodes i).bind (spaceAt nodes)

section Spaces

variable {nodes : List Node} {holder : Option Nat} {k : Nat}

theorem spaceAt_modify_self (g : Revisable Space → Revisable Space) :
    spaceAt (nodes.modify k (Node.mapAfter g)) k = (spaceAt nodes k).map g := by
  unfold spaceAt
  rw [List.getElem?_modify_eq]
  cases nodes[k]? with
  | none => rfl
  | some n => simp

theorem spaceAt_meetGap_self (demand : Option Space) :
    spaceAt (meetGap nodes (some k) demand) k = (spaceAt nodes k).map (·.reviseTo demand) := by
  cases demand with
  | none => exact Option.map_id'.symm
  | some s => exact spaceAt_modify_self fun a => a.revise s

theorem spaceAt_meetGap_of_ne (h : ∀ j ∈ holder, j ≠ k) (demand : Option Space) :
    spaceAt (meetGap nodes holder demand) k = spaceAt nodes k := by
  cases demand with
  | none => rfl
  | some s =>
    unfold spaceAt
    rw [meetGap, Option.elim_some, getElem?_setGap_of_ne h]

theorem spaceAt_revertGap_of_ne (h : ∀ j ∈ holder, j ≠ k) :
    spaceAt (revertGap nodes holder) k = spaceAt nodes k := by
  unfold spaceAt
  rw [getElem?_revertGap_of_ne h]

/-- Putting another node of the same space at an index sets no space. -/
theorem spaceAt_set {i : Nat} {n n' : Node} (here : nodes[i]? = some n) (h : n'.after = n.after) :
    spaceAt (nodes.set i n') k = spaceAt nodes k := by
  unfold spaceAt
  rw [← List.getElem?_map, map_set_eq here h, List.getElem?_map]

end Spaces

/-- Only the node at an index has been changed, but not the space after it. -/
structure Retouched (i : Nat) (nodes ns : List Node) : Prop where
  /-- What lasts. -/
  lasts : Lasts nodes ns
  /-- No space after a node has been changed. -/
  space : ∀ k, spaceAt ns k = spaceAt nodes k
  /-- Other nodes are the same. -/
  other : ∀ k, i ≠ k → ns[k]? = nodes[k]?

namespace Retouched

variable {i : Nat} {nodes nodes' nodes'' : List Node}

theorem refl (class_ : ∀ n ∈ nodes, n.KeepsClass) : Retouched i nodes nodes :=
  ⟨.refl class_, fun _ => rfl, fun _ _ => rfl⟩

theorem trans (h : Retouched i nodes nodes') (h' : Retouched i nodes' nodes'') :
    Retouched i nodes nodes'' :=
  ⟨h.lasts.trans h'.lasts, fun k => (h'.space k).trans (h.space k),
    fun k hk => (h'.other k hk).trans (h.other k hk)⟩

theorem set {n n' : Node} (here : nodes[i]? = some n) (lasts : Lasts nodes (nodes.set i n'))
    (h : n'.after = n.after) : Retouched i nodes (nodes.set i n') :=
  ⟨lasts, fun _ => spaceAt_set here h, fun _ hk => List.getElem?_set_ne hk⟩

end Retouched

/-- The rule for the width of marks changes the node that it is at. -/
theorem retouched_markWidth {config : Config} {nodes : List Node} {i : Nat}
    (class_ : ∀ n ∈ nodes, n.KeepsClass) : Retouched i nodes (Rules.markWidth config nodes i) := by
  refine ⟨(Lasts.refl class_).applyAt .markWidth config i, ?_, ?_⟩
  · intro k
    unfold Rules.markWidth
    split
    · next here => exact spaceAt_set here rfl
    · next here =>
      split
      · exact spaceAt_set here rfl
      · rfl
    · rfl
  · intro k hk
    unfold Rules.markWidth
    split
    · exact List.getElem?_set_ne hk
    · split
      · exact List.getElem?_set_ne hk
      · rfl
    · rfl

/-! ### Gaps -/

/-- The gap between the nodes at `l` and `r`, which are seen and have only wrappers between them.
It belongs to the node at `h`. -/
structure Gap (nodes : List Node) (l h r : Nat) : Prop where
  /-- The left node is seen. -/
  left : isWrapperAt nodes l = false
  /-- The right node is the next that is seen. -/
  next : visibleAfter? nodes l = some r
  /-- This node owns the gap. -/
  holder : gapHolder nodes l r = h

namespace Gap

variable {config : Config} {nodes nodes' : List Node} {l h r : Nat}

theorem lt (gap : Gap nodes l h r) : l < r := (visibleAfter?_spec gap.next).1

theorem lt_length (gap : Gap nodes l h r) : r < nodes.length := (visibleAfter?_spec gap.next).2.1

theorem right (gap : Gap nodes l h r) : isWrapperAt nodes r = false :=
  (visibleAfter?_spec gap.next).2.2.1

theorem between (gap : Gap nodes l h r) {k : Nat} (hlk : l < k) (hkr : k < r) :
    isWrapperAt nodes k = true := (visibleAfter?_spec gap.next).2.2.2 k hlk hkr

theorem le_holder (gap : Gap nodes l h r) : l ≤ h :=
  gap.holder ▸ (gapHolder_spec gap.lt).1

theorem holder_lt (gap : Gap nodes l h r) : h < r :=
  gap.holder ▸ (gapHolder_spec gap.lt).2

theorem visibleBefore? (gap : Gap nodes l h r) : Neighbours.visibleBefore? nodes r = some l :=
  visibleBefore?_eq_some gap.lt gap.left fun _ => gap.between

theorem nodeAfter? (gap : Gap nodes l h r) : Neighbours.nodeAfter? nodes l = nodes[r]? := by
  rw [Neighbours.nodeAfter?, gap.next, Option.bind_some]

theorem nodeBefore? (gap : Gap nodes l h r) : Neighbours.nodeBefore? nodes r = nodes[l]? := by
  rw [Neighbours.nodeBefore?, gap.visibleBefore?, Option.bind_some]

theorem spaceAfterHolder? (gap : Gap nodes l h r) :
    Neighbours.spaceAfterHolder? nodes l = some h := by
  rw [Neighbours.spaceAfterHolder?, gap.next, Option.map_some, gap.holder]

theorem spaceBeforeHolder? (gap : Gap nodes l h r) :
    Neighbours.spaceBeforeHolder? nodes r = some h := by
  rw [Neighbours.spaceBeforeHolder?, gap.visibleBefore?, Option.map_some, gap.holder]

/-- A gap is told by the wrappers. -/
theorem congr (gap : Gap nodes l h r)
    (wrappers : nodes'.map Node.isWrapper = nodes.map Node.isWrapper)
    (closings : nodes'.map Node.isClosing = nodes.map Node.isClosing) : Gap nodes' l h r where
  left := by rw [isWrapperAt_congr wrappers, gap.left]
  next := by rw [visibleAfter?_congr wrappers, gap.next]
  holder := by rw [gapHolder_congr closings, gap.holder]

theorem lasts (gap : Gap nodes l h r) (hlasts : Lasts nodes nodes') : Gap nodes' l h r :=
  gap.congr (hlasts.map_eq lasting_isWrapper) (hlasts.map_eq (lasting_isEventOf .closing))

theorem sameBodies (gap : Gap nodes l h r) (same : SameBodies nodes nodes') : Gap nodes' l h r :=
  gap.congr (same.map_eq lasting_isWrapper) (same.map_eq (lasting_isEventOf .closing))

theorem spaceAfter? (gap : Gap nodes l h r) : CjkProse.spaceAfter? nodes l = spaceAt nodes h := by
  rw [CjkProse.spaceAfter?, gap.spaceAfterHolder?, Option.bind_some]

theorem spaceBefore? (gap : Gap nodes l h r) : CjkProse.spaceBefore? nodes r = spaceAt nodes h := by
  rw [CjkProse.spaceBefore?, gap.spaceBeforeHolder?, Option.bind_some]

/-- There is a gap after a node that is seen and has another one after it. -/
theorem exists_after {n : Node} (left : isWrapperAt nodes l = false)
    (next : Neighbours.nodeAfter? nodes l = some n) :
    ∃ h r, Gap nodes l h r ∧ nodes[r]? = some n := by
  obtain ⟨r, hr, hn⟩ := Option.bind_eq_some_iff.mp next
  exact ⟨gapHolder nodes l r, r, ⟨left, hr, rfl⟩, hn⟩

/-- There is a gap before a node that is seen and has another one before it. -/
theorem exists_before {n : Node} (right : isWrapperAt nodes r = false) (hr : r < nodes.length)
    (before : Neighbours.nodeBefore? nodes r = some n) :
    ∃ l h, Gap nodes l h r ∧ nodes[l]? = some n := by
  obtain ⟨l, hl, hn⟩ := Option.bind_eq_some_iff.mp before
  obtain ⟨hlt, hseen, hbetween⟩ := visibleBefore?_spec hl
  exact ⟨l, gapHolder nodes l r, ⟨hseen, visibleAfter?_eq_some hlt hr right hbetween, rfl⟩, hn⟩

/-- What owns a gap beside a node that is seen. -/
theorem exists_of_inReach {i : Nat} (seen : isWrapperAt nodes i = false) (hi : i < nodes.length)
    (reach : InReach nodes i h) (hne : h ≠ i) : ∃ l r, Gap nodes l h r := by
  rcases reach with rfl | hbefore | hafter
  · exact absurd rfl hne
  · obtain ⟨l, hl, rfl⟩ := Option.map_eq_some_iff.mp hbefore
    obtain ⟨hlt, hseen, hbetween⟩ := visibleBefore?_spec hl
    exact ⟨l, i, hseen, visibleAfter?_eq_some hlt hi seen hbetween, rfl⟩
  · obtain ⟨r, hr, rfl⟩ := Option.map_eq_some_iff.mp hafter
    exact ⟨i, r, seen, hr, rfl⟩

/-! ### Setting a gap -/

/-- The gap after a node is set to what is demanded there. -/
theorem spaceAt_meetBeside_left (gap : Gap nodes l h r) (before after : Option Space) :
    spaceAt (meetBeside nodes l before after) h = (spaceAt nodes h).map (·.reviseTo after) := by
  -- the gap before the node is another one
  have hne := @ne_of_mem_spaceBeforeHolder? nodes l h gap.le_holder
  rw [meetBeside, gap.spaceAfterHolder?, spaceAt_meetGap_self, spaceAt_meetGap_of_ne hne]

/-- The gap before a node is set to what is demanded there. -/
theorem spaceAt_meetBeside_right (gap : Gap nodes l h r) (before after : Option Space) :
    spaceAt (meetBeside nodes r before after) h = (spaceAt nodes h).map (·.reviseTo before) := by
  have hne := @ne_of_mem_spaceAfterHolder? nodes r h gap.holder_lt
  rw [meetBeside, spaceAt_meetGap_of_ne hne, gap.spaceBeforeHolder?, spaceAt_meetGap_self]

/-- No gap between nodes that are seen is inside of a wrapper. -/
theorem not_isInsideWrapper (gap : Gap nodes l h r) {m n : Node} (here : nodes[h]? = some m)
    (next : nodes[h + 1]? = some n) : Rules.isInsideWrapper m n = false := by
  -- what owns the gap opens nothing, and what comes after it closes nothing
  have hopening : m.isOpening = false := by
    rcases Nat.eq_or_lt_of_le gap.le_holder with hl | hl
    · have hseen := gap.left
      rw [hl, isWrapperAt, here] at hseen
      exact (Bool.or_eq_false_iff.mp hseen).1
    · have hclosing := isClosing_of_lt_gapHolder (Nat.le_of_lt gap.lt_length) (gap.holder ▸ hl)
      rw [gap.holder, here] at hclosing
      cases m with
      | event e s a =>
        have hkind : e.kind = .closing := by simpa [Node.isClosing, Node.isEventOf] using hclosing
        simp [Node.isOpening, Node.isEventOf, hkind]
      | char v a => cases hclosing
      | half v a => cases hclosing
      | full v a => cases hclosing
      | group o inner ns c a => cases hclosing
  have hclosing : n.isClosing = false := by
    rcases Nat.eq_or_lt_of_le (Nat.succ_le_of_lt gap.holder_lt) with hr | hr
    · have hseen := gap.right
      rw [← hr, isWrapperAt, next] at hseen
      exact (Bool.or_eq_false_iff.mp hseen).2
    · have hstop := not_isClosing_after_gapHolder (Nat.le_of_lt gap.lt_length) (gap.holder ▸ hr)
      rwa [gap.holder, next] at hstop
  simp [Rules.isInsideWrapper, hopening, hclosing]

/-- So the rule for wrappers sets no such gap. -/
theorem spaceAt_wrapperSpace (gap : Gap nodes l h r) (i : Nat) :
    spaceAt (Rules.wrapperSpace config nodes i) h = spaceAt nodes h := by
  by_cases hi : h = i
  · subst hi
    unfold Rules.wrapperSpace
    split
    · next current next here hn =>
      rw [gap.not_isInsideWrapper here hn, Bool.and_false]
      rfl
    · rfl
  · unfold spaceAt
    rw [getElem?_wrapperSpace_of_ne hi]

/-- A gap is given back at the node before it if that is a number before a unit. -/
theorem spaceAt_numberUnit_left (gap : Gap nodes l h r) :
    spaceAt (Rules.numberUnit config nodes l) h =
      (spaceAt nodes h).map fun a => if isCounted config nodes l then a.revert else a := by
  -- the gap before the number is given back first, which moves no gap
  have hsame : SameBodies nodes (revertGap nodes (Neighbours.spaceBeforeHolder? nodes l)) :=
    sameBodies_revertGap _
  unfold Rules.numberUnit isCounted
  split
  · dsimp only
    rw [(gap.sameBodies hsame).spaceAfterHolder?]
    show spaceAt (List.modify _ h (Node.mapAfter Revisable.revert)) h = _
    rw [spaceAt_modify_self,
      spaceAt_revertGap_of_ne (ne_of_mem_spaceBeforeHolder? gap.le_holder)]
  · exact Option.map_id'.symm

/-- It is given back at the node after it if that is one. -/
theorem spaceAt_numberUnit_right (gap : Gap nodes l h r) :
    spaceAt (Rules.numberUnit config nodes r) h =
      (spaceAt nodes h).map fun a => if isCounted config nodes r then a.revert else a := by
  unfold Rules.numberUnit isCounted
  split
  · dsimp only
    rw [spaceAt_revertGap_of_ne (ne_of_mem_spaceAfterHolder? gap.holder_lt),
      gap.spaceBeforeHolder?]
    exact spaceAt_modify_self _
  · exact Option.map_id'.symm

end Gap

/-- All rules at a node: `ms` is the list before the gaps beside the node are set, and they are set
to what is demanded. -/
structure AtNode (config : Config) (nodes : List Node) (i : Nat) (before after : Option Space)
    (ms : List Node) : Prop extends Retouched i nodes ms where
  /-- The gaps are set, and then the space inside of a wrapper. -/
  applied : Rule.applyAllAt Rule.all config nodes i =
    Rules.wrapperSpace config (meetBeside ms i before after) i

namespace AtNode

variable {config : Config} {nodes ms : List Node} {l h r : Nat} {before after : Option Space}

theorem nodeAfter? (at_ : AtNode config nodes l before after ms) (gap : Gap nodes l h r) :
    Neighbours.nodeAfter? ms l = nodes[r]? := by
  rw [(gap.lasts at_.lasts).nodeAfter?, at_.other r (Nat.ne_of_lt gap.lt)]

theorem nodeBefore? (at_ : AtNode config nodes r before after ms) (gap : Gap nodes l h r) :
    Neighbours.nodeBefore? ms r = nodes[l]? := by
  rw [(gap.lasts at_.lasts).nodeBefore?, at_.other l (Nat.ne_of_gt gap.lt)]

/-- The gap after the node. -/
theorem spaceAt_after (at_ : AtNode config nodes l before after ms) (gap : Gap nodes l h r) :
    spaceAt (Rule.applyAllAt Rule.all config nodes l) h =
      (spaceAt nodes h).map (·.reviseTo after) := by
  have gap' := gap.lasts at_.lasts
  rw [at_.applied, (gap'.sameBodies sameBodies_meetBeside).spaceAt_wrapperSpace,
    gap'.spaceAt_meetBeside_left, at_.space]

/-- The gap before it. -/
theorem spaceAt_before (at_ : AtNode config nodes r before after ms) (gap : Gap nodes l h r) :
    spaceAt (Rule.applyAllAt Rule.all config nodes r) h =
      (spaceAt nodes h).map (·.reviseTo before) := by
  have gap' := gap.lasts at_.lasts
  rw [at_.applied, (gap'.sameBodies sameBodies_meetBeside).spaceAt_wrapperSpace,
    gap'.spaceAt_meetBeside_right, at_.space]

end AtNode

namespace Gap

variable {config : Config} {nodes nodes' : List Node} {l h r : Nat}

/-! ### A pass over a gap -/

/-- When a pass comes to the left node, the gap is as it has been at first. -/
theorem spaceAt_stateAt_left (gap : Gap nodes l h r) :
    spaceAt (Rule.stateAt config nodes l) h = spaceAt nodes h := by
  unfold spaceAt
  rw [Rule.getElem?_stateAt_of_le (Nat.le_refl l) gap.le_holder gap.left]

/-- When it comes to the right node, the gap is as the rules have left it at the left one. -/
theorem spaceAt_stateAt_right (gap : Gap nodes l h r) (class_ : ∀ n ∈ nodes, n.KeepsClass) :
    spaceAt (Rule.stateAt config nodes r) h =
      spaceAt (Rule.applyAllAt Rule.all config (Rule.stateAt config nodes l) l) h := by
  rw [← Rule.stateAt_succ]
  -- at the wrappers in between only the rule for wrappers does anything
  have hstep : ∀ m, l + 1 ≤ m → m ≤ r →
      spaceAt (Rule.stateAt config nodes m) h = spaceAt (Rule.stateAt config nodes (l + 1)) h := by
    intro m hm
    induction hm with
    | refl =>
      intro _
      rfl
    | @step m hm ih =>
      intro hmr
      have hlasts := @Rule.lasts_stateAt config nodes class_ m
      have hwrapper := gap.between (Nat.lt_of_succ_le hm) hmr
      rw [← @Rule.isWrapperAt_stateAt config nodes m] at hwrapper
      obtain ⟨n, hn, hwrapper⟩ := (Option.any_eq_true _ _).mp hwrapper
      rw [Rule.stateAt_succ, applyAllAt_of_isWrapper hlasts.keepsClass hn hwrapper,
        (gap.lasts hlasts).spaceAt_wrapperSpace, ih (Nat.le_of_lt hmr)]
  exact hstep r gap.lt (Nat.le_refl r)

/-- **At the end the gap is as the rules have left it at the right node.** -/
theorem spaceAt_applyAll (gap : Gap nodes l h r) :
    spaceAt (Rule.applyAll Rule.all config nodes) h =
      spaceAt (Rule.applyAllAt Rule.all config (Rule.stateAt config nodes r) r) h := by
  rw [← Rule.stateAt_length, ← Rule.stateAt_succ]
  -- once the right node has been left behind, the pass is not near the gap any more
  unfold spaceAt
  rw [Rule.getElem?_stateAt_of_passed gap.holder_lt (Nat.lt_succ_self r) gap.lt_length gap.right]

end Gap

/-! ### Nodes that own no gap -/

section Apart

variable {config : Config} {nodes : List Node} {i i' m : Nat}

/-- A number gives no space back that is in no gap. -/
theorem Rules.spaceAt_numberUnit_of_apart (apart : ∀ r, ¬ Gap nodes i i r) :
    spaceAt (numberUnit config nodes i) i = spaceAt nodes i := by
  unfold numberUnit
  split
  · next hcounted =>
    have hnumber := (Bool.and_eq_true _ _).mp hcounted |>.1
    have hseen : isWrapperAt nodes i = false := by
      obtain ⟨n, hn, hnumber⟩ := (Option.any_eq_true _ _).mp hnumber
      rw [isWrapperAt, hn]
      cases n with
      | half v a => rfl
      | char v a => cases hnumber
      | full v a => cases hnumber
      | event e s a => cases hnumber
      | group o inner ns c a => cases hnumber
    have hsame : SameBodies nodes (revertGap nodes (spaceBeforeHolder? nodes i)) :=
      sameBodies_revertGap _
    dsimp only
    rw [spaceAt_revertGap_of_ne, spaceAt_revertGap_of_ne]
    · exact ne_of_mem_spaceBeforeHolder? (Nat.le_refl i)
    · rw [hsame.spaceAfterHolder?]
      rintro j hj rfl
      obtain ⟨r, hr, hholder⟩ := Option.map_eq_some_iff.mp hj
      exact apart r ⟨hseen, hr, hholder⟩
  · rfl

/-- All rules at another node leave a node alone that owns no gap. -/
theorem Rule.getElem?_applyAllAt_of_apart (class_ : ∀ n ∈ nodes, n.KeepsClass)
    (apart : ∀ l r, ¬ Gap nodes l m r) (hi : i < nodes.length) (hne : m ≠ i) :
    (applyAllAt all config nodes i)[m]? = nodes[m]? := by
  have here := List.getElem?_eq_getElem hi
  cases hseen : nodes[i].isWrapper with
  | true => rw [applyAllAt_of_isWrapper class_ here hseen, getElem?_wrapperSpace_of_ne hne]
  | false =>
    apply (withinReach_applyAllAt config all nodes i).frame
    intro hreach
    obtain ⟨l, r, hgap⟩ := Gap.exists_of_inReach (by rw [isWrapperAt, here]; exact hseen) hi
      hreach hne
    exact apart l r hgap

/-- So a pass leaves it alone once it has been there. -/
theorem Rule.getElem?_stateAt_of_apart (class_ : ∀ n ∈ nodes, n.KeepsClass)
    (apart : ∀ l r, ¬ Gap nodes l m r) (hmi : m < i) (hi : i ≤ i') (hlength : i' ≤ nodes.length) :
    (stateAt config nodes i')[m]? = (stateAt config nodes i)[m]? := by
  induction hi with
  | refl => rfl
  | @step k hk ih =>
    have hlasts := @lasts_stateAt config nodes class_ k
    have hapart : ∀ l r, ¬ Gap (stateAt config nodes k) l m r :=
      fun l r hgap => apart l r (hgap.lasts (hlasts.symm class_))
    have hk' : k < (stateAt config nodes k).length := by
      rw [hlasts.length_eq]
      exact hlength
    rw [stateAt_succ, getElem?_applyAllAt_of_apart hlasts.keepsClass hapart hk'
      (Nat.ne_of_lt (Nat.lt_of_lt_of_le hmi hk)), ih (Nat.le_of_succ_le hlength)]

end Apart

end CjkProse
