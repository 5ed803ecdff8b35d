import CjkProse.Proofs.Rule.AtBracket

/-!
# Pairs of brackets during a pass

Whether the outer spaces of a bracket are left alone is asked twice for a pair, when the pass is at
the left bracket and when it is at the right one, and the spaces that the question is about may be
set in between.  Only the brackets themselves set them, and a number before a unit.  So both answers
are the same where no space that the first one depends on is removed later: one directly before the
right bracket, one directly before the left bracket, or one in front of a number before a unit.

## Main definitions

* `KeepsSpaces` — no space that the answer for a pair depends on is removed.

## Main results

* `exemptAt_pair` — **the brackets of a pair are exempt together.**
* `not_exemptAt_pair` — they need not be where a space before the right one is removed.
-/

namespace CjkProse

open Neighbours

/-- Whether the gap before a left bracket `c` is closed, if something faces the bracket there. -/
def Config.closesBefore (config : Config) (c : Char) : Bool :=
  if isWideOrChinese c then config.noSpaceOutsideFullwidthBracket
  else config.spaceOutsideHalfwidthBracket == some false

/-- A half-width run with a space after it. -/
def isSpacedHalf (n : Node) : Bool := n.isHalf && n.hasSpaceAfter

/-- No space that the answer for the brackets at `i` and `j` depends on is removed under some
settings. -/
structure KeepsSpaces (config : Config) (nodes : List Node) (i j : Nat) : Prop where
  /-- A space between a half-width run and the right bracket is left in. -/
  right : config.noSpaceInsideBracket = true → (before? nodes j).any isSpacedHalf = false
  /-- A space between the left bracket and a number before a unit is left in. -/
  left : config.noSpaceInsideBracket = true → nodes[i]?.any Node.hasSpaceAfter = true →
    isCounted config nodes (i + 1) = false
  /-- A space between a half-width run and the left bracket is left in, whichever width the bracket
  takes. -/
  outside : ∀ v a, nodes[i]? = some (.char v a) →
    (config.closesBefore v.value || config.closesBefore (config.resizeMark v).value) = true →
      (before? nodes i).any isSpacedHalf = false

/-! ### Both answers for a pair -/

theorem Lasts.spaceBracket {nodes nodes' : List Node} (h : Lasts nodes nodes') (config : Config)
    (i : Nat) (c : Char) : Lasts nodes (Rules.spaceBracket config nodes' i c) := by
  have houtside : ∀ holder wide, Lasts nodes (Rules.outsideBracket config nodes' holder wide) := by
    intro holder wide
    unfold Rules.outsideBracket
    split
    · exact h.closeGap holder _
    · exact h.demandGap holder _
  unfold Rules.spaceBracket
  split
  · split
    · exact houtside _ _
    · exact h
  · split
    · exact houtside _ _
    · exact h

@[simp] theorem Node.isHalf_setAfter (s : Space) (n : Node) : (n.setAfter s).isHalf = n.isHalf :=
  lasting_isHalf.mapAfter _ n

@[simp] theorem Node.hasSpaceAfter_setAfter (s : Space) (n : Node) :
    (n.setAfter s).hasSpaceAfter = !s.isEmpty := by
  rw [hasSpaceAfter, setAfter, after_mapAfter, Revisable.value_revise]

/-- The gap before a left bracket is left alone or filled, if it is not to be closed. -/
theorem getElem?_spaceBracket_before {config : Config} {ns : List Node} {m : Nat} {c : Char}
    (left : isLeft c = true) (open_ : config.closesBefore c = false)
    (seen : isWrapperAt ns m = false) :
    (Rules.spaceBracket config ns (m + 1) c)[m]? = ns[m]? ∨
      (Rules.spaceBracket config ns (m + 1) c)[m]? = ns[m]?.map (Node.setAfter Space.one) := by
  unfold Rules.spaceBracket
  rw [if_pos left]
  split
  · unfold Rules.outsideBracket
    unfold Config.closesBefore at open_
    rw [spaceBeforeHolder?_of_seen seen]
    split
    · next hwide =>
      rw [if_pos hwide] at open_
      rw [open_]
      exact .inl rfl
    · next hnarrow =>
      rw [if_neg hnarrow] at open_
      cases hdemand : config.spaceOutsideHalfwidthBracket with
      | none => exact .inl rfl
      | some present =>
        cases present with
        | false => simp [hdemand] at open_
        | true => exact .inr (List.getElem?_modify_eq _ _ _)
  · exact .inl rfl

/-- The gap after a left bracket is not outside of it. -/
theorem getElem?_spaceBracket_self {config : Config} {ns : List Node} {k : Nat} {c : Char}
    (left : isLeft c = true) : (Rules.spaceBracket config ns k c)[k]? = ns[k]? := by
  have hne := @ne_of_mem_spaceBeforeHolder? ns k k (Nat.le_refl k)
  unfold Rules.spaceBracket
  rw [if_pos left]
  split
  · unfold Rules.outsideBracket
    split
    · exact getElem?_closeGap_of_ne hne _
    · exact getElem?_demandGap_of_ne hne _
  · rfl

theorem any_isFlushHalf_of_not_isHalf {found : Option Node} (h : found.any Node.isHalf = false) :
    found.any isFlushHalf = false := by
  cases found with
  | none => rfl
  | some n =>
    have hn : n.isHalf = false := h
    simp [isFlushHalf, hn]

/-- A half-width run has a space after it or none. -/
theorem any_isHalf_eq (found : Option Node) :
    found.any Node.isHalf = (found.any isFlushHalf || found.any isSpacedHalf) := by
  cases found with
  | none => rfl
  | some n =>
    show n.isHalf = (isFlushHalf n || isSpacedHalf n)
    unfold isFlushHalf isSpacedHalf
    cases n.isHalf <;> simp

/-- Closing a gap changes nothing if no space is removed from after a run. -/
theorem any_isFlushHalf_setAfter_empty {found : Option Node}
    (h : found.any isSpacedHalf = false) :
    (found.map (Node.setAfter Space.empty)).any isFlushHalf = found.any isFlushHalf := by
  cases found with
  | none => rfl
  | some n =>
    have hspaced : (n.isHalf && n.hasSpaceAfter) = false := h
    show ((n.setAfter Space.empty).isHalf && !(n.setAfter Space.empty).hasSpaceAfter) =
      (n.isHalf && !n.hasSpaceAfter)
    rw [Node.isHalf_setAfter, Node.hasSpaceAfter_setAfter]
    cases hhalf : n.isHalf with
    | false => rfl
    | true =>
      rw [hhalf, Bool.true_and] at hspaced
      rw [hspaced]
      rfl

/-- A gap that has been filled is not empty. -/
theorem any_isFlushHalf_setAfter_one (found : Option Node) :
    (found.map (Node.setAfter Space.one)).any isFlushHalf = false := by
  cases found with
  | none => rfl
  | some n =>
    show ((n.setAfter Space.one).isHalf && !(n.setAfter Space.one).hasSpaceAfter) = false
    rw [Node.hasSpaceAfter_setAfter]
    exact Bool.and_false _

/-- Whether a left bracket stands directly before a half-width run or before its right bracket, but
for the space between them. -/
def opensOnto (nodes : List Node) (i : Nat) : Bool :=
  (after? nodes i).any Node.isHalf || (after? nodes i).any (Node.isCharAnd isRightBracket)

/-- A left bracket is exempt by itself when it opens onto something and no space stands before or
after it. -/
theorem Lasts.isLeftExempt {nodes ns : List Node} (h : Lasts nodes ns) (i : Nat) :
    isLeftExempt ns i =
      (ns[i]?.any (fun n => !n.hasSpaceAfter) && (before? ns i).any isFlushHalf &&
        opensOnto nodes i) := by
  have hopens : opensOnto ns i = opensOnto nodes i := by
    unfold opensOnto after?
    rw [h.any_eq lasting_isHalf, h.any_eq lasting_isRightBracket]
  rw [← hopens]
  unfold CjkProse.isLeftExempt isFlushBothSides opensOnto
  rw [Bool.and_or_distrib_left]

/-- A left bracket is exempt by itself or because of its right one. -/
theorem Lasts.isExempt_left {nodes ns : List Node} (h : Lasts nodes ns) {i j : Nat}
    (pair : CjkProse.matchingRight? nodes i = some j) :
    isExempt ns i true = (CjkProse.isLeftExempt ns i || isFlushBothSides ns j) := by
  rw [isExempt, if_pos rfl, h.matchingRight? pair]
  rfl

/-- A right bracket is exempt by itself or because of its left one. -/
theorem Lasts.isExempt_right {nodes ns : List Node} (h : Lasts nodes ns) {i j : Nat}
    (left : nodes[i]?.any (Node.isCharAnd isLeftBracket) = true)
    (pair : CjkProse.matchingRight? nodes i = some j) :
    isExempt ns j false = (isFlushBothSides ns j || CjkProse.isLeftExempt ns i) := by
  rw [isExempt, if_neg Bool.false_ne_true, h.matchingLeft? left pair]
  rfl

theorem any_isBracket_of_left {nodes : List Node} {k : Nat}
    (h : nodes[k]?.any (Node.isCharAnd isLeftBracket) = true) :
    nodes[k]?.any (Node.isCharAnd isBracket) = true := by
  obtain ⟨v, a, hn, hv⟩ := exists_char h
  rw [hn]
  show isBracket v.value = true
  rw [isBracket_eq, hv, Bool.true_or]

theorem any_isBracket_of_right {nodes : List Node} {k : Nat}
    (h : nodes[k]?.any (Node.isCharAnd isRightBracket) = true) :
    nodes[k]?.any (Node.isCharAnd isBracket) = true := by
  obtain ⟨v, a, hn, hv⟩ := exists_char h
  rw [hn]
  show isBracket v.value = true
  rw [isBracket_eq, hv, Bool.or_true]

section Pair

variable {config : Config} {nodes : List Node} {i j : Nat} {v w v' w' : Revisable Char}
  {a a' : Revisable Space}

/-- The right bracket of a pair stands directly between half-width runs or not, whichever of the two
asks. -/
theorem isFlushBothSides_seenAt (class_ : ∀ n ∈ nodes, n.KeepsClass)
    (left : nodes[i]?.any (Node.isCharAnd isLeftBracket) = true)
    (right : nodes[j]?.any (Node.isCharAnd isRightBracket) = true) (hij : i < j)
    (hi : AtBracket config nodes i w a) (here' : nodes[j]? = some (.char v' a'))
    (hj : AtBracket config nodes j w' a')
    (keeps : config.noSpaceInsideBracket = true → (before? nodes j).any isSpacedHalf = false) :
    isFlushBothSides (seenAt config nodes j false) j =
      isFlushBothSides (seenAt config nodes i true) j := by
  have hs := @lasts_seenAt config nodes class_ i true
  have ht := @lasts_seenAt config nodes class_ j false
  have hseen : isWrapperAt nodes j = false := isWrapperAt_of_isCharAnd right
  have hbefore : (before? (seenAt config nodes j false) j).any isFlushHalf =
      (before? (seenAt config nodes i true) j).any isFlushHalf := by
    cases j with
    | zero => rfl
    | succ m =>
      show (seenAt config nodes (m + 1) false)[m]?.any isFlushHalf =
        (seenAt config nodes i true)[m]?.any isFlushHalf
      by_cases hhalf : nodes[m]?.any Node.isHalf = true
      · have hseen' := isWrapperAt_of_isHalf hhalf
        -- the left bracket is no run
        have him : i < m := by
          rcases Nat.lt_or_eq_of_le (Nat.le_of_lt_succ hij) with hlt | rfl
          · exact hlt
          · obtain ⟨u, b, hu, -⟩ := exists_char left
            rw [hu] at hhalf
            cases hhalf
        rw [hj.getElem?_right_before hseen',
          getElem?_stateAt_of_isHalf class_ hhalf (any_isBracket_of_right right),
          hi.getElem?_left_of_gt him hseen']
        cases hasked : config.noSpaceInsideBracket with
        | false =>
          show (nodes[m]?.map fun n => n).any isFlushHalf = nodes[m]?.any isFlushHalf
          rw [Option.map_id']
        | true => exact any_isFlushHalf_setAfter_empty (keeps hasked)
      · have hnot := Bool.not_eq_true _ ▸ hhalf
        rw [any_isFlushHalf_of_not_isHalf ((ht.any_eq lasting_isHalf m).trans hnot),
          any_isFlushHalf_of_not_isHalf ((hs.any_eq lasting_isHalf m).trans hnot)]
  unfold isFlushBothSides after?
  rw [hbefore, ht.any_eq lasting_isHalf, hs.any_eq lasting_isHalf, hj.getElem?_right_self,
    hi.getElem?_left_of_gt hij hseen, here']
  rfl

/-- The gap after a left bracket is left alone when the pass goes on, unless a wrapper is there. -/
theorem AtBracket.getElem?_stateAt_succ (h : AtBracket config nodes i w a)
    (class_ : ∀ n ∈ nodes, n.KeepsClass) (isLeft_ : isLeft w.value = true)
    (seen : isWrapperAt nodes i = false) (seen' : isWrapperAt nodes (i + 1) = false) :
    (Rule.stateAt config nodes (i + 1))[i]? = (seenAt config nodes i true)[i]? := by
  have hs := @lasts_seenAt config nodes class_ i true
  have hlasts : Lasts nodes (if isExempt (seenAt config nodes i true) i true then
      seenAt config nodes i true
      else Rules.spaceBracket config (seenAt config nodes i true) i w.value) := by
    split
    · exact hs
    · exact hs.spaceBracket config i w.value
  rw [h.next, isLeft_]
  rw [wrapperSpace_of_seen ((hlasts.any_eq lasting_isWrapper i).trans seen)
    ((hlasts.any_eq lasting_isWrapper (i + 1)).trans seen')]
  split
  · rfl
  · exact getElem?_spaceBracket_self isLeft_

/-- Giving a gap back changes nothing if it has not been closed, or has been empty before that. -/
theorem hasSpaceAfter_revertAfter (fresh : a.modified = none) (asked : Bool)
    (keeps : asked = true → a.value = []) :
    (Node.revertAfter (.char w (if asked then a.revise Space.empty else a))).hasSpaceAfter =
      (Node.char w (if asked then a.revise Space.empty else a)).hasSpaceAfter := by
  have hvalue : a.value = a.original := by rw [Revisable.value, fresh, Option.getD_none]
  cases asked with
  | false =>
    show (!List.isEmpty a.original) = !List.isEmpty a.value
    rw [hvalue]
  | true =>
    show (!List.isEmpty a.original) = !List.isEmpty (a.revise Space.empty).value
    rw [← hvalue, keeps rfl, Revisable.value_revise]
    rfl

/-- The gap directly after the left bracket is as empty when the pass is at the right one as when it
is at the left one, if a run or the right bracket comes next. -/
theorem flush_seenAt (unrevised : ∀ n ∈ nodes, n.IsUnrevised)
    (here : nodes[i]? = some (.char v a)) (pair : matchingRight? nodes i = some j)
    (hi : AtBracket config nodes i w a) (isLeft_ : isLeft w.value = true)
    (hj : AtBracket config nodes j w' a')
    (next : (after? nodes i).any Node.isHalf = true ∨
      (after? nodes i).any (Node.isCharAnd isRightBracket) = true)
    (keeps : config.noSpaceInsideBracket = true → nodes[i]?.any Node.hasSpaceAfter = true →
      isCounted config nodes (i + 1) = false) :
    (seenAt config nodes j false)[i]?.any (fun n => !n.hasSpaceAfter) =
      (seenAt config nodes i true)[i]?.any (fun n => !n.hasSpaceAfter) := by
  have class_ : ∀ n ∈ nodes, n.KeepsClass := fun n hn => (unrevised n hn).keepsClass
  obtain ⟨hij, -, -⟩ := matchingRight?_eq_some_iff.mp pair
  have hseen : isWrapperAt nodes i = false := isWrapperAt_eq_false here rfl
  have hseen' : isWrapperAt nodes (i + 1) = false := by
    rcases next with hhalf | hright
    · exact isWrapperAt_of_isHalf hhalf
    · exact isWrapperAt_of_isCharAnd hright
  have hlt : i + 1 < nodes.length := by
    rcases next with hhalf | hright
    · exact lt_length_of_any hhalf
    · exact lt_length_of_any hright
  have hself := hi.getElem?_left_self hlt hseen' class_
  have hnext := hi.getElem?_stateAt_succ class_ isLeft_ hseen hseen'
  by_cases hpair : j = i + 1
  · -- nothing in between
    subst hpair
    rw [hj.getElem?_right_before hseen, hnext, hself]
    cases config.noSpaceInsideBracket with
    | false => rfl
    | true =>
      show (!(Node.setAfter Space.empty (.char w (a.revise Space.empty))).hasSpaceAfter) =
        !(Node.setAfter Space.empty (.char w a)).hasSpaceAfter
      rw [Node.hasSpaceAfter_setAfter, Node.hasSpaceAfter_setAfter]
  · have hgap : i + 1 < j := by omega
    have hhalf : nodes[i + 1]?.any Node.isHalf = true := by
      rcases next with hhalf | hright
      · exact hhalf
      · -- the first right bracket after it would be its own
        rw [matchingRight?_of_next hright] at pair
        exact absurd (Option.some.inj pair).symm hpair
    have hlasts := @Rule.lasts_stateAt config nodes class_ (i + 1)
    have hstep := @getElem?_applyAllAt_of_isHalf config (Rule.stateAt config nodes (i + 1)) i
      hlasts.keepsClass (by rw [hlasts.any_eq lasting_isHalf, hhalf])
      (by rw [Rule.isWrapperAt_stateAt, hseen])
    rw [hj.getElem?_right_of_lt (Nat.lt_succ_self i) hgap hseen',
      Rule.getElem?_stateAt_of_passed (Nat.lt_succ_self i) (Nat.lt_succ_self (i + 1)) hgap hseen',
      Rule.stateAt_succ, hstep, hlasts.isCounted, hnext, hself]
    cases hcounted : isCounted config nodes (i + 1) with
    | false => rfl
    | true =>
      -- the number has been given back a gap that has not been changed
      have hempty : config.noSpaceInsideBracket = true → a.value = [] := by
        intro hasked
        by_cases hspace : nodes[i]?.any Node.hasSpaceAfter = true
        · rw [keeps hasked hspace] at hcounted
          cases hcounted
        · rw [here] at hspace
          change ¬ (!List.isEmpty a.value) = true at hspace
          simpa using hspace
      exact congrArg not (hasSpaceAfter_revertAfter
        (unrevised _ (List.mem_of_getElem? here)).after config.noSpaceInsideBracket hempty)

/-- Whether a half-width run stands directly before the left bracket is the same all along, if the
bracket is exempt; and it is never so if the bracket is not, unless a space there is removed. -/
theorem flushHalf_before_seenAt (class_ : ∀ n ∈ nodes, n.KeepsClass)
    (left : nodes[i]?.any (Node.isCharAnd isLeftBracket) = true) (hij : i < j)
    (hi : AtBracket config nodes i w a) (isLeft_ : isLeft w.value = true)
    (hj : AtBracket config nodes j w' a')
    (keeps : config.closesBefore w.value = true → (before? nodes i).any isSpacedHalf = false) :
    (isExempt (seenAt config nodes i true) i true = true →
      (before? (seenAt config nodes j false) i).any isFlushHalf =
        (before? (seenAt config nodes i true) i).any isFlushHalf) ∧
      (isExempt (seenAt config nodes i true) i true = false →
        (before? (seenAt config nodes i true) i).any isFlushHalf = false →
          (before? (seenAt config nodes j false) i).any isFlushHalf = false) := by
  have hs := @lasts_seenAt config nodes class_ i true
  have ht := @lasts_seenAt config nodes class_ j false
  cases i with
  | zero => exact ⟨fun _ => rfl, fun _ _ => rfl⟩
  | succ m =>
    show (_ → (seenAt config nodes j false)[m]?.any isFlushHalf =
        (seenAt config nodes (m + 1) true)[m]?.any isFlushHalf) ∧
      (_ → (seenAt config nodes (m + 1) true)[m]?.any isFlushHalf = false →
        (seenAt config nodes j false)[m]?.any isFlushHalf = false)
    by_cases hhalf : nodes[m]?.any Node.isHalf = true
    · have hseen : isWrapperAt nodes (m + 1) = false := isWrapperAt_of_isCharAnd left
      have hseen' := isWrapperAt_of_isHalf hhalf
      -- after the left bracket nothing is done to the run
      rw [hj.getElem?_right_of_lt (Nat.lt_succ_self m) hij hseen,
        Rule.getElem?_stateAt_of_passed (Nat.lt_succ_self m) (Nat.lt_succ_self (m + 1)) hij hseen,
        hi.next, isLeft_, getElem?_wrapperSpace_of_ne (Nat.ne_of_lt (Nat.lt_succ_self m))]
      constructor
      · intro hexempt
        rw [if_pos hexempt]
      · intro hexempt hspaced
        rw [if_neg (Bool.not_eq_true _ ▸ hexempt)]
        have hget : (seenAt config nodes (m + 1) true)[m]? = nodes[m]? := by
          rw [hi.getElem?_left_of_lt (Nat.lt_succ_self m),
            getElem?_stateAt_of_isHalf class_ hhalf (any_isBracket_of_left left)]
        have hopen : config.closesBefore w.value = false := by
          cases hcloses : config.closesBefore w.value with
          | false => rfl
          | true =>
            have hkept : nodes[m]?.any isSpacedHalf = false := keeps hcloses
            rw [any_isHalf_eq, hkept, ← hget, hspaced] at hhalf
            cases hhalf
        rcases getElem?_spaceBracket_before isLeft_ hopen
          ((hs.any_eq lasting_isWrapper m).trans hseen') with hsame | hfilled
        · rw [hsame]
          exact hspaced
        · rw [hfilled]
          exact any_isFlushHalf_setAfter_one _
    · have hnot := Bool.not_eq_true _ ▸ hhalf
      have hs' := any_isFlushHalf_of_not_isHalf ((hs.any_eq lasting_isHalf m).trans hnot)
      have ht' := any_isFlushHalf_of_not_isHalf ((ht.any_eq lasting_isHalf m).trans hnot)
      rw [hs', ht']
      exact ⟨fun _ => rfl, fun _ _ => rfl⟩

end Pair

/-- Both brackets of a pair get the same answer in a list whose quotations have been done. -/
theorem isExempt_seenAt_pair (config : Config) {nodes : List Node}
    (unrevised : ∀ n ∈ nodes, n.IsUnrevised) {i j : Nat}
    (left : nodes[i]?.any (Node.isCharAnd isLeftBracket) = true)
    (pair : matchingRight? nodes i = some j) (keeps : KeepsSpaces config nodes i j) :
    isExempt (seenAt config nodes i true) i true =
      isExempt (seenAt config nodes j false) j false := by
  have class_ : ∀ n ∈ nodes, n.KeepsClass := fun n hn => (unrevised n hn).keepsClass
  have hs := @lasts_seenAt config nodes class_ i true
  have ht := @lasts_seenAt config nodes class_ j false
  obtain ⟨hij, right, -⟩ := matchingRight?_eq_some_iff.mp pair
  obtain ⟨v, a, here, hv⟩ := exists_char left
  obtain ⟨v', a', here', hv'⟩ := exists_char right
  obtain ⟨w, hw, hi⟩ := @exists_atBracket config nodes i v a class_ here
    (by rw [isBracket_eq, hv, Bool.true_or])
  obtain ⟨w', -, hj⟩ := @exists_atBracket config nodes j v' a' class_ here'
    (by rw [isBracket_eq, hv', Bool.or_true])
  have isLeft_ : isLeft w.value = true := by
    have hleft : isLeftBracket w.value = true := by
      rw [← isLeftBracket_canonical, canonical_of_resized hw, isLeftBracket_canonical, hv]
    exact ((Bool.and_eq_true _ _).mp hleft).2
  have hcloses : config.closesBefore w.value = true →
      (before? nodes i).any isSpacedHalf = false := by
    intro hcloses
    apply keeps.outside v a here
    rcases hw with rfl | rfl
    · rw [hcloses, Bool.true_or]
    · rw [hcloses, Bool.or_true]
  have hboth := isFlushBothSides_seenAt class_ left right hij hi here' hj keeps.right
  obtain ⟨hexempt, hnot⟩ := flushHalf_before_seenAt class_ left hij hi isLeft_ hj hcloses
  -- one answer is about the left bracket or the right one, the other about the right or the left
  have hleft := hs.isExempt_left pair
  have hright := ht.isExempt_right left pair
  rw [hboth] at hright
  cases hnext : opensOnto nodes i with
  | false =>
    rw [hleft, hright, hs.isLeftExempt, ht.isLeftExempt, hnext, Bool.and_false, Bool.and_false,
      Bool.or_comm]
  | true =>
    have hflush := flush_seenAt unrevised here pair hi isLeft_ hj
      ((Bool.or_eq_true _ _).mp hnext) keeps.left
    cases hd : isExempt (seenAt config nodes i true) i true with
    | true =>
      rw [hright, ht.isLeftExempt, hflush, hexempt hd, ← hs.isLeftExempt, Bool.or_comm, ← hleft, hd]
    | false =>
      obtain ⟨hl, hb⟩ := Bool.or_eq_false_iff.mp (hleft ▸ hd)
      rw [hs.isLeftExempt, hnext, Bool.and_true] at hl
      rw [hright, hb, ht.isLeftExempt, hflush]
      rcases Bool.and_eq_false_iff.mp hl with hspace | hapart
      · rw [hspace]
        rfl
      · rw [hnot hd hapart, Bool.and_false]
        rfl

/-! ### A pass over a list and inside of its quotations -/

section Sweep

variable {config : Config} {nodes : List Node}

/-- What is the same for all quotations is there when their inside has been done. -/
theorem map_sweepInside {α : Type} {f : Node → α} (hf : Node.Lasting f) :
    (sweepInside Rule.all config nodes).map f = nodes.map f := by
  rw [sweepInside_eq_map, List.map_map]
  refine List.map_congr_left fun n _ => ?_
  cases n with
  | group o inner ns c a =>
    rw [Function.comp_apply, Node.sweep]
    exact hf.group ..
  | char v a => rw [Function.comp_apply, Node.sweep]
  | half v a => rw [Function.comp_apply, Node.sweep]
  | full v a => rw [Function.comp_apply, Node.sweep]
  | event e s a => rw [Function.comp_apply, Node.sweep]

theorem Node.eq_char_of_sweep {n : Node} {v : Revisable Char} {a : Revisable Space}
    (h : n.sweep Rule.all config = .char v a) : n = .char v a := by
  cases n with
  | char u b => rwa [Node.sweep] at h
  | group o inner ns c b =>
    rw [Node.sweep] at h
    cases h
  | half u b =>
    rw [Node.sweep] at h
    cases h
  | full u b =>
    rw [Node.sweep] at h
    cases h
  | event e s b =>
    rw [Node.sweep] at h
    cases h

theorem isUnrevised_sweepInside (unrevised : ∀ n ∈ nodes, n.IsUnrevised) :
    ∀ n ∈ sweepInside Rule.all config nodes, n.IsUnrevised := by
  intro n hn
  rw [sweepInside_eq_map] at hn
  obtain ⟨m, hm, rfl⟩ := List.mem_map.mp hn
  have h := unrevised m hm
  refine ⟨by rw [Node.after_sweep, h.after], ?_⟩
  intro v a hv
  exact h.mark v a (Node.eq_char_of_sweep hv)

/-- A property that does not depend on what stands in a quotation. -/
theorem any_sweepInside {p : Node → Bool} (hp : ∀ n, p (n.sweep Rule.all config) = p n)
    (found : List Node → Option Node)
    (map : found (nodes.map (Node.sweep Rule.all config)) =
      (found nodes).map (Node.sweep Rule.all config)) :
    (found (sweepInside Rule.all config nodes)).any p = (found nodes).any p := by
  rw [sweepInside_eq_map, map]
  cases found nodes with
  | none => rfl
  | some n => exact hp n

/-- It does not matter that the inside of quotations has been done. -/
theorem KeepsSpaces.sweepInside {i j : Nat} (unrevised : ∀ n ∈ nodes, n.IsUnrevised)
    (h : KeepsSpaces config nodes i j) :
    KeepsSpaces config (sweepInside Rule.all config nodes) i j := by
  have hlasts : Lasts nodes (CjkProse.sweepInside Rule.all config nodes) :=
    ⟨fun n hn => (isUnrevised_sweepInside unrevised n hn).keepsClass, map_sweepInside⟩
  have hspace : ∀ n : Node, (n.sweep Rule.all config).hasSpaceAfter = n.hasSpaceAfter := by
    intro n
    rw [Node.hasSpaceAfter, Node.after_sweep, Node.hasSpaceAfter]
  have hspaced : ∀ n : Node, isSpacedHalf (n.sweep Rule.all config) = isSpacedHalf n := by
    intro n
    rw [isSpacedHalf, hspace, isSpacedHalf]
    cases n with
    | group o inner ns c a =>
      rw [Node.sweep]
      rfl
    | _ => rw [Node.sweep]
  have hbefore : ∀ k, (before? (CjkProse.sweepInside Rule.all config nodes) k).any isSpacedHalf =
      (before? nodes k).any isSpacedHalf := by
    intro k
    apply any_sweepInside hspaced fun ns => before? ns k
    cases k with
    | zero => rfl
    | succ k => exact List.getElem?_map
  refine ⟨?_, ?_, ?_⟩
  · rw [hbefore]
    exact h.right
  · rw [hlasts.isCounted, any_sweepInside hspace (fun ns => ns[i]?) List.getElem?_map]
    exact h.left
  · intro v a here
    rw [hbefore]
    apply h.outside v a
    rw [sweepInside_eq_map, List.getElem?_map] at here
    obtain ⟨n, hn, hv⟩ := Option.map_eq_some_iff.mp here
    rw [hn, Node.eq_char_of_sweep hv]

end Sweep

/-- **The brackets of a pair are exempt together.**  When the rules run over a list that has only
been read, they leave the outer spaces of a left bracket alone exactly when they leave those of its
right bracket alone, unless they remove a space that this depends on in between. -/
theorem exemptAt_pair (config : Config) {nodes : List Node}
    (unrevised : ∀ n ∈ nodes, n.IsUnrevised) {i j : Nat}
    (left : nodes[i]?.any (Node.isCharAnd isLeftBracket) = true)
    (pair : matchingRight? nodes i = some j) (keeps : KeepsSpaces config nodes i j) :
    exemptAt config nodes i true = exemptAt config nodes j false := by
  have hlasts : Lasts nodes (sweepInside Rule.all config nodes) :=
    ⟨fun n hn => (isUnrevised_sweepInside unrevised n hn).keepsClass, map_sweepInside⟩
  apply isExempt_seenAt_pair config (isUnrevised_sweepInside unrevised) _
    (hlasts.matchingRight? pair) (keeps.sweepInside unrevised)
  rw [hlasts.any_eq lasting_isLeftBracket, left]

theorem isUnrevised_letters {full : Bool} {letters gap : Text} {s s' : Span} :
    (Node.letters full letters gap s s').IsUnrevised := by
  cases full with
  | false => exact ⟨rfl, fun v a h => by cases h⟩
  | true => exact ⟨rfl, fun v a h => by cases h⟩

theorem isUnrevised_mark {c : Char} {gap : Text} {s s' : Span} :
    (Node.mark c gap s s').IsUnrevised := by
  refine ⟨rfl, fun v a h => ?_⟩
  cases h
  rfl

/-- Five nodes in brackets and around them: a wide run, a left bracket, a run with `gap` after it, a
right bracket, and another run. -/
def bracketed (gap : Text) : List Node :=
  [.letters true ['中', '文'] [] ⟨0, 6⟩ ⟨6, 6⟩, .mark '(' [] ⟨6, 7⟩ ⟨7, 7⟩,
    .letters false ['1'] gap ⟨7, 8⟩ ⟨8, 8⟩, .mark ')' [] ⟨8, 9⟩ ⟨9, 9⟩,
    .letters false ['E', 'n'] [] ⟨9, 11⟩ ⟨11, 11⟩]

theorem isUnrevised_bracketed (gap : Text) : ∀ n ∈ bracketed gap, n.IsUnrevised := by
  unfold bracketed
  refine List.forall_mem_cons.mpr ⟨isUnrevised_letters, ?_⟩
  refine List.forall_mem_cons.mpr ⟨isUnrevised_mark, ?_⟩
  refine List.forall_mem_cons.mpr ⟨isUnrevised_letters, ?_⟩
  refine List.forall_mem_cons.mpr ⟨isUnrevised_mark, ?_⟩
  exact List.forall_mem_singleton.mpr isUnrevised_letters

/-- The conclusion of `exemptAt_pair` without a gap: the right bracket stands directly between two
half-width runs, so both brackets are exempt. -/
theorem exemptAt_pair_numbered :
    exemptAt .default (bracketed []) 1 true = exemptAt .default (bracketed []) 3 false ∧
      exemptAt .default (bracketed []) 1 true = true := by
  have hkeeps : KeepsSpaces .default (bracketed []) 1 3 := by
    refine ⟨fun _ => by decide, fun _ h => ?_, fun v a _ _ => by decide⟩
    exact absurd h (by decide)
  refine ⟨?_, by decide +kernel⟩
  exact exemptAt_pair .default (isUnrevised_bracketed []) (by decide) (by decide) hkeeps

/-- With a gap directly before the right bracket they are not.  The left bracket finds the gap still
there and has its outer gap filled, the right one has closed it and is exempt. -/
theorem not_exemptAt_pair :
    ¬ ∀ (config : Config) (nodes : List Node) (i j : Nat), (∀ n ∈ nodes, n.IsUnrevised) →
      nodes[i]?.any (Node.isCharAnd isLeftBracket) = true → matchingRight? nodes i = some j →
        exemptAt config nodes i true = exemptAt config nodes j false := by
  intro h
  have hpair := h .default (bracketed [' ']) 1 3 (isUnrevised_bracketed [' ']) (by decide)
    (by decide)
  exact absurd hpair (by decide +kernel)

end CjkProse
