import CjkProse.Proofs.Rule.Abbreviations
import CjkProse.Proofs.Rule.PauseGaps

/-!
# What the exceptions give back

The exceptions run last at a node, and give back a full stop that ends an abbreviation with the space
after it, or the gaps beside a number before a unit.  But the pass goes on.  At the next node that is
seen the gap is looked at once more, and when the list is in a quotation, the rule for quotations may
still empty the space at its end.  At a unit nothing is set.  After a full stop only a right bracket
closes the gap, because no other rule sets a gap between a node and a mark that pauses or stops
before it.

## Main results

* `Gap.spaceAt_right_of_isPause` — **what all rules at a node do to the gap after a mark that pauses
  or stops.**
* `getElem?_applyAllAt_of_isAbbrStop` — what all rules at a full stop make of it.
* `exceptions_hold` — **in the end the exceptions hold,** but for these two cases.
-/

namespace CjkProse

open Neighbours

/-! ### After a mark that pauses or stops -/

section Pause

variable {config : Config} {nodes : List Node} {l h r : Nat} {v : Revisable Char}
  {a : Revisable Space} {m n : Node}

theorem isRight_of_isPause {c : Char} (h : isPause c = true) : isRight c = false := by
  unfold isPause at h
  unfold isRight
  cases hk : CharKind.of c <;> rw [hk] at h <;> simp_all [CharKind.isPause, CharKind.isRight]

theorem isRightBracket_of_isLeft {c : Char} (h : isLeft c = true) : isRightBracket c = false := by
  unfold isLeft at h
  unfold isRightBracket isBracket isRight
  cases hk : CharKind.of c <;> rw [hk] at h <;>
    simp_all [CharKind.isLeft, CharKind.isBracket, CharKind.isRight]

/-- A mark stays one when it gets its width. -/
theorem exists_char_markWidth (here : nodes[r]? = some (.char v a)) :
    ∃ w, (Rules.markWidth config nodes r)[r]? = some (.char w a) := by
  unfold Rules.markWidth
  rw [here]
  dsimp only
  split
  · exact ⟨_, List.getElem?_set_self (List.getElem?_eq_some_iff.mp here).1⟩
  · exact ⟨v, here⟩

/-- A mark that pauses or stops ends no phrase. -/
theorem not_endsPhrase_of_isPause (pause : m.isCharAnd isPause = true) :
    Rules.endsPhrase m = false := by
  cases m with
  | char v a =>
    have hright : isRight v.value = false := isRight_of_isPause pause
    simp [Rules.endsPhrase, Node.isContent, Node.isHalf, Node.isFull, Node.isGroup, Node.isCode,
      Node.isEventOf, Node.isCharAnd, hright]
  | half v a => cases pause
  | full v a => cases pause
  | event e s a => cases pause
  | group o inner ns c a => cases pause

namespace Gap

/-- The rule for marks that pause or stop leaves the gap between two such marks alone. -/
theorem spaceAt_pauseSpace (gap : Gap nodes l h r) (here : nodes[l]? = some m)
    (pause : m.isCharAnd isPause = true) (there : nodes[r]? = some (.char v a))
    (pause' : isPause v.value = true) :
    spaceAt (Rules.pauseSpace config nodes r) h = spaceAt nodes h := by
  cases hspared : isTightHalfwidthPunctuation nodes r || isSuccessivePunctuation nodes r with
  | true =>
    unfold Rules.pauseSpace
    rw [there]
    dsimp only
    rw [if_neg]
    simp only [Bool.and_eq_true, Bool.not_eq_true', not_and]
    rintro ⟨-, htight⟩ hrow
    rw [htight, hrow] at hspared
    cases hspared
  | false =>
    rw [Rules.pauseSpace_eq there pause' hspared, gap.spaceAt_meetBeside_right, gap.nodeBefore?,
      here, Option.any_some, not_endsPhrase_of_isPause pause, Bool.and_false]
    exact Option.map_id'

/-- The rule for brackets closes the gap before a right bracket. -/
theorem spaceAt_bracketSpace_right (gap : Gap nodes l h r) (there : nodes[r]? = some (.char v a))
    (left : isLeft v.value = false) :
    spaceAt (Rules.bracketSpace config nodes r) h = (spaceAt nodes h).map fun g =>
      g.reviseTo (demandNone (config.noSpaceInsideBracket && isRightBracket v.value)) := by
  by_cases hv : isBracket v.value = true
  · have hright : isRightBracket v.value = true := by
      rw [isBracket_eq, Bool.or_eq_true] at hv
      rcases hv with hv | hv
      · rw [isLeftBracket, left, Bool.and_false] at hv
        cases hv
      · exact hv
    have hclosed : spaceAt (Rules.closeBracket config nodes r false) h = (spaceAt nodes h).map
        fun g => g.reviseTo (demandNone config.noSpaceInsideBracket) := by
      rw [Rules.closeBracket, closeGap_eq]
      exact gap.spaceBeforeHolder? ▸ spaceAt_meetGap_self _
    -- the gap outside of the bracket is another one
    have houtside : ∀ (ns : List Node) wide,
        spaceAt (Rules.outsideBracket config ns (Neighbours.spaceAfterHolder? ns r) wide) h =
          spaceAt ns h := by
      intro ns wide
      have hne := @ne_of_mem_spaceAfterHolder? ns r h gap.holder_lt
      unfold Rules.outsideBracket
      rw [closeGap_eq, demandGap_eq]
      split
      · exact spaceAt_meetGap_of_ne hne _
      · exact spaceAt_meetGap_of_ne hne _
    rw [Rules.bracketSpace_eq there hv, left, hright, Bool.and_true, ← hclosed]
    split
    · rfl
    · unfold Rules.spaceBracket
      rw [if_neg (by rw [left]; decide)]
      split
      · exact houtside _ _
      · rfl
  · have hright : isRightBracket v.value = false := by
      rw [isRightBracket, eq_false_of_ne_true hv, Bool.false_and]
    unfold Rules.bracketSpace
    rw [there]
    dsimp only
    rw [if_neg hv, hright, Bool.and_false]
    exact Option.map_id'.symm

/-- The gap between two marks, the first of which pauses or stops and the second of which opens
nothing, is closed before a right bracket and else left alone. -/
theorem spaceAt_right_of_char (gap : Gap nodes l h r) (class_ : ∀ n ∈ nodes, n.KeepsClass)
    (here : nodes[l]? = some m) (pause : m.isCharAnd isPause = true)
    (there : nodes[r]? = some (.char v a)) (left : isLeft v.value = false) :
    spaceAt (Rule.applyAllAt Rule.all config nodes r) h = (spaceAt nodes h).map fun g =>
      g.reviseTo (demandNone (config.noSpaceInsideBracket && isRightBracket v.value)) := by
  have hmark := @retouched_markWidth config nodes r class_
  have hgap := gap.lasts hmark.lasts
  have hbefore : (Rules.markWidth config nodes r)[l]? = some m := by
    rw [hmark.other l (Nat.ne_of_gt gap.lt), here]
  obtain ⟨w, hw⟩ : ∃ w, (Rules.markWidth config nodes r)[r]? = some (.char w a) :=
    exists_char_markWidth there
  have hleft : isLeft w.value = false := by
    have hopens := @any_isLeft_markWidth config nodes r class_
    rw [hw, there] at hopens
    exact hopens.trans left
  have hright : isRightBracket w.value = isRightBracket v.value :=
    hmark.lasts.eq_of_getElem? lasting_isRightBracket there hw
  cases hpause : isPause v.value with
  | true =>
    have hpause' : isPause w.value = true :=
      (hmark.lasts.eq_of_getElem? lasting_isPause there hw).trans hpause
    have hnot : isRightBracket v.value = false :=
      (not_faces_of_isPause (show (Node.char v a).isCharAnd isPause = true from hpause)).2.2
    rw [applyAllAt_of_isPause class_ there hpause,
      Rules.spaceAt_abbreviation_of_ne (Nat.ne_of_gt gap.holder_lt),
      (hgap.sameBodies sameBodies_pauseSpace).spaceAt_wrapperSpace,
      hgap.spaceAt_pauseSpace hbefore pause hw hpause', hmark.space, hnot, Bool.and_false]
    exact Option.map_id'.symm
  | false =>
    rw [applyAllAt_of_char class_ there hpause,
      (hgap.sameBodies sameBodies_bracketSpace).spaceAt_wrapperSpace,
      hgap.spaceAt_bracketSpace_right hw hleft, hmark.space, hright]

/-- **The gap after a mark that pauses or stops, at the next node.**  It is closed before a right
bracket, if that is asked for, and given back before a number before a unit. -/
theorem spaceAt_right_of_isPause (gap : Gap nodes l h r) (class_ : ∀ n ∈ nodes, n.KeepsClass)
    (here : nodes[l]? = some m) (pause : m.isCharAnd isPause = true) (there : nodes[r]? = some n) :
    spaceAt (Rule.applyAllAt Rule.all config nodes r) h = (spaceAt nodes h).map fun g =>
      if isCounted config nodes r then g.revert
      else g.reviseTo
        (demandNone (config.noSpaceInsideBracket && n.isCharAnd isRightBracket)) := by
  by_cases hstarts : Rules.startsPhrase n = true
  · -- prose goes on, so there is no right bracket
    have hright : n.isCharAnd isRightBracket = false := by
      cases n with
      | char v a => exact isRightBracket_of_isLeft hstarts
      | half v a => rfl
      | full v a => rfl
      | event e s a => rfl
      | group o inner ns c a => rfl
    rw [gap.spaceAt_right_of_startsPhrase class_ here there pause hstarts, hright, Bool.and_false]
    rfl
  · cases n with
    | half v a => exact absurd rfl hstarts
    | full v a => exact absurd rfl hstarts
    | group o inner ns c a => exact absurd rfl hstarts
    | event e s a =>
      have hcode : (Node.event e s a).isCode = false := by
        simpa [Rules.startsPhrase, Node.isContent, Node.isHalf, Node.isFull, Node.isGroup,
          Node.isCharAnd] using hstarts
      rw [applyAllAt_of_event class_ there hcode, gap.spaceAt_wrapperSpace]
      simp [isCounted, there, Rules.isNumber, Node.isCharAnd, demandNone]
    | char v a =>
      have hcounted : isCounted config nodes r = false := by simp [isCounted, there, Rules.isNumber]
      rw [hcounted,
        gap.spaceAt_right_of_char class_ here pause there (eq_false_of_ne_true hstarts)]
      rfl

end Gap

end Pause

/-! ### At a full stop that ends an abbreviation -/

section Stop

variable {config : Config} {nodes ns : List Node} {i : Nat} {v : Revisable Char}
  {a : Revisable Space}

/-- A mark that is a full stop in the source pauses or stops. -/
theorem isPause_of_original (class_ : (Node.char v a).KeepsClass) (original : v.original = '.') :
    isPause v.value = true := by
  have hclass : canonical v.value = canonical v.original := class_
  rw [← isPause_canonical, hclass, original]
  decide

/-- All rules at a full stop that ends an abbreviation give it back, and the space after it. -/
theorem getElem?_applyAllAt_of_isAbbrStop (class_ : ∀ n ∈ nodes, n.KeepsClass)
    (here : nodes[i]? = some (.char v a)) (stop : isAbbrStop config nodes i = true)
    (loose : ((after? nodes i).any Node.isHalf && a.original.isEmpty) = false) :
    (Rule.applyAllAt Rule.all config nodes i)[i]? = some (.char v.revert a.revert) := by
  have hpause : isPause v.value = true := by
    obtain ⟨v', a', here', horiginal⟩ := exists_char_of_isAbbrStop stop
    rw [here] at here'
    cases here'
    exact isPause_of_original (class_ _ (List.mem_of_getElem? here)) horiginal
  rw [applyAllAt_of_isPause class_ here hpause]
  -- the rules before the exception have revised the mark and the space, but not their source
  have hlasts : Lasts nodes (Rules.wrapperSpace config
      (Rules.pauseSpace config (Rules.markWidth config nodes i) i) i) :=
    (Lasts.refl class_).applyAllAt [.markWidth, .pauseSpace, .wrapperSpace] config i
  have hbare : (Rules.wrapperSpace config
      (Rules.pauseSpace config (Rules.markWidth config nodes i) i) i).map Node.bare =
        nodes.map Node.bare :=
    Rule.map_bare_applyAllAt [.markWidth, .pauseSpace, .wrapperSpace] i
  generalize Rules.wrapperSpace config
    (Rules.pauseSpace config (Rules.markWidth config nodes i) i) i = ns at *
  obtain ⟨n, hn⟩ := hlasts.exists_getElem? here
  have hget : n.bare = (Node.char v a).bare := by
    have hmap := congrArg (·[i]?) hbare
    simpa [hn, here] using hmap
  obtain ⟨v', a', rfl, hv, ha⟩ := Node.exists_char_of_bare hget
  have hloose : ((after? ns i).any Node.isHalf && a'.original.isEmpty) = false := by
    rw [after?, hlasts.any_eq lasting_isHalf, ← Revisable.original_revert a', ha]
    exact loose
  rw [← isAbbrStop_of_map_bare hbare] at stop
  rw [Rules.abbreviation_of_isAbbrStop hn stop hloose, hv, ha]
  exact List.getElem?_set_self (List.getElem?_eq_some_iff.mp hn).1

/-- So it is when a pass has come to a full stop that ends an abbreviation. -/
theorem exists_stateAt_of_isAbbrStop (hp : Polished config nodes ns)
    (here : ns[i]? = some (.char v a)) (stop : isAbbrStop config ns i = true)
    (loose : ((after? ns i).any Node.isHalf && a.original.isEmpty) = false) :
    ∃ (v₀ : Revisable Char) (a₀ : Revisable Space), v₀.original = '.' ∧
      (Rule.applyAllAt Rule.all config (Rule.stateAt config nodes i) i)[i]? =
        some (.char v₀.revert a₀.revert) := by
  have hlasts := hp.lasts_stateAt i
  rw [← hp.isAbbrStop_stateAt i] at stop
  obtain ⟨v₀, a₀, hstate, horiginal⟩ := exists_char_of_isAbbrStop stop
  refine ⟨v₀, a₀, horiginal, getElem?_applyAllAt_of_isAbbrStop hlasts.keepsClass hstate stop ?_⟩
  rw [after?, hlasts.any_eq lasting_isHalf]
  cases hhalf : ns[i + 1]?.any Node.isHalf with
  | false => rfl
  | true =>
    -- the full stop is not the last node, so its space has the same source in the end
    rw [after?, hhalf, Bool.true_and] at loose
    have hlt : i + 1 < ns.length := lt_length_of_any hhalf
    have hbare := hp.bare_getElem? hlt i
    rw [here, hstate] at hbare
    have hrevert : a.revert = a₀.revert := by
      injection hbare with hbare
      exact (Node.char.inj hbare).2
    rw [← Revisable.original_revert a₀, ← hrevert]
    exact loose

/-- **The full stop in the end.** -/
theorem value_of_isAbbrStop (hp : Polished config nodes ns) (here : ns[i]? = some (.char v a))
    (stop : isAbbrStop config ns i = true)
    (loose : ((after? ns i).any Node.isHalf && a.original.isEmpty) = false) : v.value = '.' := by
  obtain ⟨v₀, a₀, horiginal, hstate⟩ := exists_stateAt_of_isAbbrStop hp here stop loose
  have hlt : i < nodes.length := by
    rw [← hp.lasts.length_eq]
    exact (List.getElem?_eq_some_iff.mp here).1
  have hbody := hp.map_body (Nat.lt_succ_self i) hlt
  rw [Rule.stateAt_succ, here, hstate] at hbody
  cases hbody
  exact horiginal

/-- A node that is seen and owns a gap is the left one of it. -/
theorem Gap.eq_of_seen {l h r : Nat} (gap : Gap nodes l h r) (seen : isWrapperAt nodes h = false) :
    l = h := by
  rcases Nat.eq_or_lt_of_le gap.le_holder with hl | hl
  · exact hl
  · have hclosing := isClosing_of_lt_gapHolder (Nat.le_of_lt gap.lt_length) (gap.holder ▸ hl)
    rw [gap.holder] at hclosing
    obtain ⟨n, hn, hclosing⟩ := (Option.any_eq_true _ _).mp hclosing
    rw [isWrapperAt, hn, Option.any_some, Node.isWrapper, hclosing, Bool.or_true] at seen
    cases seen

/-- **The space after the full stop in the end,** if it is not the last node. -/
theorem space_of_isAbbrStop (hp : Polished config nodes ns) (here : ns[i]? = some (.char v a))
    (stop : isAbbrStop config ns i = true)
    (loose : ((after? ns i).any Node.isHalf && a.original.isEmpty) = false)
    (hlt : i + 1 < ns.length) :
    a.value = a.original ∨
      a.value = [] ∧ (nodeAfter? ns i).any (Node.isCharAnd isRightBracket) = true := by
  obtain ⟨v₀, a₀, horiginal, hstate⟩ := exists_stateAt_of_isAbbrStop hp here stop loose
  have hseen : isWrapperAt ns i = false := isWrapperAt_eq_false here rfl
  by_cases howns : ∃ l r, Gap ns l i r
  · -- it owns the gap to the next node, where this is set for the last time
    obtain ⟨l, r, hgap⟩ := howns
    rw [hgap.eq_of_seen hseen] at hgap
    have hlasts := hp.lasts_stateAt r
    obtain ⟨m, hm⟩ := hlasts.exists_getElem? here
    have hpause : m.isCharAnd isPause = true := by
      rw [hlasts.eq_of_getElem? lasting_isPause here hm, Node.isCharAnd,
        value_of_isAbbrStop hp here stop loose]
      decide
    have there := List.getElem?_eq_getElem hgap.lt_length
    obtain ⟨n, hn⟩ := hlasts.exists_getElem? there
    have hspace := hp.spaceAt (hp.gap hgap)
    rw [(hgap.lasts hlasts).spaceAt_right_of_isPause hlasts.keepsClass hm hpause hn,
      (hp.gap hgap).spaceAt_stateAt_right hp.keepsClass, spaceAt, spaceAt, hstate, here] at hspace
    rw [hgap.nodeAfter?, there, Option.any_some,
      ← hlasts.eq_of_getElem? lasting_isRightBracket there hn]
    have ha : a = if isCounted config (Rule.stateAt config nodes r) r then a₀.revert
        else a₀.revert.reviseTo
          (demandNone (config.noSpaceInsideBracket && n.isCharAnd isRightBracket)) :=
      Option.some.inj hspace
    rw [ha]
    split
    · exact .inl rfl
    · cases hclosed : config.noSpaceInsideBracket && n.isCharAnd isRightBracket with
      | false => exact .inl rfl
      | true =>
        right
        exact ⟨by simp [demandNone, Space.empty], ((Bool.and_eq_true _ _).mp hclosed).2⟩
  · -- the pass leaves it alone once it has been there
    left
    rw [hp.getElem?_of_apart hlt fun l r hgap => howns ⟨l, r, hgap⟩, hstate] at here
    cases here
    rfl

end Stop

/-! ### At a number before a unit -/

section Number

variable {config : Config} {nodes ns : List Node} {i : Nat}

/-- What a number before a unit and this unit are. -/
theorem exists_of_isCounted (counted : isCounted config ns i = true) :
    ∃ m n, ns[i]? = some m ∧ m.isContent = true ∧ nodeAfter? ns i = some n ∧ n.isFull = true := by
  obtain ⟨hnumber, hunit⟩ := (Bool.and_eq_true _ _).mp counted
  obtain ⟨m, here, hnumber⟩ := (Option.any_eq_true _ _).mp hnumber
  obtain ⟨n, next, hunit⟩ := (Option.any_eq_true _ _).mp hunit
  refine ⟨m, n, here, ?_, next, ((Bool.and_eq_true _ _).mp hunit).1⟩
  cases m with
  | half v a => rfl
  | char v a => cases hnumber
  | full v a => cases hnumber
  | event e s a => cases hnumber
  | group o inner ms c a => cases hnumber

theorem isWrapperAt_of_isContent {m : Node} (here : ns[i]? = some m) (content : m.isContent = true) :
    isWrapperAt ns i = false :=
  isWrapperAt_eq_false here (not_isWrapper_of_isText (by rw [Node.isText, content, Bool.true_or]))

/-- The gap before a number before a unit is set for the last time when it is given back. -/
theorem exists_spaceBefore?_of_isCounted (hp : Polished config nodes ns)
    (counted : isCounted config ns i = true) (before : (nodeBefore? ns i).isSome = true) :
    ∃ a, spaceBefore? ns i = some a ∧ a.value = a.original := by
  obtain ⟨m, -, here, hcontent, -, -⟩ := exists_of_isCounted counted
  obtain ⟨k, hk⟩ := Option.isSome_iff_exists.mp before
  obtain ⟨l, h, hgap, -⟩ := Gap.exists_before (isWrapperAt_of_isContent here hcontent)
    (List.getElem?_eq_some_iff.mp here).1 hk
  have hlasts := hp.lasts_stateAt i
  obtain ⟨m', here'⟩ := hlasts.exists_getElem? here
  have hcontent' : m'.isContent = true :=
    (hlasts.eq_of_getElem? lasting_isContent here here').trans hcontent
  have hlast := hp.spaceAt (hp.gap hgap)
  rw [(hgap.lasts hlasts).spaceAt_right_of_isContent hlasts.keepsClass here' hcontent',
    hlasts.isCounted, counted] at hlast
  have hlt : h < (Rule.stateAt config nodes i).length := by
    rw [hlasts.length_eq]
    exact Nat.lt_trans hgap.holder_lt hgap.lt_length
  rw [spaceAt, spaceAt, List.getElem?_eq_getElem hlt] at hlast
  rw [hgap.spaceBefore?, spaceAt, hlast]
  exact ⟨_, rfl, rfl⟩

/-- The gap after it is given back, and at the unit nothing is set. -/
theorem exists_spaceAfter?_of_isCounted (hp : Polished config nodes ns)
    (counted : isCounted config ns i = true) :
    ∃ a, spaceAfter? ns i = some a ∧ a.value = a.original := by
  obtain ⟨m, n, here, hcontent, next, hfull⟩ := exists_of_isCounted counted
  obtain ⟨h, r, hgap, there⟩ := Gap.exists_after (isWrapperAt_of_isContent here hcontent) next
  have hm : m.isText = true := by rw [Node.isText, hcontent, Bool.true_or]
  have hn : n.isText = true := by rw [Node.isText, Node.isContent, hfull, Bool.or_true, Bool.true_or]
  have hcode : n.isCode = false := not_isCode_of_isCounted next counted
  obtain ⟨a, hvalue, hspace⟩ := hp.exists_space (hp.gap hgap)
    (hgap.spaceAt_left_of_isText (hp.lasts_stateAt i) here there hm hn)
    (hgap.spaceAt_right_of_isText (hp.lasts_stateAt r) here there hm hn)
  rw [hgap.spaceAfter?, hspace, counted, hcode]
  refine ⟨_, rfl, ?_⟩
  split <;> rfl

end Number

/-! ### In the end -/

section Last

variable {config : Config} {ns : List Node}

/-- **In the end the exceptions hold.**  In any list of a paragraph that has been read and polished,
the gaps beside a number before a unit hold the space of the source; and a full stop that ends an
abbreviation, and has no half-width run right after it, is a full stop still.  So is the space after
it that of the source, but that it may be emptied before a right bracket or at the end of a
quotation. -/
theorem exceptions_hold (config : Config) {b : Block} {p : Paragraph} (parsed : b.parse = .ok p)
    (within : NodesWithin (polish config p) ns) (i : Nat) :
    (isCounted config ns i = true →
        ((nodeBefore? ns i).isSome = true →
            ∃ a, spaceBefore? ns i = some a ∧ a.value = a.original) ∧
          ∃ a, spaceAfter? ns i = some a ∧ a.value = a.original) ∧
      ∀ v a, ns[i]? = some (.char v a) → isAbbrStop config ns i = true →
        ((after? ns i).any Node.isHalf && a.original.isEmpty) = false →
          v.value = '.' ∧
            (a.value = a.original ∨
              a.value = [] ∧
                ((nodeAfter? ns i).any (Node.isCharAnd isRightBracket) = true ∨
                  i + 1 = ns.length ∧
                    ∃ ms, NodesWithin (polish config p) ms ∧ ∃ n ∈ ms, n.quoted? = some ns)) := by
  obtain ⟨nodes, hp⟩ := exists_polished parsed within
  constructor
  · intro counted
    exact ⟨exists_spaceBefore?_of_isCounted hp counted, exists_spaceAfter?_of_isCounted hp counted⟩
  · intro v a here stop loose
    refine ⟨value_of_isAbbrStop hp here stop loose, ?_⟩
    rcases Nat.eq_or_lt_of_le (Nat.succ_le_of_lt (List.getElem?_eq_some_iff.mp here).1) with hi | hi
    · -- at the end of the list
      have hlast : Node.char v a ∈ ns.getLast? := by
        rw [List.getLast?_eq_getElem?, ← hi]
        exact here
      rcases endsFresh_or_endsClosed parsed within with hfresh | ⟨hclosed, hquoted⟩
      · left
        rw [Revisable.value, show a.modified = none from hfresh _ hlast, Option.getD_none]
      · rcases hclosed _ hlast with hmodified | hmodified
        · left
          rw [Revisable.value, show a.modified = none from hmodified, Option.getD_none]
        · right
          refine ⟨?_, .inr ⟨hi, hquoted⟩⟩
          rw [Revisable.value, show a.modified = some Space.empty from hmodified, Option.getD_some]
          rfl
    · rcases space_of_isAbbrStop hp here stop loose hi with hvalue | ⟨hvalue, hright⟩
      · exact .inl hvalue
      · exact .inr ⟨hvalue, .inl hright⟩

end Last

/-- What is quoted in `“中5年etc. ”`, with the revised form of the space at the end. -/
def yearNodes (gap : Option Space) : List Node :=
  [.full ⟨['中'], ⟨3, 6⟩, none⟩ ⟨[], ⟨6, 6⟩, none⟩, .half ⟨['5'], ⟨6, 7⟩, none⟩ ⟨[], ⟨7, 7⟩, none⟩,
    .full ⟨['年'], ⟨7, 10⟩, none⟩ ⟨[], ⟨10, 10⟩, none⟩,
    .half ⟨['e', 't', 'c'], ⟨10, 13⟩, none⟩ ⟨[], ⟨13, 13⟩, none⟩,
    .char ⟨'.', ⟨13, 14⟩, none⟩ ⟨[' '], ⟨14, 15⟩, gap⟩]

/-- The quotation. -/
def yearQuotation (gap : Option Space) : Node :=
  .group ⟨'“', ⟨0, 3⟩, none⟩ ⟨[], ⟨3, 3⟩, none⟩ (yearNodes gap) ⟨'”', ⟨15, 18⟩, none⟩
    ⟨[], ⟨18, 18⟩, none⟩

set_option maxRecDepth 4096 in
/-- The conclusion of `exceptions_hold` at the number and at the full stop.  No space comes before
the number, as one does before others, and the full stop is still one.  The space after it is gone,
since the quotation ends there. -/
theorem exceptions_hold_year :
    ∃ p ns g v a, (Block.ofText ['“', '中', '5', '年', 'e', 't', 'c', '.', ' ', '”']).parse = .ok p ∧
      NodesWithin (polish .default p) ns ∧ spaceBefore? ns 1 = some g ∧ g.value = [] ∧
      ns[4]? = some (.char v a) ∧ v.value = '.' ∧ a.original = [' '] ∧ a.value = [] := by
  have hparse : (Block.ofText ['“', '中', '5', '年', 'e', 't', 'c', '.', ' ', '”']).parse =
      .ok [yearQuotation none] := rfl
  have hpolish : polish .default [yearQuotation none] = [yearQuotation (some [])] := by rfl
  have hwithin : NodesWithin (polish .default [yearQuotation none]) (yearNodes (some [])) := by
    rw [hpolish]
    exact .inside List.mem_cons_self rfl (.whole _)
  obtain ⟨hnumber, -⟩ := exceptions_hold .default hparse hwithin 1
  obtain ⟨hbefore, -⟩ := hnumber (by decide)
  obtain ⟨g, hg, hgap⟩ := hbefore rfl
  obtain ⟨-, hstop⟩ := exceptions_hold .default hparse hwithin 4
  obtain ⟨hvalue, -⟩ := hstop _ _ rfl (by decide) rfl
  refine ⟨_, _, g, _, _, hparse, hwithin, hg, ?_, rfl, hvalue, rfl, rfl⟩
  rw [hgap]
  cases hg
  rfl

end CjkProse
