import CjkProse.Proofs.Rule.MarkWidth
import CjkProse.Proofs.Rule.QuoteGaps

/-!
# Spaces around wide marks that pause or stop

A mark that pauses or stops gets its width before the gaps beside it are set, in one step of the
pass.  So the rule for these gaps already sees the mark as it is in the end, and a wide mark is
never one of those that are left alone between or beside Western ones.  What comes before it has
been visited; what comes after it has not been, but stays something with which prose goes on, and
nothing there asks for a space next to a mark.  Only a number before a unit takes the space back.

## Main definitions

* `KeepsLeft` — what opens something does so all along.

## Main results

* `Write.map_isLeft` — no write makes a mark open something, or keeps one from it.
* `atNode_of_wide` — **what all rules at a wide mark do to the gaps beside it.**
* `Gap.spaceAt_right_of_startsPhrase` — what comes after a mark sets no gap before it.
* `flush_wide_pause` — **there are no spaces around a wide mark in the end.**
-/

namespace CjkProse

open Neighbours

/-! ### Marks that open something -/

theorem isLeft_halfwidth {c : Char} (h : isQuote c = false) : isLeft (halfwidth c) = isLeft c := by
  unfold halfwidth
  split
  case h_13 | h_14 | h_15 | h_16 => exact absurd h (by decide)
  all_goals rfl

theorem isLeft_fullwidth (c : Char) : isLeft (fullwidth c) = isLeft c := by
  unfold fullwidth
  split
  all_goals rfl

theorem isQuote_of_isSide {c : Char} (h : (isSingle c || isBracket c) = true) :
    isQuote c = false := by
  unfold isSingle isPause isOtherPunctuation isBracket at h
  unfold isQuote
  cases hk : CharKind.of c <;> rw [hk] at h <;>
    simp_all [CharKind.isPause, CharKind.isOtherPunctuation, CharKind.isBracket, CharKind.isQuote]

theorem isLeft_of_isPause {c : Char} (h : isPause c = true) : isLeft c = false := by
  unfold isPause at h
  unfold isLeft
  cases hk : CharKind.of c <;> rw [hk] at h <;> simp_all [CharKind.isPause, CharKind.isLeft]

/-- Bringing a mark that stands alone, or a bracket, to its width keeps what it opens. -/
theorem isLeft_resizeMark {config : Config} {v : Revisable Char}
    (h : (isSingle v.value || isBracket v.value) = true) :
    isLeft (config.resizeMark v).value = isLeft v.value := by
  have hhalf : isLeft (if config.halfwidthPunctuation.contains (halfwidth v.value) then
      halfwidth v.value else v.value) = isLeft v.value := by
    split
    · exact isLeft_halfwidth (isQuote_of_isSide h)
    · rfl
  rw [value_resizeMark_eq, ← hhalf]
  unfold Config.resize
  dsimp only
  generalize (if config.halfwidthPunctuation.contains (halfwidth v.value) then
    halfwidth v.value else v.value) = c
  split
  · exact isLeft_fullwidth c
  · rfl

/-- No write makes a mark open something, or keeps one from it. -/
theorem Write.map_isLeft {config : Config} {i : Nat} {nodes nodes' : List Node}
    (h : Write config i nodes nodes') (class_ : ∀ n ∈ nodes, n.KeepsClass) :
    nodes'.map (Node.isCharAnd isLeft) = nodes.map (Node.isCharAnd isLeft) := by
  cases h with
  | close inside => exact map_modify_eq (fun n => by cases n <;> rfl) nodes _
  | fill left right hm hn => exact map_modify_eq (fun n => by cases n <;> rfl) nodes _
  | restore inside => exact map_modify_eq (fun n => by cases n <;> rfl) nodes _
  | closeInside => exact map_modify_eq (fun n => by cases n <;> rfl) nodes _
  | resizeMark here hv => exact map_set_eq here (isLeft_resizeMark hv)
  | resizeQuote here => exact map_set_eq here rfl
  | restyleQuote here => exact map_set_eq here rfl
  | @restoreStop v a here stop =>
    -- a full stop opens nothing, and neither does the mark that it has become
    have hclass : canonical v.value = canonical v.original := class_ _ (List.mem_of_getElem? here)
    have hpause : isPause v.value = true := by
      rw [← isPause_canonical, hclass, stop]
      decide
    refine map_set_eq here ?_
    show isLeft v.original = isLeft v.value
    rw [stop, isLeft_of_isPause hpause]
    decide

/-- What lasts is there, and what opens something still does so. -/
structure KeepsLeft (nodes nodes' : List Node) : Prop extends Lasts nodes nodes' where
  /-- What opens something. -/
  map_isLeft : nodes'.map (Node.isCharAnd isLeft) = nodes.map (Node.isCharAnd isLeft)

theorem KeepsLeft.write {config : Config} {i : Nat} {src nodes nodes' : List Node}
    (h : KeepsLeft src nodes) (hwrite : Write config i nodes nodes') : KeepsLeft src nodes' :=
  ⟨h.toLasts.trans (hwrite.lasts h.keepsClass),
    (hwrite.map_isLeft h.keepsClass).trans h.map_isLeft⟩

/-- The rule for the width of marks leaves what opens something. -/
theorem any_isLeft_markWidth {config : Config} {nodes : List Node} {i : Nat}
    (class_ : ∀ n ∈ nodes, n.KeepsClass) :
    (Rules.markWidth config nodes i)[i]?.any (Node.isCharAnd isLeft) =
      nodes[i]?.any (Node.isCharAnd isLeft) := by
  have hkeeps : KeepsLeft nodes (Rule.markWidth.applyAt config nodes i) :=
    Rule.markWidth.applyAt_writes (fun _ _ hwrite h => h.write hwrite) ⟨.refl class_, rfl⟩
  exact any_eq_of_map_eq hkeeps.map_isLeft i

/-- What opens something in the end has done so at first. -/
theorem map_isLeft_of_polished {config : Config} {nodes ns : List Node}
    (hp : Polished config nodes ns) :
    ns.map (Node.isCharAnd isLeft) = nodes.map (Node.isCharAnd isLeft) := by
  have hpass : KeepsLeft nodes (Rule.applyAll Rule.all config nodes) :=
    Rule.applyAll_writes (fun _ _ _ hwrite h => h.write hwrite) Rule.all
      ⟨.refl hp.keepsClass, rfl⟩
  obtain ⟨g, hg⟩ := hp.pass
  rw [hg, ← hpass.map_isLeft]
  exact map_modify_eq (fun n => by cases n <;> rfl) _ _

/-! ### Wide marks are no Western ones -/

theorem mem_westernPause_of_kind {c : Char} (h : CharKind.of c = .westernPause) :
    c ∈ Punct.westernPause := by
  have hkind : Punct.kindOf c = .westernPause := by
    unfold CharKind.of at h
    split at h
    · cases h
    · split at h <;> cases h
    · split at h <;> cases h
    · split at h <;> cases h
    · split at h <;> cases h
    · exact h
    all_goals cases h
  unfold Punct.kindOf at hkind
  cases hfind : Punct.tables.find? fun t => t.1.contains c with
  | none =>
    rw [hfind] at hkind
    dsimp only at hkind
    split at hkind <;> cases hkind
  | some t =>
    rw [hfind] at hkind
    have hmem := List.mem_of_find?_eq_some hfind
    have hcontains := List.find?_some hfind
    -- only one set is of this kind
    simp only [Punct.tables, List.mem_cons, List.not_mem_nil, or_false] at hmem
    rcases hmem with rfl | rfl | rfl | rfl | rfl | rfl | rfl | rfl | rfl | rfl
    case inr.inr.inr.inr.inr.inr.inl => exact List.contains_iff_mem.mp hcontains
    all_goals cases hkind

/-- A mark that pauses or stops is wide or Western, not both. -/
theorem not_isWestern_of_wide {c : Char} (pause : isPause c = true)
    (wide : isWideOrChinese c = true) : isWesternPunctuation c = false := by
  unfold isPause at pause
  unfold isWesternPunctuation
  cases hk : CharKind.of c with
  | westernPause =>
    have hmem := mem_westernPause_of_kind hk
    simp only [Punct.westernPause, List.mem_cons, List.not_mem_nil, or_false] at hmem
    rcases hmem with rfl | rfl | rfl | rfl | rfl | rfl
    all_goals exact absurd wide (by decide)
  | chinesePause => rfl
  | _ => rw [hk] at pause; cases pause

/-! ### At a wide mark -/

section Pause

variable {config : Config} {nodes ns : List Node} {i l h r : Nat} {v : Revisable Char}
  {a : Revisable Space} {m n : Node}

theorem sameBodies_pauseSpace : SameBodies nodes (Rules.pauseSpace config nodes i) := by
  unfold Rules.pauseSpace
  split
  · dsimp only
    simp only [closeGap_eq, demandGap_eq]
    refine .ite (.trans (sameBodies_meetGap _ _) (.ite ?_ .refl)) .refl
    exact .ite (sameBodies_meetGap _ _) (sameBodies_meetGap _ _)
  · exact .refl

/-- Whether a mark is one of a row is told by what it is in the source. -/
theorem isSuccessivePunctuation_set {v' : Revisable Char} (here : nodes[i]? = some (.char v a))
    (source : v'.original = v.original) :
    isSuccessivePunctuation (nodes.set i (.char v' a)) i = isSuccessivePunctuation nodes i := by
  have hlt := (List.getElem?_eq_some_iff.mp here).1
  have hbefore : before? (nodes.set i (.char v' a)) i = before? nodes i := by
    cases i with
    | zero => rfl
    | succ i => exact List.getElem?_set_ne (Nat.succ_ne_self i)
  have hafter : after? (nodes.set i (.char v' a)) i = after? nodes i :=
    List.getElem?_set_ne (Nat.ne_of_lt (Nat.lt_succ_self i))
  unfold isSuccessivePunctuation
  rw [hbefore, hafter, here, List.getElem?_set_self hlt]
  simp [isWesternInSource, source, Node.hasSpaceAfter, Node.after]

/-- A mark that has been brought to a width and is wide now is not left alone. -/
theorem not_isSpared_of_wide (here : nodes[i]? = some (.char v a)) (fresh : v.modified = none)
    {w : Revisable Char} (hw : w = if isSpared nodes i then v else config.resizeMark v)
    (pause : isPause w.value = true) (wide : isWideOrChinese w.value = true) :
    isSpared (nodes.set i (.char w a)) i = false := by
  have hlt := (List.getElem?_eq_some_iff.mp here).1
  have hwestern := not_isWestern_of_wide pause wide
  have hsource : w.original = v.original := by
    rw [hw]
    split
    · rfl
    · exact (revised_resizeMark config v).original_mark
  have htight : isTightHalfwidthPunctuation (nodes.set i (.char w a)) i = false := by
    unfold isTightHalfwidthPunctuation
    rw [List.getElem?_set_self hlt]
    simp [Node.isCharAnd, hwestern]
  have hrow : isSuccessivePunctuation nodes i = false := by
    cases hspared : isSpared nodes i with
    | false => exact (Bool.or_eq_false_iff.mp hspared).2
    | true =>
      -- then it has been wide in the source
      rw [hspared, if_pos rfl] at hw
      have hvalue : v.original = w.value := by
        rw [hw, Revisable.value, fresh, Option.getD_none]
      unfold isSuccessivePunctuation
      rw [here]
      simp [isWesternInSource, hvalue, hwestern]
  rw [isSpared, htight, isSuccessivePunctuation_set here hsource, hrow]
  rfl

/-- The exception for abbreviations gives a mark back as a full stop, or does nothing. -/
theorem abbreviation_of_char (here : nodes[i]? = some (.char v a)) :
    Rules.abbreviation config nodes i = nodes ∨
      ∃ w b, w.value = '.' ∧ Rules.abbreviation config nodes i = nodes.set i (.char w b) := by
  unfold Rules.abbreviation
  rw [here]
  dsimp only
  split
  · next hstop =>
    simp only [Bool.and_eq_true, beq_iff_eq] at hstop
    exact .inr ⟨v.revert, a.revert, hstop.1.1, rfl⟩
  · exact .inl rfl

/-- All rules at a mark that has not been revised and is the wide mark `v` afterwards: the mark gets
its width, and then the gaps beside it are set. -/
theorem atNode_of_wide {v₀ : Revisable Char} {a₀ : Revisable Space}
    (class_ : ∀ n ∈ nodes, n.KeepsClass) (here : nodes[i]? = some (.char v₀ a₀))
    (fresh : v₀.modified = none) (pause₀ : isPause v₀.value = true)
    (last : (Rule.applyAllAt Rule.all config nodes i)[i]?.map Node.body = some (.char v default))
    (pause : isPause v.value = true) (wide : isWideOrChinese v.value = true) :
    AtNode config nodes i
      (demandNone (config.noSpaceBeforePause &&
        (nodeBefore? (nodes.set i (.char v a₀)) i).any Rules.endsPhrase))
      (demandIf ((nodeAfter? (nodes.set i (.char v a₀)) i).any Rules.startsPhrase)
        (demandNone config.noSpaceAfterFullwidthPause)) (nodes.set i (.char v a₀)) := by
  have happlied := @applyAllAt_of_isPause config nodes i _ class_ here pause₀
  have hwidth := @Rules.markWidth_of_char config nodes i v₀ a₀ here (by rw [pause₀, Bool.true_or])
  have hmarked : Lasts nodes (Rules.markWidth config nodes i) :=
    (Lasts.refl class_).applyAt .markWidth config i
  rw [happlied] at last
  rw [hwidth] at happlied last hmarked
  generalize hw : (if isSpared nodes i then v₀ else config.resizeMark v₀) = w
    at happlied last hmarked
  have hget : (nodes.set i (.char w a₀))[i]? = some (.char w a₀) :=
    List.getElem?_set_self (List.getElem?_eq_some_iff.mp here).1
  have hspaced : SameBodies (nodes.set i (.char w a₀)) (Rules.wrapperSpace config
      (Rules.pauseSpace config (nodes.set i (.char w a₀)) i) i) :=
    sameBodies_pauseSpace.trans sameBodies_wrapperSpace
  obtain ⟨b, hb⟩ := exists_of_map_body (n := .char w a₀) (by rw [hspaced.map_getElem?, hget]; rfl)
  obtain hidle | ⟨w', b', hstop, hrevert⟩ := @abbreviation_of_char config _ i _ _ hb
  · rw [hidle] at happlied last
    rw [hb] at last
    cases last
    have hloose := not_isSpared_of_wide here fresh hw.symm pause wide
    refine ⟨.set here hmarked rfl, ?_⟩
    rw [happlied, Rules.pauseSpace_eq hget pause hloose, Config.afterPause, if_pos wide]
  · -- a full stop is not wide
    rw [hrevert, List.getElem?_set_self (List.getElem?_eq_some_iff.mp hb).1] at last
    cases last
    rw [hstop] at wide
    exact absurd wide (by decide)

/-- So it is when a pass comes to a mark that is wide in the end. -/
theorem exists_atNode_of_wide (hp : Polished config nodes ns) (here : ns[i]? = some (.char v a))
    (pause : isPause v.value = true) (wide : isWideOrChinese v.value = true) :
    ∃ ms, AtNode config (Rule.stateAt config nodes i) i
      (demandNone (config.noSpaceBeforePause && (nodeBefore? ms i).any Rules.endsPhrase))
      (demandIf ((nodeAfter? ms i).any Rules.startsPhrase)
        (demandNone config.noSpaceAfterFullwidthPause)) ms := by
  have hlasts := hp.lasts_stateAt i
  have hmark : (Rule.stateAt config nodes i)[i]?.any (Node.isCharAnd isPause) = true := by
    rw [hlasts.any_eq lasting_isPause, here]
    exact pause
  obtain ⟨v₀, a₀, hstate, hpause⟩ := exists_char hmark
  -- the mark has not been revised when the pass comes to it
  have hsource : nodes[i]? = some (.char v₀ a₀) := by
    have hseen := isWrapperAt_of_isCharAnd hmark
    rw [Rule.isWrapperAt_stateAt] at hseen
    rw [← @Rule.getElem?_stateAt config nodes i i (Nat.le_refl i) hseen, hstate]
  have hfresh := (hp.unrevised _ (List.mem_of_getElem? hsource)).mark v₀ a₀ rfl
  have hlast := hp.map_body (Nat.lt_succ_self i) (List.getElem?_eq_some_iff.mp hsource).1
  rw [Rule.stateAt_succ, here] at hlast
  exact ⟨_, atNode_of_wide hlasts.keepsClass hstate hfresh hpause hlast.symm pause wide⟩

/-! ### The gaps beside it -/

/-- Prose goes on with a node in the end if it has done so at first. -/
theorem startsPhrase_eq (hp : Polished config nodes ns) {k : Nat} {n₀ : Node}
    (there : ns[k]? = some n) (there₀ : nodes[k]? = some n₀) :
    Rules.startsPhrase n = Rules.startsPhrase n₀ := by
  have hleft : n.isCharAnd isLeft = n₀.isCharAnd isLeft := by
    have hget := congrArg (·[k]?) (map_isLeft_of_polished hp)
    simpa [there, there₀] using hget
  unfold Rules.startsPhrase
  rw [hp.lasts.eq_of_getElem? lasting_isContent there₀ there,
    hp.lasts.eq_of_getElem? lasting_isGroup there₀ there,
    hp.lasts.eq_of_getElem? lasting_isCode there₀ there, hleft]

/-- At a wide mark the gap before it is closed if something ends there. -/
theorem Gap.spaceAt_right_of_wide (hp : Polished config nodes ns) (gap : Gap ns l h r)
    (here : ns[l]? = some m) (there : ns[r]? = some (.char v a)) (pause : isPause v.value = true)
    (wide : isWideOrChinese v.value = true) :
    spaceAt (Rule.applyAllAt Rule.all config (Rule.stateAt config nodes r) r) h =
      (spaceAt (Rule.stateAt config nodes r) h).map fun g =>
        g.reviseTo (demandNone (config.noSpaceBeforePause && Rules.endsPhrase m)) := by
  obtain ⟨ms, at_⟩ := exists_atNode_of_wide hp there pause wide
  -- the pass has been at the node before
  have hbody := any_of_map_body (p := Rules.endsPhrase) (fun n => by cases n <;> rfl)
    (hp.map_body gap.lt (Nat.le_of_lt (hp.gap gap).lt_length))
  rw [here, Option.any_some] at hbody
  have gap' := gap.lasts (hp.lasts_stateAt r)
  rw [at_.spaceAt_before gap', at_.nodeBefore? gap', ← hbody]

/-- The gap after it is closed if prose goes on there. -/
theorem Gap.spaceAt_left_of_wide (hp : Polished config nodes ns) (gap : Gap ns l h r)
    (here : ns[l]? = some (.char v a)) (there : ns[r]? = some n) (pause : isPause v.value = true)
    (wide : isWideOrChinese v.value = true) :
    spaceAt (Rule.applyAllAt Rule.all config (Rule.stateAt config nodes l) l) h =
      (spaceAt (Rule.stateAt config nodes l) h).map fun g =>
        g.reviseTo (demandIf (Rules.startsPhrase n)
          (demandNone config.noSpaceAfterFullwidthPause)) := by
  obtain ⟨ms, at_⟩ := exists_atNode_of_wide hp here pause wide
  -- it has not been at the node after it
  obtain ⟨n₀, there₀⟩ := (hp.lasts.symm hp.keepsClass).exists_getElem? there
  have hstate := @Rule.getElem?_stateAt config nodes l r (Nat.le_of_lt gap.lt) (hp.gap gap).right
  have gap' := gap.lasts (hp.lasts_stateAt l)
  rw [at_.spaceAt_after gap', at_.nodeAfter? gap', hstate, there₀, Option.any_some,
    startsPhrase_eq hp there there₀]

theorem not_faces_of_isPause (pause : m.isCharAnd isPause = true) :
    facesEnclosure m = false ∧ m.isText = false ∧ m.isCharAnd isRightBracket = false := by
  cases m with
  | char v a =>
    have hpause : (CharKind.of v.value).isPause = true := pause
    refine ⟨rfl, rfl, ?_⟩
    show ((CharKind.of v.value).isBracket && (CharKind.of v.value).isRight) = false
    cases hk : CharKind.of v.value <;> simp_all [CharKind.isPause, CharKind.isBracket]
  | half v a => cases pause
  | full v a => cases pause
  | event e s a => cases pause
  | group o inner ns c a => cases pause

/-- The rule for brackets leaves the gap before a left bracket alone if it comes after a mark that
pauses or stops. -/
theorem Gap.spaceAt_bracketSpace (gap : Gap nodes l h r) (here : nodes[l]? = some m)
    (pause : m.isCharAnd isPause = true) (left : nodes[r]?.any (Node.isCharAnd isLeft) = true) :
    spaceAt (Rules.bracketSpace config nodes r) h = spaceAt nodes h := by
  obtain ⟨v, a, there, hleft⟩ := exists_char left
  by_cases hv : isBracket v.value = true
  · -- the gap inside of the bracket is another one
    have hinside : ∀ k, k < r → (Rules.closeBracket config nodes r true)[k]? = nodes[k]? :=
      fun k hk => getElem?_closeGap_of_ne (ne_of_mem_spaceAfterHolder? hk) _
    have hsame : SameBodies nodes (Rules.closeBracket config nodes r true) := by
      rw [Rules.closeBracket, closeGap_eq]
      exact sameBodies_meetGap _ _
    have hbefore : Neighbours.nodeBefore? (Rules.closeBracket config nodes r true) r = some m := by
      rw [(gap.sameBodies hsame).nodeBefore?, hinside l gap.lt, here]
    obtain ⟨hfaces, -, hright⟩ := not_faces_of_isPause pause
    rw [Rules.bracketSpace_eq there hv, hleft, Rules.spaceBracket, if_pos hleft, hbefore,
      Option.any_some, hfaces, hright, if_neg (c := (false || false) = true) (by decide), ite_self]
    unfold spaceAt
    rw [hinside h gap.holder_lt]
  · unfold Rules.bracketSpace
    rw [there]
    dsimp only
    rw [if_neg hv]

/-- Nothing but a number before a unit sets the gap between a mark that pauses or stops and that
with which prose goes on. -/
theorem Gap.spaceAt_right_of_startsPhrase (gap : Gap nodes l h r)
    (class_ : ∀ n ∈ nodes, n.KeepsClass) (here : nodes[l]? = some m) (there : nodes[r]? = some n)
    (pause : m.isCharAnd isPause = true) (starts : Rules.startsPhrase n = true) :
    spaceAt (Rule.applyAllAt Rule.all config nodes r) h = (spaceAt nodes h).map fun g =>
      if isCounted config nodes r then g.revert else g := by
  obtain ⟨hfaces, htext, -⟩ := not_faces_of_isPause pause
  cases n with
  | half v a => exact gap.spaceAt_right_of_isContent class_ there rfl
  | full v a => exact gap.spaceAt_right_of_isContent class_ there rfl
  | event e s a =>
    have hcode : (Node.event e s a).isCode = true := by
      simpa [Rules.startsPhrase, Node.isContent, Node.isHalf, Node.isFull, Node.isGroup,
        Node.isCharAnd] using starts
    rw [gap.spaceAt_right_of_isCode class_ here there hcode, htext,
      isCounted_of_isCode there hcode]
    simp [demandIf]
  | group o inner ns c a =>
    rw [gap.spaceAt_right_of_isGroup class_ here there rfl, hfaces]
    simp [demandIf, isCounted, there, Rules.isNumber]
  | char v a =>
    have hleft : isLeft v.value = true := starts
    have hnot : isPause v.value = false := by
      cases hv : isPause v.value with
      | false => rfl
      | true => rw [isLeft_of_isPause hv] at hleft; cases hleft
    have hmark := @retouched_markWidth config nodes r class_
    have hgap := gap.lasts hmark.lasts
    have hbefore : (Rules.markWidth config nodes r)[l]? = some m := by
      rw [hmark.other l (Nat.ne_of_gt gap.lt), here]
    -- the mark still opens something when it has its width
    have hopens : (Rules.markWidth config nodes r)[r]?.any (Node.isCharAnd isLeft) = true := by
      rw [any_isLeft_markWidth class_, there]
      exact hleft
    have hbracket : SameBodies (Rules.markWidth config nodes r)
        (Rules.bracketSpace config (Rules.markWidth config nodes r) r) := sameBodies_bracketSpace
    rw [applyAllAt_of_char class_ there hnot, (hgap.sameBodies hbracket).spaceAt_wrapperSpace,
      hgap.spaceAt_bracketSpace hbefore pause hopens, hmark.space]
    simp [isCounted, there, Rules.isNumber]

/-! ### A wide mark in the end -/

/-- The gap before a wide mark in the end. -/
theorem exists_spaceBefore?_of_wide (hp : Polished config nodes ns)
    (asked : config.noSpaceBeforePause = true) (here : ns[i]? = some (.char v a))
    (pause : isPause v.value = true) (wide : isWideOrChinese v.value = true)
    (ends : (nodeBefore? ns i).any Rules.endsPhrase = true) :
    ∃ g, spaceBefore? ns i = some g ∧ g.value = [] := by
  obtain ⟨m, hm, hends⟩ := (Option.any_eq_true _ _).mp ends
  have hseen : isWrapperAt ns i = false := isWrapperAt_eq_false here rfl
  obtain ⟨l, h, hgap, hl⟩ := Gap.exists_before hseen (List.getElem?_eq_some_iff.mp here).1 hm
  -- the mark is the right node of the gap, so this is the last time that the gap is set
  have hlast := hp.spaceAt (hp.gap hgap)
  rw [hgap.spaceAt_right_of_wide hp hl here pause wide, asked, hends] at hlast
  have hlt : h < (Rule.stateAt config nodes i).length := by
    rw [(hp.lasts_stateAt i).length_eq]
    exact Nat.lt_trans hgap.holder_lt hgap.lt_length
  rw [hgap.spaceBefore?, hlast]
  unfold spaceAt
  rw [List.getElem?_eq_getElem hlt]
  exact ⟨_, rfl, by simp [demandNone, Space.empty]⟩

/-- The gap after it. -/
theorem exists_spaceAfter?_of_wide (hp : Polished config nodes ns)
    (asked : config.noSpaceAfterFullwidthPause = true) (here : ns[i]? = some (.char v a))
    (pause : isPause v.value = true) (wide : isWideOrChinese v.value = true)
    (starts : (nodeAfter? ns i).any Rules.startsPhrase = true) :
    ∃ g, spaceAfter? ns i = some g ∧
      g.value = if (visibleAfter? ns i).any (isCounted config ns) then g.original else [] := by
  obtain ⟨n, hn, hstarts⟩ := (Option.any_eq_true _ _).mp starts
  have hseen : isWrapperAt ns i = false := isWrapperAt_eq_false here rfl
  obtain ⟨h, r, hgap, hr⟩ := Gap.exists_after hseen hn
  have hlasts := hp.lasts_stateAt r
  -- when the pass comes to the next node, that is as it has been at first
  obtain ⟨n₀, hr₀⟩ := (hp.lasts.symm hp.keepsClass).exists_getElem? hr
  have hstate : (Rule.stateAt config nodes r)[r]? = some n₀ := by
    rw [Rule.getElem?_stateAt (Nat.le_refl r) (hp.gap hgap).right, hr₀]
  obtain ⟨m, hm⟩ := hlasts.exists_getElem? here
  have hpause : m.isCharAnd isPause = true := by
    rw [hlasts.eq_of_getElem? lasting_isPause here hm]
    exact pause
  have hright := @Gap.spaceAt_right_of_startsPhrase config _ _ _ _ _ _ (hgap.lasts hlasts)
    hlasts.keepsClass hm hstate hpause (by rw [← startsPhrase_eq hp hr hr₀, hstarts])
  rw [hlasts.isCounted] at hright
  obtain ⟨g, -, hspace⟩ := hp.exists_space (hp.gap hgap)
    (hgap.spaceAt_left_of_wide hp here hr pause wide) hright
  rw [hstarts, asked] at hspace
  rw [hgap.spaceAfter?, hgap.next, Option.any_some]
  refine ⟨_, hspace, ?_⟩
  by_cases hcounted : isCounted config ns r = true
  · simp [hcounted]
  · simp [hcounted, demandIf, demandNone, Space.empty]

/-- **There are no spaces around a wide mark in the end.**  If the settings ask for this, then in
any list of a paragraph that has been read and polished, the gap before a mark that pauses or stops
and is wide in the end is empty if a phrase ends there, and so is the gap after it if prose goes on
there, unless it goes on with a number before a unit. -/
theorem flush_wide_pause (config : Config) (before : config.noSpaceBeforePause = true)
    (after : config.noSpaceAfterFullwidthPause = true) {b : Block} {p : Paragraph}
    (parsed : b.parse = .ok p) (within : NodesWithin (polish config p) ns)
    (here : ns[i]? = some (.char v a)) (pause : isPause v.value = true)
    (wide : isWideOrChinese v.value = true) :
    ((nodeBefore? ns i).any Rules.endsPhrase = true →
        ∃ g, spaceBefore? ns i = some g ∧ g.value = []) ∧
      ((nodeAfter? ns i).any Rules.startsPhrase = true →
        ∃ g, spaceAfter? ns i = some g ∧
          g.value =
            if (visibleAfter? ns i).any (isCounted config ns) then g.original else []) := by
  obtain ⟨nodes, hp⟩ := exists_polished parsed within
  constructor
  · exact exists_spaceBefore?_of_wide hp before here pause wide
  · exact exists_spaceAfter?_of_wide hp after here pause wide

end Pause

/-- What is quoted in `“a , b”`, with the revised form of the comma and of the gaps beside it. -/
def commaNodes (mark : Option Char) (gap : Option Space) : List Node :=
  [.half ⟨['a'], ⟨3, 4⟩, none⟩ ⟨[' '], ⟨4, 5⟩, gap⟩, .char ⟨',', ⟨5, 6⟩, mark⟩ ⟨[' '], ⟨6, 7⟩, gap⟩,
    .half ⟨['b'], ⟨7, 8⟩, none⟩ ⟨[], ⟨8, 8⟩, none⟩]

/-- The quotation. -/
def commaQuotation (mark : Option Char) (gap : Option Space) : Node :=
  .group ⟨'“', ⟨0, 3⟩, none⟩ ⟨[], ⟨3, 3⟩, none⟩ (commaNodes mark gap) ⟨'”', ⟨8, 11⟩, none⟩
    ⟨[], ⟨11, 11⟩, none⟩

set_option maxRecDepth 4096 in
/-- The conclusion of `flush_wide_pause` at a comma in a quotation.  It becomes wide, and the spaces
around it are gone. -/
theorem flush_wide_pause_comma :
    ∃ p ns g g', (Block.ofText ['“', 'a', ' ', ',', ' ', 'b', '”']).parse = .ok p ∧
      NodesWithin (polish .default p) ns ∧ spaceBefore? ns 1 = some g ∧ g.value = [] ∧
      spaceAfter? ns 1 = some g' ∧ g'.value = [] := by
  have hparse : (Block.ofText ['“', 'a', ' ', ',', ' ', 'b', '”']).parse =
      .ok [commaQuotation none none] := rfl
  have hpolish : polish .default [commaQuotation none none] =
      [commaQuotation (some '，') (some [])] := by rfl
  have hwithin : NodesWithin (polish .default [commaQuotation none none])
      (commaNodes (some '，') (some [])) := by
    rw [hpolish]
    exact .inside List.mem_cons_self rfl (.whole _)
  obtain ⟨hbefore, hafter⟩ := flush_wide_pause .default rfl rfl hparse hwithin (i := 1) rfl
    (by decide) (by decide)
  obtain ⟨g, hg, hvalue⟩ := hbefore rfl
  obtain ⟨g', hg', hvalue'⟩ := hafter rfl
  refine ⟨_, _, g, g', hparse, hwithin, hg, hvalue, hg', ?_⟩
  rw [hvalue']
  exact if_neg (by decide)

end CjkProse
