import CjkProse.Proofs.Rule.TextGaps

/-!
# Spaces outside of quotations

The marks of a quotation get their form before the gaps outside of it are set, so a gap is set by
the marks that face it in the end.  But the pass comes to one quotation after the other.  Where two
of them face each other, the gap is first set when the right one still has its marks of the source,
and then again.  If nothing is demanded the second time, what has been set the first time stays.

## Main definitions

* `Config.reformQuote` — a quotation with its marks in the form that the settings ask for.
* `AtQuote` — all rules at a quotation.
* `Rules.openerInSource` — the mark that opens a quotation in the source.
* `isWideGap` — whether a gap is wide by the marks that face it.

## Main results

* `Gap.spaceAt_left_of_isGroup`, `Gap.spaceAt_right_of_isGroup` — what all rules at a quotation do
  to the gaps outside of it.
* `exists_space_outside_quotation` — what is in such a gap in the end.
* `space_outside_quotation` — **it is what is demanded by the marks in the end, if the mark that
  opens the right quotation is as wide as it has been.**
* `not_space_outside_quotation` — without this it need not be.
-/

namespace CjkProse

open Neighbours

/-! ### The form of a quotation -/

/-- A quotation with its marks in the form that the settings ask for. -/
def Config.reformQuote (config : Config) : Node → Node
  | .group o inner ns c a =>
    .group (config.restyleQuote (config.resizeQuote '“' '‘' o)) inner ns
      (config.restyleQuote (config.resizeQuote '”' '’' c)) a
  | n => n

section Form

variable {config : Config} {nodes : List Node} {i : Nat} {m : Node}

theorem Config.after_reformQuote (config : Config) (m : Node) :
    (config.reformQuote m).after = m.after := by cases m <;> rfl

theorem quoteStyle_markWidth (here : nodes[i]? = some m) (group : m.isGroup = true) :
    Rules.quoteStyle config (Rules.markWidth config nodes i) i =
      nodes.set i (config.reformQuote m) := by
  cases m with
  | group o inner ns c a =>
    have hlt := (List.getElem?_eq_some_iff.mp here).1
    unfold Rules.markWidth
    rw [here]
    dsimp only
    unfold Rules.quoteStyle
    rw [List.getElem?_set_self hlt]
    dsimp only
    rw [List.set_set]
    rfl
  | char v a => cases group
  | half v a => cases group
  | full v a => cases group
  | event e s a => cases group

end Form

/-! ### At a quotation -/

section Group

variable {config : Config} {nodes : List Node} {i l h r : Nat} {m n : Node}

/-- All rules at a quotation: `ns` is the list before the gaps outside of it are set. -/
structure AtQuote (config : Config) (nodes : List Node) (i : Nat) (m : Node) (ns : List Node) :
    Prop extends AtNode config nodes i
      (config.facing (nodeBefore? ns i) fun b =>
        Rules.isWideSide Rules.openerOf (config.reformQuote m) || Rules.isWideSide Rules.closerOf b)
      (config.facing (nodeAfter? ns i) fun b =>
        Rules.isWideSide Rules.closerOf (config.reformQuote m) || Rules.isWideSide Rules.openerOf b)
      ns where
  /-- The marks have their form. -/
  marks : ∀ p : Node → Bool, (∀ n, p (Rules.closeInside n) = p n) →
    ns[i]?.any p = p (config.reformQuote m)

/-- Closing the inside of a quotation changes no space after a node. -/
theorem retouched_closeQuote (class_ : ∀ n ∈ nodes, n.KeepsClass) :
    Retouched i nodes (Rules.closeQuote config nodes i) := by
  unfold Rules.closeQuote
  split
  · refine ⟨@Write.lasts config i _ _ .closeInside class_, fun k => ?_, fun k hk => ?_⟩
    · unfold spaceAt
      rw [← List.getElem?_map, map_modify_eq fun n => by cases n <;> rfl, List.getElem?_map]
    · exact List.getElem?_modify_ne _ _ hk
  · exact .refl class_

/-- At a quotation its marks get their form, its inside is closed, and the gaps outside of it are
set. -/
theorem exists_atQuote (class_ : ∀ n ∈ nodes, n.KeepsClass) (here : nodes[i]? = some m)
    (group : m.isGroup = true) : ∃ ns, AtQuote config nodes i m ns := by
  have hset : (nodes.set i (config.reformQuote m))[i]? = some (config.reformQuote m) :=
    List.getElem?_set_self (List.getElem?_eq_some_iff.mp here).1
  -- the quotation stays one, whatever form its marks take
  have hlasts : Lasts nodes (nodes.set i (config.reformQuote m)) := by
    rw [← quoteStyle_markWidth here group]
    exact ((Lasts.refl class_).applyAt .markWidth config i).applyAt .quoteStyle config i
  have hreform := Retouched.set here hlasts (config.after_reformQuote m)
  have hclose := @retouched_closeQuote config _ i hlasts.keepsClass
  refine ⟨_, ⟨hreform.trans hclose, ?_⟩, ?_⟩
  · rw [applyAllAt_of_isGroup class_ here group, quoteStyle_markWidth here group]
    cases m with
    | group o inner ms c a =>
      rw [Rules.quoteSpace_eq hset]
      rfl
    | char v a => cases group
    | half v a => cases group
    | full v a => cases group
    | event e s a => cases group
  · intro p hp
    unfold Rules.closeQuote
    split
    · rw [any_modify hp, hset, Option.any_some]
    · rw [hset, Option.any_some]

/-- What the marks are when all rules have been at a quotation. -/
theorem AtQuote.any_eq {ns : List Node} (at_ : AtQuote config nodes i m ns) {p : Node → Bool}
    (body : ∀ n, p n.body = p n) (inside : ∀ n, p (Rules.closeInside n) = p n) :
    (Rule.applyAllAt Rule.all config nodes i)[i]?.any p = p (config.reformQuote m) := by
  rw [at_.applied, any_of_map_body body (sameBodies_wrapperSpace.map_getElem? i),
    any_of_map_body body (sameBodies_meetBeside.map_getElem? i), at_.marks p inside]

/-- The gap after a quotation is set by the mark that closes it and the mark that comes next. -/
theorem Gap.spaceAt_left_of_isGroup (gap : Gap nodes l h r) (class_ : ∀ n ∈ nodes, n.KeepsClass)
    (here : nodes[l]? = some m) (there : nodes[r]? = some n) (group : m.isGroup = true) :
    spaceAt (Rule.applyAllAt Rule.all config nodes l) h = (spaceAt nodes h).map fun a =>
      a.reviseTo (demandIf (facesEnclosure n) (config.outsideQuotes
        (Rules.isWideSide Rules.closerOf (config.reformQuote m) ||
          Rules.isWideSide Rules.openerOf n))) := by
  obtain ⟨ns, at_⟩ := @exists_atQuote config nodes l m class_ here group
  rw [at_.spaceAt_after gap, at_.nodeAfter? gap, there]
  rfl

/-- The gap before a quotation is set by the mark that opens it and the mark that comes before. -/
theorem Gap.spaceAt_right_of_isGroup (gap : Gap nodes l h r) (class_ : ∀ n ∈ nodes, n.KeepsClass)
    (here : nodes[l]? = some m) (there : nodes[r]? = some n) (group : n.isGroup = true) :
    spaceAt (Rule.applyAllAt Rule.all config nodes r) h = (spaceAt nodes h).map fun a =>
      a.reviseTo (demandIf (facesEnclosure m) (config.outsideQuotes
        (Rules.isWideSide Rules.openerOf (config.reformQuote n) ||
          Rules.isWideSide Rules.closerOf m))) := by
  obtain ⟨ns, at_⟩ := @exists_atQuote config nodes r n class_ there group
  rw [at_.spaceAt_before gap, at_.nodeBefore? gap, here]
  rfl

end Group

/-! ### Outside of quotations -/

namespace Rules

/-- The mark that opens a quotation in the source. -/
def openerInSource : Node → Option Char
  | .group o _ _ _ _ => some o.original
  | _ => none

theorem isWideSide_reformQuote_openerInSource (config : Config) (m : Node) :
    isWideSide openerInSource (config.reformQuote m) = isWideSide openerInSource m := by
  cases m with
  | group o inner ms c a =>
    have horiginal : (config.restyleQuote (config.resizeQuote '“' '‘' o)).original = o.original :=
      (revised_restyleQuote config _).original_mark.trans
        (revised_resizeQuote config rfl rfl o).original_mark
    show isWideOrChinese _ = isWideOrChinese _
    rw [horiginal]
  | char v a => rfl
  | half v a => rfl
  | full v a => rfl
  | event e s a => rfl

end Rules

/-- Whether the gap between two nodes is wide by the marks of quotations that face it. -/
def isWideGap (l r : Node) : Bool :=
  Rules.isWideSide Rules.closerOf l || Rules.isWideSide Rules.openerOf r

theorem lasting_facesEnclosure : Node.Lasting facesEnclosure :=
  lasting_isText.map₂ or lasting_isGroup

section Outside

variable {config : Config} {nodes ns : List Node} {l h k r : Nat} {m n : Node}

/-- In the end the marks of a quotation are those that it has got when the pass has come to it. -/
theorem eq_reformQuote (hp : Polished config nodes ns) {m₀ : Node} (here : ns[k]? = some m)
    (here₀ : (Rule.stateAt config nodes k)[k]? = some m₀) (group : m₀.isGroup = true)
    {p : Node → Bool} (body : ∀ n, p n.body = p n) (inside : ∀ n, p (Rules.closeInside n) = p n) :
    p m = p (config.reformQuote m₀) := by
  have hlt : k < nodes.length := by
    rw [← hp.lasts.length_eq]
    exact (List.getElem?_eq_some_iff.mp here).1
  obtain ⟨ms, at_⟩ := @exists_atQuote config _ k m₀ (hp.lasts_stateAt k).keepsClass here₀ group
  -- no rule at a later index reaches the marks
  have hbody := any_of_map_body body (hp.map_body (Nat.lt_succ_self k) hlt)
  rw [Rule.stateAt_succ, at_.any_eq body inside, here, Option.any_some] at hbody
  exact hbody

/-- The mark that opens a quotation in the source is there all along. -/
theorem isWideSide_openerInSource (hp : Polished config nodes ns) {n₀ : Node}
    (there : ns[r]? = some n) (there₀ : nodes[r]? = some n₀) (seen : isWrapperAt nodes r = false) :
    Rules.isWideSide Rules.openerOf n₀ = Rules.isWideSide Rules.openerInSource n := by
  have hsort : n₀.isGroup = n.isGroup :=
    (hp.lasts.eq_of_getElem? lasting_isGroup there₀ there).symm
  cases n₀ with
  | group o inner ms c a =>
    -- it has not been revised
    have hfresh := (hp.quotes o inner ms c a (List.mem_of_getElem? there₀)).1
    have hstate : (Rule.stateAt config nodes r)[r]? = some (.group o inner ms c a) := by
      rw [Rule.getElem?_stateAt (Nat.le_refl r) seen, there₀]
    have hmark := eq_reformQuote hp there hstate rfl
      (p := Rules.isWideSide Rules.openerInSource) (fun n => by cases n <;> rfl)
      (fun n => by cases n <;> rfl)
    rw [hmark, Rules.isWideSide_reformQuote_openerInSource]
    show isWideOrChinese o.value = isWideOrChinese o.original
    rw [Revisable.value, hfresh, Option.getD_none]
  | char v a => cases n <;> first | rfl | cases hsort
  | half v a => cases n <;> first | rfl | cases hsort
  | full v a => cases n <;> first | rfl | cases hsort
  | event e s a => cases n <;> first | rfl | cases hsort

/-- No rule but that for quotations sets the gap between a run and a quotation after it. -/
theorem Gap.spaceAt_left_of_isText_isGroup (gap : Gap nodes l h r)
    (class_ : ∀ n ∈ nodes, n.KeepsClass) (here : nodes[l]? = some m) (there : nodes[r]? = some n)
    (text : m.isText = true) (group : n.isGroup = true) :
    spaceAt (Rule.applyAllAt Rule.all config nodes l) h = spaceAt nodes h := by
  have hnext : Neighbours.nodeAfter? nodes l = some n := by rw [gap.nodeAfter?, there]
  by_cases hcode : m.isCode = true
  · rw [gap.spaceAt_left_of_isCode class_ here there hcode]
    cases n with
    | group o inner ms c a => exact Option.map_id'
    | char v a => cases group
    | half v a => cases group
    | full v a => cases group
    | event e s a => cases group
  · have hcontent : m.isContent = true := by simpa [Node.isText, hcode] using text
    rw [gap.spaceAt_left_of_isContent class_ here there hcontent]
    cases n with
    | group o inner ms c a =>
      simp [isCounted, hnext, Rules.isFullUnit, Config.betweenLetters, Node.isHalf, Node.isFull,
        Node.isContent]
    | char v a => cases group
    | half v a => cases group
    | full v a => cases group
    | event e s a => cases group

/-- No other rule sets the gap between a quotation and a run after it, unless that is a number
before a unit. -/
theorem Gap.spaceAt_right_of_isGroup_isText (gap : Gap nodes l h r)
    (class_ : ∀ n ∈ nodes, n.KeepsClass) (here : nodes[l]? = some m) (there : nodes[r]? = some n)
    (group : m.isGroup = true) (text : n.isText = true)
    (uncounted : isCounted config nodes r = false) :
    spaceAt (Rule.applyAllAt Rule.all config nodes r) h = spaceAt nodes h := by
  by_cases hcode : n.isCode = true
  · rw [gap.spaceAt_right_of_isCode class_ here there hcode]
    cases m with
    | group o inner ms c a => exact Option.map_id'
    | char v a => cases group
    | half v a => cases group
    | full v a => cases group
    | event e s a => cases group
  · have hcontent : n.isContent = true := by simpa [Node.isText, hcode] using text
    rw [gap.spaceAt_right_of_isContent class_ there hcontent]
    simp [uncounted]

theorem not_isWrapper_of_facesEnclosure (faces : facesEnclosure m = true) :
    m.isWrapper = false := by
  by_cases hgroup : m.isGroup = true
  · cases m with
    | group o inner ms c a => rfl
    | char v a => cases hgroup
    | half v a => cases hgroup
    | full v a => cases hgroup
    | event e s a => cases hgroup
  · exact not_isWrapper_of_isText (by simpa [facesEnclosure, Node.isText, hgroup] using faces)

theorem isText_of_facesEnclosure (faces : facesEnclosure m = true) (hgroup : m.isGroup ≠ true) :
    m.isText = true := by
  simpa [facesEnclosure, Node.isText, hgroup] using faces

/-- At the left node the gap is set by the mark that the left node ends with and the mark that the
right one has begun with. -/
theorem spaceAt_left_of_facing (hp : Polished config nodes ns) (gap : Gap ns l h r)
    (here : ns[l]? = some m) (there : ns[r]? = some n) (hm : facesEnclosure m = true)
    (hn : facesEnclosure n = true) (quoted : (m.isGroup || n.isGroup) = true) :
    spaceAt (Rule.applyAllAt Rule.all config (Rule.stateAt config nodes l) l) h =
      (spaceAt (Rule.stateAt config nodes l) h).map fun a =>
        a.reviseTo (demandIf m.isGroup (config.outsideQuotes
          (Rules.isWideSide Rules.closerOf m || Rules.isWideSide Rules.openerInSource n))) := by
  have hlasts := hp.lasts_stateAt l
  have hclass := hlasts.keepsClass
  have hgap := gap.lasts hlasts
  obtain ⟨m₀, here₀⟩ := hlasts.exists_getElem? here
  obtain ⟨n₀, there₀⟩ := hlasts.exists_getElem? there
  have hseen := (hp.gap gap).right
  have hsource : nodes[r]? = some n₀ := by
    rw [← @Rule.getElem?_stateAt config nodes l r (Nat.le_of_lt gap.lt) hseen, there₀]
  have hfaces : facesEnclosure n₀ = true := by
    rw [hlasts.eq_of_getElem? lasting_facesEnclosure there there₀, hn]
  have hmGroup := hlasts.eq_of_getElem? lasting_isGroup here here₀
  have hnGroup := hlasts.eq_of_getElem? lasting_isGroup there there₀
  by_cases hgroup : m.isGroup = true
  · have hcloser := eq_reformQuote hp here here₀ (by rw [hmGroup, hgroup])
      (p := Rules.isWideSide Rules.closerOf) (fun n => by cases n <;> rfl)
      (fun n => by cases n <;> rfl)
    rw [hgap.spaceAt_left_of_isGroup hclass here₀ there₀ (by rw [hmGroup, hgroup]), hfaces,
      ← hcloser, isWideSide_openerInSource hp there hsource hseen, hgroup]
  · -- then the right node is one, and nothing else asks for a space before it
    have hn₀ : n₀.isGroup = true := by
      rw [hnGroup]
      simpa [hgroup] using quoted
    have htext : m₀.isText = true := by
      rw [hlasts.eq_of_getElem? lasting_isText here here₀]
      exact isText_of_facesEnclosure hm hgroup
    rw [hgap.spaceAt_left_of_isText_isGroup hclass here₀ there₀ htext hn₀]
    simp [hgroup, demandIf]

/-- At the right node it is set by the marks of both nodes in the end. -/
theorem spaceAt_right_of_facing (hp : Polished config nodes ns) (gap : Gap ns l h r)
    (here : ns[l]? = some m) (there : ns[r]? = some n) (hm : facesEnclosure m = true)
    (hn : facesEnclosure n = true) (quoted : (m.isGroup || n.isGroup) = true)
    (uncounted : isCounted config ns r = false) :
    spaceAt (Rule.applyAllAt Rule.all config (Rule.stateAt config nodes r) r) h =
      (spaceAt (Rule.stateAt config nodes r) h).map fun a =>
        a.reviseTo (demandIf n.isGroup (config.outsideQuotes (isWideGap m n))) := by
  have hlasts := hp.lasts_stateAt r
  have hclass := hlasts.keepsClass
  have hgap := gap.lasts hlasts
  obtain ⟨m₁, here₁⟩ := hlasts.exists_getElem? here
  obtain ⟨n₁, there₁⟩ := hlasts.exists_getElem? there
  have hfaces : facesEnclosure m₁ = true := by
    rw [hlasts.eq_of_getElem? lasting_facesEnclosure here here₁, hm]
  have hmGroup := hlasts.eq_of_getElem? lasting_isGroup here here₁
  have hnGroup := hlasts.eq_of_getElem? lasting_isGroup there there₁
  by_cases hgroup : n.isGroup = true
  · have hopener := eq_reformQuote hp there there₁ (by rw [hnGroup, hgroup])
      (p := Rules.isWideSide Rules.openerOf) (fun n => by cases n <;> rfl)
      (fun n => by cases n <;> rfl)
    -- the left node has its marks already
    have hcloser : Rules.isWideSide Rules.closerOf m₁ = Rules.isWideSide Rules.closerOf m := by
      have hbody := any_of_map_body (p := Rules.isWideSide Rules.closerOf)
        (fun n => by cases n <;> rfl)
        (hp.map_body gap.lt (Nat.le_of_lt (hp.gap gap).lt_length))
      rw [here, here₁] at hbody
      exact hbody.symm
    rw [hgap.spaceAt_right_of_isGroup hclass here₁ there₁ (by rw [hnGroup, hgroup]), hfaces,
      ← hopener, hcloser, Bool.or_comm, hgroup]
    rfl
  · have hm₁ : m₁.isGroup = true := by
      rw [hmGroup]
      simpa [hgroup] using quoted
    have htext : n₁.isText = true := by
      rw [hlasts.eq_of_getElem? lasting_isText there there₁]
      exact isText_of_facesEnclosure hn hgroup
    rw [hgap.spaceAt_right_of_isGroup_isText hclass here₁ there₁ hm₁ htext
      (by rw [hlasts.isCounted, uncounted])]
    simp [hgroup, demandIf]

/-- What is in the gap outside of a quotation in the end.  Between two quotations it is what is
demanded by the marks in the end, or else what has been demanded before the right quotation got its
marks. -/
theorem exists_space_outside_quotation {b : Block} {p : Paragraph} (parsed : b.parse = .ok p)
    (within : NodesWithin (polish config p) ns) {i : Nat} (here : ns[i]? = some m)
    (next : nodeAfter? ns i = some n) (hm : facesEnclosure m = true) (hn : facesEnclosure n = true)
    (quoted : (m.isGroup || n.isGroup) = true)
    (uncounted : (visibleAfter? ns i).any (isCounted config ns) = false) :
    ∃ a, spaceAfter? ns i = some a ∧
      a.value = (config.outsideQuotes (isWideGap m n)).getD
        ((demandIf (m.isGroup && n.isGroup) (config.outsideQuotes
          (Rules.isWideSide Rules.closerOf m || Rules.isWideSide Rules.openerInSource n))).getD
            a.original) := by
  obtain ⟨nodes, hp⟩ := exists_polished parsed within
  have hseen : isWrapperAt ns i = false :=
    isWrapperAt_eq_false here (not_isWrapper_of_facesEnclosure hm)
  obtain ⟨h, r, hgap, there⟩ := Gap.exists_after hseen next
  rw [hgap.next, Option.any_some] at uncounted
  obtain ⟨a, hfresh, hspace⟩ := hp.exists_space (hp.gap hgap)
    (spaceAt_left_of_facing hp hgap here there hm hn quoted)
    (spaceAt_right_of_facing hp hgap here there hm hn quoted uncounted)
  rw [hgap.spaceAfter?]
  refine ⟨_, hspace, ?_⟩
  cases hmGroup : m.isGroup with
  | true =>
    cases hnGroup : n.isGroup with
    | true => simp [demandIf, hfresh]
    | false =>
      -- no mark of the right node faces the gap
      have hwide : isWideGap m n = (Rules.isWideSide Rules.closerOf m ||
          Rules.isWideSide Rules.openerInSource n) := by
        cases n with
        | group o inner ms c a => cases hnGroup
        | char v a => rfl
        | half v a => rfl
        | full v a => rfl
        | event e s a => rfl
      simp [demandIf, hfresh, hwide]
  | false =>
    have hnGroup : n.isGroup = true := by simpa [hmGroup] using quoted
    simp [demandIf, hfresh, hnGroup]

/-- **The space outside of a quotation in the end.**  In any list of a paragraph that has been read
and polished, the gap between a quotation and a run, code, or another quotation holds what is
demanded by the marks that face it in the end, or the space of the source if nothing is demanded.  A
number before a unit is left out, and between two quotations the gap has to be as wide as by the
mark that the right one has in the source. -/
theorem space_outside_quotation (config : Config) {b : Block} {p : Paragraph}
    (parsed : b.parse = .ok p) {ns : List Node} (within : NodesWithin (polish config p) ns)
    {i : Nat} {l r : Node} (here : ns[i]? = some l) (next : nodeAfter? ns i = some r)
    (hl : facesEnclosure l = true) (hr : facesEnclosure r = true)
    (quoted : (l.isGroup || r.isGroup) = true)
    (uncounted : (visibleAfter? ns i).any (isCounted config ns) = false)
    (keeps : (l.isGroup && r.isGroup) = true →
      (Rules.isWideSide Rules.closerOf l || Rules.isWideSide Rules.openerInSource r) =
        isWideGap l r) :
    ∃ a, spaceAfter? ns i = some a ∧
      a.value = (config.outsideQuotes (isWideGap l r)).getD a.original := by
  obtain ⟨a, hspace, hvalue⟩ :=
    exists_space_outside_quotation parsed within here next hl hr quoted uncounted
  refine ⟨a, hspace, hvalue.trans ?_⟩
  cases hboth : l.isGroup && r.isGroup with
  | false => rfl
  | true =>
    -- the same is demanded twice
    rw [keeps hboth]
    cases hdemand : config.outsideQuotes (isWideGap l r) with
    | none => rfl
    | some s => rfl

end Outside

/-- A quotation of one half-width letter. -/
def quotedLetter (o : Revisable Char) (letter : Char) (c : Revisable Char) (gap : Revisable Space) :
    Node :=
  .group o { original := [], span := ⟨o.span.stop, o.span.stop⟩ }
    [.letters false [letter] [] ⟨o.span.stop, c.span.start⟩ ⟨c.span.start, c.span.start⟩] c gap

/-- The quotations of `“a” "b"`, with the revised form of the curly marks. -/
def curlyFirst (mark : Option Char) : List Node :=
  [quotedLetter ⟨'“', ⟨0, 3⟩, mark⟩ 'a' ⟨'”', ⟨4, 7⟩, mark⟩ ⟨[' '], ⟨7, 8⟩, none⟩,
    quotedLetter ⟨'"', ⟨8, 9⟩, none⟩ 'b' ⟨'"', ⟨10, 11⟩, none⟩ ⟨[], ⟨11, 11⟩, none⟩]

/-- The quotations of `"a" “b”`, with the revised form of the curly marks and of the space between
them. -/
def curlyLast (mark : Option Char) (gap : Option Space) : List Node :=
  [quotedLetter ⟨'"', ⟨0, 1⟩, none⟩ 'a' ⟨'"', ⟨2, 3⟩, none⟩ ⟨[' '], ⟨3, 4⟩, gap⟩,
    quotedLetter ⟨'“', ⟨4, 7⟩, mark⟩ 'b' ⟨'”', ⟨8, 11⟩, mark⟩ ⟨[], ⟨11, 11⟩, none⟩]

/-- Settings that ask for straight marks and for no space outside of wide ones. -/
def Config.straight : Config :=
  { Config.empty with halfwidthPunctuation := ['"'], noSpaceOutsideFullwidthQuote := true }

set_option maxRecDepth 4096 in
/-- The conclusion of `space_outside_quotation` at two quotations.  The curly marks become straight
ones, so the gap is wide no more and its space stays. -/
theorem space_outside_quotation_straight :
    ∃ p ns a, (Block.ofText ['“', 'a', '”', ' ', '"', 'b', '"']).parse = .ok p ∧
      NodesWithin (polish .straight p) ns ∧ spaceAfter? ns 0 = some a ∧ a.original = [' '] ∧
      a.value = [' '] := by
  have hparse : (Block.ofText ['“', 'a', '”', ' ', '"', 'b', '"']).parse =
      .ok (curlyFirst none) := rfl
  have hpolish : polish .straight (curlyFirst none) = curlyFirst (some '"') := by rfl
  have hwithin : NodesWithin (polish .straight (curlyFirst none)) (curlyFirst (some '"')) := by
    rw [hpolish]
    exact .whole _
  obtain ⟨a, ha, hvalue⟩ := space_outside_quotation .straight hparse hwithin (i := 0) rfl rfl rfl
    rfl rfl rfl (fun _ => by decide)
  have hsource : a.original = [' '] := by
    cases ha
    rfl
  refine ⟨_, _, a, hparse, hwithin, ha, hsource, ?_⟩
  rw [hvalue, hsource]
  decide

set_option maxRecDepth 4096 in
/-- Without the condition on the mark in the source this is wrong.  When the pass comes to the left
quotation, the right one still has a curly mark and the gap is closed.  When it comes to the right
one the mark is straight, and nothing is demanded any more. -/
theorem not_space_outside_quotation :
    ¬ ∀ (config : Config) (b : Block) (p : Paragraph) (ns : List Node) (i : Nat) (l r : Node),
      b.parse = .ok p → NodesWithin (polish config p) ns → ns[i]? = some l →
      nodeAfter? ns i = some r → facesEnclosure l = true → facesEnclosure r = true →
      (l.isGroup || r.isGroup) = true →
      (visibleAfter? ns i).any (isCounted config ns) = false →
        ∃ a, spaceAfter? ns i = some a ∧
          a.value = (config.outsideQuotes (isWideGap l r)).getD a.original := by
  intro h
  have hparse : (Block.ofText ['"', 'a', '"', ' ', '“', 'b', '”']).parse =
      .ok (curlyLast none none) := rfl
  have hpolish : polish .straight (curlyLast none none) = curlyLast (some '"') (some []) := by rfl
  have hwithin : NodesWithin (polish .straight (curlyLast none none))
      (curlyLast (some '"') (some [])) := by
    rw [hpolish]
    exact .whole _
  obtain ⟨a, ha, hvalue⟩ := h _ _ _ _ 0 _ _ hparse hwithin rfl rfl rfl rfl rfl rfl
  cases ha
  exact absurd hvalue (by decide)

end CjkProse
