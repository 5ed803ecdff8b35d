import CjkProse.Proofs.Rule.Nested

/-!
# Spaces between letters and code

Between two runs of letters, between a run and inline code, and between two pieces of code there is
in the end just the space that is asked for there, whatever wrappers stand in between and whatever
quotations are around.  The rule for letters sets the gap when the pass is at the left run, the rule
for code when it is at a piece of code.  Only a number before a unit takes the space back.

## Main definitions

* `Config.betweenText` — what is demanded between two pieces of text.

## Main results

* `Gap.spaceAt_left_of_isContent`, `Gap.spaceAt_right_of_isContent`, `Gap.spaceAt_left_of_isCode`,
  `Gap.spaceAt_right_of_isCode` — what all rules at a run and at code do to the gaps beside it.
* `space_between_text` — **the space between two pieces of text in the end.**
-/

namespace CjkProse

open Neighbours

/-- What is demanded between two pieces of text. -/
def Config.betweenText (config : Config) (l r : Node) : Option Space :=
  if l.isCode || r.isCode then config.outsideCode else config.betweenLetters l r

/-! ### At a run and at code -/

/-- At code the gaps beside it are set if there is text. -/
theorem atNode_of_isCode {config : Config} {nodes : List Node} {i : Nat} {m : Node}
    (class_ : ∀ n ∈ nodes, n.KeepsClass) (here : nodes[i]? = some m) (code : m.isCode = true) :
    AtNode config nodes i (demandIf ((nodeBefore? nodes i).any Node.isText) config.outsideCode)
      (demandIf ((nodeAfter? nodes i).any Node.isText) config.outsideCode) nodes := by
  refine ⟨.refl class_, ?_⟩
  rw [applyAllAt_of_isCode class_ here code,
    Rules.codeSpace_eq (by rw [here, Option.any_some, code])]

namespace Gap

variable {config : Config} {nodes : List Node} {l h r : Nat} {m n : Node}

/-- At a run the gap after it is set as the rule for letters demands, or is given back. -/
theorem spaceAt_left_of_isContent (gap : Gap nodes l h r) (class_ : ∀ n ∈ nodes, n.KeepsClass)
    (here : nodes[l]? = some m) (there : nodes[r]? = some n) (content : m.isContent = true) :
    spaceAt (Rule.applyAllAt Rule.all config nodes l) h = (spaceAt nodes h).map fun a =>
      if isCounted config nodes l then a.revert else a.reviseTo (config.betweenLetters m n) := by
  have hletter : Lasts nodes (Rules.letterSpace config nodes l) :=
    (Lasts.refl class_).applyAt .letterSpace config l
  have hwrapper : Lasts nodes
      (Rules.wrapperSpace config (Rules.letterSpace config nodes l) l) :=
    hletter.applyAt .wrapperSpace config l
  have hgap := gap.spaceAt_meetBeside_left none (config.betweenLetters m n)
  rw [← Rules.letterSpace_eq here (by rw [gap.nodeAfter?, there])] at hgap
  -- the exception for numbers runs last and takes back what the rule for letters has set
  rw [applyAllAt_of_isContent class_ here content]
  rw [(gap.lasts hwrapper).spaceAt_numberUnit_left, hwrapper.isCounted]
  rw [(gap.lasts hletter).spaceAt_wrapperSpace, hgap, Option.map_map]
  congr 1
  funext a
  by_cases hcounted : isCounted config nodes l = true
  · simp [hcounted]
  · simp [hcounted]

/-- The gap before a run is at most given back there. -/
theorem spaceAt_right_of_isContent (gap : Gap nodes l h r) (class_ : ∀ n ∈ nodes, n.KeepsClass)
    (there : nodes[r]? = some n) (content : n.isContent = true) :
    spaceAt (Rule.applyAllAt Rule.all config nodes r) h = (spaceAt nodes h).map fun a =>
      if isCounted config nodes r then a.revert else a := by
  have hletter : Lasts nodes (Rules.letterSpace config nodes r) :=
    (Lasts.refl class_).applyAt .letterSpace config r
  have hwrapper : Lasts nodes
      (Rules.wrapperSpace config (Rules.letterSpace config nodes r) r) :=
    hletter.applyAt .wrapperSpace config r
  -- the rule for letters sets the gap after the run
  have hgap : spaceAt (Rules.letterSpace config nodes r) h = spaceAt nodes h := by
    rw [spaceAt, getElem?_letterSpace_of_lt gap.holder_lt, spaceAt]
  rw [applyAllAt_of_isContent class_ there content]
  rw [(gap.lasts hwrapper).spaceAt_numberUnit_right, hwrapper.isCounted]
  rw [(gap.lasts hletter).spaceAt_wrapperSpace, hgap]

/-- The gap after code. -/
theorem spaceAt_left_of_isCode (gap : Gap nodes l h r) (class_ : ∀ n ∈ nodes, n.KeepsClass)
    (here : nodes[l]? = some m) (there : nodes[r]? = some n) (code : m.isCode = true) :
    spaceAt (Rule.applyAllAt Rule.all config nodes l) h = (spaceAt nodes h).map fun a =>
      a.reviseTo (demandIf n.isText config.outsideCode) := by
  rw [(atNode_of_isCode class_ here code).spaceAt_after gap, gap.nodeAfter?, there]
  rfl

/-- The gap before code. -/
theorem spaceAt_right_of_isCode (gap : Gap nodes l h r) (class_ : ∀ n ∈ nodes, n.KeepsClass)
    (here : nodes[l]? = some m) (there : nodes[r]? = some n) (code : n.isCode = true) :
    spaceAt (Rule.applyAllAt Rule.all config nodes r) h = (spaceAt nodes h).map fun a =>
      a.reviseTo (demandIf m.isText config.outsideCode) := by
  rw [(atNode_of_isCode class_ there code).spaceAt_before gap, gap.nodeBefore?, here]
  rfl

end Gap

/-! ### Between two pieces of text -/

section Text

variable {config : Config} {nodes ns : List Node} {l h r : Nat} {m n : Node}

theorem lasting_isText : Node.Lasting Node.isText := lasting_isContent.map₂ or lasting_isCode

/-- What is demanded between letters depends on what lasts of the two runs. -/
theorem Lasts.betweenLetters (hlasts : Lasts nodes ns) {m' n' : Node} (hm : nodes[l]? = some m)
    (hm' : ns[l]? = some m') (hn : nodes[r]? = some n) (hn' : ns[r]? = some n') :
    config.betweenLetters m n = config.betweenLetters m' n' := by
  unfold Config.betweenLetters
  rw [apply_ite (Rules.isUnit config), apply_ite (Rules.isUnit config)]
  rw [hlasts.eq_of_getElem? lasting_isHalf hm hm', hlasts.eq_of_getElem? lasting_isHalf hn hn']
  rw [hlasts.eq_of_getElem? lasting_isFull hm hm', hlasts.eq_of_getElem? lasting_isFull hn hn']
  rw [hlasts.eq_of_getElem? lasting_isContent hm hm',
    hlasts.eq_of_getElem? lasting_isContent hn hn']
  rw [hlasts.eq_of_getElem? (lasting_isUnit config) hm hm',
    hlasts.eq_of_getElem? (lasting_isUnit config) hn hn']

theorem not_isWrapper_of_isText (hm : m.isText = true) : m.isWrapper = false := by
  cases m with
  | event e s a =>
    have hkind : e.kind = .code := by simpa [Node.isText, Node.isContent, Node.isHalf, Node.isFull,
      Node.isCode, Node.isEventOf] using hm
    simp [Node.isWrapper, Node.isOpening, Node.isClosing, Node.isEventOf, hkind]
  | char v a => rfl
  | half v a => rfl
  | full v a => rfl
  | group o inner ms c a => rfl

/-- Code is no number before a unit. -/
theorem isCounted_of_isCode (here : nodes[l]? = some m) (code : m.isCode = true) :
    isCounted config nodes l = false := by
  cases m with
  | event e s a => simp [isCounted, here, Rules.isNumber]
  | char v a => cases code
  | half v a => cases code
  | full v a => cases code
  | group o inner ms c a => cases code

/-- What comes after a number before a unit is no code. -/
theorem not_isCode_of_isCounted (next : nodeAfter? nodes l = some n)
    (counted : isCounted config nodes l = true) : n.isCode = false := by
  unfold isCounted at counted
  rw [next, Option.any_some, Bool.and_eq_true] at counted
  obtain ⟨-, hunit⟩ := counted
  cases n with
  | full v a => rfl
  | char v a => cases hunit
  | half v a => cases hunit
  | event e s a => cases hunit
  | group o inner ms c a => cases hunit

/-- What all rules at the left piece of text do, told by the two pieces as they are in another list
of the pass. -/
theorem Gap.spaceAt_left_of_isText (gap : Gap ns l h r) (lasts : Lasts ns nodes)
    (here : ns[l]? = some m) (there : ns[r]? = some n) (hm : m.isText = true)
    (hn : n.isText = true) :
    spaceAt (Rule.applyAllAt Rule.all config nodes l) h = (spaceAt nodes h).map fun a =>
      if isCounted config ns l then a.revert
      else a.reviseTo (if m.isCode then config.outsideCode else config.betweenLetters m n) := by
  obtain ⟨m', here'⟩ := lasts.exists_getElem? here
  obtain ⟨n', there'⟩ := lasts.exists_getElem? there
  have gap' := gap.lasts lasts
  rw [lasts.betweenLetters here here' there there', ← lasts.isCounted]
  rw [← lasts.eq_of_getElem? lasting_isText there there'] at hn
  by_cases hcode : m.isCode = true
  · have hcode' : m'.isCode = true := by rw [lasts.eq_of_getElem? lasting_isCode here here', hcode]
    rw [gap'.spaceAt_left_of_isCode lasts.keepsClass here' there' hcode',
      isCounted_of_isCode here' hcode', hn]
    simp [hcode, demandIf]
  · have hcontent : m.isContent = true := by simpa [Node.isText, hcode] using hm
    rw [← lasts.eq_of_getElem? lasting_isContent here here'] at hcontent
    rw [gap'.spaceAt_left_of_isContent lasts.keepsClass here' there' hcontent, if_neg hcode]

/-- What all rules at the right one do. -/
theorem Gap.spaceAt_right_of_isText (gap : Gap ns l h r) (lasts : Lasts ns nodes)
    (here : ns[l]? = some m) (there : ns[r]? = some n) (hm : m.isText = true)
    (hn : n.isText = true) :
    spaceAt (Rule.applyAllAt Rule.all config nodes r) h = (spaceAt nodes h).map fun a =>
      if isCounted config ns r then a.revert
      else a.reviseTo (if n.isCode then config.outsideCode else none) := by
  obtain ⟨m', here'⟩ := lasts.exists_getElem? here
  obtain ⟨n', there'⟩ := lasts.exists_getElem? there
  have gap' := gap.lasts lasts
  rw [← lasts.isCounted]
  rw [← lasts.eq_of_getElem? lasting_isText here here'] at hm
  by_cases hcode : n.isCode = true
  · have hcode' : n'.isCode = true := by
      rw [lasts.eq_of_getElem? lasting_isCode there there', hcode]
    rw [gap'.spaceAt_right_of_isCode lasts.keepsClass here' there' hcode',
      isCounted_of_isCode there' hcode', hm]
    simp [hcode, demandIf]
  · have hcontent : n.isContent = true := by simpa [Node.isText, hcode] using hn
    rw [← lasts.eq_of_getElem? lasting_isContent there there'] at hcontent
    rw [gap'.spaceAt_right_of_isContent lasts.keepsClass there' hcontent, if_neg hcode]
    simp

/-- What the two demand one after the other is what is demanded between them. -/
theorem getD_betweenText (hn : n.isText = true) (s : Space) :
    (if n.isCode then config.outsideCode else none).getD
      ((if m.isCode then config.outsideCode else config.betweenLetters m n).getD s) =
      (config.betweenText m n).getD s := by
  unfold Config.betweenText
  by_cases hcode : n.isCode = true
  · -- between a run and code the rule for letters demands nothing
    have hletters : config.betweenLetters m n = none := by
      cases n with
      | event e s a => simp [Config.betweenLetters, Node.isHalf, Node.isFull, Node.isContent]
      | char v a => cases hcode
      | half v a => cases hcode
      | full v a => cases hcode
      | group o inner ms c a => cases hcode
    by_cases hcode' : m.isCode = true
    · cases config.outsideCode <;> simp [hcode, hcode']
    · simp [hcode, hcode', hletters]
  · simp [hcode]

/-- **The space between two pieces of text in the end.**  In any list of a paragraph that has been
read and polished, the gap between two pieces of text that are seen next to each other holds the
space that is demanded there, or that of the source if nothing is demanded or one of them is a
number before a unit. -/
theorem space_between_text (config : Config) {b : Block} {p : Paragraph} (parsed : b.parse = .ok p)
    (within : NodesWithin (polish config p) ns) {i : Nat} (here : ns[i]? = some m)
    (next : nodeAfter? ns i = some n) (hm : m.isText = true) (hn : n.isText = true) :
    ∃ a, spaceAfter? ns i = some a ∧
      a.value =
        if isCounted config ns i || (visibleAfter? ns i).any (isCounted config ns) then a.original
        else (config.betweenText m n).getD a.original := by
  obtain ⟨nodes, hp⟩ := exists_polished parsed within
  have hseen : isWrapperAt ns i = false := by
    rw [isWrapperAt, here, Option.any_some, not_isWrapper_of_isText hm]
  obtain ⟨h, r, hgap, there⟩ := Gap.exists_after hseen next
  have gap := hp.gap hgap
  obtain ⟨a, hfresh, hspace⟩ := hp.exists_space gap
    (hgap.spaceAt_left_of_isText (hp.lasts_stateAt i) here there hm hn)
    (hgap.spaceAt_right_of_isText (hp.lasts_stateAt r) here there hm hn)
  rw [hgap.spaceAfter?, hgap.next, Option.any_some]
  refine ⟨_, hspace, ?_⟩
  by_cases hcounted' : isCounted config ns r = true
  · by_cases hcounted : isCounted config ns i = true
    · simp [hcounted, hcounted']
    · simp [hcounted, hcounted']
  by_cases hcounted : isCounted config ns i = true
  · -- the unit is no code, so nothing is demanded there
    have hcode := not_isCode_of_isCounted next hcounted
    simp [hcounted, hcounted', hcode]
  · have hboth := @getD_betweenText config m n hn a.original
    simpa [hcounted, hcounted', hfresh] using hboth

end Text

/-- A quotation of an emphasised run and a wide one, as in `“*a*中”`. -/
def emphasisBlock : Block where
  start := Span.point 0
  opening := ⟨.opening, "paragraph", []⟩
  body := [.char '“' ⟨0, 3⟩, .event ⟨.opening, "emphasis", []⟩ ⟨3, 4⟩, .char 'a' ⟨4, 5⟩,
    .event ⟨.closing, "emphasis", []⟩ ⟨5, 6⟩, .char '中' ⟨6, 9⟩, .char '”' ⟨9, 12⟩]
  closed := true

/-- The nodes that are quoted there, with the space after the emphasis. -/
def emphasisNodes (gap : Revisable Space) : List Node :=
  [.event ⟨.opening, "emphasis", []⟩ ⟨3, 4⟩ { original := [], span := ⟨4, 4⟩ },
    .letters false ['a'] [] ⟨4, 5⟩ ⟨5, 5⟩, .event ⟨.closing, "emphasis", []⟩ ⟨5, 6⟩ gap,
    .letters true ['中'] [] ⟨6, 9⟩ ⟨9, 9⟩]

/-- The quotation. -/
def emphasisQuotation (gap : Revisable Space) : Node :=
  .group { original := '“', span := ⟨0, 3⟩ } { original := [], span := ⟨3, 3⟩ } (emphasisNodes gap)
    { original := '”', span := ⟨9, 12⟩ } { original := [], span := ⟨12, 12⟩ }

set_option maxRecDepth 4096 in
/-- The conclusion of `space_between_text` at the run in the emphasis.  One space is put after the
emphasis, not inside of it. -/
theorem space_between_text_emphasis :
    ∃ p ns a, emphasisBlock.parse = .ok p ∧ NodesWithin (polish .default p) ns ∧
      spaceAfterHolder? ns 1 = some 2 ∧ spaceAfter? ns 1 = some a ∧ a.original = [] ∧
      a.value = [' '] := by
  have hparse : emphasisBlock.parse =
      .ok [emphasisQuotation { original := [], span := ⟨6, 6⟩ }] := rfl
  have hpolish : polish .default [emphasisQuotation { original := [], span := ⟨6, 6⟩ }] =
      [emphasisQuotation { original := [], span := ⟨6, 6⟩, modified := some [' '] }] := by rfl
  have hwithin : NodesWithin
      (polish .default [emphasisQuotation { original := [], span := ⟨6, 6⟩ }])
      (emphasisNodes { original := [], span := ⟨6, 6⟩, modified := some [' '] }) := by
    rw [hpolish]
    exact .inside List.mem_cons_self rfl (.whole _)
  obtain ⟨a, ha, hvalue⟩ := space_between_text .default hparse hwithin (i := 1) rfl rfl rfl rfl
  have hsource : a.original = [] := by
    cases ha
    rfl
  refine ⟨_, _, a, hparse, hwithin, rfl, ha, hsource, ?_⟩
  rw [hvalue, hsource]
  decide

end CjkProse
